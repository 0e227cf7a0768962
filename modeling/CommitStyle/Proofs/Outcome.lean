import CommitStyle.Rule
import Mathlib.Data.Option.Basic
import Mathlib.Tactic.Common

/-!
# What checks read and decide

A check reads something of its value: a limit, a text, a list. Its verdict on a message depends on what
it has read and on nothing else of the value, and where there is nothing to read it skips the message.
-/

namespace CommitStyle

abbrev Verdict := Message → Condition → Bool

namespace Verdict

open Text

def atMost (field : Field) (limit : Nat) : Verdict := fun message _ =>
  (field.of message).all (·.length ≤ limit)

def atLeast (field : Field) (limit : Nat) : Verdict := fun message _ =>
  (field.of message).all (limit ≤ ·.length)

def linesAtMost (field : Field) (limit : Nat) : Verdict := fun message _ =>
  (field.of message).all fun text => (lines text.toList).all (·.length ≤ limit)

def endsIn (field : Field) (stop : String) : Verdict := fun message condition =>
  (field.of message).all fun text =>
    condition.accepts (stop.toList.isSuffixOf (trimEnd text.toList))

def signedBy (marker : String) : Verdict := fun message condition =>
  condition.accepts (message.lines.getLast?.any (marker.toList.isPrefixOf ·.toList))

def typeIn (types : List String) : Verdict := fun message condition =>
  message.type.all fun type => condition.accepts (types.contains type)

def scopesIn (scopes : List String) : Verdict := fun message condition =>
  message.scope.all fun scope =>
    match condition with
    | .always => (Check.scopesIn scope).all scopes.contains
    | .never => !(Check.scopesIn scope).any scopes.contains

def shapedAs (field : Field) (casings : List Casing) : Verdict := fun message condition =>
  (field.of message).all fun text => condition.accepts (casings.any (·.fits text.toList))

end Verdict

namespace Check

/-- The verdicts of the check are told from what it reads of its value; it skips a message where it
reads nothing. -/
structure Judges {α : Type} (check : Check) (read? : Option RuleValue → Option α)
    (verdict : α → Verdict) : Prop where
  skipped {value : Option RuleValue} (h : read? value = none) (message : Message)
    (condition : Condition) : check message condition value = .skipped
  valid {value : Option RuleValue} {a : α} (h : read? value = some a) (message : Message)
    (condition : Condition) : (check message condition value).valid = verdict a message condition

/-! ### What is read -/

section Values

variable {value : Option RuleValue}

def textOr (default : String) (value : Option RuleValue) : Option String :=
  some ((value.bind RuleValue.toText?).getD default)

lemma limit?_number (n : Int) :
    limit? (some (.number n)) = if 0 < n then some n.toNat else none := rfl

lemma limit?_natCast {n : Nat} (hn : 0 < n) : limit? (some (.number n)) = some n := by
  rw [limit?_number, if_pos (Int.natCast_pos.2 hn), Int.toNat_natCast]

lemma items?_eq_some {items : List String} (h : value.bind RuleValue.toList? = some items)
    (hn : items ≠ []) : items? value = some items := by
  rw [items?, h]
  cases items with
  | nil => exact absurd rfl hn
  | cons item rest => rfl

lemma items?_eq_none (h : value.bind RuleValue.toList? = some []) : items? value = none := by
  rw [items?, h]

end Values

/-! ### What is decided -/

section Judges

variable (field : Field)

lemma judges_hasMaxLength : (hasMaxLength field).Judges limit? (Verdict.atMost field) where
  skipped h message condition := by
    rw [hasMaxLength, h]
    cases field.of message <;> rfl
  valid h message condition := by
    rw [hasMaxLength, h, Verdict.atMost]
    cases field.of message <;> rfl

lemma judges_hasMinLength : (hasMinLength field).Judges limit? (Verdict.atLeast field) where
  skipped h message condition := by
    rw [hasMinLength, h]
    cases field.of message <;> rfl
  valid h message condition := by
    rw [hasMinLength, h, Verdict.atLeast]
    cases field.of message <;> rfl

lemma judges_hasMaxLineLength : (hasMaxLineLength field).Judges limit? (Verdict.linesAtMost field) where
  skipped h message condition := by
    rw [hasMaxLineLength, h]
    cases field.of message <;> rfl
  valid h message condition := by
    rw [hasMaxLineLength, h, Verdict.linesAtMost]
    cases field.of message <;> rfl

lemma judges_endsInStop : (endsInStop field).Judges (textOr ".") (Verdict.endsIn field) where
  skipped h := nomatch h
  valid h message condition := by
    cases h
    rw [endsInStop, Verdict.endsIn]
    cases field.of message <;> rfl

lemma judges_isSigned : isSigned.Judges (textOr "Signed-off-by:") Verdict.signedBy where
  skipped h := nomatch h
  valid h message condition := by
    cases h
    rfl

lemma judges_hasCasing : (hasCasing field).Judges items? fun names =>
    Verdict.shapedAs field (names.filterMap Casing.ofName?) where
  skipped h message condition := by
    rw [hasCasing, h]
    cases field.of message <;> rfl
  valid h message condition := by
    rw [hasCasing, h, Verdict.shapedAs]
    cases field.of message <;> rfl

lemma judges_hasListedType : hasListedType.Judges items? Verdict.typeIn where
  skipped h message condition := by
    rw [hasListedType, h]
    cases message.type <;> rfl
  valid h message condition := by
    rw [hasListedType, h, Verdict.typeIn]
    cases message.type <;> rfl

lemma judges_hasListedScopes : hasListedScopes.Judges items? Verdict.scopesIn where
  skipped h message condition := by
    rw [hasListedScopes, h]
    cases message.scope <;> rfl
  valid h message condition := by
    rw [hasListedScopes, h, Verdict.scopesIn]
    cases message.scope <;> cases condition <;> rfl

end Judges

end Check

end CommitStyle
