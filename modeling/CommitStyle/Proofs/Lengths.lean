import CommitStyle.Proofs.Message.Cleaning
import CommitStyle.Proofs.Message.Parts
import CommitStyle.Proofs.Outcome

/-!
# Limits on lengths

A limit is set on the characters of a field, or on those of each of its lines. What keeps to a limit
keeps to any that is more lenient. The type, the scope and the subject stand in the header, and a line in
the text that it is a line of, so that none of them is longer than the whole.
-/

namespace CommitStyle

open Text

inductive LimitKind where
  | maxLength
  | minLength
  | maxLineLength

namespace LimitKind

def name : LimitKind → String
  | maxLength => "max-length"
  | minLength => "min-length"
  | maxLineLength => "max-line-length"

def Names (kind : LimitKind) (name : String) : Prop := '-' :: kind.name.toList <:+ name.toList

instance (kind : LimitKind) (name : String) : Decidable (kind.Names name) :=
  inferInstanceAs (Decidable (_ <:+ _))

/-- The text keeps to the limit. Lengths are counted in characters. -/
def Holds (kind : LimitKind) (limit : Nat) (text : List Char) : Prop :=
  match kind with
  | maxLength => text.length ≤ limit
  | minLength => limit ≤ text.length
  | maxLineLength => ∀ line ∈ lines text, line.length ≤ limit

variable {limit other : Nat} {text part : List Char}

lemma holds_maxLength_mono (hle : limit ≤ other) (h : maxLength.Holds limit text) :
    maxLength.Holds other text :=
  Nat.le_trans h hle

lemma holds_maxLineLength_mono (hle : limit ≤ other) (h : maxLineLength.Holds limit text) :
    maxLineLength.Holds other text :=
  fun line hl => Nat.le_trans (h line hl) hle

lemma holds_minLength_anti (hle : limit ≤ other) (h : minLength.Holds other text) :
    minLength.Holds limit text :=
  Nat.le_trans hle h

lemma holds_maxLength_of_isInfix (hp : part <:+: text) (h : maxLength.Holds limit text) :
    maxLength.Holds limit part :=
  Nat.le_trans hp.length_le h

lemma holds_minLength_of_isInfix (hp : part <:+: text) (h : minLength.Holds limit part) :
    minLength.Holds limit text :=
  Nat.le_trans h hp.length_le

lemma holds_maxLineLength_of_maxLength (h : maxLength.Holds limit text) :
    maxLineLength.Holds limit text :=
  fun _ hl => Nat.le_trans (isInfix_of_mem_lines hl).length_le h

end LimitKind

/-! ### The rules that set limits -/

namespace Check

def Sets (check : Check) (kind : LimitKind) (field : Field) : Prop :=
  ∀ message condition value, (check message condition value).valid = true ↔
    ∀ limit text, limit? value = some limit → field.of message = some text →
      kind.Holds limit text.toList

lemma sets_of_judges {check : Check} {kind : LimitKind} {field : Field} {verdict : Nat → Verdict}
    (hj : check.Judges limit? verdict)
    (hv : ∀ limit message condition, verdict limit message condition = true ↔
      ∀ text, field.of message = some text → kind.Holds limit text.toList) :
    check.Sets kind field := by
  intro message condition value
  cases hl : limit? value with
  | none =>
    rw [hj.skipped hl]
    exact iff_of_true rfl nofun
  | some limit =>
    rw [hj.valid hl, hv]
    constructor
    · rintro h _ text ⟨⟩
      exact h text
    · intro h text
      exact h limit text rfl

lemma sets_hasMaxLength (field : Field) : (hasMaxLength field).Sets .maxLength field :=
  sets_of_judges (judges_hasMaxLength field) fun limit message condition => by
    simp [Verdict.atMost, LimitKind.Holds, Option.all_eq_true, String.length_toList]

lemma sets_hasMinLength (field : Field) : (hasMinLength field).Sets .minLength field :=
  sets_of_judges (judges_hasMinLength field) fun limit message condition => by
    simp [Verdict.atLeast, LimitKind.Holds, Option.all_eq_true, String.length_toList]

lemma sets_hasMaxLineLength (field : Field) : (hasMaxLineLength field).Sets .maxLineLength field :=
  sets_of_judges (judges_hasMaxLineLength field) fun limit message condition => by
    simp [Verdict.linesAtMost, LimitKind.Holds, Option.all_eq_true]

end Check

namespace Rule

open Check

def Limits (rule : Rule) (kind : LimitKind) : Prop :=
  ∃ field, rule.name = field.name ++ "-" ++ kind.name ∧ rule.check.Sets kind field

section

variable {name : String} {field : Field}

@[simp] lemma limits_hasMaxLength (h : name = field.name ++ "-" ++ "max-length") :
    (Rule.mk name .limit (hasMaxLength field)).Limits .maxLength :=
  ⟨field, h, sets_hasMaxLength field⟩

@[simp] lemma limits_hasMinLength (h : name = field.name ++ "-" ++ "min-length") :
    (Rule.mk name .limit (hasMinLength field)).Limits .minLength :=
  ⟨field, h, sets_hasMinLength field⟩

@[simp] lemma limits_hasMaxLineLength (h : name = field.name ++ "-" ++ "max-line-length") :
    (Rule.mk name .limit (hasMaxLineLength field)).Limits .maxLineLength :=
  ⟨field, h, sets_hasMaxLineLength field⟩

end

lemma limits_of_mem_builtins {rule : Rule} {kind : LimitKind} (h : rule ∈ builtins)
    (hn : kind.Names rule.name) : rule.Limits kind := by
  revert rule
  rw [← List.forall_iff_forall_mem]
  -- The name decides which rules are left, and each of these has the lemma of its check.
  cases kind <;> simp +decide [builtins]

end Rule

namespace Message

open LimitKind Check

def passes (message : Message) (name : String) (condition : Condition)
    (value : Option RuleValue) : Bool :=
  (Rule.builtin? name).any fun rule => (rule.check message condition value).valid

variable {raw name text : String} {message : Message} {condition : Condition} {kind : LimitKind}
  {field : Field}

lemma passes_eq {rule : Rule} (h : Rule.builtin? name = some rule) (value : Option RuleValue) :
    message.passes name condition value = (rule.check message condition value).valid := by
  rw [passes, h, Option.any_some]

lemma exists_passes_iff (message : Message) (condition : Condition)
    (hb : Rule.isBuiltin name = true) (hn : kind.Names name) :
    ∃ field : Field, name = field.name ++ "-" ++ kind.name ∧
      (∀ value, limit? value = none → message.passes name condition value = true) ∧
      ∀ n : Nat, 0 < n → (message.passes name condition (some (.number n)) = true ↔
        ∀ text, field.of message = some text → kind.Holds n text.toList) := by
  obtain ⟨rule, hr⟩ := Option.isSome_iff_exists.1 hb
  have hname : rule.name = name := by simpa using List.find?_some hr
  subst hname
  obtain ⟨field, hf, hs⟩ := Rule.limits_of_mem_builtins (List.mem_of_find?_eq_some hr) hn
  refine ⟨field, hf, fun value hl => ?_, fun n hpos => ?_⟩
  · rw [passes_eq hr, hs, hl]
    nofun
  · rw [passes_eq hr, hs, limit?_natCast hpos]
    constructor
    · intro h text ht
      exact h n text rfl ht
    · rintro h _ text ⟨⟩ ht
      exact h text ht

lemma isBuiltin_of_passes {value : Option RuleValue}
    (h : message.passes name condition value = true) : Rule.isBuiltin name = true :=
  Option.isSome_of_any h

lemma passes_of_holds {n m : Nat} (hn : 0 < n) (hm : 0 < m) (hb : kind.Names name)
    (hi : ∀ text, kind.Holds n text → kind.Holds m text)
    (h : message.passes name condition (some (.number n)) = true) :
    message.passes name condition (some (.number m)) = true := by
  obtain ⟨field, -, -, hiff⟩ := exists_passes_iff message condition (isBuiltin_of_passes h) hb
  rw [hiff n hn] at h
  rw [hiff m hm]
  intro text ht
  exact hi text.toList (h text ht)

lemma isInfix_header (h : parse? raw = some message)
    (hf : field = .type ∨ field = .scope ∨ field = .subject)
    (ht : field.of message = some text) : text.toList <:+: message.header.toList := by
  obtain ⟨first, below, -, rfl⟩ := parse?_eq_some_iff.1 h
  have hfirst : (ofLines raw first below).header.toList = first := String.toList_ofList
  rw [hfirst]
  refine List.IsInfix.trans ?_ (isPrefix_trimEnd first).isInfix
  rcases hf with rfl | rfl | rfl
  · obtain ⟨header, hh, htype, -⟩ := header_of_type ht
    rw [← (Header.parse?_eq_some_iff.1 hh).1, ← htype]
    exact header.isPrefix_type_render.isInfix
  · obtain ⟨header, hh, hscope, -⟩ := header_of_scope ht
    rw [← (Header.parse?_eq_some_iff.1 hh).1]
    exact Header.isInfix_scope_render hscope
  · obtain ⟨header, hh, hsubject⟩ := header_of_subject ht
    rw [← (Header.parse?_eq_some_iff.1 hh).1, ← hsubject]
    exact header.isSuffix_subject_render.isInfix

lemma hasMaxLength_of_header (condition : Condition) {value : Option RuleValue}
    (h : parse? raw = some message) (hf : field = .type ∨ field = .scope ∨ field = .subject)
    (hm : (hasMaxLength .header message condition value).valid = true) :
    (hasMaxLength field message condition value).valid = true := by
  rw [sets_hasMaxLength] at hm ⊢
  intro limit text hl ht
  exact holds_maxLength_of_isInfix (isInfix_header h hf ht) (hm limit message.header hl rfl)

lemma hasMinLength_header (condition : Condition) {value : Option RuleValue}
    (h : parse? raw = some message) (hs : message.subject ≠ none)
    (hm : (hasMinLength .subject message condition value).valid = true) :
    (hasMinLength .header message condition value).valid = true := by
  obtain ⟨subject, hs⟩ := Option.ne_none_iff_exists'.1 hs
  rw [sets_hasMinLength] at hm ⊢
  rintro limit _ hl ⟨⟩
  exact holds_minLength_of_isInfix (isInfix_header h (.inr (.inr rfl)) hs) (hm limit subject hl hs)

lemma hasMaxLineLength_of_hasMaxLength (condition : Condition) {value : Option RuleValue}
    (hm : (hasMaxLength field message condition value).valid = true) :
    (hasMaxLineLength field message condition value).valid = true := by
  rw [sets_hasMaxLength] at hm
  rw [sets_hasMaxLineLength]
  intro limit text hl ht
  exact holds_maxLineLength_of_maxLength (hm limit text hl ht)

/-- The limits on lengths agree with one another. Each is a limit on the characters of one field or of
its lines, and zero or no value is no limit; what passes a limit passes any that is more lenient; and a
limit on the length of the whole says as much about its parts. -/
theorem limits_agree (raw : String) (message : Message) (h : parse? raw = some message)
    (condition : Condition) :
    (∀ name kind, Rule.isBuiltin name = true → LimitKind.Names kind name →
      ∃ field : Field, name = field.name ++ "-" ++ kind.name ∧
        (∀ n : Nat, 0 < n → (message.passes name condition (some (.number n)) = true ↔
          ∀ text, field.of message = some text → kind.Holds n text.toList)) ∧
        message.passes name condition (some (.number 0)) = true ∧
        message.passes name condition none = true) ∧
    (∀ name, maxLength.Names name ∨ maxLineLength.Names name → ∀ n m : Nat, 0 < n → n ≤ m →
      message.passes name condition (some (.number n)) = true →
        message.passes name condition (some (.number m)) = true) ∧
    (∀ name, minLength.Names name → ∀ n m : Nat, 0 < n → n ≤ m →
      message.passes name condition (some (.number m)) = true →
        message.passes name condition (some (.number n)) = true) ∧
    ∀ value,
      (message.passes "header-max-length" condition value = true →
        message.passes "type-max-length" condition value = true ∧
        message.passes "scope-max-length" condition value = true ∧
        message.passes "subject-max-length" condition value = true) ∧
      (message.passes "body-max-length" condition value = true →
        message.passes "body-max-line-length" condition value = true) ∧
      (message.passes "footer-max-length" condition value = true →
        message.passes "footer-max-line-length" condition value = true) ∧
      (message.subject ≠ none → message.passes "subject-min-length" condition value = true →
        message.passes "header-min-length" condition value = true) := by
  refine ⟨?_, ?_, ?_, fun value => ⟨?_, ?_, ?_, ?_⟩⟩
  · intro name kind hb hn
    obtain ⟨field, hf, hnone, hiff⟩ := exists_passes_iff message condition hb hn
    exact ⟨field, hf, hiff, hnone (some (.number 0)) rfl, hnone none rfl⟩
  · intro name hb n m hn hle hp
    have hm : 0 < m := Nat.lt_of_lt_of_le hn hle
    rcases hb with hb | hb
    · exact passes_of_holds hn hm hb (fun _ => holds_maxLength_mono hle) hp
    · exact passes_of_holds hn hm hb (fun _ => holds_maxLineLength_mono hle) hp
  · intro name hb n m hn hle hp
    have hm : 0 < m := Nat.lt_of_lt_of_le hn hle
    exact passes_of_holds hm hn hb (fun _ => holds_minLength_anti hle) hp
  · intro hp
    have hpart (field : Field) (hf : field = .type ∨ field = .scope ∨ field = .subject) :
        (hasMaxLength field message condition value).valid = true :=
      hasMaxLength_of_header condition h hf hp
    exact ⟨hpart .type (.inl rfl), hpart .scope (.inr (.inl rfl)), hpart .subject (.inr (.inr rfl))⟩
  · exact hasMaxLineLength_of_hasMaxLength condition
  · exact hasMaxLineLength_of_hasMaxLength condition
  · exact hasMinLength_header condition h

theorem limits_agree_accented :
    ∃ message, parse? "docs(menu): crème brûlée" = some message ∧
      "docs(menu): crème brûlée".length = 24 ∧ "docs(menu): crème brûlée".utf8ByteSize = 27 ∧
      message.passes "header-max-length" .always (some (.number 24)) = true ∧
      message.passes "header-max-length" .always (some (.number 23)) = false ∧
      message.passes "header-max-length" .always (some (.number 72)) = true ∧
      message.passes "subject-max-length" .always (some (.number 24)) = true ∧
      message.passes "subject-min-length" .always (some (.number 12)) = true ∧
      message.passes "subject-min-length" .always (some (.number 5)) = true ∧
      message.passes "header-min-length" .always (some (.number 12)) = true ∧
      message.passes "scope-max-length" .always (some (.number 0)) = true := by
  obtain ⟨message, hp, hs, hmax, hover, hmin⟩ : ∃ message,
      parse? "docs(menu): crème brûlée" = some message ∧ message.subject = some "crème brûlée" ∧
      message.passes "header-max-length" .always (some (.number 24)) = true ∧
      message.passes "header-max-length" .always (some (.number 23)) = false ∧
      message.passes "subject-min-length" .always (some (.number 12)) = true :=
    ⟨_, rfl, by decide +kernel, by decide +kernel, by decide +kernel, by decide +kernel⟩
  obtain ⟨hcount, hloose, hstrict, hwhole⟩ := limits_agree _ message hp .always
  obtain ⟨-, -, -, hzero, -⟩ := hcount "scope-max-length" maxLength rfl (by decide)
  obtain ⟨hheader, -⟩ := hwhole (some (.number 24))
  refine ⟨message, hp, by decide +kernel, by decide +kernel, hmax, hover, ?_, (hheader hmax).2.2, hmin,
    ?_, ?_, hzero⟩
  · exact hloose _ (.inl (by decide)) 24 72 (by decide) (by decide) hmax
  · exact hstrict _ (by decide) 5 12 (by decide) (by decide) hmin
  · exact (hwhole (some (.number 12))).2.2.2 (hs ▸ Option.some_ne_none _) hmin

end Message

end CommitStyle
