import CommitStyle.Proofs.Resolution.Step

/-!
# Why a configuration cannot be loaded

Reading, resolving and checking a rule set fail for no other reason than what is wrong with a
configuration.
-/

namespace CommitStyle

/-- The computation does not fail, or fails because of a configuration. -/
def FailsByConfig {α : Type} (x : Except Error α) : Prop :=
  ∀ e, x = .error e → ∃ cause, e = .config cause

namespace FailsByConfig

variable {α β : Type}

lemma ok (a : α) : FailsByConfig (.ok a) := nofun

lemma raise (cause : ConfigError) : FailsByConfig (cause.raise : Except Error α) := by
  rintro e ⟨⟩
  exact ⟨cause, rfl⟩

lemma bind {x : Except Error α} {f : α → Except Error β} (hx : FailsByConfig x)
    (hf : ∀ a, x = .ok a → FailsByConfig (f a)) : FailsByConfig (x >>= f) := by
  intro e h
  rcases bind_eq_error_iff.1 h with h | ⟨a, ha, h⟩
  · exact hx e h
  · exact hf a ha e h

lemma discard {x : Except Error α} (hx : FailsByConfig x) : FailsByConfig (discard x) := by
  cases x with
  | error e => exact fun _ h => hx _ (by cases h; rfl)
  | ok a => nofun

lemma forM {f : α → Except Error PUnit} (hf : ∀ a, FailsByConfig (f a)) (xs : List α) :
    FailsByConfig (xs.forM f) := by
  induction xs with
  | nil => exact ok _
  | cons x rest ih => exact (hf x).bind fun _ _ => ih

end FailsByConfig

namespace RuleSet

lemma failsByConfig_parse (format : Document.Notation) (content : String) :
    FailsByConfig (parse format content) := by
  unfold parse
  split
  · exact .ok _
  · exact .raise _

lemma failsByConfig_validateValue (rule : Rule) (value : Option RuleValue) :
    FailsByConfig (rule.validateValue value) := by
  unfold Rule.validateValue
  split
  · exact .ok _
  · split
    · exact .raise _
    · split
      · exact .ok _
      · exact .raise _

lemma failsByConfig_validateRule (isKnown : String → Bool) (entry : String × Setting) :
    FailsByConfig (validateRule isKnown entry) := by
  unfold validateRule
  cases isKnown entry.1 with
  | false => exact .bind (.raise _) nofun
  | true =>
    simp only [Bool.not_true, Bool.false_eq_true, if_false]
    split
    · exact failsByConfig_validateValue _ _
    · exact .ok _

lemma failsByConfig_validateTypes (set : RuleSet) : FailsByConfig set.validateTypes := by
  unfold validateTypes
  split
  · exact .ok _
  · split
    · exact .raise _
    · split
      · exact .raise _
      · exact .ok _

lemma failsByConfig_readPattern (pattern : String) : FailsByConfig (readPattern pattern) := by
  unfold readPattern
  split
  · exact .ok _
  · exact .raise _

lemma failsByConfig_validate (set : RuleSet) : FailsByConfig set.validate := by
  refine .bind (.forM (failsByConfig_validateRule _) _) fun _ _ => ?_
  refine .bind set.failsByConfig_validateTypes fun _ _ => ?_
  exact .forM (fun pattern => (failsByConfig_readPattern pattern).discard) _

end RuleSet

namespace Workspace

variable (w : Workspace)

lemma failsByConfig_readAt (format : Document.Notation) (location : Location) :
    FailsByConfig (w.readAt format location) := by
  unfold readAt
  split
  · exact RuleSet.failsByConfig_parse _ _
  · exact .raise _

lemma failsByConfig_read (path : String) : FailsByConfig (w.read path) := by
  unfold read
  split
  · exact w.failsByConfig_readAt _ _
  · exact .raise _

lemma failsByConfig_refer (base : Option String) (entry : String) :
    FailsByConfig (w.refer base entry) := by
  unfold refer
  split
  · exact .ok _
  · split
    · split
      · exact .ok _
      · exact .raise _
    · exact .raise _

lemma failsByConfig_parentOf {chain : List Location}
    (h : ∀ location set, location ∉ chain → w.content location = .ok set →
      ∀ base, FailsByConfig (w.resolveIn (location :: chain) base set))
    (base : Option String) (entry : String) : FailsByConfig (w.parentOf chain base entry) := by
  cases hr : w.refer base entry with
  | error e =>
    rw [parentOf_of_refer_error hr]
    exact fun cause hc => w.failsByConfig_refer base entry cause (hr.trans (by cases hc; rfl))
  | ok reference =>
    cases reference with
    | preset set =>
      rw [parentOf_of_refer_preset hr]
      exact .ok _
    | file location =>
      rw [parentOf_of_refer_file hr]
      split
      next => exact .raise _
      next hc =>
        refine .bind (w.failsByConfig_readAt _ _) fun set hs => ?_
        exact h location set hc hs location.base

lemma failsByConfig_layAll {chain : List Location} {base : Option String}
    (h : ∀ entry, FailsByConfig (w.parentOf chain base entry)) (merged : RuleSet)
    (entries : List String) : FailsByConfig (w.layAll chain base merged entries) := by
  induction entries generalizing merged with
  | nil =>
    rw [layAll_nil]
    exact .ok _
  | cons entry rest ih =>
    rw [layAll_cons]
    exact (h entry).bind fun _ _ => ih _

lemma failsByConfig_resolveIn (chain : List Location) :
    ∀ base set, FailsByConfig (w.resolveIn chain base set) := by
  induction chain using w.chain_induction with
  | step chain ih =>
    intro base set
    have hp : ∀ entry, FailsByConfig (w.parentOf chain base entry) :=
      w.failsByConfig_parentOf (fun location set hc hs base => ih location set hc hs base set) base
    exact (w.failsByConfig_layAll hp _ _).bind fun _ _ => .ok _

lemma failsByConfig_resolve (base : Option String) (set : RuleSet) :
    FailsByConfig (w.resolve base set) :=
  w.failsByConfig_resolveIn [] base set

lemma failsByConfig_load (path : String) : FailsByConfig (w.load path) := by
  refine .bind (w.failsByConfig_read path) fun set _ => ?_
  refine .bind (w.failsByConfig_resolve _ set) fun resolved _ => ?_
  exact .bind resolved.failsByConfig_validate fun _ _ => .ok _

end Workspace

end CommitStyle
