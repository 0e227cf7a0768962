import CommitStyle.Proofs.Checked
import CommitStyle.Proofs.Merge
import CommitStyle.RuleSet.Validity

/-!
# Valid rule sets

What holds of a rule set that passes the check of its validity, setting by setting.
-/

namespace CommitStyle

namespace RuleSet

variable {set : RuleSet} {name : String} {setting : Setting} {isKnown : String → Bool}

lemma validateRule_eq_ok_iff :
    validateRule isKnown (name, setting) = .ok () ↔
      isKnown name = true ∧ ∀ builtin, Rule.builtin? name = some builtin →
        builtin.validateValue setting.value = .ok () := by
  rw [validateRule]
  cases isKnown name with
  | false => simp [ConfigError.raise, bind, Except.bind]
  | true => cases Rule.builtin? name <;> simp [pure, Except.pure]

lemma validateWith_eq_ok_iff :
    set.validateWith isKnown = .ok () ↔
      (∀ name setting, set.rule? name = some setting →
        validateRule isKnown (name, setting) = .ok ()) ∧
      set.validateTypes = .ok () ∧
      ∀ pattern ∈ set.ignores, ∃ regex, readPattern pattern = .ok regex := by
  rw [validateWith, bind_eq_ok_iff]
  constructor
  · rintro ⟨_, hr, h⟩
    obtain ⟨_, ht, hp⟩ := bind_eq_ok_iff.1 h
    exact ⟨fun name setting hs => forM_eq_ok_iff.1 hr _ (mem_entries_iff.2 hs), ht,
      fun pattern hm => discard_eq_ok_iff.1 (forM_eq_ok_iff.1 hp pattern hm)⟩
  · rintro ⟨hr, ht, hp⟩
    refine ⟨(), forM_eq_ok_iff.2 fun entry he => hr _ _ (mem_entries_iff.1 he),
      bind_eq_ok_iff.2 ⟨(), ht, forM_eq_ok_iff.2 fun pattern hm => ?_⟩⟩
    exact discard_eq_ok_iff.2 (hp pattern hm)

lemma isKnown_of_validateWith (h : set.validateWith isKnown = .ok ())
    (hs : set.rule? name = some setting) : isKnown name = true :=
  (validateRule_eq_ok_iff.1 ((validateWith_eq_ok_iff.1 h).1 name setting hs)).1

lemma validateTypes_of_validateWith (h : set.validateWith isKnown = .ok ()) :
    set.validateTypes = .ok () :=
  (validateWith_eq_ok_iff.1 h).2.1

end RuleSet

end CommitStyle
