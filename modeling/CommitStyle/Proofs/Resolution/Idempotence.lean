import CommitStyle.Proofs.Linter
import CommitStyle.Proofs.Resolution.Sources
import CommitStyle.Proofs.RuleSet.Validity

/-!
# Resolving twice

A resolved rule set extends nothing and repeats no pattern, so that resolving it again changes
nothing. A linter resolves the rule set that it is made of, and is therefore the same for a rule set
and for its resolved form; for a loaded one it always exists.
-/

namespace CommitStyle

namespace RuleSet

lemma exists_ignore_of_validateWith {set : RuleSet} {isKnown : String → Bool}
    (h : set.validateWith isKnown = .ok ()) : ∃ ignore, Ignore.ofRuleSet set = .ok ignore := by
  obtain ⟨-, -, hread⟩ := validateWith_eq_ok_iff.1 h
  obtain ⟨regexes, hm⟩ := exists_mapM_eq_ok hread
  exact ⟨_, Ignore.ofRuleSet_eq_ok_iff.2 ⟨regexes, hm, rfl⟩⟩

end RuleSet

namespace Rule

lemma any_builtins_append_nil (name : String) :
    (builtins ++ []).any (·.name == name) = isBuiltin name := by
  rw [List.append_nil, isBuiltin, builtin?, List.isSome_find?]

end Rule

namespace Linter

lemma exists_of_resolve_of_validate {w : Workspace} {set resolved : RuleSet}
    (hr : w.resolve none set = .ok resolved) (hv : resolved.validate = .ok ()) :
    ∃ linter, ofRuleSet w set = .ok linter ∧ linter.ruleSet = resolved := by
  obtain ⟨ignore, hi⟩ := RuleSet.exists_ignore_of_validateWith hv
  have hk : (fun name => (Rule.builtins ++ []).any (·.name == name)) = Rule.isBuiltin :=
    funext Rule.any_builtins_append_nil
  refine ⟨⟨resolved, Rule.builtins ++ [], ignore⟩, ?_, rfl⟩
  exact make_eq_ok_iff.2 ⟨resolved, ignore, hr, hk ▸ hv, hi, rfl⟩

end Linter

namespace Workspace

variable {w : Workspace} {base : Option String} {set resolved : RuleSet}

lemma resolve_of_bases_eq_nil (hb : set.bases = []) (hi : set.ignores.Nodup) :
    w.resolve base set = .ok set := by
  rw [resolve, hb, layAll_nil]
  change Except.ok (RuleSet.merge {} _) = _
  rw [RuleSet.empty_merge]
  congr 1
  cases set
  simp_all [RuleSet.addPatterns_eq_append]

lemma resolve_resolved (h : w.resolve base set = .ok resolved) (other : Option String) :
    w.resolve other resolved = .ok resolved := by
  obtain ⟨below, -, rfl⟩ := resolve_eq_ok_iff_expansion.1 h
  have hf := RuleSet.flattens_lay below set
  exact resolve_of_bases_eq_nil hf.bases hf.ignores.nodup

lemma load_eq_ok_iff {path : String} :
    w.load path = .ok resolved ↔
      ∃ set, w.read path = .ok set ∧ w.resolve (Path.parent? path) set = .ok resolved ∧
        resolved.validate = .ok () := by
  rw [load, bind_eq_ok_iff]
  constructor
  · rintro ⟨set, hs, h⟩
    obtain ⟨_, hr, h⟩ := bind_eq_ok_iff.1 h
    obtain ⟨_, hv, h⟩ := bind_eq_ok_iff.1 h
    cases h
    exact ⟨set, hs, hr, hv⟩
  · rintro ⟨set, hs, hr, hv⟩
    exact ⟨set, hs, bind_eq_ok_iff.2 ⟨resolved, hr, bind_eq_ok_iff.2 ⟨(), hv, rfl⟩⟩⟩

lemma load_or_resolve_of_loadDefault (h : w.loadDefault = .ok resolved) :
    (∃ path, w.load path = .ok resolved) ∨
      w.resolve none Revision.latest.ruleSet = .ok resolved ∧ resolved.validate = .ok () := by
  unfold loadDefault at h
  split at h
  next location _ => exact .inl ⟨location.path, h⟩
  next =>
    obtain ⟨set, hr, h⟩ := bind_eq_ok_iff.1 h
    obtain ⟨_, hv, h⟩ := bind_eq_ok_iff.1 h
    cases h
    exact .inr ⟨hr, hv⟩

/-- Resolving is idempotent wherever it is done again, and so linters do not tell a rule set from its
resolved form and accept all that is loaded. -/
theorem resolve_idempotent (w : Workspace) :
    (∀ base set resolved, w.resolve base set = .ok resolved →
      ∀ other, w.resolve other resolved = .ok resolved) ∧
    (∀ set resolved, w.resolve none set = .ok resolved →
      Linter.ofRuleSet w set = Linter.ofRuleSet w resolved) ∧
    ∀ path resolved, w.load path = .ok resolved →
      ∃ linter, Linter.ofRuleSet w resolved = .ok linter ∧ linter.ruleSet = resolved := by
  refine ⟨fun base set resolved h => resolve_resolved h, fun set resolved h => ?_,
    fun path resolved h => ?_⟩
  · rw [Linter.ofRuleSet, Linter.ofRuleSet, Linter.make, Linter.make, h, resolve_resolved h none]
  · obtain ⟨set, -, hr, hv⟩ := load_eq_ok_iff.1 h
    exact Linter.exists_of_resolve_of_validate (resolve_resolved hr none) hv

end Workspace

end CommitStyle
