import CommitStyle.Proofs.Resolution.Idempotence

/-!
# Rule sets that only extend a file

A rule set that says nothing but that it extends a file takes over all of the file but the choice
about the default patterns, which is never inherited: it is as in the empty rule set. The file and the
rule set agree on a message unless only a default pattern that the file switches off exempts it.
-/

namespace CommitStyle

namespace RuleSet

lemma merge_empty (set : RuleSet) :
    set.merge {} = { set with bases := [], defaultIgnores := true } := by
  simp [merge]

@[simp] lemma defaultIgnores_lay_concat (merged set : RuleSet) (sources : List RuleSet) :
    (merged.lay (sources ++ [set])).defaultIgnores = set.defaultIgnores := by
  rw [lay_concat]
  rfl

end RuleSet

namespace Linter

def withDefaults (linter : Linter) : Linter :=
  { linter with
    ruleSet := { linter.ruleSet with defaultIgnores := true }
    ignore := { linter.ignore with useDefaults := true } }

lemma check_withDefaults (linter : Linter) (message : Message) :
    linter.withDefaults.check message = linter.check message := rfl

lemma holds_withDefaults (linter : Linter) (text : String) :
    linter.withDefaults.ignore.holds text =
      (Ignore.holds ⟨true, []⟩ text || linter.ignore.holds text) := by
  have hb : ∀ byDefault used own : Bool,
      (true && byDefault || own) = (true && byDefault || false || (used && byDefault || own)) := by
    decide
  exact hb _ _ _

lemma ofRuleSet_withDefaults {w : Workspace} {set : RuleSet} {linter : Linter}
    (hb : set.bases = []) (hi : set.ignores.Nodup) (h : ofRuleSet w set = .ok linter) :
    ofRuleSet w { set with defaultIgnores := true } = .ok linter.withDefaults := by
  obtain ⟨resolved, ignore, hr, hv, hig, rfl⟩ := make_eq_ok_iff.1 h
  rw [Workspace.resolve_of_bases_eq_nil hb hi] at hr
  cases hr
  obtain ⟨patterns, hp, rfl⟩ := Ignore.ofRuleSet_eq_ok_iff.1 hig
  have hr' : w.resolve none { set with defaultIgnores := true } =
      .ok { set with defaultIgnores := true } := Workspace.resolve_of_bases_eq_nil hb hi
  exact make_eq_ok_iff.2 ⟨_, ⟨true, patterns⟩, hr', hv,
    Ignore.ofRuleSet_eq_ok_iff.2 ⟨patterns, hp, rfl⟩, rfl⟩

end Linter

namespace Workspace

variable {w : Workspace} {base : Option String} {entry : String} {location : Location}
variable {set resolved : RuleSet}

lemma resolve_extending_file (hr : w.refer base entry = .ok (.file location))
    (hs : w.content location = .ok set) (h : w.resolve location.base set = .ok resolved) :
    w.resolve base { bases := [entry] } = .ok { resolved with defaultIgnores := true } := by
  obtain ⟨below, hx, rfl⟩ := resolve_eq_ok_iff_expansion.1 h
  refine resolve_eq_ok_iff_expansion.2 ⟨below ++ [set], .file hr hs hx .nil, ?_⟩
  rw [RuleSet.lay_concat _ { bases := [entry] }]
  change _ = RuleSet.merge _ {}
  rw [RuleSet.merge_empty, (RuleSet.flattens_lay below set).bases]

/-- A rule set that only extends a file is the file with the default patterns switched on. So it is
the same if and only if the file leaves them on, and else the linters of both agree on just those
messages that no default pattern matches or that the file exempts on its own. -/
theorem resolve_wrapper (w : Workspace) (base : Option String) (entry : String)
    (location : Location) (set resolved : RuleSet)
    (hr : w.refer base entry = .ok (.file location)) (hs : w.content location = .ok set)
    (h : w.resolve location.base set = .ok resolved) :
    w.resolve base { bases := [entry] } = .ok { resolved with defaultIgnores := true } ∧
    resolved.defaultIgnores = set.defaultIgnores ∧
    (w.resolve base { bases := [entry] } = .ok resolved ↔ set.defaultIgnores = true) ∧
    ∀ linter, Linter.ofRuleSet w resolved = .ok linter →
      ∃ wrapped, Linter.ofRuleSet w { resolved with defaultIgnores := true } = .ok wrapped ∧
        ∀ text, wrapped.lint text = linter.lint text ↔
          (Ignore.holds ⟨true, []⟩ text = true → linter.ignore.holds text = true) := by
  have hw := resolve_extending_file hr hs h
  obtain ⟨below, -, rfl⟩ := resolve_eq_ok_iff_expansion.1 h
  have hf := RuleSet.flattens_lay below set
  refine ⟨hw, by simp, ?_, ?_⟩
  · rw [hw, Except.ok.injEq, ← RuleSet.defaultIgnores_lay_concat {} set below]
    generalize RuleSet.lay {} (below ++ [set]) = resolved
    cases resolved
    simp [eq_comm]
  · intro linter hl
    refine ⟨_, Linter.ofRuleSet_withDefaults hf.bases hf.ignores.nodup hl, fun text => ?_⟩
    rw [Linter.lint_eq_iff linter.check_withDefaults, linter.holds_withDefaults]
    cases Ignore.holds ⟨true, []⟩ text with
    | false => simp
    | true => exact ⟨fun ho _ => ho.symm, fun ho => (ho rfl).symm⟩

def strict : Workspace where
  tree := ⟨[(["strict.toml"], .file
    "default_ignores = false\nextends = ['conventional']\nignores = ['x']".toUTF8)]⟩

def strictSet : RuleSet :=
  { bases := ["conventional"], defaultIgnores := false, ignores := ["x"] }

def strictResolved : RuleSet :=
  { Preset.conventional with defaultIgnores := false, ignores := ["x"] }

lemma refer_strict : strict.refer none "strict.toml" = .ok (.file ["strict.toml"]) :=
  refer_eq_file_iff.2 (by decide +kernel)

lemma content_strict : strict.content ["strict.toml"] = .ok strictSet :=
  eq_ok_of_toOption_eq_some (by decide +kernel)

lemma resolve_strict :
    strict.resolve (Location.base ["strict.toml"]) strictSet = .ok strictResolved :=
  strict.resolve_eq_ok_of_resolveWithin (by decide : _ < 2) (by decide +kernel)

theorem resolve_wrapper_strict :
    strict.refer none "strict.toml" = .ok (.file ["strict.toml"]) ∧
    strict.content ["strict.toml"] = .ok strictSet ∧
    strict.resolve (Location.base ["strict.toml"]) strictSet = .ok strictResolved ∧
    strict.resolve none { bases := ["strict.toml"] } =
      .ok { strictResolved with defaultIgnores := true } ∧
    strictResolved.defaultIgnores = strictSet.defaultIgnores ∧
    (strict.resolve none { bases := ["strict.toml"] } = .ok strictResolved ↔
      strictSet.defaultIgnores = true) ∧
    ∀ linter, Linter.ofRuleSet strict strictResolved = .ok linter →
      ∃ wrapped,
        Linter.ofRuleSet strict { strictResolved with defaultIgnores := true } = .ok wrapped ∧
        ∀ text, wrapped.lint text = linter.lint text ↔
          (Ignore.holds ⟨true, []⟩ text = true → linter.ignore.holds text = true) :=
  ⟨refer_strict, content_strict, resolve_strict, resolve_wrapper strict none "strict.toml"
    ["strict.toml"] strictSet strictResolved refer_strict content_strict resolve_strict⟩

theorem resolve_wrapper_ne_strict :
    strict.refer none "strict.toml" = .ok (.file ["strict.toml"]) ∧
    strict.content ["strict.toml"] = .ok strictSet ∧
    strict.resolve (Location.base ["strict.toml"]) strictSet = .ok strictResolved ∧
    strict.resolve none { bases := ["strict.toml"] } ≠ .ok strictResolved := by
  refine ⟨refer_strict, content_strict, resolve_strict, ?_⟩
  rw [resolve_extending_file refer_strict content_strict resolve_strict]
  intro h
  have hd : true = false := congrArg RuleSet.defaultIgnores (Except.ok.inj h)
  cases hd

end Workspace

end CommitStyle
