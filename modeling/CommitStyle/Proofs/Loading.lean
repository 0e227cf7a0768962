import CommitStyle.CommandLine
import CommitStyle.Proofs.Resolution.Failure
import CommitStyle.Proofs.Revision

/-!
# Loading the rule set of a request

The rule set of a request is that of a revision, of the file that is given, of the file that is
found, or of the latest revision. What is loaded is valid once it is resolved, and where nothing can
be loaded the reason is what is wrong with a configuration.
-/

namespace CommitStyle

lemma Workspace.loadDefault_of_findConfig? {w : Workspace} (h : w.findConfig? = none) :
    w.loadDefault = .ok Revision.latest.resolved := by
  rw [loadDefault, h]
  refine bind_eq_ok_iff.2 ⟨_, Revision.latest.resolve_ruleSet w none, ?_⟩
  exact bind_eq_ok_iff.2 ⟨(), Revision.latest.validate_resolved, rfl⟩

lemma Linter.ofRuleSet_resolved {w : Workspace} {set resolved : RuleSet}
    (h : w.resolve none set = .ok resolved) : ofRuleSet w set = ofRuleSet w resolved := by
  rw [ofRuleSet, ofRuleSet, make, make, h, Workspace.resolve_resolved h none]

namespace CommandLine

def sourcePath? (surroundings : Surroundings) (request : Request) : Option String :=
  match request.revision with
  | some _ => none
  | none => request.config.or (surroundings.workspace.findConfig?.map (·.path))

def sourceDirectory? (surroundings : Surroundings) (request : Request) : Option String :=
  sourcePath? surroundings request >>= Path.parent?

variable {surroundings : Surroundings} {request : Request}

lemma loadRuleSet_of_sourcePath? {path : String}
    (h : sourcePath? surroundings request = some path) :
    loadRuleSet surroundings request = surroundings.workspace.load path ∧
      readRuleSet surroundings request = surroundings.workspace.read path := by
  unfold sourcePath? at h
  unfold loadRuleSet readRuleSet
  cases hr : request.revision with
  | some revision => simp [hr] at h
  | none =>
    cases hc : request.config with
    | some given => simp_all
    | none =>
      cases hf : surroundings.workspace.findConfig? with
      | none => simp_all
      | some location => simp_all [Workspace.loadDefault]

lemma exists_revision_of_sourcePath? (h : sourcePath? surroundings request = none) :
    ∃ revision : Revision, readRuleSet surroundings request = .ok revision.ruleSet ∧
      (loadRuleSet surroundings request = .ok revision.ruleSet ∨
        loadRuleSet surroundings request = .ok revision.resolved) := by
  unfold sourcePath? at h
  unfold loadRuleSet readRuleSet
  cases hr : request.revision with
  | some revision => exact ⟨revision, rfl, .inl rfl⟩
  | none =>
    cases hc : request.config with
    | some path => simp_all
    | none =>
      cases hf : surroundings.workspace.findConfig? with
      | none => exact ⟨.latest, rfl, .inr (Workspace.loadDefault_of_findConfig? hf)⟩
      | some location => simp_all

lemma failsByConfig_loadRuleSet (surroundings : Surroundings) (request : Request) :
    FailsByConfig (loadRuleSet surroundings request) := by
  cases hp : sourcePath? surroundings request with
  | some path =>
    rw [(loadRuleSet_of_sourcePath? hp).1]
    exact surroundings.workspace.failsByConfig_load path
  | none =>
    obtain ⟨revision, -, hl | hl⟩ := exists_revision_of_sourcePath? hp
    all_goals
      rw [hl]
      exact .ok _

lemma resolve_of_loadRuleSet {loaded : RuleSet}
    (h : loadRuleSet surroundings request = .ok loaded) :
    ∃ written set, readRuleSet surroundings request = .ok written ∧
      surroundings.workspace.resolve (sourceDirectory? surroundings request) written = .ok set ∧
      surroundings.workspace.resolve none loaded = .ok set ∧ set.validate = .ok () := by
  unfold sourceDirectory?
  cases hp : sourcePath? surroundings request with
  | some path =>
    -- What is loaded from a file is resolved already, and resolves to itself from anywhere.
    obtain ⟨hl, hr⟩ := loadRuleSet_of_sourcePath? hp
    obtain ⟨written, hw, hs, hv⟩ := Workspace.load_eq_ok_iff.1 (hl ▸ h)
    exact ⟨written, loaded, hr.trans hw, hs, Workspace.resolve_resolved hs none, hv⟩
  | none =>
    -- A revision extends a preset only, so that it does not matter where its paths start from.
    obtain ⟨revision, hr, hl⟩ := exists_revision_of_sourcePath? hp
    have hs : ∀ base, surroundings.workspace.resolve base revision.ruleSet =
        .ok revision.resolved := fun base => revision.resolve_ruleSet _ base
    refine ⟨_, _, hr, hs none, ?_, revision.validate_resolved⟩
    rcases hl with hl | hl
    · cases h.symm.trans hl
      exact hs none
    · cases h.symm.trans hl
      exact Workspace.resolve_resolved (hs none) none

lemma exists_makeLinter {loaded : RuleSet} (h : loadRuleSet surroundings request = .ok loaded) :
    ∃ linter, makeLinter surroundings request = .ok linter ∧
      resolvedRuleSet surroundings request = .ok linter.ruleSet := by
  obtain ⟨_, set, -, -, hr, hv⟩ := resolve_of_loadRuleSet h
  obtain ⟨linter, hm, rfl⟩ := Linter.exists_of_resolve_of_validate hr hv
  exact ⟨linter, bind_eq_ok_iff.2 ⟨loaded, h, hm⟩, bind_eq_ok_iff.2 ⟨loaded, h, hr⟩⟩

end CommandLine

end CommitStyle
