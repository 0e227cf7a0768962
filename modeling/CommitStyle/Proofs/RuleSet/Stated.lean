import CommitStyle.Proofs.Resolution.Sources
import CommitStyle.Proofs.RuleSet.Tree

/-!
# Stated settings

A document states a condition in front of every value, and its numbers are in range. The presets and
the revisions do too, and so does whatever is resolved from such rule sets: its settings are settings
of them.
-/

namespace CommitStyle

open Document (Tree Notation)

/-- A setting that a document can state: its value has a condition, and its number is in range. -/
structure Setting.IsStated (setting : Setting) : Prop where
  explicit : setting.explicit = setting
  inRange : setting.IsInRange

namespace Setting

lemma isStated_of_value_eq_none {setting : Setting} (h : setting.value = none) : setting.IsStated where
  explicit := explicit_eq_self_iff.2 (by simp [h])
  inRange n hn := by simp [h] at hn

lemma isStated_withValue (level : Level) (condition : Condition) {value : RuleValue}
    (h : ∀ n, value = .number n → Document.isInRange n = true) :
    (withValue level condition value).IsStated where
  explicit := rfl
  inRange n hn := h n (Option.some.inj hn)

lemma isInRange_of_ofTree? {tree : Tree} {n : Int}
    (h : RuleValue.ofTree? tree = some (.number n)) : Document.isInRange n = true := by
  unfold RuleValue.ofTree? at h
  split at h
  next => cases h
  next m =>
    split at h
    next hm =>
      cases h
      exact hm
    next => cases h
  next => cases h
  next =>
    obtain ⟨items, -, h⟩ := Option.map_eq_some_iff.1 h
    cases h
  next => cases h

lemma isStated_of_ofTree? {format : Notation} {tree : Tree} {setting : Setting}
    (h : ofTree? format tree = some setting) : setting.IsStated := by
  unfold ofTree? at h
  split at h
  next =>
    obtain ⟨level, -, hs⟩ := Option.bind_eq_some_iff.1 h
    cases hs
    exact isStated_of_value_eq_none rfl
  next =>
    obtain ⟨level, -, h⟩ := Option.bind_eq_some_iff.1 h
    obtain ⟨condition, -, hs⟩ := Option.bind_eq_some_iff.1 h
    cases hs
    exact isStated_of_value_eq_none rfl
  next =>
    obtain ⟨level, -, h⟩ := Option.bind_eq_some_iff.1 h
    obtain ⟨condition, -, h⟩ := Option.bind_eq_some_iff.1 h
    obtain ⟨value, hv, hs⟩ := Option.bind_eq_some_iff.1 h
    cases hs
    exact isStated_withValue level condition fun n hn => isInRange_of_ofTree? (hn ▸ hv)
  next => cases h

end Setting

def RuleSet.IsStated (set : RuleSet) : Prop :=
  ∀ name setting, set.rule? name = some setting → setting.IsStated

namespace RuleSet

lemma IsStated.isInRange {set : RuleSet} (h : set.IsStated) : set.IsInRange :=
  fun name setting hs => (h name setting hs).inRange

lemma IsStated.explicit_eq {set : RuleSet} (h : set.IsStated) : set.explicit = set := by
  have hrules : set.rules.mapSettings Setting.explicit = set.rules := by
    refine RuleTable.ext_find? fun name => ?_
    rw [RuleTable.find?_mapSettings]
    cases hs : set.rules.find? name with
    | none => rfl
    | some setting => exact congrArg some (h name setting hs).explicit
  rw [RuleSet.explicit, hrules]

end RuleSet

namespace RuleTable

lemma exists_mem_of_find?_ofList {entries : List (String × Setting)} {name : String}
    {setting : Setting} (h : (ofList entries).find? name = some setting) :
    (name, setting) ∈ entries := by
  induction entries using List.reverseRecOn with
  | nil => cases h
  | append_singleton entries entry ih =>
    rw [ofList, List.foldl_append] at h
    change ((ofList entries).insert entry.1 entry.2).find? name = some setting at h
    rw [find?_insert] at h
    split at h
    next hn =>
      cases h
      rw [hn]
      simp
    next => exact List.mem_append_left _ (ih h)

end RuleTable

namespace RuleSet

lemma isStated_of_ofList {set : RuleSet} {entries : List (String × Setting)}
    (hr : set.rules = .ofList entries) (h : ∀ entry ∈ entries, entry.2.IsStated) : set.IsStated := by
  intro name setting hs
  rw [rule?, hr] at hs
  exact h _ (RuleTable.exists_mem_of_find?_ofList hs)

lemma isStated_of_ofTree? {format : Notation} {tree : Tree} {set : RuleSet}
    (h : ofTree? format tree = some set) : set.IsStated := by
  obtain ⟨parts, -, h⟩ := Option.bind_eq_some_iff.1 h
  obtain ⟨bases, -, h⟩ := Option.bind_eq_some_iff.1 h
  obtain ⟨defaultIgnores, -, h⟩ := Option.bind_eq_some_iff.1 h
  obtain ⟨ignores, -, h⟩ := Option.bind_eq_some_iff.1 h
  obtain ⟨helpUrl, -, h⟩ := Option.bind_eq_some_iff.1 h
  obtain ⟨rules, hr, h⟩ := Option.bind_eq_some_iff.1 h
  cases h
  cases hp : parts.rules with
  | none =>
    rw [hp] at hr
    cases hr
    rintro name setting hs
    cases hs
  | some tree =>
    rw [hp] at hr
    obtain ⟨entries, -, hr⟩ := Option.bind_eq_some_iff.1 hr
    obtain ⟨settings, hm, hr⟩ := Option.bind_eq_some_iff.1 hr
    cases hr
    refine isStated_of_ofList rfl fun entry he => ?_
    obtain ⟨⟨name, tree⟩, -, hn⟩ := exists_mem_of_mapM_eq_some hm he
    obtain ⟨setting, hs, rfl⟩ := Option.map_eq_some_iff.1 hn
    exact Setting.isStated_of_ofTree? hs

lemma isStated_of_parse {format : Notation} {content : String} {set : RuleSet}
    (h : parse format content = .ok set) : set.IsStated := by
  unfold parse at h
  split at h
  next hread =>
    cases h
    obtain ⟨tree, -, ht⟩ := Option.bind_eq_some_iff.1 hread
    exact isStated_of_ofTree? ht
  next => cases h

end RuleSet

lemma Preset.isStated_conventional : conventional.IsStated := by
  refine RuleSet.isStated_of_ofList rfl fun entry he => ?_
  simp only [List.mem_cons, List.not_mem_nil, or_false] at he
  rcases he with rfl | rfl | rfl | rfl | rfl | rfl | rfl | rfl | rfl | rfl | rfl | rfl
  all_goals first
    | exact Setting.isStated_of_value_eq_none rfl
    | exact Setting.isStated_withValue _ _ fun n hn => by cases hn <;> decide

lemma Preset.isStated_of_ofName? {name : String} {preset : RuleSet}
    (h : ofName? name = some preset) : preset.IsStated := by
  unfold ofName? at h
  split at h
  · cases h
    exact isStated_conventional
  · cases h

lemma Revision.isStated_ruleSet (revision : Revision) : revision.ruleSet.IsStated := by
  refine RuleSet.isStated_of_ofList rfl fun entry he => ?_
  rw [List.mem_cons, List.mem_map] at he
  rcases he with rfl | ⟨name, -, rfl⟩
  · exact Setting.isStated_withValue .error .always fun n hn => by cases hn
  · exact Setting.isStated_of_value_eq_none rfl

namespace Workspace

variable {w : Workspace} {base : Option String} {set resolved : RuleSet}

lemma isStated_of_readAt {format : Notation} {location : Location}
    (h : w.readAt format location = .ok set) : set.IsStated := by
  unfold readAt at h
  split at h
  · exact RuleSet.isStated_of_parse h
  · cases h

lemma isStated_of_read {path : String} (h : w.read path = .ok set) : set.IsStated := by
  unfold read at h
  split at h
  · exact isStated_of_readAt h
  · cases h

lemma isStated_of_refer {entry : String} (h : w.refer base entry = .ok (.preset set)) :
    set.IsStated := by
  unfold refer at h
  split at h
  next hp =>
    cases h
    exact Preset.isStated_of_ofName? hp
  next =>
    split at h
    next => split at h <;> cases h
    next => cases h

lemma Expansion.isStated {entries : List String} {sources : List RuleSet}
    (h : w.Expansion base entries sources) : ∀ source ∈ sources, source.IsStated := by
  induction h with
  | nil => simp
  | preset hr _ ih => exact List.forall_mem_cons.2 ⟨isStated_of_refer hr, ih⟩
  | file _ hs _ _ ihb ih =>
    exact List.forall_mem_append.2 ⟨ihb, List.forall_mem_cons.2 ⟨isStated_of_readAt hs, ih⟩⟩

lemma isStated_of_resolve (hs : set.IsStated) (h : w.resolve base set = .ok resolved) :
    resolved.IsStated := by
  obtain ⟨below, hx, rfl⟩ := resolve_eq_ok_iff_expansion.1 h
  intro name setting hr
  rw [(RuleSet.flattens_lay below set).rule? name] at hr
  obtain ⟨source, hm, hsource⟩ := List.mem_filterMap.1 (List.mem_of_getLast? hr)
  rcases List.mem_append.1 hm with hb | hb
  · exact hx.isStated source hb name setting hsource
  · rw [List.mem_singleton.1 hb] at hsource
    exact hs name setting hsource

end Workspace

end CommitStyle
