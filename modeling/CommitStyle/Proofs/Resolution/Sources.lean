import CommitStyle.Proofs.Resolution.Expansion
import Mathlib.Data.List.Basic

/-!
# What a resolved rule set takes from its sources

The sources of a rule set are what it extends, expanded, and the rule set itself at the end. For each
rule the last source that sets it counts, and so does the last help address. The patterns are those of
all sources.
-/

namespace CommitStyle

structure FirstOccurrences (all kept : List String) : Prop where
  nodup : kept.Nodup
  mem_iff : ∀ text, text ∈ kept ↔ text ∈ all
  ordered : kept.Pairwise fun text other => all.idxOf text < all.idxOf other

namespace RuleSet

lemma firstOccurrences_addPatterns (all : List String) :
    FirstOccurrences all (addPatterns [] all) where
  nodup := nodup_addPatterns List.nodup_nil all
  mem_iff text := by simp
  ordered := by
    induction all using List.reverseRecOn with
    | nil => exact .nil
    | append_singleton all p ih =>
      have hmem : ∀ text ∈ addPatterns [] all, text ∈ all := by simp
      -- A text that has occurred keeps the place of its first occurrence.
      have hold : (addPatterns [] all).Pairwise fun text other =>
          (all ++ [p]).idxOf text < (all ++ [p]).idxOf other := by
        refine ih.imp_of_mem fun ht ho hlt => ?_
        rwa [List.idxOf_append_of_mem (hmem _ ht), List.idxOf_append_of_mem (hmem _ ho)]
      rw [addPatterns_concat]
      split
      next => exact hold
      next hp =>
        refine List.pairwise_append.2 ⟨hold, List.pairwise_singleton _ _, fun text ht q hq => ?_⟩
        have hpa : p ∉ all := by simpa using hp
        rw [List.mem_singleton.1 hq, List.idxOf_append_of_mem (hmem _ ht),
          List.idxOf_append_of_notMem hpa]
        exact Nat.lt_add_right _ (List.idxOf_lt_length_of_mem (hmem _ ht))

lemma lay_last {α : Type} (field : RuleSet → Option α)
    (hf : ∀ base overlay : RuleSet,
      field (base.merge overlay.own) = (field overlay).or (field base))
    (merged : RuleSet) (sources : List RuleSet) :
    field (merged.lay sources) = ((sources.filterMap field).getLast?).or (field merged) := by
  induction sources generalizing merged with
  | nil => rfl
  | cons set rest ih =>
    rw [lay_cons, ih, hf, List.filterMap_cons]
    cases field set with
    | none => rfl
    | some value =>
      rw [List.getLast?_cons]
      cases (rest.filterMap field).getLast? <;> rfl

lemma rule?_lay (merged : RuleSet) (sources : List RuleSet) (name : String) :
    (merged.lay sources).rule? name =
      ((sources.filterMap (·.rule? name)).getLast?).or (merged.rule? name) :=
  lay_last (·.rule? name) (fun base overlay => RuleTable.find?_merge base.rules overlay.rules name)
    merged sources

lemma helpUrl_lay (merged : RuleSet) (sources : List RuleSet) :
    (merged.lay sources).helpUrl =
      ((sources.filterMap (·.helpUrl)).getLast?).or merged.helpUrl :=
  lay_last (·.helpUrl) (fun _ _ => rfl) merged sources

lemma ignores_lay (merged : RuleSet) (sources : List RuleSet) :
    (merged.lay sources).ignores =
      addPatterns merged.ignores (sources.flatMap (·.ignores)) := by
  induction sources generalizing merged with
  | nil => rfl
  | cons set rest ih =>
    rw [lay_cons, ih, List.flatMap_cons, addPatterns_append]
    rfl

structure Flattens (sources : List RuleSet) (resolved : RuleSet) : Prop where
  bases : resolved.bases = []
  rule? : ∀ name, resolved.rule? name = (sources.filterMap (·.rule? name)).getLast?
  helpUrl : resolved.helpUrl = (sources.filterMap (·.helpUrl)).getLast?
  ignores : FirstOccurrences (sources.flatMap (·.ignores)) resolved.ignores

lemma flattens_lay (below : List RuleSet) (set : RuleSet) :
    Flattens (below ++ [set]) (lay {} (below ++ [set])) where
  bases := by
    rw [lay_concat]
    rfl
  rule? name := by
    rw [rule?_lay]
    exact Option.or_none
  helpUrl := by
    rw [helpUrl_lay]
    exact Option.or_none
  ignores := by
    rw [ignores_lay]
    exact firstOccurrences_addPatterns _

end RuleSet

namespace Workspace

/-- A resolved rule set takes over what its sources say, and these are told by the rule set. -/
theorem resolve_flattens (w : Workspace) (base : Option String) (set resolved : RuleSet)
    (h : w.resolve base set = .ok resolved) :
    ∃ below, w.Expansion base set.bases below ∧
      (∀ others, w.Expansion base set.bases others → others = below) ∧
      RuleSet.Flattens (below ++ [set]) resolved := by
  obtain ⟨below, hx, rfl⟩ := resolve_eq_ok_iff_expansion.1 h
  exact ⟨below, hx, fun _ ho => ho.unique hx, RuleSet.flattens_lay below set⟩

def diamond : Workspace where
  tree := ⟨[
    (["a.toml"], .file
      "extends = ['b.toml']\nignores = ['y', 'x']\n[rules]\nheader-trim = [1]".toUTF8),
    (["b.toml"], .file
      "ignores = ['x']\nhelp_url = 'u'\n[rules]\nheader-trim = [2]\ntype-case = [0]".toUTF8)]⟩

def diamondTop : RuleSet := { bases := ["a.toml", "b.toml"], ignores := ["z", "y"] }

def diamondResolved : RuleSet where
  ignores := ["x", "y", "z"]
  helpUrl := some "u"
  rules := .ofList [("header-trim", ⟨.error, none, none⟩), ("type-case", .off)]

lemma resolve_diamond : diamond.resolve none diamondTop = .ok diamondResolved :=
  diamond.resolve_eq_ok_of_resolveWithin (by decide : _ < 3) (by decide +kernel)

theorem resolve_flattens_diamond :
    diamond.resolve none diamondTop = .ok diamondResolved ∧
    ∃ below, diamond.Expansion none diamondTop.bases below ∧
      (∀ others, diamond.Expansion none diamondTop.bases others → others = below) ∧
      RuleSet.Flattens (below ++ [diamondTop]) diamondResolved :=
  ⟨resolve_diamond, resolve_flattens diamond none diamondTop diamondResolved resolve_diamond⟩

end Workspace

end CommitStyle
