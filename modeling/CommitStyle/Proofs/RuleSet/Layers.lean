import CommitStyle.Proofs.Resolution.Sources

/-!
# Rule sets in layers

Rule sets that are laid one over the other give the same rule set however they are grouped. A rule set
laid over itself is unchanged, and laid over the empty rule set it loses only the patterns that it
repeats.
-/

namespace CommitStyle

namespace RuleTable

lemma merge_self (table : RuleTable) : table.merge table = table :=
  ext_find? fun name => by simp

end RuleTable

namespace RuleSet

lemma addPatterns_of_subset {patterns more : List String} (h : more ⊆ patterns) :
    addPatterns patterns more = patterns := by
  induction more using List.reverseRecOn with
  | nil => rfl
  | append_singleton more p ih =>
    obtain ⟨hm, hp⟩ := List.append_subset.1 h
    rw [addPatterns_concat, ih hm, if_pos (hp (List.mem_singleton_self p))]

lemma merge_self (set : RuleSet) : set.merge set = set := by
  simp [merge, addPatterns_of_subset, RuleTable.merge_self]

/-- Rule sets laid one over the other, in some grouping. -/
inductive Layers where
  | single (set : RuleSet)
  | laid (base overlay : Layers)

namespace Layers

/-- The rule sets of the layers, the lowest one first. -/
def sets : Layers → List RuleSet
  | single set => [set]
  | laid base overlay => base.sets ++ overlay.sets

def merged : Layers → RuleSet
  | single set => set
  | laid base overlay => base.merged.merge overlay.merged

lemma merge_merged (set : RuleSet) (layers : Layers) :
    set.merge layers.merged = layers.sets.foldl merge set := by
  induction layers generalizing set with
  | single => rfl
  | laid base overlay hb ho =>
    rw [merged, ← merge_assoc, hb, ho, sets, List.foldl_append]

lemma exists_sets_cons (layers : Layers) : ∃ first rest, layers.sets = first :: rest := by
  induction layers with
  | single set => exact ⟨set, [], rfl⟩
  | laid base overlay hb =>
    obtain ⟨first, rest, hs⟩ := hb
    exact ⟨first, rest ++ overlay.sets, by rw [sets, hs, List.cons_append]⟩

lemma merged_eq_foldl {layers : Layers} {first : RuleSet} {rest : List RuleSet}
    (h : layers.sets = first :: rest) : layers.merged = rest.foldl merge first := by
  induction layers generalizing first rest with
  | single =>
    cases h
    rfl
  | laid base overlay hb =>
    obtain ⟨lowest, others, hs⟩ := base.exists_sets_cons
    rw [sets, hs, List.cons_append] at h
    cases h
    rw [merged, hb hs, merge_merged, List.foldl_append]

end Layers

/-- Merging is associative and idempotent, and the empty rule set below takes away nothing but the
repetition of patterns. So the grouping of layers does not matter. -/
theorem merge_grouped :
    (∀ a b c : RuleSet, (a.merge b).merge c = a.merge (b.merge c)) ∧
    (∀ a : RuleSet, a.merge a = a) ∧
    (∀ a : RuleSet, ∃ kept, FirstOccurrences a.ignores kept ∧
      ({} : RuleSet).merge a = { a with ignores := kept }) ∧
    ∀ layers others : Layers, layers.sets = others.sets → layers.merged = others.merged := by
  refine ⟨merge_assoc, merge_self, fun a => ?_, fun layers others h => ?_⟩
  · exact ⟨_, firstOccurrences_addPatterns a.ignores, empty_merge a⟩
  · obtain ⟨first, rest, hs⟩ := layers.exists_sets_cons
    rw [Layers.merged_eq_foldl hs, Layers.merged_eq_foldl (h ▸ hs)]

def lowest : RuleSet := { ignores := ["x", "x"], helpUrl := some "u" }

def middle : RuleSet := { ignores := ["y", "x", "y"], defaultIgnores := false }

def highest : RuleSet := { bases := ["conventional"], ignores := ["z", "y"] }

theorem merge_grouped_repeated :
    Layers.merged (.laid (.laid (.single lowest) (.single middle)) (.single highest)) =
      Layers.merged (.laid (.single lowest) (.laid (.single middle) (.single highest))) ∧
    Layers.merged (.laid (.single lowest) (.laid (.single middle) (.single highest))) =
      { bases := ["conventional"], ignores := ["x", "x", "y", "z"], helpUrl := some "u" } ∧
    lowest.merge lowest = lowest ∧
    ∃ kept, FirstOccurrences ["x", "x"] kept ∧
      ({} : RuleSet).merge lowest = { lowest with ignores := kept } := by
  obtain ⟨-, hself, hempty, hlayers⟩ := merge_grouped
  exact ⟨hlayers _ _ rfl, by decide, hself lowest, hempty lowest⟩

end RuleSet

end CommitStyle
