import CommitStyle.RuleSet
import Mathlib.Data.List.Induction
import Mathlib.Tactic.Common

/-!
# Merging

A merged table gives each rule the setting of the overlay, or else that of the base, and merged
patterns are those of both sides in the order of their first occurrence. Merging is associative, so
that a list of rule sets can be merged in any grouping.
-/

namespace CommitStyle

namespace RuleTable

lemma lookup_cons_eq_ite (name other : String) (setting : Setting)
    (rest : List (String × Setting)) :
    ((other, setting) :: rest).lookup name =
      if name = other then some setting else rest.lookup name := by
  by_cases h : name = other
  · simp [h]
  · simp [List.lookup_cons, beq_false_of_ne h, h]

lemma lookup_insertEntry (name other : String) (setting : Setting)
    (entries : List (String × Setting)) :
    (insertEntry name setting entries).lookup other =
      if other = name then some setting else entries.lookup other := by
  induction entries with
  | nil => exact lookup_cons_eq_ite other name setting []
  | cons e rest ih =>
    obtain ⟨held, old⟩ := e
    unfold insertEntry
    split
    next => exact lookup_cons_eq_ite other name setting _
    next =>
      split
      next heq =>
        subst heq
        rw [lookup_cons_eq_ite, lookup_cons_eq_ite]
        split <;> rfl
      next hne =>
        rw [lookup_cons_eq_ite, ih, lookup_cons_eq_ite]
        by_cases ho : other = held
        · have hn : other ≠ name := fun h => hne (h.symm.trans ho)
          rw [if_pos ho, if_neg hn, if_pos ho]
        · rw [if_neg ho, if_neg ho]

lemma find?_insert (table : RuleTable) (name other : String) (setting : Setting) :
    (table.insert name setting).find? other =
      if other = name then some setting else table.find? other :=
  lookup_insertEntry name other setting table.entries

@[simp] lemma find?_empty (name : String) : (∅ : RuleTable).find? name = none := rfl

lemma find?_ofList (entries : List (String × Setting)) (name : String) :
    (ofList entries).find? name = entries.reverse.lookup name := by
  induction entries using List.reverseRecOn with
  | nil => rfl
  | append_singleton entries entry ih =>
    rw [List.reverse_concat, lookup_cons_eq_ite, ← ih, ofList, List.foldl_append]
    exact find?_insert _ _ _ _

lemma lookup_eq_none_of_forall_lt {entries : List (String × Setting)} {name : String}
    (h : ∀ e ∈ entries, name < e.1) : entries.lookup name = none := by
  rw [List.lookup_eq_none_iff]
  intro e he
  have hne : name ≠ e.1 := by
    rintro rfl
    exact String.lt_irrefl _ (h e he)
  simpa using hne

lemma find?_foldl_insert (entries : List (String × Setting)) (h : Ascending entries)
    (base : RuleTable) (name : String) :
    (entries.foldl (fun table (other, setting) => table.insert other setting) base).find? name =
      (entries.lookup name).or (base.find? name) := by
  induction entries generalizing base with
  | nil => simp
  | cons e rest ih =>
    obtain ⟨other, setting⟩ := e
    obtain ⟨ho, hr⟩ := List.pairwise_cons.1 h
    rw [List.foldl_cons, ih hr, find?_insert, lookup_cons_eq_ite]
    by_cases hn : name = other
    · subst hn
      simp [lookup_eq_none_of_forall_lt ho]
    · simp [hn]

@[simp] lemma find?_merge (base overlay : RuleTable) (name : String) :
    (base.merge overlay).find? name = (overlay.find? name).or (base.find? name) :=
  find?_foldl_insert overlay.entries overlay.ascending base name

lemma nodup_of_ascending {entries : List (String × Setting)} (h : Ascending entries) :
    entries.Nodup := by
  refine h.imp ?_
  rintro e e' hlt rfl
  exact String.lt_irrefl _ hlt

lemma mem_iff_lookup {entries : List (String × Setting)} (h : Ascending entries) (name : String)
    (setting : Setting) : (name, setting) ∈ entries ↔ entries.lookup name = some setting := by
  induction entries with
  | nil => simp
  | cons e rest ih =>
    obtain ⟨other, held⟩ := e
    obtain ⟨ho, hr⟩ := List.pairwise_cons.1 h
    rw [List.mem_cons, lookup_cons_eq_ite, ih hr]
    by_cases hn : name = other
    · subst hn
      simp [lookup_eq_none_of_forall_lt ho, eq_comm]
    · simp [hn]

lemma ext_find? {a b : RuleTable} (h : ∀ name, a.find? name = b.find? name) : a = b := by
  have hmem : ∀ e, e ∈ a.entries ↔ e ∈ b.entries := by
    rintro ⟨name, setting⟩
    rw [mem_iff_lookup a.ascending, mem_iff_lookup b.ascending]
    exact iff_of_eq (congrArg (· = some setting) (h name))
  have hperm : a.entries.Perm b.entries :=
    (List.perm_ext_iff_of_nodup (nodup_of_ascending a.ascending)
      (nodup_of_ascending b.ascending)).2 hmem
  have heq : a.entries = b.entries :=
    hperm.eq_of_pairwise (fun _ _ _ _ hlt hgt => absurd (String.lt_trans hlt hgt)
      (String.lt_irrefl _)) a.ascending b.ascending
  cases a
  cases b
  simpa using heq

lemma merge_assoc (a b c : RuleTable) : (a.merge b).merge c = a.merge (b.merge c) :=
  ext_find? fun name => by simp [Option.or_assoc]

@[simp] lemma empty_merge (table : RuleTable) : (∅ : RuleTable).merge table = table :=
  ext_find? fun name => by simp

@[simp] lemma merge_empty (table : RuleTable) : table.merge ∅ = table :=
  ext_find? fun name => by simp

lemma merge_insert (base overlay : RuleTable) (name : String) (setting : Setting) :
    base.merge (overlay.insert name setting) = (base.merge overlay).insert name setting := by
  apply ext_find?
  intro other
  by_cases h : other = name <;> simp [find?_insert, h]

end RuleTable

namespace RuleSet

lemma mem_entries_iff {set : RuleSet} {name : String} {setting : Setting} :
    (name, setting) ∈ set.rules.entries ↔ set.rule? name = some setting :=
  RuleTable.mem_iff_lookup set.rules.ascending name setting

@[simp] lemma addPatterns_nil (patterns : List String) : addPatterns patterns [] = patterns := rfl

lemma addPatterns_append (patterns more others : List String) :
    addPatterns patterns (more ++ others) = addPatterns (addPatterns patterns more) others :=
  List.foldl_append

lemma addPatterns_concat (patterns more : List String) (p : String) :
    addPatterns patterns (more ++ [p]) =
      if p ∈ addPatterns patterns more then addPatterns patterns more
      else addPatterns patterns more ++ [p] := by
  rw [addPatterns_append]
  rfl

@[simp] lemma mem_addPatterns (patterns more : List String) (p : String) :
    p ∈ addPatterns patterns more ↔ p ∈ patterns ∨ p ∈ more := by
  induction more using List.reverseRecOn with
  | nil => simp
  | append_singleton more q ih =>
    rw [addPatterns_concat]
    split
    next hq =>
      rw [ih, List.mem_append, List.mem_singleton]
      constructor
      · exact fun h => h.imp_right Or.inl
      · rintro (h | h | rfl)
        · exact .inl h
        · exact .inr h
        · exact ih.1 hq
    next => simp [ih, or_assoc]

lemma nodup_addPatterns {patterns : List String} (h : patterns.Nodup) (more : List String) :
    (addPatterns patterns more).Nodup := by
  induction more using List.reverseRecOn with
  | nil => exact h
  | append_singleton more p ih =>
    rw [addPatterns_concat]
    split
    next => exact ih
    next hp =>
      refine List.nodup_append.2 ⟨ih, by simp, ?_⟩
      intro q hq r hr
      rw [List.mem_singleton.1 hr]
      exact ne_of_mem_of_not_mem hq hp

lemma addPatterns_addPatterns (a b c : List String) :
    addPatterns a (addPatterns b c) = addPatterns (addPatterns a b) c := by
  induction c using List.reverseRecOn with
  | nil => rfl
  | append_singleton c p ih =>
    rw [addPatterns_concat b, addPatterns_concat (addPatterns a b)]
    by_cases hp : p ∈ addPatterns b c
    · have hm : p ∈ addPatterns (addPatterns a b) c := by
        rw [← ih, mem_addPatterns]
        exact .inr hp
      rw [if_pos hp, if_pos hm, ih]
    · rw [if_neg hp, addPatterns_concat a, ih]

lemma addPatterns_eq_append {patterns more : List String} (h : (patterns ++ more).Nodup) :
    addPatterns patterns more = patterns ++ more := by
  induction more using List.reverseRecOn with
  | nil => simp
  | append_singleton more p ih =>
    rw [← List.append_assoc] at h
    have hn := List.nodup_append.1 h
    rw [addPatterns_concat, ih hn.1, if_neg fun hp => hn.2.2 p hp p (by simp) rfl,
      List.append_assoc]

lemma merge_assoc (a b c : RuleSet) : (a.merge b).merge c = a.merge (b.merge c) := by
  simp only [merge, RuleTable.merge_assoc, addPatterns_addPatterns, Option.or_assoc]

lemma empty_merge (set : RuleSet) :
    ({} : RuleSet).merge set = { set with ignores := addPatterns [] set.ignores } := by
  simp [merge]

end RuleSet

end CommitStyle
