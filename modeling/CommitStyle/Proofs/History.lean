import CommitStyle.Git.History
import CommitStyle.Proofs.Checked
import CommitStyle.Proofs.FileTree
import Mathlib.Data.List.Flatten
import Mathlib.Data.List.Perm.Subperm
import Mathlib.Data.List.TakeWhile
import Mathlib.Data.List.Nodup
import Mathlib.Logic.Relation
import Mathlib.Order.WellFounded
import Mathlib.Data.Set.Finite.List

/-!
# Ranges of commits

The walk from commit to parent finds all that can be reached, since there are no more commits than
entries in the file tree. Commits are put in order by the edges that lead to them from commits that have
not been given yet. As no commit comes before itself, some commit can be given as long as any is left.
-/

namespace CommitStyle.Repository

open Git (ObjectId)
open scoped List

variable (repository : Repository)

def HasParent (child parent : Commit) : Prop := parent ∈ repository.parents child

def Reaches : Commit → Commit → Prop := Relation.ReflTransGen repository.HasParent

def IsStored (commit : Commit) : Prop := repository.commitAt? commit.id = some commit

def IsAcyclic : Prop := ∀ commit, ¬ Relation.TransGen repository.HasParent commit commit

variable {repository} {commit other start child parent : Commit} {id : ObjectId}

/-! ### Stored commits -/

lemma id_of_commitAt? (h : repository.commitAt? id = some commit) : commit.id = id := by
  rw [commitAt?] at h
  split at h
  · cases h
    rfl
  · cases h

lemma isStored_of_commitAt? (h : repository.commitAt? id = some commit) :
    repository.IsStored commit := by
  rw [IsStored, id_of_commitAt? h, h]

lemma IsStored.eq_of_id (hc : repository.IsStored commit) (ho : repository.IsStored other)
    (h : commit.id = other.id) : commit = other := by
  rw [IsStored, h] at hc
  exact Option.some.inj (hc.symm.trans ho)

lemma mem_parents_iff :
    parent ∈ repository.parents child ↔ parent.id ∈ child.parents ∧ repository.IsStored parent := by
  rw [parents, List.mem_filterMap]
  constructor
  · rintro ⟨id, hm, hp⟩
    obtain rfl := id_of_commitAt? hp
    exact ⟨hm, hp⟩
  · rintro ⟨hm, hs⟩
    exact ⟨parent.id, hm, hs⟩

lemma isStored_of_peel? {depth : Nat} (h : repository.peel? depth id = some commit) :
    repository.IsStored commit := by
  induction depth generalizing id with
  | zero => cases h
  | succ depth ih =>
    rw [peel?] at h
    split at h
    · exact ih h
    · exact isStored_of_commitAt? h

lemma isStored_of_ancestor? {generations : Nat} (hs : repository.IsStored start)
    (h : repository.ancestor? generations start = some commit) : repository.IsStored commit := by
  induction generations generalizing start with
  | zero => exact Option.some.inj h ▸ hs
  | succ generations ih =>
    obtain ⟨id, -, h⟩ := Option.bind_eq_some_iff.1 h
    obtain ⟨next, hn, h⟩ := Option.bind_eq_some_iff.1 h
    exact ih (isStored_of_peel? hn) h

lemma isStored_of_stepBack? {step : Step} (hs : repository.IsStored start)
    (h : repository.stepBack? start step = some commit) : repository.IsStored commit := by
  match step with
  | .ancestor generations => exact isStored_of_ancestor? hs h
  | .parent 0 => exact Option.some.inj h ▸ hs
  | .parent (n + 1) =>
    obtain ⟨id, -, h⟩ := Option.bind_eq_some_iff.1 h
    exact isStored_of_peel? h

lemma isStored_of_steps {steps : List Step} (hs : repository.IsStored start)
    (h : steps.foldlM repository.stepBack? start = some commit) : repository.IsStored commit := by
  induction steps generalizing start with
  | nil => exact Option.some.inj h ▸ hs
  | cons step rest ih =>
    rw [List.foldlM_cons] at h
    obtain ⟨next, hn, h⟩ := Option.bind_eq_some_iff.1 h
    exact ih (isStored_of_stepBack? hs hn) h

lemma isStored_of_find {expression : String} (h : repository.find expression = .ok commit) :
    repository.IsStored commit := by
  rw [find] at h
  split at h
  next found hr =>
    cases h
    obtain ⟨-, -, hr⟩ := Option.bind_eq_some_iff.1 hr
    obtain ⟨steps, -, hr⟩ := Option.bind_eq_some_iff.1 hr
    obtain ⟨id, -, hr⟩ := Option.bind_eq_some_iff.1 hr
    obtain ⟨first, hf, hr⟩ := Option.bind_eq_some_iff.1 hr
    exact isStored_of_steps (isStored_of_peel? hf) hr
  next => cases h

/-! ### Number of commits -/

lemma objectLocation_injective : Function.Injective repository.objectLocation := by
  rintro ⟨digits, _, _⟩ ⟨others, _, _⟩ h
  have h := List.append_cancel_left h
  simp only [List.cons.injEq, String.ofList_inj, and_true, true_and] at h
  have hd : digits.toList = others.toList := by
    rw [← List.take_append_drop 2 digits.toList, h.1, h.2, List.take_append_drop]
  obtain rfl := String.toList_inj.1 hd
  rfl

lemma IsStored.mem_entries (h : repository.IsStored commit) :
    repository.objectLocation commit.id ∈ repository.tree.entries.map (·.1) := by
  rw [IsStored, commitAt?] at h
  split at h
  next ho =>
    obtain ⟨bytes, hb, -⟩ := Option.bind_eq_some_iff.1 ho
    have hf := FileTree.bytes?_eq_some_iff.1 hb
    rw [FileTree.find?_of_ne_nil (by simp [objectLocation])] at hf
    obtain ⟨before, after, he, -⟩ := List.lookup_eq_some_iff.1 hf
    exact List.mem_map.2 ⟨_, he ▸ List.mem_append_right _ (.head _), rfl⟩
  next => cases h

lemma length_le_of_isStored {commits : List Commit} (hn : (commits.map (·.id)).Nodup)
    (hs : ∀ commit ∈ commits, repository.IsStored commit) :
    commits.length ≤ repository.tree.entries.length := by
  have hl : ((commits.map (·.id)).map repository.objectLocation).Nodup :=
    hn.map objectLocation_injective
  have hsub : (commits.map (·.id)).map repository.objectLocation ⊆
      repository.tree.entries.map (·.1) := by
    intro location hm
    obtain ⟨id, hi, rfl⟩ := List.mem_map.1 hm
    obtain ⟨commit, hc, rfl⟩ := List.mem_map.1 hi
    exact (hs commit hc).mem_entries
  simpa using (hl.subperm hsub).length_le

/-! ### Walks -/

/-- Commits that are reached from one, with all parents of those that have been found. -/
structure IsWalk (repository : Repository) (start : Commit) (found ahead : List Commit) : Prop where
  nodup : (found.map (·.id)).Nodup
  stored : ∀ commit ∈ found ++ ahead, repository.IsStored commit
  reached : ∀ commit ∈ found ++ ahead, repository.Reaches start commit
  start_mem : start ∈ found ++ ahead
  closed : ∀ commit ∈ found, ∀ parent ∈ repository.parents commit, parent ∈ found ++ ahead

namespace IsWalk

variable {found ahead : List Commit}

lemma mem_found (h : repository.IsWalk start found ahead) (hc : commit ∈ found ++ ahead)
    (hi : commit.id ∈ found.map (·.id)) : commit ∈ found := by
  obtain ⟨other, ho, he⟩ := List.mem_map.1 hi
  have hs := h.stored other (List.mem_append_left _ ho)
  rwa [← hs.eq_of_id (h.stored commit hc) he]

lemma dropWhile (h : repository.IsWalk start found ahead) : repository.IsWalk start found
    (ahead.dropWhile fun commit => (found.map (·.id)).contains commit.id) := by
  have hsub : ∀ commit ∈ found ++ ahead,
      commit ∈ found ++ ahead.dropWhile fun commit => (found.map (·.id)).contains commit.id := by
    intro commit hc
    rw [List.mem_append]
    rcases List.mem_append.1 hc with hf | ha
    · exact .inl hf
    · rw [← List.takeWhile_append_dropWhile
        (p := fun commit : Commit => (found.map (·.id)).contains commit.id) (l := ahead)] at ha
      rcases List.mem_append.1 ha with ht | hd
      · have hf := List.mem_takeWhile_imp ht
        exact .inl (h.mem_found hc (List.contains_iff_mem.1 hf))
      · exact .inr hd
  have hsup : ∀ commit ∈ found ++ ahead.dropWhile fun commit =>
      (found.map (·.id)).contains commit.id, commit ∈ found ++ ahead := fun commit hc => by
    rw [List.mem_append] at hc ⊢
    exact hc.imp_right fun hd => (List.dropWhile_suffix _).subset hd
  exact ⟨h.nodup, fun c hc => h.stored c (hsup c hc), fun c hc => h.reached c (hsup c hc),
    hsub start h.start_mem, fun c hc p hp => hsub p (h.closed c hc p hp)⟩

lemma visit {rest : List Commit} (h : repository.IsWalk start found (commit :: rest))
    (hn : commit.id ∉ found.map (·.id)) :
    repository.IsWalk start (commit :: found) (repository.parents commit ++ rest) := by
  have hcommit : commit ∈ found ++ commit :: rest := by simp
  have hmem : ∀ c, c ∈ commit :: found ++ (repository.parents commit ++ rest) ↔
      c ∈ found ++ commit :: rest ∨ c ∈ repository.parents commit := by
    intro c
    simp only [List.mem_append, List.mem_cons, List.cons_append]
    tauto
  refine ⟨List.nodup_cons.2 ⟨hn, h.nodup⟩, fun c hc => ?_, fun c hc => ?_,
    (hmem start).2 (.inl h.start_mem), fun c hc p hp => (hmem p).2 ?_⟩
  · rcases (hmem c).1 hc with hc | hc
    · exact h.stored c hc
    · exact (mem_parents_iff.1 hc).2
  · rcases (hmem c).1 hc with hc | hc
    · exact h.reached c hc
    · exact (h.reached commit hcommit).tail hc
  · rcases List.mem_cons.1 hc with rfl | hc
    · exact .inr hp
    · exact .inl (h.closed c hc p hp)

lemma walk {count : Nat} (h : repository.IsWalk start found ahead)
    (hc : repository.tree.entries.length < found.length + count) :
    repository.IsWalk start (repository.walk count found ahead) [] := by
  induction count generalizing found ahead with
  | zero =>
    have hl := length_le_of_isStored h.nodup fun c hc => h.stored c (List.mem_append_left _ hc)
    omega
  | succ count ih =>
    have hd := h.dropWhile
    rw [Repository.walk]
    split
    next commit rest he =>
      have hn := List.head?_dropWhile_not
        (fun commit : Commit => (found.map (·.id)).contains commit.id) ahead
      rw [he] at hd hn
      refine ih (hd.visit fun hm => ?_) (by simp only [List.length_cons]; omega)
      exact Bool.false_ne_true (hn.symm.trans (List.contains_iff_mem.2 hm))
    next he =>
      rwa [he] at hd

lemma mem_iff (h : repository.IsWalk start found []) :
    commit ∈ found ↔ repository.Reaches start commit := by
  rw [← List.append_nil found]
  refine ⟨h.reached commit, fun hr => ?_⟩
  induction hr with
  | refl => exact h.start_mem
  | tail _ hp ih => exact h.closed _ (List.append_nil found ▸ ih) _ hp

end IsWalk

lemma isWalk_history (h : repository.IsStored commit) :
    repository.IsWalk commit (repository.history commit) [] := by
  refine IsWalk.walk ⟨List.nodup_nil, ?_, ?_, List.mem_singleton_self commit, nofun⟩ ?_
  · intro c hc
    rwa [List.mem_singleton.1 hc]
  · intro c hc
    rw [List.mem_singleton.1 hc]
    exact .refl
  · simp [objectBound]

/-- The history of a commit holds it and what comes before it, and nothing else. -/
theorem mem_history_iff (h : repository.IsStored commit) :
    other ∈ repository.history commit ↔ repository.Reaches commit other :=
  (isWalk_history h).mem_iff

/-! ### Orders -/

/-- Each commit comes after those that it is a parent of. -/
def AreChildrenFirst (commits given : List Commit) : Prop :=
  ∀ before commit after, given = before ++ commit :: after →
    ∀ child ∈ commits, commit.id ∈ child.parents → child ∈ before

/-- The commits given, and those that can be given next, are those to which no edge leads. -/
structure IsPending (commits given : List Commit) (pending : Pending) : Prop where
  nodup : ((given ++ pending.ready).map (·.id)).Nodup
  mem_iff : ∀ commit, commit ∈ given ++ pending.ready ↔
    commit ∈ commits ∧ commit.id ∉ pending.edges

section Orders

variable {commits given : List Commit} {pending : Pending}

lemma not_mem_erase_iff {edges : List ObjectId} {other : ObjectId} (hi : id ∈ edges) :
    other ∉ edges.erase id ↔ other ∉ edges ∨ other = id ∧ id ∉ edges.erase id := by
  by_cases he : other = id
  · simp [he, hi]
  · simp [List.mem_erase_of_ne he, he]

lemma IsPending.nodup_cons (h : IsPending commits given pending)
    (hi : commit.id ∈ pending.edges) : ((given ++ commit :: pending.ready).map (·.id)).Nodup := by
  rw [(List.perm_middle.map _).nodup_iff, List.map_cons, List.nodup_cons]
  refine ⟨fun hm => ?_, h.nodup⟩
  obtain ⟨other, ho, he⟩ := List.mem_map.1 hm
  exact ((h.mem_iff other).1 ho).2 (he ▸ hi)

lemma IsPending.release (h : IsPending commits given pending)
    (hc : (commits.map (·.id)).Nodup) (hi : id ∈ pending.edges) :
    IsPending commits given (pending.release commits id) := by
  by_cases hl : id ∈ pending.edges.erase id
  · have hr : (pending.release commits id).ready = pending.ready :=
      if_pos (List.contains_iff_mem.2 hl)
    refine ⟨hr ▸ h.nodup, fun commit => ?_⟩
    rw [hr, h.mem_iff, Pending.release, not_mem_erase_iff hi]
    simp only [hl, not_true, and_false, or_false]
  · have hr : (pending.release commits id).ready =
        (commits.find? (·.id == id)).toList ++ pending.ready :=
      if_neg fun hm => hl (List.contains_iff_mem.1 hm)
    have hmem : ∀ commit, commit ∈ commits ∧ commit.id ∉ (pending.release commits id).edges ↔
        commit ∈ given ++ pending.ready ∨ commit ∈ commits ∧ commit.id = id := by
      intro commit
      rw [h.mem_iff, Pending.release, not_mem_erase_iff hi, and_or_left]
      simp only [hl, not_false_iff, and_true]
    cases hf : commits.find? (·.id == id) with
    | none =>
      rw [hf, Option.toList_none, List.nil_append] at hr
      have hnone : ∀ commit ∈ commits, commit.id ≠ id := by simpa using hf
      refine ⟨hr ▸ h.nodup, fun commit => ?_⟩
      rw [hr, hmem]
      exact (or_iff_left fun ⟨hm, he⟩ => hnone commit hm he).symm
    | some found =>
      rw [hf, Option.toList_some, List.singleton_append] at hr
      have hm : found ∈ commits := List.mem_of_find?_eq_some hf
      have he : found.id = id := by simpa using List.find?_some hf
      refine ⟨hr ▸ h.nodup_cons (he ▸ hi), fun commit => ?_⟩
      rw [hr, List.perm_middle.mem_iff, hmem, List.mem_cons, or_comm]
      refine or_congr_right ⟨?_, fun ⟨ho, hi⟩ => ?_⟩
      · rintro rfl
        exact ⟨hm, he⟩
      · exact List.inj_on_of_nodup_map hc ho hm (hi.trans he.symm)

lemma edges_foldl_release (ids : List ObjectId) :
    (ids.foldl (Pending.release commits) pending).edges = pending.edges.diff ids := by
  induction ids generalizing pending with
  | nil => rfl
  | cons id rest ih => rw [List.foldl_cons, ih, Pending.release, List.diff_cons]

lemma IsPending.foldl_release {ids : List ObjectId} (h : IsPending commits given pending)
    (hc : (commits.map (·.id)).Nodup) (hi : ids <+~ pending.edges) :
    IsPending commits given (ids.foldl (Pending.release commits) pending) := by
  induction ids generalizing pending with
  | nil => exact h
  | cons id rest ih =>
    have hr := hi.erase id
    rw [List.erase_cons_head] at hr
    exact ih (h.release hc (hi.subset (.head _))) hr

/-- Commits given so far, the edges from which are the ones that have been taken away. -/
structure HasGiven (commits given : List Commit) (pending : Pending) : Prop extends
    IsPending commits given pending where
  edges : pending.edges = (commits.flatMap (·.parents)).diff (given.flatMap (·.parents))
  areChildrenFirst : AreChildrenFirst commits given

namespace HasGiven

lemma subset (h : HasGiven commits given pending) : given ++ pending.ready ⊆ commits :=
  fun commit hc => ((h.mem_iff commit).1 hc).1

lemma count_le_count_flatMap {others : List Commit} (hn : others.Nodup) (hs : others ⊆ commits)
    (id : ObjectId) :
    (others.flatMap (·.parents)).count id ≤ (commits.flatMap (·.parents)).count id := by
  obtain ⟨l, hp, hl⟩ := hn.subperm hs
  rw [← (hp.flatMap_right _).count_eq]
  exact (hl.flatMap _).count_le id

lemma count_flatMap_filter (commits : List Commit) (id : ObjectId) :
    ((commits.filter (id ∈ ·.parents)).flatMap (·.parents)).count id =
      (commits.flatMap (·.parents)).count id := by
  induction commits with
  | nil => rfl
  | cons commit rest ih =>
    by_cases h : id ∈ commit.parents
    · simp only [h, decide_true, List.filter_cons_of_pos, List.flatMap_cons, List.count_append, ih]
    · simp [h, ih, List.count_eq_zero_of_not_mem h]

/-- No edge leads to a commit just in case all its children have been given. -/
lemma not_mem_edges_iff (h : HasGiven commits given pending) (hc : commits.Nodup) :
    id ∉ pending.edges ↔ ∀ child ∈ commits, id ∈ child.parents → child ∈ given := by
  have hg : given.Nodup := (List.nodup_append.1 h.nodup.of_map).1
  have hs : given ⊆ commits := fun commit hm => h.subset (List.mem_append_left _ hm)
  rw [h.edges, ← List.count_eq_zero, List.count_diff, Nat.sub_eq_zero_iff_le]
  constructor
  · intro hle child hm hp
    by_contra hn
    have hcount := count_le_count_flatMap (List.nodup_cons.2 ⟨hn, hg⟩)
      (List.cons_subset.2 ⟨hm, hs⟩) id
    rw [List.flatMap_cons, List.count_append] at hcount
    have := List.count_pos_iff.2 hp
    omega
  · intro hall
    rw [← count_flatMap_filter commits]
    refine count_le_count_flatMap (hc.filter _) (fun child hm => ?_) id
    obtain ⟨hm, hp⟩ := List.mem_filter.1 hm
    exact hall child hm (of_decide_eq_true hp)

lemma give {ready : List Commit} (h : HasGiven commits given pending)
    (hc : (commits.map (·.id)).Nodup) (hr : pending.ready = commit :: ready) :
    HasGiven commits (given ++ [commit])
      (commit.parents.foldl (Pending.release commits) { pending with ready }) := by
  have hlist : given ++ pending.ready = given ++ [commit] ++ ready := by simp [hr]
  have hg : (given ++ [commit]).Nodup :=
    (List.nodup_append.1 (hlist ▸ h.nodup.of_map)).1
  have hs : given ++ [commit] ⊆ commits := fun other hm =>
    h.subset (hlist ▸ List.mem_append_left _ hm)
  have hparents : commit.parents <+~ pending.edges := by
    rw [List.subperm_ext_iff]
    intro id _
    have hcount := count_le_count_flatMap hg hs id
    rw [List.flatMap_append, List.count_append, List.flatMap_singleton] at hcount
    rw [h.edges, List.count_diff]
    omega
  have hnext : IsPending commits (given ++ [commit]) { pending with ready } :=
    ⟨hlist ▸ h.nodup, fun other => hlist ▸ h.mem_iff other⟩
  refine { hnext.foldl_release hc hparents with edges := ?_, areChildrenFirst := ?_ }
  · rw [edges_foldl_release, h.edges, ← List.diff_append, List.flatMap_append,
      List.flatMap_singleton]
  · intro before other after hl child hm hp
    rcases List.eq_nil_or_concat after with rfl | ⟨after, last, rfl⟩
    · obtain ⟨rfl, hlast⟩ := List.append_inj' hl rfl
      obtain rfl := List.singleton_inj.1 hlast
      have hmem : commit ∈ given ++ pending.ready := by simp [hr]
      exact (h.not_mem_edges_iff hc.of_map).1 ((h.mem_iff commit).1 hmem).2 child hm hp
    · rw [List.concat_eq_append, ← List.cons_append, ← List.append_assoc] at hl
      exact h.areChildrenFirst before other after (List.append_inj' hl rfl).1 child hm hp

lemma order (h : HasGiven commits given pending) (hc : (commits.map (·.id)).Nodup)
    (count : Nat) :
    ∃ last, HasGiven commits (given ++ Pending.order commits count pending) last ∧
      (last.ready = [] ∨ count ≤ (Pending.order commits count pending).length) := by
  induction count generalizing given pending with
  | zero => exact ⟨pending, by simpa [Pending.order] using h, .inr (Nat.zero_le _)⟩
  | succ count ih =>
    rw [Pending.order]
    split
    next commit ready hr =>
      obtain ⟨last, hl, hend⟩ := ih (h.give hc hr)
      refine ⟨last, ?_, hend.imp_right Nat.succ_le_succ⟩
      rwa [List.append_assoc] at hl
    next hr => exact ⟨pending, by simpa using h, .inl hr⟩

end HasGiven

lemma hasGiven_nil (hc : (commits.map (·.id)).Nodup) :
    HasGiven commits [] ⟨commits.flatMap (·.parents),
      commits.filter fun commit => !(commits.flatMap (·.parents)).contains commit.id⟩ where
  nodup := hc.sublist (List.filter_sublist.map _)
  mem_iff commit := by simp
  edges := rfl
  areChildrenFirst before commit after h := by simp at h

/-- Of some commits there is one without a child among them. -/
lemma IsAcyclic.exists_without_child (ha : repository.IsAcyclic) {left : Set Commit}
    (hf : left.Finite) (hn : left.Nonempty) :
    ∃ commit ∈ left, ∀ child ∈ left, ¬ repository.HasParent child commit := by
  let precedes (a b : left) : Prop := Relation.TransGen repository.HasParent a b
  have : Finite left := hf
  have : IsTrans left precedes := ⟨fun _ _ _ hab hbc => Relation.TransGen.trans hab hbc⟩
  have : Std.Irrefl precedes := ⟨fun commit => ha commit⟩
  have hw : WellFounded precedes := Finite.wellFounded_of_trans_of_irrefl _
  obtain ⟨first, hm⟩ := hn
  obtain ⟨commit, -, hmin⟩ := hw.has_min Set.univ ⟨⟨first, hm⟩, trivial⟩
  exact ⟨commit, commit.2, fun child hc hp => hmin ⟨child, hc⟩ trivial (.single hp)⟩

lemma HasGiven.subset_given (h : HasGiven commits given pending) (hr : pending.ready = [])
    (hc : (commits.map (·.id)).Nodup) (hs : ∀ commit ∈ commits, repository.IsStored commit)
    (ha : repository.IsAcyclic) : commits ⊆ given := by
  by_contra hn
  have hleft : {commit | commit ∈ commits ∧ commit ∉ given}.Nonempty := by
    simpa [List.subset_def, Set.Nonempty] using hn
  obtain ⟨commit, ⟨hm, hg⟩, hmin⟩ := ha.exists_without_child
    ((List.finite_toSet commits).subset fun commit h => h.1) hleft
  have hedges : commit.id ∉ pending.edges := by
    rw [h.not_mem_edges_iff hc.of_map]
    intro child hcm hp
    by_contra hcg
    exact hmin child ⟨hcm, hcg⟩ (mem_parents_iff.2 ⟨hp, hs commit hm⟩)
  have hgiven := (h.mem_iff commit).2 ⟨hm, hedges⟩
  rw [hr, List.append_nil] at hgiven
  exact hg hgiven

theorem childrenFirst_spec (hc : (commits.map (·.id)).Nodup)
    (hs : ∀ commit ∈ commits, repository.IsStored commit) (ha : repository.IsAcyclic) :
    childrenFirst commits ~ commits ∧ AreChildrenFirst commits (childrenFirst commits) := by
  obtain ⟨last, hl, hend⟩ := (hasGiven_nil hc).order hc commits.length
  change HasGiven commits (childrenFirst commits) last at hl
  change last.ready = [] ∨ commits.length ≤ (childrenFirst commits).length at hend
  have hn : (childrenFirst commits).Nodup := (List.nodup_append.1 hl.nodup.of_map).1
  have hsub : childrenFirst commits ⊆ commits := fun commit hm =>
    hl.subset (List.mem_append_left _ hm)
  refine ⟨?_, hl.areChildrenFirst⟩
  rcases hend with hr | hlen
  · exact (List.perm_ext_iff_of_nodup hn hc.of_map).2 fun commit =>
      ⟨fun hm => hsub hm, fun hm => hl.subset_given hr hc hs ha hm⟩
  · exact (hn.subperm hsub).perm_of_length_le hlen

end Orders

/-! ### Ranges -/

structure IsRange (repository : Repository) (newest oldest : Commit) (commits : List Commit) :
    Prop where
  nodup : (commits.map (·.id)).Nodup
  mem_iff : ∀ commit, commit ∈ commits ↔
    repository.Reaches newest commit ∧ ¬ repository.Reaches oldest commit
  areChildrenFirst : AreChildrenFirst commits commits

def IsWhole (repository : Repository) (newest : Commit) : Prop :=
  ∀ commit, repository.Reaches newest commit →
    ∀ id ∈ commit.parents, ∃ parent, repository.commitAt? id = some parent

lemma checkParents_eq_ok
    (h : ∀ id ∈ commit.parents, ∃ parent, repository.commitAt? id = some parent) :
    repository.checkParents commit = .ok () := by
  have hf : commit.parents.find? (fun id => (repository.commitAt? id).isNone) = none := by
    rw [List.find?_eq_none]
    intro id hm
    obtain ⟨parent, hp⟩ := h id hm
    simp [hp]
  rw [checkParents, hf]

lemma mem_filter_history_iff {newest oldest : Commit} (hn : repository.IsStored newest)
    (ho : repository.IsStored oldest) :
    (commit ∈ (repository.history newest).filter fun commit =>
      !((repository.history oldest).map (·.id)).contains commit.id) ↔
    repository.Reaches newest commit ∧ ¬ repository.Reaches oldest commit := by
  have holdest := isWalk_history ho
  rw [List.mem_filter, mem_history_iff hn]
  refine and_congr_right fun hr => ?_
  rw [Bool.not_eq_true', ← Bool.not_eq_true, List.contains_iff_mem, ← mem_history_iff ho]
  refine not_congr ⟨fun hi => ?_, fun hm => List.mem_map_of_mem hm⟩
  obtain ⟨other, hm, hi⟩ := List.mem_map.1 hi
  have hother := holdest.stored other (List.mem_append_left _ hm)
  have hcommit := (isWalk_history hn).stored commit
    (List.mem_append_left _ ((mem_history_iff hn).2 hr))
  rwa [← hother.eq_of_id hcommit hi]

/-- A range of a history without gaps holds what comes up to its later end and not up to its earlier
end, each commit once and after its children. -/
theorem exists_range {expression : String} {first last : List Char} {newest oldest : Commit}
    (he : rangeEnds? expression.toList = some (first, last))
    (hn : repository.find (String.ofList last) = .ok newest)
    (ho : repository.find (String.ofList first) = .ok oldest)
    (hw : repository.IsWhole newest) (ha : repository.IsAcyclic) :
    ∃ commits, repository.range expression = .ok commits ∧
      repository.IsRange newest oldest commits := by
  have hnewest := isWalk_history (isStored_of_find hn)
  let shown := (repository.history newest).filter fun commit =>
    !((repository.history oldest).map (·.id)).contains commit.id
  have hmem : ∀ commit, commit ∈ shown ↔
      repository.Reaches newest commit ∧ ¬ repository.Reaches oldest commit := fun commit =>
    mem_filter_history_iff (isStored_of_find hn) (isStored_of_find ho)
  have hc : (shown.map (·.id)).Nodup := hnewest.nodup.sublist (List.filter_sublist.map _)
  have hs : ∀ commit ∈ shown, repository.IsStored commit := fun commit hm =>
    hnewest.stored commit (List.mem_append_left _ (List.mem_of_mem_filter hm))
  have hparents : shown.forM repository.checkParents = .ok () :=
    forM_eq_ok_iff.2 fun commit hm => checkParents_eq_ok (hw commit ((hmem commit).1 hm).1)
  obtain ⟨hp, hf⟩ := childrenFirst_spec hc hs ha
  refine ⟨childrenFirst shown, ?_, (hp.map _).nodup_iff.2 hc, fun commit => ?_, ?_⟩
  · rw [range, he]
    exact bind_eq_ok_iff.2 ⟨newest, hn, bind_eq_ok_iff.2 ⟨oldest, ho,
      bind_eq_ok_iff.2 ⟨⟨⟩, hparents, rfl⟩⟩⟩
  · rw [hp.mem_iff, hmem]
  · intro before commit after h child hm
    exact hf before commit after h child (hp.mem_iff.1 hm)

end CommitStyle.Repository
