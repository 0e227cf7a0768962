import CommitStyle.FileTree
import Mathlib.Tactic.Common

/-!
# Changes of a file tree

What stands at which location after a file has been written, removed or moved, and when this can be
done. A location that a change does not name keeps what stands there.
-/

namespace CommitStyle.FileTree

variable {tree after : FileTree} {location source target other : Location} {content : ByteArray}

lemma find?_nil (tree : FileTree) : tree.find? [] = some .directory := if_pos rfl

lemma find?_of_ne_nil (hn : location ≠ []) : tree.find? location = tree.entries.lookup location :=
  if_neg hn

lemma ne_nil_of_find?_eq_none (h : tree.find? location = none) : location ≠ [] := by
  rintro rfl
  cases h

lemma ne_nil_of_find?_eq_file (h : tree.find? location = some (.file content)) : location ≠ [] := by
  rintro rfl
  cases h

lemma contains_eq_false_iff : tree.contains location = false ↔ tree.find? location = none := by
  simp [contains]

lemma isDirectory_iff : tree.isDirectory location = true ↔ tree.find? location = some .directory :=
  beq_iff_eq

lemma bytes?_eq_some_iff :
    tree.bytes? location = some content ↔ tree.find? location = some (.file content) := by
  unfold bytes?
  split
  next found hf => simp [hf]
  next hf => simpa using hf content

lemma text?_eq_some_iff {text : String} : tree.text? location = some text ↔
    ∃ content, tree.find? location = some (.file content) ∧ String.fromUTF8? content = some text := by
  simp [text?, Option.bind_eq_some_iff, bytes?_eq_some_iff]

/-! ### What stands where after a change -/

lemma lookup_cons (location other : Location) (entry : Entry) (rest : List (Location × Entry)) :
    ((location, entry) :: rest).lookup other =
      if other = location then some entry else rest.lookup other := by
  by_cases h : other = location
  · simp [h]
  · simp [List.lookup_cons, beq_false_of_ne h, h]

lemma lookup_filter_ne (entries : List (Location × Entry)) (location other : Location) :
    (entries.filter (·.1 != location)).lookup other =
      if other = location then none else entries.lookup other := by
  induction entries with
  | nil => simp
  | cons held rest ih =>
    obtain ⟨key, entry⟩ := held
    by_cases hk : key = location
    · subst hk
      have hd : (((key, entry) :: rest).filter (·.1 != key)) = rest.filter (·.1 != key) := by simp
      rw [hd, ih, lookup_cons]
      split <;> rfl
    · have hd : (((key, entry) :: rest).filter (·.1 != location)) =
          (key, entry) :: rest.filter (·.1 != location) := by simp [hk]
      rw [hd, lookup_cons, lookup_cons, ih]
      by_cases ho : other = key
      · rw [if_pos ho, if_pos ho, if_neg (ho ▸ hk)]
      · rw [if_neg ho, if_neg ho]

lemma find?_erase (hn : location ≠ []) (other : Location) :
    (tree.erase location).find? other = if other = location then none else tree.find? other := by
  obtain rfl | ho := eq_or_ne other []
  · rw [find?_nil, find?_nil, if_neg hn.symm]
  · rw [find?_of_ne_nil ho, find?_of_ne_nil ho]
    exact lookup_filter_ne tree.entries location other

lemma find?_put (hn : location ≠ []) (entry : Entry) (other : Location) :
    (tree.put location entry).find? other =
      if other = location then some entry else tree.find? other := by
  obtain rfl | ho := eq_or_ne other []
  · rw [find?_nil, find?_nil, if_neg hn.symm]
  · rw [find?_of_ne_nil ho, find?_of_ne_nil ho, put, lookup_cons, erase, lookup_filter_ne]
    split <;> rfl

lemma write?_eq_some_iff : tree.write? location content = some after ↔
    ((∃ old, tree.find? location = some (.file old)) ∨
      tree.find? location = none ∧ tree.isDirectory location.parent = true) ∧
    tree.put location (.file content) = after := by
  unfold write?
  split
  next hf => simp [hf]
  next old hf => simp [hf]
  next hf =>
    split
    next hd => simp [hf, hd]
    next hd => simp [hf, hd]

lemma find?_write? (h : tree.write? location content = some after) (other : Location) :
    after.find? other = if other = location then some (.file content) else tree.find? other := by
  obtain ⟨hf, rfl⟩ := write?_eq_some_iff.1 h
  refine find?_put ?_ _ other
  rcases hf with ⟨old, hf⟩ | ⟨hf, -⟩
  · exact ne_nil_of_find?_eq_file hf
  · exact ne_nil_of_find?_eq_none hf

lemma find?_remove? (h : tree.remove? location = some after) (other : Location) :
    after.find? other = if other = location then none else tree.find? other := by
  unfold remove? at h
  split at h
  next hf =>
    cases h
    obtain ⟨content, hc⟩ := Option.isSome_iff_exists.1 hf
    exact find?_erase (ne_nil_of_find?_eq_file (bytes?_eq_some_iff.1 hc)) other
  next => cases h

lemma move?_of_file (hf : tree.find? source = some (.file content)) :
    tree.move? source target = (tree.erase source).write? target content := by
  rw [move?, hf]

lemma find?_move? (hf : tree.find? source = some (.file content))
    (h : tree.move? source target = some after) (other : Location) :
    after.find? other =
      if other = target then some (.file content)
      else if other = source then none else tree.find? other := by
  rw [move?_of_file hf] at h
  rw [find?_write? h, find?_erase (ne_nil_of_find?_eq_file hf)]

lemma fromUTF8?_toUTF8 (text : String) : String.fromUTF8? text.toUTF8 = some text :=
  dif_pos text.isValidUTF8

lemma fromUTF8?_eq_some_iff {text : String} :
    String.fromUTF8? content = some text ↔ text.toUTF8 = content := by
  constructor
  · intro h
    obtain ⟨_, h⟩ := Option.dite_none_right_eq_some.1 h
    cases h
    rfl
  · rintro rfl
    exact fromUTF8?_toUTF8 text

lemma text?_of_find? {text : String} (h : tree.find? location = some (.file text.toUTF8)) :
    tree.text? location = some text :=
  text?_eq_some_iff.2 ⟨_, h, fromUTF8?_toUTF8 text⟩

lemma text?_of_write? {text : String} (h : tree.write? location text.toUTF8 = some after) :
    after.text? location = some text := by
  apply text?_of_find?
  rw [find?_write? h, if_pos rfl]

/-! ### When a change can be made -/

lemma exists_write? (hd : tree.isDirectory location.parent = true)
    (hf : tree.isDirectory location = false) (content : ByteArray) :
    ∃ after, tree.write? location content = some after := by
  refine ⟨tree.put location (.file content), write?_eq_some_iff.2 ⟨?_, rfl⟩⟩
  cases h : tree.find? location with
  | none => exact .inr ⟨rfl, hd⟩
  | some entry =>
    cases entry with
    | file old => exact .inl ⟨old, rfl⟩
    | directory =>
      rw [isDirectory_iff.2 h] at hf
      cases hf

lemma exists_move? (hs : tree.contains source = true) (ht : tree.find? target = none)
    (hd : tree.isDirectory target.parent = true) (hp : ¬ source <+: target) :
    ∃ after, tree.move? source target = some after := by
  cases hf : tree.find? source with
  | none =>
    rw [contains_eq_false_iff.2 hf] at hs
    cases hs
  | some entry =>
    cases entry with
    | directory =>
      have hb : source.isPrefixOf target = false := by
        rw [Bool.eq_false_iff, ne_eq, List.isPrefixOf_iff_prefix]
        exact hp
      rw [move?, hf, contains_eq_false_iff.2 ht, hd, hb]
      exact ⟨_, rfl⟩
    | file content =>
      have hn : source ≠ [] := ne_nil_of_find?_eq_file hf
      rw [move?_of_file hf]
      refine exists_write? ?_ ?_ content
      · have hne : target.parent ≠ source := by
          rintro rfl
          rw [isDirectory_iff.1 hd] at hf
          cases hf
        rw [isDirectory_iff, find?_erase hn, if_neg hne]
        exact isDirectory_iff.1 hd
      · have he : (tree.erase source).find? target = none := by
          rw [find?_erase hn, ht]
          split <;> rfl
        rw [isDirectory, he]
        rfl

/-! ### Trees -/

/-- Whatever there is stands in a directory. -/
def IsTree (tree : FileTree) : Prop :=
  ∀ location, tree.contains location = true → tree.isDirectory location.parent = true

lemma isTree_of_entries (h : ∀ held ∈ tree.entries, tree.isDirectory held.1.parent = true) :
    tree.IsTree := by
  intro location hc
  obtain rfl | hn := eq_or_ne location []
  · rfl
  · rw [contains, find?_of_ne_nil hn] at hc
    obtain ⟨entry, he⟩ := Option.isSome_iff_exists.1 hc
    obtain ⟨before, rest, hs, -⟩ := List.lookup_eq_some_iff.1 he
    exact h (location, entry) (hs ▸ List.mem_append_right _ (.head _))

end CommitStyle.FileTree
