import CommitStyle.FileTree
import CommitStyle.Proofs.Lines

/-!
# Paths and locations

The names that a path is made of contain no slash, so that a location made of such names is told by
its path. Following a path never leads to other names.
-/

namespace CommitStyle

namespace Path

lemma not_mem_of_mem_pieces {path piece : String} (h : piece ∈ pieces path) :
    '/' ∉ piece.toList := by
  obtain ⟨text, ht, rfl⟩ := List.mem_map.1 h
  rw [String.toList_ofList]
  intro hs
  simpa using Text.eq_false_of_mem_splitBy ht '/' hs

lemma pieces_ofPieces {names : List String} (h : ∀ name ∈ names, '/' ∉ name.toList)
    (hn : names ≠ []) : pieces (ofPieces names) = names := by
  have hs : ((ofPieces names).toList).splitOnP (· == '/') = names.map String.toList := by
    rw [ofPieces, String.toList_intercalate, ← List.splitOn_eq_splitOnP]
    exact List.splitOn_intercalate _ (by simpa using h) (by simpa using hn)
  rw [pieces, Text.splitBy_eq_splitOnP, hs, List.map_map]
  simp [Function.comp_def]

lemma pieces_slash_append (rest : String) : pieces ("/" ++ rest) = "" :: pieces rest := by
  simp [pieces, Text.splitBy]

lemma ofPieces_empty_cons {pieces : List String} (h : pieces ≠ []) :
    ofPieces ("" :: pieces) = "/" ++ ofPieces pieces := by
  cases pieces with
  | nil => exact absurd rfl h
  | cons piece rest => simp [ofPieces, String.intercalate_cons_cons]

lemma isAbsolute_slash_append (path : String) : isAbsolute ("/" ++ path) = true := by
  simp [isAbsolute]

lemma exists_of_isAbsolute {path : String} (h : isAbsolute path = true) :
    ∃ rest, path = "/" ++ rest := by
  cases hp : path.toList with
  | nil => simp [isAbsolute, hp] at h
  | cons c cs =>
    have hc : c = '/' := by simpa [isAbsolute, hp] using h
    refine ⟨String.ofList cs, String.toList_injective ?_⟩
    simp [hp, hc]

lemma isAbsolute_append {path : String} (h : isAbsolute path = true) (more : String) :
    isAbsolute (path ++ more) = true := by
  obtain ⟨rest, rfl⟩ := exists_of_isAbsolute h
  rw [String.append_assoc]
  exact isAbsolute_slash_append _

lemma isAbsolute_join {directory : String} (h : isAbsolute directory = true) (path : String) :
    isAbsolute (join directory path) = true := by
  unfold join
  split
  next hp => exact hp
  next =>
    split
    · exact isAbsolute_append h path
    · rw [String.append_assoc]
      exact isAbsolute_append h _

end Path

namespace Location

/-- The names of a location are no empty texts and contain no slash. -/
def IsProper (location : Location) : Prop := ∀ name ∈ location, name ≠ "" ∧ '/' ∉ name.toList

lemma isProper_nil : IsProper [] := by simp [IsProper]

lemma IsProper.parent {location : Location} (h : location.IsProper) : location.parent.IsProper :=
  fun name hn => h name (List.dropLast_subset _ hn)

lemma IsProper.append_singleton {location : Location} {name : String} (h : location.IsProper)
    (hn : name ≠ "") (hs : '/' ∉ name.toList) : IsProper (location ++ [name]) := by
  intro other ho
  rcases List.mem_append.1 ho with ho | ho
  · exact h other ho
  · rw [List.mem_singleton.1 ho]
    exact ⟨hn, hs⟩

lemma IsProper.eq_filter_pieces {location : Location} (h : location.IsProper) :
    location = (Path.pieces (Path.ofPieces location)).filter (· ≠ "") := by
  by_cases hl : location = []
  · subst hl
    decide +kernel
  · rw [Path.pieces_ofPieces (fun name hn => (h name hn).2) hl]
    exact (List.filter_eq_self.2 fun name hn => by simpa using (h name hn).1).symm

lemma eq_of_path_eq {a b : Location} (ha : a.IsProper) (hb : b.IsProper) (h : a.path = b.path) :
    a = b := by
  have hp : Path.ofPieces a = Path.ofPieces b := String.append_right_inj "/" |>.1 h
  rw [ha.eq_filter_pieces, hb.eq_filter_pieces, hp]

end Location

namespace FileTree

lemma isProper_of_step? {tree : FileTree} {here next : Location} {piece : String}
    (h : here.IsProper) (hp : '/' ∉ piece.toList) (hs : tree.step? here piece = some next) :
    next.IsProper := by
  unfold step? at hs
  split at hs
  · cases hs
  split at hs
  · cases hs
    exact h
  next hidle =>
    split at hs
    · cases hs
      exact h.parent
    split at hs
    · cases hs
      refine h.append_singleton ?_ hp
      rintro rfl
      exact hidle rfl
    · cases hs

lemma isProper_of_foldlM_step? {tree : FileTree} {pieces : List String} {here found : Location}
    (h : here.IsProper) (hp : ∀ piece ∈ pieces, '/' ∉ piece.toList)
    (hf : pieces.foldlM tree.step? here = some found) : found.IsProper := by
  induction pieces generalizing here with
  | nil =>
    cases hf
    exact h
  | cons piece rest ih =>
    obtain ⟨next, hs, hr⟩ := Option.bind_eq_some_iff.1 hf
    exact ih (isProper_of_step? h (hp piece (.head _)) hs) (fun q hq => hp q (.tail _ hq)) hr

lemma isProper_of_locate? {tree : FileTree} {directory location : Location} {path : String}
    (ha : Path.isAbsolute path = true) (h : tree.locate? directory path = some location) :
    location.IsProper := by
  rw [locate?, if_pos ha] at h
  split at h
  · cases h
  · exact isProper_of_foldlM_step? Location.isProper_nil
      (fun piece hp => Path.not_mem_of_mem_pieces hp) h

end FileTree

end CommitStyle
