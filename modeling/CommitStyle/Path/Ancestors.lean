import CommitStyle.Path

/-!
# Going up

The path without its last component is shorter, so that going up from a path comes to an end.
-/

namespace CommitStyle

namespace Path

def room : List String → Nat
  | [] => 0
  | piece :: pieces => piece.length + 1 + room pieces

theorem room_append (pieces others : List String) :
    room (pieces ++ others) = room pieces + room others := by
  induction pieces with
  | nil => simp [room]
  | cons piece pieces ih =>
    rw [List.cons_append, room, room, ih]
    omega

theorem room_splitBy (p : Char → Bool) (text : List Char) :
    room ((Text.splitBy p text).map String.ofList) = text.length + 1 := by
  induction text with
  | nil => rfl
  | cons c rest ih =>
    rw [Text.splitBy]
    split
    · simp only [List.map_cons, room, List.length_cons, ih, String.length_ofList, List.length_nil]
      omega
    · split
      next hs => simp [hs, room] at ih
      next piece pieces hs =>
        rw [hs] at ih
        simp only [List.map_cons, room, List.length_cons, String.length_ofList] at ih ⊢
        omega

theorem room_pieces (path : String) : room (pieces path) = path.length + 1 := by
  rw [← String.length_toList]
  exact room_splitBy (· == '/') path.toList

theorem length_ofPieces (first : String) (rest : List String) :
    (ofPieces (first :: rest)).length + 1 = room (first :: rest) := by
  induction rest generalizing first with
  | nil => simp [ofPieces, room]
  | cons next rest ih =>
    have hn := ih next
    rw [ofPieces] at hn
    have hs : "/".length = 1 := by decide
    rw [ofPieces, String.intercalate_cons_cons, String.length_append, String.length_append,
      room, ← hn]
    omega

theorem exists_dropIdle_append (pieces : List String) :
    ∃ idle, dropIdle pieces ++ idle = pieces ∧ ∀ piece ∈ idle, isIdle piece = true := by
  refine ⟨(pieces.reverse.takeWhile isIdle).reverse, ?_, fun piece hp => ?_⟩
  · rw [dropIdle, ← List.reverse_append, List.takeWhile_append_dropWhile, List.reverse_reverse]
  · exact List.all_eq_true.1 List.all_takeWhile piece (List.mem_reverse.1 hp)

theorem exists_not_isIdle {pieces : List String} (h : dropIdle pieces ≠ []) :
    ∃ piece ∈ pieces, isIdle piece = false := by
  have hw : pieces.reverse.dropWhile isIdle ≠ [] := fun he => h (by rw [dropIdle, he]; rfl)
  exact ⟨_, List.mem_reverse.1 ((List.dropWhile_sublist isIdle).subset (List.head_mem hw)),
    List.head_dropWhile_not isIdle hw⟩

theorem two_le_room {pieces : List String} (h : dropIdle pieces ≠ []) : 2 ≤ room pieces := by
  obtain ⟨piece, hm, hp⟩ := exists_not_isIdle h
  obtain ⟨before, after, rfl⟩ := List.append_of_mem hm
  have hl : piece.length ≠ 0 := by
    intro hz
    rw [String.length_eq_zero_iff.1 hz] at hp
    cases hp
  simp only [room_append, room]
  omega

theorem room_dropIdle_le (pieces : List String) : room (dropIdle pieces) ≤ room pieces := by
  obtain ⟨idle, hp, -⟩ := exists_dropIdle_append pieces
  have hr := room_append (dropIdle pieces) idle
  rw [hp] at hr
  omega

theorem room_dropLast_lt {pieces : List String} (h : pieces ≠ []) :
    room pieces.dropLast < room pieces := by
  have hr := room_append pieces.dropLast [pieces.getLast h]
  rw [List.dropLast_concat_getLast, room] at hr
  omega

theorem length_parent?_lt {path above : String} (h : parent? path = some above) :
    above.length < path.length := by
  have hr := room_pieces path
  unfold parent? at h
  split at h
  next => cases h
  next first rest hp =>
    rw [hp, room] at hr
    split at h
    next =>
      split at h
      next => cases h
      next hf =>
        cases h
        have hn : first ≠ "" := by
          rintro rfl
          exact hf (by simp)
        have hl : first.length ≠ 0 := by simpa using hn
        rw [String.length_empty]
        omega
    next hn =>
      have hle := room_dropIdle_le rest
      have htwo := two_le_room hn
      split at h
      next =>
        split at h
        · cases h
          have hs : "/".length = 1 := by decide
          omega
        · cases h
          omega
      next above ha =>
        cases h
        have hab := length_ofPieces first (dropIdle (dropIdle rest).dropLast)
        have hlt := room_dropLast_lt hn
        have hle' := room_dropIdle_le (dropIdle rest).dropLast
        rw [room] at hab
        omega

def ancestors (path : String) : List String :=
  path ::
    match h : parent? path with
    | some above =>
      have := length_parent?_lt h
      ancestors above
    | none => []
  termination_by path.length

end Path

end CommitStyle
