import CommitStyle.Report
import Mathlib.Tactic.Common

/-!
# Guarded access

Lists are cut at indices here, and texts at byte offsets. A cut is made only at a place that is there:
an index inside the list or at its end, an offset at which a character begins or the text ends. At any
other place there is no result.
-/

namespace CommitStyle.Guarded

def slice? {α : Type} (xs : List α) (start stop : Nat) : Option (List α) :=
  if start ≤ stop ∧ stop ≤ xs.length then some ((xs.take stop).drop start) else none

def fromByte? (offset : Nat) : List Char → Option (List Char)
  | [] => if offset = 0 then some [] else none
  | c :: rest =>
    if offset = 0 then some (c :: rest)
    else if offset < c.utf8Size then none
    else fromByte? (offset - c.utf8Size) rest

def offset? (c : Char) : List Char → Option Nat
  | [] => none
  | d :: rest => if d = c then some 0 else (offset? c rest).map (d.utf8Size + ·)

variable {α : Type} {c : Char} {rest inside : List Char}

lemma slice?_eq_some {xs : List α} {start stop : Nat} (h : start ≤ stop) (hs : stop ≤ xs.length) :
    slice? xs start stop = some ((xs.take stop).drop start) :=
  if_pos ⟨h, hs⟩

lemma slice?_append_right (xs ys : List α) :
    slice? (xs ++ ys) xs.length (xs ++ ys).length = some ys := by
  rw [slice?_eq_some (by simp) (Nat.le_refl _), List.take_length, List.drop_left]

/-! ### Byte offsets -/

def byteSize (text : List Char) : Nat := (String.ofList text).utf8ByteSize

@[simp] lemma byteSize_nil : byteSize [] = 0 := rfl

lemma byteSize_append (text other : List Char) :
    byteSize (text ++ other) = byteSize text + byteSize other := by
  rw [byteSize, String.ofList_append, String.utf8ByteSize_append, byteSize, byteSize]

lemma byteSize_cons (c : Char) (rest : List Char) :
    byteSize (c :: rest) = c.utf8Size + byteSize rest := by
  have hc : byteSize [c] = c.utf8Size := by
    rw [byteSize, ← String.singleton_eq_ofList, String.utf8ByteSize_singleton]
  rw [← List.singleton_append, byteSize_append, hc]

/-- Whether a character begins at the byte offset, or the text ends there. -/
def IsBoundary (text : List Char) (offset : Nat) : Prop :=
  ∃ before after, before ++ after = text ∧ byteSize before = offset

lemma isBoundary_iff_isValid {text : String} {offset : Nat} :
    IsBoundary text.toList offset ↔ String.Pos.Raw.IsValid text ⟨offset⟩ := by
  rw [String.Pos.Raw.isValid_iff_exists_append]
  constructor
  · rintro ⟨before, after, ht, rfl⟩
    refine ⟨String.ofList before, String.ofList after, ?_, rfl⟩
    rw [← String.ofList_append, ht, String.ofList_toList]
  · rintro ⟨before, after, rfl, ho⟩
    refine ⟨before.toList, after.toList, String.toList_append.symm, ?_⟩
    rw [byteSize, String.ofList_toList]
    exact (congrArg String.Pos.Raw.byteIdx ho).symm

lemma isBoundary_nil_iff {offset : Nat} : IsBoundary [] offset ↔ offset = 0 := by
  constructor
  · rintro ⟨before, after, h, rfl⟩
    rw [(List.append_eq_nil_iff.1 h).1, byteSize_nil]
  · rintro rfl
    exact ⟨[], [], rfl, rfl⟩

lemma isBoundary_cons_iff {offset : Nat} :
    IsBoundary (c :: rest) offset ↔
      offset = 0 ∨ c.utf8Size ≤ offset ∧ IsBoundary rest (offset - c.utf8Size) := by
  constructor
  · rintro ⟨before, after, h, rfl⟩
    cases before with
    | nil => exact .inl byteSize_nil
    | cons d before =>
      obtain ⟨rfl, rfl⟩ := List.cons.inj h
      refine .inr ⟨?_, before, after, rfl, ?_⟩
      · rw [byteSize_cons]
        exact Nat.le_add_right _ _
      · rw [byteSize_cons, Nat.add_sub_cancel_left]
  · rintro (rfl | ⟨hle, before, after, rfl, hb⟩)
    · exact ⟨[], c :: rest, rfl, rfl⟩
    · refine ⟨c :: before, after, rfl, ?_⟩
      rw [byteSize_cons, hb]
      omega

lemma fromByte?_eq_some_iff {text after : List Char} {offset : Nat} :
    fromByte? offset text = some after ↔
      ∃ before, before ++ after = text ∧ byteSize before = offset := by
  induction text generalizing offset with
  | nil =>
    rw [fromByte?, Option.ite_none_right_eq_some]
    constructor
    · rintro ⟨rfl, ⟨⟩⟩
      exact ⟨[], rfl, rfl⟩
    · rintro ⟨before, h, rfl⟩
      obtain ⟨rfl, rfl⟩ := List.append_eq_nil_iff.1 h
      exact ⟨rfl, rfl⟩
  | cons c rest ih =>
    have hc := c.utf8Size_pos
    constructor
    · intro h
      rw [fromByte?] at h
      split at h
      next ho => exact ⟨[], (Option.some.inj h).symm, ho.symm⟩
      next =>
        obtain ⟨hle, h⟩ := Option.ite_none_left_eq_some.1 h
        obtain ⟨before, rfl, hb⟩ := ih.1 h
        refine ⟨c :: before, rfl, ?_⟩
        rw [byteSize_cons, hb]
        omega
    · rintro ⟨before, h, rfl⟩
      cases before with
      | nil => exact congrArg some h.symm
      | cons d before =>
        obtain ⟨rfl, rfl⟩ := List.cons.inj h
        have hb : byteSize (d :: before) ≠ 0 ∧ ¬ byteSize (d :: before) < d.utf8Size := by
          rw [byteSize_cons]
          omega
        rw [fromByte?, if_neg hb.1, if_neg hb.2, byteSize_cons, Nat.add_sub_cancel_left]
        exact ih.2 ⟨before, rfl, rfl⟩

lemma fromByte?_append (before after : List Char) :
    fromByte? (byteSize before) (before ++ after) = some after :=
  fromByte?_eq_some_iff.2 ⟨before, rfl, rfl⟩

lemma fromByte?_cons (c : Char) (rest : List Char) : fromByte? c.utf8Size (c :: rest) = some rest := by
  have hc : byteSize [c] = c.utf8Size := byteSize_cons c []
  rw [← hc]
  exact fromByte?_append [c] rest

lemma length_fromByte?_le {text after : List Char} {offset : Nat}
    (h : fromByte? offset text = some after) : after.length ≤ text.length := by
  obtain ⟨before, rfl, -⟩ := fromByte?_eq_some_iff.1 h
  simp

lemma length_fromByte?_lt {text after : List Char} {offset : Nat}
    (h : fromByte? offset text = some after) (ho : 0 < offset) : after.length < text.length := by
  obtain ⟨before, rfl, rfl⟩ := fromByte?_eq_some_iff.1 h
  cases before with
  | nil => cases ho
  | cons c before =>
    simp only [List.cons_append, List.length_cons, List.length_append]
    omega

lemma offset?_eq_none (h : c ∉ rest) : offset? c rest = none := by
  induction rest with
  | nil => rfl
  | cons d rest ih =>
    obtain ⟨hd, hr⟩ := List.ne_and_not_mem_of_not_mem_cons h
    rw [offset?, if_neg hd.symm, ih hr]
    rfl

lemma offset?_append_cons (h : c ∉ inside) (rest : List Char) :
    offset? c (inside ++ c :: rest) = some (byteSize inside) := by
  induction inside with
  | nil => exact if_pos rfl
  | cons d inside ih =>
    obtain ⟨hd, hi⟩ := List.ne_and_not_mem_of_not_mem_cons h
    rw [List.cons_append, offset?, if_neg hd.symm, ih hi, byteSize_cons]
    rfl

lemma isSome_takeBytes?_iff {text : List Char} {size : Nat} :
    (Report.takeBytes? size text).isSome = true ↔ IsBoundary text (min size (byteSize text)) := by
  induction text generalizing size with
  | nil => simp [Report.takeBytes?, isBoundary_nil_iff]
  | cons c rest ih =>
    have hc := c.utf8Size_pos
    rw [Report.takeBytes?, isBoundary_cons_iff, byteSize_cons]
    split
    next hz => simp [hz]
    next hz =>
      split
      next hlt =>
        simp only [Option.isSome_none, Bool.false_eq_true, false_iff]
        omega
      next hle =>
        have hmin : min size (c.utf8Size + byteSize rest) - c.utf8Size =
            min (size - c.utf8Size) (byteSize rest) := by omega
        rw [Option.isSome_map, ih, hmin]
        constructor
        · exact fun h => .inr ⟨by omega, h⟩
        · rintro (h | ⟨-, h⟩)
          · omega
          · exact h

end CommitStyle.Guarded
