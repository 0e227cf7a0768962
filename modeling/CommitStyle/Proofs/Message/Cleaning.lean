import CommitStyle.Message
import CommitStyle.Proofs.Lines
import Mathlib.Data.List.TakeWhile

/-!
# Clean text

Lines that are no comments, do not end in a carriage return, and of which neither the first nor the
last is blank, are what is left of the text that they make.
-/

namespace CommitStyle.Message

open Text

def withRaw (message : Message) (raw : String) : Message := { message with raw }

lemma ofLines_eq_withRaw (raw other : String) (first : List Char) (below : List (List Char)) :
    ofLines other first below = (ofLines raw first below).withRaw other := rfl

lemma parse?_eq_some_iff {raw : String} {message : Message} :
    parse? raw = some message ↔
      ∃ first below, cleanLines raw.toList = first :: below ∧ ofLines raw first below = message := by
  rw [parse?]
  cases cleanLines raw.toList with
  | nil => simp
  | cons first below => simp

lemma nonempty?_eq_some {text : List Char} (hn : text ≠ []) : nonempty? text = some text :=
  if_neg fun h => hn (List.isEmpty_iff.1 h)

lemma nonblank?_eq_some {text : List Char} (hn : isBlankLine text = false) :
    nonblank? text = some text := by
  rw [nonblank?, hn]
  rfl

lemma parts_of_parse?_eq_some (raw : String) {first : List Char} (below : List (List Char))
    {header : Header} (h : Header.parse? (trimEnd first) = some header) (ht : header.type ≠ [])
    (hs : ∀ scope, header.scope = some scope → scope ≠ [])
    (hj : isBlankLine header.subject = false) :
    (ofLines raw first below).type = some (String.ofList header.type) ∧
      (ofLines raw first below).scope = header.scope.map String.ofList ∧
      (ofLines raw first below).subject = some (String.ofList header.subject) := by
  refine ⟨?_, ?_, ?_⟩
  · change ((Header.parse? (trimEnd first)).bind _).map _ = _
    rw [h, Option.bind_some, nonempty?_eq_some ht]
    rfl
  · change ((Header.parse? (trimEnd first)).bind _).map _ = _
    rw [h, Option.bind_some]
    cases hscope : header.scope with
    | none => rfl
    | some scope => rw [Option.bind_some, nonempty?_eq_some (hs scope hscope)]
  · change ((Header.parse? (trimEnd first)).bind _).map _ = _
    rw [h, Option.bind_some, nonblank?_eq_some hj]
    rfl

section Parts

variable {raw part : String} {first : List Char} {below : List (List Char)}

lemma header_of_type (h : (ofLines raw first below).type = some part) :
    ∃ header, Header.parse? (trimEnd first) = some header ∧ header.type = part.toList ∧
      part.toList ≠ [] := by
  obtain ⟨text, ht, rfl⟩ := Option.map_eq_some_iff.1 h
  obtain ⟨header, hh, ht⟩ := Option.bind_eq_some_iff.1 ht
  obtain ⟨hn, ht⟩ := Option.ite_none_left_eq_some.1 ht
  cases ht
  exact ⟨header, hh, String.toList_ofList.symm, by simpa using hn⟩

lemma header_of_scope (h : (ofLines raw first below).scope = some part) :
    ∃ header, Header.parse? (trimEnd first) = some header ∧ header.scope = some part.toList ∧
      part.toList ≠ [] := by
  obtain ⟨text, ht, rfl⟩ := Option.map_eq_some_iff.1 h
  obtain ⟨header, hh, ht⟩ := Option.bind_eq_some_iff.1 ht
  obtain ⟨scope, hs, ht⟩ := Option.bind_eq_some_iff.1 ht
  obtain ⟨hn, ht⟩ := Option.ite_none_left_eq_some.1 ht
  cases ht
  exact ⟨header, hh, by rw [hs, String.toList_ofList], by simpa using hn⟩

lemma header_of_subject (h : (ofLines raw first below).subject = some part) :
    ∃ header, Header.parse? (trimEnd first) = some header ∧ header.subject = part.toList := by
  obtain ⟨text, ht, rfl⟩ := Option.map_eq_some_iff.1 h
  obtain ⟨header, hh, ht⟩ := Option.bind_eq_some_iff.1 ht
  obtain ⟨-, ht⟩ := Option.ite_none_left_eq_some.1 ht
  cases ht
  exact ⟨header, hh, String.toList_ofList.symm⟩

end Parts

structure IsCleanLine (line : List Char) : Prop where
  newline : '\n' ∉ line
  comment : line.head? ≠ some '#'
  carriage : line.getLast? ≠ some '\r'

lemma ne_nil_of_not_isBlankLine {line : List Char} (h : isBlankLine line = false) : line ≠ [] := by
  rintro rfl
  cases h

lemma keptLines_joinLines {ls : List (List Char)} (hn : ls ≠ [])
    (hc : ∀ line ∈ ls, IsCleanLine line) (hl : ∀ line, ls.getLast? = some line → line ≠ []) :
    keptLines (joinLines ls) = ls := by
  have hlines : Text.lines (joinLines ls) = ls :=
    lines_joinLines hn (fun line h => (hc line h).newline) (fun line h => (hc line h).carriage) hl
  have hs : ls.takeWhile (!scissors.isPrefixOf ·) = ls := by
    refine List.takeWhile_eq_self_iff.2 fun line h => ?_
    rw [Bool.not_eq_true', Bool.eq_false_iff]
    intro hp
    obtain ⟨rest, rfl⟩ := List.isPrefixOf_iff_prefix.1 hp
    exact (hc _ h).comment rfl
  have hf : ls.filter (!isComment ·) = ls := by
    refine List.filter_eq_self.2 fun line h => ?_
    simpa [isComment] using (hc line h).comment
  have hm : ls.map (dropEndWhile (· == '\r')) = ls := by
    refine (List.map_congr_left fun line h => ?_).trans (List.map_id ls)
    refine dropEndWhile_eq_self_iff.2 fun c hr => ?_
    rw [beq_eq_false_iff_ne]
    rintro rfl
    exact (hc line h).carriage hr
  rw [keptLines, hlines, keep, hs, hf, hm]

lemma cleanLines_joinLines {ls : List (List Char)} (hn : ls ≠ [])
    (hc : ∀ line ∈ ls, IsCleanLine line)
    (hf : ∀ line, ls.head? = some line → isBlankLine line = false)
    (hl : ∀ line, ls.getLast? = some line → isBlankLine line = false) :
    cleanLines (joinLines ls) = ls := by
  rw [cleanLines, keptLines_joinLines hn hc fun line h => ne_nil_of_not_isBlankLine (hl line h),
    dropOuterBlank, dropWhile_eq_self_iff_head?.2 hf, List.reverse_eq_iff, dropWhile_eq_self_iff_head?,
    List.head?_reverse]
  exact hl

end CommitStyle.Message
