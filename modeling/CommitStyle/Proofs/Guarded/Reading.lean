import CommitStyle.Proofs.Guarded.Access
import CommitStyle.Proofs.Message.Division
import CommitStyle.Proofs.Message.Edits

/-!
# Reading messages by place

The header of a message is its line 0, and its body and its footer are cut out of its lines by index. The
first line is there because a message without lines is not read, and a footer starts below it because
the first line is not blank.
-/

namespace CommitStyle.Guarded

open Text
open Message (ofLines block? linesAboveFooter? cleanLines)

def lastBlank? (ls : List (List Char)) : Option Nat :=
  (ls.reverse.findIdx? isBlankLine).map (ls.length - 1 - ·)

def footerStart? (ls : List (List Char)) : Option (Option Nat) :=
  let start := (lastBlank? ls).elim 1 (· + 1)
  if ls.length < 2 || ls.length ≤ start then some none
  else do
    let paragraph ← slice? ls start ls.length
    let first ← paragraph[0]?
    let isFooter := !isBlankLine first && Trailer.isTrailer first &&
      paragraph.all fun line => Trailer.isTrailer line || Trailer.isIndented line
    return if isFooter then some start else none

/-- The message of the given lines. The parts of its header come from its first line alone. -/
def ofLines? (raw : String) (ls : List (List Char)) : Option Message := do
  let first ← ls[0]?
  let start ← footerStart? ls
  let body ← slice? ls 1 (start.getD ls.length)
  let footer ← start.mapM fun start => slice? ls start ls.length
  let text := footer.bind block?
  return {
    ofLines raw first ls.tail with
    body := (block? body).map String.ofList
    footer := text.map String.ofList
    footerStart := start
    breaking := (Header.parse? (trimEnd first)).any (·.bang) ||
      text.any fun text => (lines text).any Trailer.isBreaking }

def parse? (raw : String) : Option (Option Message) :=
  match cleanLines raw.toList with
  | [] => some none
  | ls => (ofLines? raw ls).map some

variable {first line : List Char} {below above ls : List (List Char)}

lemma lastBlank?_eq_none (h : ∀ line ∈ ls, isBlankLine line = false) : lastBlank? ls = none := by
  have hf : ls.reverse.findIdx? isBlankLine = none := by
    simpa [List.findIdx?_eq_none_iff] using h
  rw [lastBlank?, hf]
  rfl

lemma lastBlank?_append_cons (hb : isBlankLine line = true) (h : ∀ line ∈ ls, isBlankLine line = false)
    (above : List (List Char)) : lastBlank? (above ++ line :: ls) = some above.length := by
  have hn : ls.reverse.findIdx? isBlankLine = none := by
    simpa [List.findIdx?_eq_none_iff] using h
  have hf : (above ++ line :: ls).reverse.findIdx? isBlankLine = some ls.length := by
    rw [List.reverse_append, List.reverse_cons, List.append_assoc, List.singleton_append,
      List.findIdx?_append, hn, List.findIdx?_cons, if_pos hb]
    simp
  rw [lastBlank?, hf, Option.map_some, List.length_append, List.length_cons]
  congr 1
  omega

lemma start_eq (hf : isBlankLine first = false)
    (hb : ∀ line, above.getLast? = some line → isBlankLine line = true)
    (h : ∀ line ∈ ls, isBlankLine line = false) :
    (lastBlank? (first :: (above ++ ls))).elim 1 (· + 1) = above.length + 1 := by
  rcases List.eq_nil_or_concat above with rfl | ⟨front, line, rfl⟩
  · rw [List.nil_append, lastBlank?_eq_none (List.forall_mem_cons.2 ⟨hf, h⟩)]
    rfl
  · rw [List.concat_eq_append] at hb ⊢
    rw [List.append_assoc, List.singleton_append, ← List.cons_append,
      lastBlank?_append_cons (hb line (List.getLast?_concat ..)) h]
    simp

lemma footerStart?_eq (hf : isBlankLine first = false) (below : List (List Char)) :
    footerStart? (first :: below) = some ((linesAboveFooter? below).map (· + 1)) := by
  obtain ⟨above, ha, hb⟩ := Trailer.exists_append_lastParagraph below
  have hn : ∀ line ∈ Trailer.lastParagraph below, isBlankLine line = false := fun _ =>
    Trailer.not_isBlankLine_of_mem_lastParagraph
  have hlength : below.length - (Trailer.lastParagraph below).length = above.length := by
    rw [← congrArg List.length ha, List.length_append, Nat.add_sub_cancel]
  rw [linesAboveFooter?, hlength]
  generalize Trailer.lastParagraph below = paragraph at ha hn
  subst ha
  rw [footerStart?, start_eq hf hb hn]
  cases paragraph with
  | nil => simp [Trailer.isBlock]
  | cons line rest =>
    have hlt : ¬ ((first :: (above ++ line :: rest)).length < 2 ||
        (first :: (above ++ line :: rest)).length ≤ above.length + 1) = true := by
      simp only [List.length_cons, List.length_append, Bool.or_eq_true, decide_eq_true_eq]
      omega
    have hs : slice? (first :: (above ++ line :: rest)) (above.length + 1)
        (first :: (above ++ line :: rest)).length = some (line :: rest) :=
      slice?_append_right (first :: above) (line :: rest)
    have hblock : Trailer.isBlock (line :: rest) = (!isBlankLine line && Trailer.isTrailer line &&
        (line :: rest).all fun line => Trailer.isTrailer line || Trailer.isIndented line) := by
      rw [hn line (.head _), Trailer.isBlock, List.all_cons]
      cases Trailer.isTrailer line <;> rfl
    rw [if_neg hlt, hs, hblock, Option.bind_eq_bind, Option.bind_some, List.getElem?_cons_zero]
    simp only [Option.map_if]
    rfl

lemma ofLines?_eq (raw : String) (hf : isBlankLine first = false) (below : List (List Char)) :
    ofLines? raw (first :: below) = some (ofLines raw first below) := by
  simp only [ofLines?, List.getElem?_cons_zero, Option.bind_eq_bind, Option.bind_some, footerStart?_eq hf]
  cases hl : linesAboveFooter? below with
  | none =>
    have hs : slice? (first :: below) 1 (first :: below).length = some below :=
      slice?_append_right [first] below
    simp only [ofLines, hl, Option.map_none, Option.getD_none, hs, Option.bind_some, List.take_length]
    rfl
  | some n =>
    obtain ⟨above, block, rfl, -, rfl, -⟩ := Message.exists_append_of_linesAboveFooter? hl
    have hbody : slice? (first :: (above ++ block)) 1 (above.length + 1) = some above := by
      rw [slice?_eq_some (by omega) (by simp), List.take_succ_cons, List.take_left]
      rfl
    have hfooter : slice? (first :: (above ++ block)) (above.length + 1)
        (first :: (above ++ block)).length = some block :=
      slice?_append_right (first :: above) block
    simp only [ofLines, hl, Option.map_some, Option.getD_some, hbody, Option.bind_some, Option.mapM_some,
      hfooter, List.take_left, List.drop_left]
    rfl

lemma parse?_eq (raw : String) : parse? raw = some (Message.parse? raw) := by
  rw [parse?, Message.parse?]
  cases hc : cleanLines raw.toList with
  | nil => rfl
  | cons first below =>
    have hf : isBlankLine first = false :=
      Message.not_isBlankLine_head?_cleanLines (congrArg List.head? hc)
    exact congrArg (Option.map some) (ofLines?_eq raw hf below)

end CommitStyle.Guarded
