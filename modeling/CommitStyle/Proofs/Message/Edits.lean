import CommitStyle.Proofs.Message.Cleaning
import Mathlib.Logic.Relation

/-!
# Edits that cleaning undoes

Comments, what follows the scissors, blank lines at either end and carriage returns at line ends can be
put into a raw message and taken out of it, and the same is read from it. The lines that are read are
a normal form: a message that is written from them is read as these lines again.
-/

namespace CommitStyle

open Unicode (isBlank)

namespace Text

def withReturns (text : List Char) : List Char :=
  text.flatMap fun c => if c = '\n' then ['\r', '\n'] else [c]

lemma withReturns_of_not_mem {line : List Char} (h : '\n' ∉ line) : withReturns line = line := by
  induction line with
  | nil => rfl
  | cons c rest ih =>
    have hr := ih fun hm => h (.tail _ hm)
    have hc : c ≠ '\n' := by
      rintro rfl
      exact h (.head _)
    rw [withReturns, List.flatMap_cons, if_neg hc]
    exact congrArg (c :: ·) hr

lemma withReturns_joinLines_cons {line : List Char} (h : '\n' ∉ line) {ls : List (List Char)}
    (hn : ls ≠ []) : withReturns (joinLines (line :: ls)) =
      (line ++ ['\r']) ++ '\n' :: withReturns (joinLines ls) := by
  rw [joinLines_cons line hn, withReturns, List.flatMap_append, List.flatMap_cons]
  change withReturns line ++ (['\r', '\n'] ++ withReturns (joinLines ls)) = _
  rw [withReturns_of_not_mem h]
  simp

lemma endLines_rawLines_withReturns {ls : List (List Char)} (hn : ls ≠ [])
    (hl : ∀ line ∈ ls, '\n' ∉ line ∧ '\r' ∉ line) :
    endLines (rawLines (withReturns (joinLines ls))) = endLines ls := by
  induction ls with
  | nil => exact absurd rfl hn
  | cons line rest ih =>
    obtain ⟨hf, hr⟩ := hl line (.head _)
    cases rest with
    | nil => rw [joinLines_singleton, withReturns_of_not_mem hf, rawLines_of_newline_not_mem hf]
    | cons next rest =>
      have hne : next :: rest ≠ [] := List.cons_ne_nil _ _
      have hret : '\n' ∉ line ++ ['\r'] := by simpa using hf
      rw [withReturns_joinLines_cons hf hne, rawLines_append_cons,
        rawLines_of_newline_not_mem hret, List.singleton_append, endLines_cons _ (rawLines_ne_nil _),
        dropReturn_concat, ih hne fun other ho => hl other (.tail _ ho), endLines_cons _ hne,
        dropReturn_of_not_mem hr]

lemma lines_withReturns {text : List Char} (h : '\r' ∉ text) :
    lines (withReturns text) = lines text := by
  have hl : ∀ line ∈ rawLines text, '\n' ∉ line ∧ '\r' ∉ line := fun line hm =>
    ⟨newline_not_mem_of_mem_rawLines hm, fun hr => h (mem_of_mem_rawLines hm hr)⟩
  have ht := endLines_rawLines_withReturns (rawLines_ne_nil text) hl
  rwa [joinLines_rawLines] at ht

end Text

namespace Message

open Text

/-! ### What is kept of lines -/

section Keep

variable {line : List Char} {ls others blanks : List (List Char)}

lemma keep_cons_of_scissors (h : scissors.isPrefixOf line = true) : keep (line :: ls) = [] := by
  simp [keep, h]

lemma keep_cons_of_comment (hs : scissors.isPrefixOf line = false) (hc : isComment line = true) :
    keep (line :: ls) = keep ls := by
  simp [keep, hs, hc]

lemma isComment_of_scissors (h : scissors.isPrefixOf line = true) : isComment line = true := by
  obtain ⟨rest, rfl⟩ := List.isPrefixOf_iff_prefix.1 h
  rfl

lemma keep_cons_of_not_comment (hc : isComment line = false) :
    keep (line :: ls) = dropEndWhile (· == '\r') line :: keep ls := by
  have hs : scissors.isPrefixOf line = false := by
    rw [Bool.eq_false_iff]
    intro hs
    rw [isComment_of_scissors hs] at hc
    cases hc
  simp [keep, hs, hc]

lemma scissors_dropReturn (line : List Char) :
    scissors.isPrefixOf (dropReturn line) = scissors.isPrefixOf line := by
  rcases eq_dropReturn_or line with h | h
  · rw [← h]
  · rw [Bool.eq_iff_iff, List.isPrefixOf_iff_prefix, List.isPrefixOf_iff_prefix]
    conv_rhs => rw [h, List.prefix_concat_iff]
    have hne : scissors ≠ dropReturn line ++ ['\r'] := by
      intro he
      have hl := congrArg List.getLast? he
      rw [List.getLast?_concat] at hl
      revert hl
      decide
    exact (or_iff_right hne).symm

lemma isComment_dropReturn (line : List Char) : isComment (dropReturn line) = isComment line := by
  rcases eq_dropReturn_or line with h | h
  · rw [← h]
  · conv_rhs => rw [h]
    cases dropReturn line with
    | nil => rfl
    | cons c rest => rfl

lemma dropEndWhile_dropReturn (line : List Char) :
    dropEndWhile (· == '\r') (dropReturn line) = dropEndWhile (· == '\r') line := by
  rcases eq_dropReturn_or line with h | h
  · rw [← h]
  · conv_rhs => rw [h, dropEndWhile_concat rfl]

lemma keep_append_congr (above : List (List Char)) (h : keep ls = keep others) :
    keep (above ++ ls) = keep (above ++ others) := by
  induction above with
  | nil => exact h
  | cons line above ih =>
    rw [List.cons_append, List.cons_append]
    cases hs : scissors.isPrefixOf line with
    | true => rw [keep_cons_of_scissors hs, keep_cons_of_scissors hs]
    | false =>
      cases hc : isComment line with
      | true => rw [keep_cons_of_comment hs hc, keep_cons_of_comment hs hc, ih]
      | false => rw [keep_cons_of_not_comment hc, keep_cons_of_not_comment hc, ih]

lemma not_isComment_of_isBlankLine (h : isBlankLine line = true) : isComment line = false := by
  cases line with
  | nil => rfl
  | cons c rest =>
    rw [isComment, List.head?_cons, beq_eq_false_iff_ne]
    rintro ⟨⟩
    have hb : isBlank '#' = true := List.all_eq_true.1 h '#' (.head _)
    revert hb
    decide +kernel

lemma isBlankLine_dropEndWhile_return (line : List Char) :
    isBlankLine (dropEndWhile (· == '\r') line) = isBlankLine line := by
  refine isBlankLine_dropEndWhile ?_ line
  intro c hc
  rw [beq_iff_eq.1 hc]
  rfl

lemma exists_of_mem_keep (h : line ∈ keep ls) :
    ∃ kept ∈ ls, isComment kept = false ∧ line = dropEndWhile (· == '\r') kept := by
  obtain ⟨kept, hk, rfl⟩ := List.mem_map.1 h
  obtain ⟨hk, hc⟩ := List.mem_filter.1 hk
  exact ⟨kept, (List.takeWhile_prefix _).subset hk, by simpa using hc, rfl⟩

lemma isBlankLine_of_mem_keep (hb : ∀ line ∈ blanks, isBlankLine line = true)
    (hl : line ∈ keep blanks) : isBlankLine line = true := by
  obtain ⟨kept, hk, -, rfl⟩ := exists_of_mem_keep hl
  rw [isBlankLine_dropEndWhile_return, hb kept hk]

lemma exists_keep_append_blanks (hb : ∀ line ∈ blanks, isBlankLine line = true)
    (ls : List (List Char)) :
    ∃ more, (∀ line ∈ more, isBlankLine line = true) ∧ keep (ls ++ blanks) = keep ls ++ more := by
  induction ls with
  | nil => exact ⟨keep blanks, fun line hl => isBlankLine_of_mem_keep hb hl, rfl⟩
  | cons line rest ih =>
    obtain ⟨more, hm, hk⟩ := ih
    rw [List.cons_append]
    cases hs : scissors.isPrefixOf line with
    | true => exact ⟨[], by simp, by rw [keep_cons_of_scissors hs, keep_cons_of_scissors hs]; rfl⟩
    | false =>
      refine ⟨more, hm, ?_⟩
      cases hc : isComment line with
      | true => rw [keep_cons_of_comment hs hc, keep_cons_of_comment hs hc, hk]
      | false => rw [keep_cons_of_not_comment hc, keep_cons_of_not_comment hc, hk, List.cons_append]

lemma keep_blanks_append (hb : ∀ line ∈ blanks, isBlankLine line = true) (ls : List (List Char)) :
    keep (blanks ++ ls) = keep blanks ++ keep ls := by
  induction blanks with
  | nil => rfl
  | cons blank rest ih =>
    have hc := not_isComment_of_isBlankLine (hb blank (.head _))
    rw [List.cons_append, keep_cons_of_not_comment hc, keep_cons_of_not_comment hc,
      ih fun line hl => hb line (.tail _ hl), List.cons_append]

lemma keep_endLines (ls : List (List Char)) :
    keep ls = keep (endLines ls) ∨ keep ls = keep (endLines ls) ++ [[]] := by
  induction ls with
  | nil => exact .inl rfl
  | cons line rest ih =>
    obtain rfl | hn := eq_or_ne rest []
    · -- An empty line at the end is no line, which is the one blank line that can be missing.
      cases line with
      | nil => exact .inr rfl
      | cons c cs => exact .inl rfl
    · have hs := scissors_dropReturn line
      have hc := isComment_dropReturn line
      rw [endLines_cons line hn]
      cases hsl : scissors.isPrefixOf line with
      | true =>
        rw [keep_cons_of_scissors hsl, keep_cons_of_scissors (hs.trans hsl)]
        exact .inl rfl
      | false =>
        cases hcl : isComment line with
        | true =>
          rw [keep_cons_of_comment hsl hcl, keep_cons_of_comment (hs.trans hsl) (hc.trans hcl)]
          exact ih
        | false =>
          rw [keep_cons_of_not_comment hcl, keep_cons_of_not_comment (hc.trans hcl),
            dropEndWhile_dropReturn]
          rcases ih with ih | ih
          · exact .inl (by rw [ih])
          · exact .inr (by rw [ih, List.cons_append])

end Keep

/-! ### What is left of lines -/

section Clean

variable {ls blanks : List (List Char)}

lemma isPrefix_dropOuterBlank (ls : List (List Char)) :
    dropOuterBlank ls <+: ls.dropWhile isBlankLine := by
  rw [dropOuterBlank, ← List.reverse_suffix, List.reverse_reverse]
  exact List.dropWhile_suffix _

lemma dropOuterBlank_append (hb : ∀ line ∈ blanks, isBlankLine line = true)
    (ls : List (List Char)) : dropOuterBlank (ls ++ blanks) = dropOuterBlank ls := by
  have hd : blanks.dropWhile isBlankLine = [] := List.dropWhile_eq_nil_iff.2 hb
  have hr : ∀ line ∈ blanks.reverse, isBlankLine line = true := by simpa using hb
  rw [dropOuterBlank, dropOuterBlank, List.dropWhile_append]
  split
  next he =>
    rw [List.isEmpty_iff.1 he, hd]
  next => rw [List.reverse_append, List.dropWhile_append_of_pos hr]

lemma dropOuterBlank_blanks_append (hb : ∀ line ∈ blanks, isBlankLine line = true)
    (ls : List (List Char)) : dropOuterBlank (blanks ++ ls) = dropOuterBlank ls := by
  rw [dropOuterBlank, List.dropWhile_append_of_pos hb, dropOuterBlank]

lemma dropOuterBlank_eq_nil_iff :
    dropOuterBlank ls = [] ↔ ∀ line ∈ ls, isBlankLine line = true := by
  constructor
  · intro h
    have hs : ∀ line ∈ ls.dropWhile isBlankLine, isBlankLine line = true := by
      simpa [dropOuterBlank] using h
    rw [← List.dropWhile_eq_nil_iff]
    cases hd : ls.dropWhile isBlankLine with
    | nil => rfl
    | cons line rest =>
      have hl : isBlankLine line = false := head?_dropWhile (congrArg List.head? hd)
      rw [hs line (hd ▸ .head _)] at hl
      cases hl
  · intro h
    rw [dropOuterBlank, List.dropWhile_eq_nil_iff.2 h]
    rfl

lemma cleanLines_eq_dropOuterBlank (raw : List Char) :
    cleanLines raw = dropOuterBlank (keep (rawLines raw)) := by
  change dropOuterBlank (keep (endLines (rawLines raw))) = _
  rcases keep_endLines (rawLines raw) with h | h
  · rw [h]
  · rw [h, dropOuterBlank_append]
    simp [isBlankLine]

lemma isCleanLine_of_mem_cleanLines {raw line : List Char} (h : line ∈ cleanLines raw) :
    IsCleanLine line := by
  rw [cleanLines_eq_dropOuterBlank] at h
  have hk : line ∈ keep (rawLines raw) := by
    have hr := (List.dropWhile_suffix _).subset (List.mem_reverse.1 h)
    exact (List.dropWhile_suffix _).subset (List.mem_reverse.1 hr)
  obtain ⟨kept, hm, hc, rfl⟩ := exists_of_mem_keep hk
  have hp := isPrefix_dropEndWhile (· == '\r') kept
  refine ⟨fun hn => newline_not_mem_of_mem_rawLines hm (hp.subset hn), fun hh => ?_, fun hl => ?_⟩
  · have hkept : kept.head? = some '#' := by
      obtain ⟨rest, hr⟩ := hp
      rw [← hr, List.head?_append, hh]
      rfl
    rw [isComment, hkept] at hc
    cases hc
  · exact absurd (getLast?_dropEndWhile hl) (by decide)

lemma not_isBlankLine_head?_cleanLines {raw line : List Char}
    (h : (cleanLines raw).head? = some line) : isBlankLine line = false := by
  obtain ⟨rest, hr⟩ : cleanLines raw <+: (keptLines raw).dropWhile isBlankLine :=
    isPrefix_dropOuterBlank _
  have hh : ((keptLines raw).dropWhile isBlankLine).head? = some line := by
    rw [← hr, List.head?_append, h]
    rfl
  exact head?_dropWhile hh

lemma not_isBlankLine_getLast?_cleanLines {raw line : List Char}
    (h : (cleanLines raw).getLast? = some line) : isBlankLine line = false := by
  rw [cleanLines, dropOuterBlank, List.getLast?_reverse] at h
  exact head?_dropWhile h

lemma cleanLines_joinLines_cleanLines {raw : List Char} (h : cleanLines raw ≠ []) :
    cleanLines (joinLines (cleanLines raw)) = cleanLines raw :=
  cleanLines_joinLines h (fun _ => isCleanLine_of_mem_cleanLines)
    (fun _ => not_isBlankLine_head?_cleanLines) fun _ => not_isBlankLine_getLast?_cleanLines

lemma cleanLines_eq_nil_iff {raw : List Char} : cleanLines raw = [] ↔
    ∀ line ∈ (Text.lines raw).takeWhile (!scissors.isPrefixOf ·), isComment line = false →
      isBlankLine line = true := by
  change dropOuterBlank (keptLines raw) = [] ↔ _
  rw [dropOuterBlank_eq_nil_iff, keptLines, keep, List.forall_mem_map]
  constructor
  · intro h line hl hc
    have hb := h line (List.mem_filter.2 ⟨hl, by rw [hc]; rfl⟩)
    rwa [isBlankLine_dropEndWhile_return] at hb
  · intro h line hl
    obtain ⟨hl, hc⟩ := List.mem_filter.1 hl
    rw [isBlankLine_dropEndWhile_return]
    exact h line hl (by simpa using hc)

end Clean

/-! ### Edits -/

/-- Whether a text that is put behind this one begins a line. -/
def EndsLine (text : List Char) : Prop := ∀ c, text.getLast? = some c → c = '\n'

/-- Lines that are comments and no scissors. -/
structure IsNote (line : List Char) : Prop where
  comment : line.head? = some '#'
  scissors : ¬ scissors <+: line
  newline : '\n' ∉ line

/-- Changes to a raw message that cleaning undoes: to put in a comment, to write something else
behind the scissors, to put blank lines above or below, to end each line with a carriage return. -/
inductive Edit : List Char → List Char → Prop
  | note (before note after : List Char) (hb : EndsLine before) (hn : IsNote note) :
      Edit (before ++ after) (before ++ note ++ '\n' :: after)
  | lastNote (text note : List Char) (hn : IsNote note) : Edit text (text ++ '\n' :: note)
  | behindScissors (before rest other : List Char) (hb : EndsLine before) :
      Edit (before ++ scissors ++ rest) (before ++ scissors ++ other)
  | blanksAbove (text blanks : List Char) (hb : isBlankLine blanks = true) :
      Edit text (blanks ++ '\n' :: text)
  | blanksBelow (text blanks : List Char) (hb : isBlankLine blanks = true) :
      Edit text (text ++ '\n' :: blanks)
  | lineEnds (text : List Char) (hr : '\r' ∉ text) : Edit text (withReturns text)

lemma EndsLine.exists_rawLines {before : List Char} (h : EndsLine before) :
    ∃ above, ∀ text, rawLines (before ++ text) = above ++ rawLines text := by
  cases hl : before.getLast? with
  | none =>
    rw [List.getLast?_eq_none_iff.1 hl]
    exact ⟨[], fun _ => rfl⟩
  | some c =>
    obtain ⟨front, rfl⟩ := List.getLast?_eq_some_iff.1 hl
    obtain rfl := h c hl
    refine ⟨rawLines front, fun text => ?_⟩
    rw [List.append_assoc, List.singleton_append, rawLines_append_cons]

lemma IsNote.keep_cons {note : List Char} (h : IsNote note) (ls : List (List Char)) :
    keep (note :: ls) = keep ls := by
  refine keep_cons_of_comment ?_ ?_
  · rw [Bool.eq_false_iff, ne_eq, List.isPrefixOf_iff_prefix]
    exact h.scissors
  · rw [isComment, h.comment]
    rfl

lemma cleanLines_eq_of_edit {raw other : List Char} (h : Edit raw other) :
    cleanLines raw = cleanLines other := by
  rw [cleanLines_eq_dropOuterBlank raw, cleanLines_eq_dropOuterBlank other]
  cases h with
  | note before note after hb hn =>
    obtain ⟨above, ha⟩ := hb.exists_rawLines
    rw [List.append_assoc, ha, ha, rawLines_append_cons, rawLines_of_newline_not_mem hn.newline]
    rw [keep_append_congr above (hn.keep_cons (rawLines after)).symm]
    rfl
  | lastNote _ note hn =>
    have hk : keep [] = keep [note] := (hn.keep_cons []).symm
    rw [rawLines_append_cons, rawLines_of_newline_not_mem hn.newline,
      ← keep_append_congr (rawLines raw) hk, List.append_nil]
  | behindScissors before rest other hb =>
    obtain ⟨above, ha⟩ := hb.exists_rawLines
    -- The rest begins in the line of the scissors, so that line is cut whatever it goes on with.
    have hcut : ∀ rest, keep (rawLines (scissors ++ rest)) = [] := by
      intro rest
      have hn : '\n' ∉ scissors := by decide
      obtain ⟨first, others, hr⟩ := exists_rawLines_append hn rest
      rw [hr]
      exact keep_cons_of_scissors (List.isPrefixOf_iff_prefix.2 (List.prefix_append _ _))
    rw [List.append_assoc, List.append_assoc, ha, ha,
      keep_append_congr above ((hcut rest).trans (hcut other).symm)]
  | blanksAbove _ blanks hb =>
    have hl : ∀ line ∈ rawLines blanks, isBlankLine line = true :=
      fun line => isBlankLine_of_mem_rawLines hb
    rw [rawLines_append_cons, keep_blanks_append hl,
      dropOuterBlank_blanks_append fun line => isBlankLine_of_mem_keep hl]
  | blanksBelow _ blanks hb =>
    have hl : ∀ line ∈ rawLines blanks, isBlankLine line = true :=
      fun line => isBlankLine_of_mem_rawLines hb
    obtain ⟨more, hm, hk⟩ := exists_keep_append_blanks hl (rawLines raw)
    rw [rawLines_append_cons, hk, dropOuterBlank_append hm]
  | lineEnds _ hr =>
    rw [← cleanLines_eq_dropOuterBlank, ← cleanLines_eq_dropOuterBlank]
    change dropOuterBlank (keep (Text.lines raw)) = dropOuterBlank (keep (Text.lines _))
    rw [lines_withReturns hr]

lemma cleanLines_eq_of_edits {raw other : List Char} (h : Relation.EqvGen Edit raw other) :
    cleanLines raw = cleanLines other := by
  induction h with
  | rel _ _ h => exact cleanLines_eq_of_edit h
  | refl => rfl
  | symm _ _ _ ih => exact ih.symm
  | trans _ _ _ _ _ ih ih' => exact ih.trans ih'

/-! ### What is read -/

/-- The lines of a message are clean, no blank one is first or last, and a message that is written
from them is read as this one. -/
structure IsNormal (message : Message) : Prop where
  clean : ∀ line ∈ message.lines, IsCleanLine line.toList
  first : ∃ line, message.lines.head? = some line ∧ isBlankLine line.toList = false
  last : ∃ line, message.lines.getLast? = some line ∧ isBlankLine line.toList = false
  again : parse? ("\n".intercalate message.lines) =
    some (message.withRaw ("\n".intercalate message.lines))

lemma parse?_eq_map_withRaw {raw other : String}
    (h : cleanLines raw.toList = cleanLines other.toList) :
    parse? other = (parse? raw).map (·.withRaw other) := by
  rw [parse?, parse?, h]
  cases cleanLines other.toList with
  | nil => rfl
  | cons first below => exact congrArg some (ofLines_eq_withRaw raw other first below)

lemma parse?_eq_none_iff {raw : String} : parse? raw = none ↔ cleanLines raw.toList = [] := by
  rw [parse?]
  cases cleanLines raw.toList with
  | nil => simp
  | cons first below => simp

lemma cleanLines_of_parse? {raw : String} {message : Message} (h : parse? raw = some message) :
    cleanLines raw.toList = message.lines.map String.toList := by
  rw [parse?] at h
  cases hc : cleanLines raw.toList with
  | nil =>
    rw [hc] at h
    cases h
  | cons first below =>
    rw [hc] at h
    cases h
    have hb : below.map (String.toList ∘ String.ofList) = below := by
      simp [Function.comp_def]
    rw [lines, ofLines, List.map_cons, String.toList_ofList, List.map_map, hb]

lemma isNormal_of_parse? {raw : String} {message : Message} (h : parse? raw = some message) :
    message.IsNormal := by
  have hc := cleanLines_of_parse? h
  have hne : cleanLines raw.toList ≠ [] := by
    rw [hc]
    exact List.cons_ne_nil _ _
  have hjoin : ("\n".intercalate message.lines).toList = joinLines (cleanLines raw.toList) := by
    rw [hc, String.toList_intercalate]
    rfl
  have hlast : message.lines ≠ [] := List.cons_ne_nil _ _
  refine ⟨fun line hl => ?_, ⟨message.header, rfl, ?_⟩, ⟨message.lines.getLast hlast, ?_, ?_⟩, ?_⟩
  · have hm : line.toList ∈ cleanLines raw.toList := hc ▸ List.mem_map_of_mem hl
    exact isCleanLine_of_mem_cleanLines hm
  · have hf : (cleanLines raw.toList).head? = some message.header.toList := by
      rw [hc]
      rfl
    exact not_isBlankLine_head?_cleanLines hf
  · exact List.getLast?_eq_some_getLast hlast
  · have hl : (cleanLines raw.toList).getLast? = some (message.lines.getLast hlast).toList := by
      rw [hc, List.getLast?_map, List.getLast?_eq_some_getLast hlast]
      rfl
    exact not_isBlankLine_getLast?_cleanLines hl
  · have hclean : cleanLines raw.toList =
        cleanLines ("\n".intercalate message.lines).toList := by
      rw [hjoin, cleanLines_joinLines_cleanLines hne]
    rw [parse?_eq_map_withRaw hclean, h]
    rfl

/-- Edits that cleaning undoes leave what is read as it is. Nothing is read exactly where every line
above the scissors is blank or a comment, and what is read is a normal form. -/
theorem parse?_normal_form (raw : String) :
    (∀ other : String, Relation.EqvGen Edit raw.toList other.toList →
      parse? other = (parse? raw).map (·.withRaw other)) ∧
    (parse? raw = none ↔
      ∀ line ∈ (Text.lines raw.toList).takeWhile (!scissors.isPrefixOf ·), isComment line = false →
        isBlankLine line = true) ∧
    ∀ message, parse? raw = some message → message.IsNormal :=
  ⟨fun _ h => parse?_eq_map_withRaw (cleanLines_eq_of_edits h),
    parse?_eq_none_iff.trans cleanLines_eq_nil_iff, fun _ => isNormal_of_parse?⟩

theorem parse?_normal_form_noted :
    Relation.EqvGen Edit "fix: leak\n# why\n\nRefs: #7".toList
      " \n\nfix: leak\r\n\r\nRefs: #7\n".toList ∧
    parse? " \n\nfix: leak\r\n\r\nRefs: #7\n" =
      (parse? "fix: leak\n# why\n\nRefs: #7").map
        (·.withRaw " \n\nfix: leak\r\n\r\nRefs: #7\n") ∧
    ∃ message, parse? "fix: leak\n# why\n\nRefs: #7" = some message ∧ message.IsNormal := by
  have hnote : Edit "fix: leak\n\nRefs: #7".toList "fix: leak\n# why\n\nRefs: #7".toList :=
    .note "fix: leak\n".toList "# why".toList "\nRefs: #7".toList
      (by rintro c ⟨⟩; rfl) ⟨rfl, by decide, by decide⟩
  have hends : Edit "fix: leak\n\nRefs: #7".toList "fix: leak\r\n\r\nRefs: #7".toList :=
    .lineEnds "fix: leak\n\nRefs: #7".toList (by decide)
  have habove : Edit "fix: leak\r\n\r\nRefs: #7".toList " \n\nfix: leak\r\n\r\nRefs: #7".toList :=
    .blanksAbove _ " \n".toList (by decide +kernel)
  have hbelow : Edit " \n\nfix: leak\r\n\r\nRefs: #7".toList
      " \n\nfix: leak\r\n\r\nRefs: #7\n".toList := .blanksBelow _ [] rfl
  have hedits : Relation.EqvGen Edit "fix: leak\n# why\n\nRefs: #7".toList
      " \n\nfix: leak\r\n\r\nRefs: #7\n".toList :=
    .trans _ _ _ (.symm _ _ (.rel _ _ hnote)) <| .trans _ _ _ (.rel _ _ hends) <|
      .trans _ _ _ (.rel _ _ habove) (.rel _ _ hbelow)
  obtain ⟨hread, -, hnormal⟩ := parse?_normal_form "fix: leak\n# why\n\nRefs: #7"
  exact ⟨hedits, hread _ hedits, _, rfl, hnormal _ rfl⟩

end Message

end CommitStyle
