import CommitStyle.Proofs.Message.Edits
import CommitStyle.Proofs.Message.Parts
import Mathlib.Data.List.ModifyLast

/-!
# How a message is divided

The lines below the header are cut above the last paragraph if that is a block of trailers, and are
all body otherwise. A part is trimmed as a whole, which takes blank lines from either end of it and
blanks from its first and last line, so that every line with something on it is held once.
-/

namespace CommitStyle

open Unicode (isBlank)

namespace Text

def nonblank (ls : List (List Char)) : List (List Char) := ls.filter (!isBlankLine ·)

/-- The lines without the blanks before the first of them and behind the last. -/
def trimEnds (ls : List (List Char)) : List (List Char) :=
  (ls.modifyHead trimStart).modifyLast trimEnd

section Nonblank

variable {line : List Char} {ls : List (List Char)}

@[simp] lemma nonblank_nil : nonblank [] = [] := rfl

lemma nonblank_cons_of_blank (h : isBlankLine line = true) (ls : List (List Char)) :
    nonblank (line :: ls) = nonblank ls :=
  List.filter_cons_of_neg (by simp [h])

lemma nonblank_cons_of_not_blank (h : isBlankLine line = false) (ls : List (List Char)) :
    nonblank (line :: ls) = line :: nonblank ls :=
  List.filter_cons_of_pos (by simp [h])

@[simp] lemma nonblank_append (ls others : List (List Char)) :
    nonblank (ls ++ others) = nonblank ls ++ nonblank others :=
  List.filter_append ls others

lemma nonblank_eq_self (h : ∀ line ∈ ls, isBlankLine line = false) : nonblank ls = ls :=
  List.filter_eq_self.2 fun line hl => by rw [h line hl]; rfl

lemma nonblank_rawLines_trimStart (h : ∀ line ∈ ls, '\n' ∉ line) :
    nonblank (rawLines (trimStart (joinLines ls))) = (nonblank ls).modifyHead trimStart := by
  induction ls with
  | nil => rfl
  | cons line rest ih =>
    have hstart : '\n' ∉ trimStart line := fun hn =>
      h line (.head _) ((List.dropWhile_suffix _).subset hn)
    have hrest : ∀ line ∈ rest, '\n' ∉ line := fun other ho => h other (.tail _ ho)
    obtain rfl | hn := eq_or_ne rest []
    · rw [joinLines_singleton, rawLines_of_newline_not_mem hstart]
      cases hb : isBlankLine line with
      | true =>
        rw [nonblank_cons_of_blank (by simpa using hb), nonblank_cons_of_blank hb]
        rfl
      | false =>
        rw [nonblank_cons_of_not_blank (by simpa using hb), nonblank_cons_of_not_blank hb]
        rfl
    · -- A blank line goes as a whole and with its end, and the first other line stops the trimming.
      rw [joinLines_cons line hn]
      cases hb : isBlankLine line with
      | true =>
        have hl : isBlankLine (line ++ ['\n']) = true := by
          rw [isBlankLine_append, hb]
          rfl
        rw [List.append_cons, trimStart_append hl, ih hrest, nonblank_cons_of_blank hb]
      | false =>
        rw [trimStart_append_of_not_blank hb, rawLines_append_cons,
          rawLines_of_newline_not_mem hstart, rawLines_joinLines hrest hn, List.singleton_append,
          nonblank_cons_of_not_blank (by simpa using hb), nonblank_cons_of_not_blank hb]
        rfl

lemma nonblank_rawLines_trimEnd (h : ∀ line ∈ ls, '\n' ∉ line) :
    nonblank (rawLines (trimEnd (joinLines ls))) = (nonblank ls).modifyLast trimEnd := by
  induction ls using List.reverseRecOn with
  | nil => rfl
  | append_singleton rest line ih =>
    have hend : '\n' ∉ trimEnd line := fun hn =>
      h line (List.mem_append_right _ (.head _)) ((isPrefix_trimEnd line).subset hn)
    have hrest : ∀ line ∈ rest, '\n' ∉ line := fun other ho => h other (List.mem_append_left _ ho)
    obtain rfl | hn := eq_or_ne rest []
    · rw [List.nil_append, joinLines_singleton, rawLines_of_newline_not_mem hend]
      cases hb : isBlankLine line with
      | true =>
        rw [nonblank_cons_of_blank (by simpa using hb), nonblank_cons_of_blank hb]
        rfl
      | false =>
        rw [nonblank_cons_of_not_blank (by simpa using hb), nonblank_cons_of_not_blank hb]
        rfl
    · rw [joinLines_append hn (List.cons_ne_nil _ _), joinLines_singleton, nonblank_append]
      cases hb : isBlankLine line with
      | true =>
        have hl : isBlankLine ('\n' :: line) = true := hb
        rw [trimEnd_append hl, ih hrest, nonblank_cons_of_blank hb, nonblank_nil, List.append_nil]
      | false =>
        rw [List.append_cons, trimEnd_append_of_not_blank hb, ← List.append_cons,
          rawLines_append_cons, rawLines_joinLines hrest hn, rawLines_of_newline_not_mem hend,
          nonblank_append, nonblank_cons_of_not_blank hb,
          nonblank_cons_of_not_blank (by simpa using hb)]
        exact (List.modifyLast_concat _ _ _).symm

lemma nonblank_rawLines_trim (h : ∀ line ∈ ls, '\n' ∉ line) :
    nonblank (rawLines (trim (joinLines ls))) = trimEnds (nonblank ls) := by
  have hr : ∀ line ∈ rawLines (trimStart (joinLines ls)), '\n' ∉ line :=
    fun _ => newline_not_mem_of_mem_rawLines
  have ht := nonblank_rawLines_trimEnd hr
  rwa [joinLines_rawLines, nonblank_rawLines_trimStart h] at ht

lemma trimEnds_eq_nil_iff : trimEnds ls = [] ↔ ls = [] := by
  have hh : ls.modifyHead trimStart = [] ↔ ls = [] := by simp
  rw [trimEnds, ← hh]
  rcases List.eq_nil_or_concat (ls.modifyHead trimStart) with hn | ⟨front, line, hc⟩
  · rw [hn]
    exact iff_of_true rfl rfl
  · rw [hc, List.concat_eq_append, List.modifyLast_concat]
    simp

lemma getLast?_ne_return_of_mem_trimEnds (h : ∀ line ∈ ls, line.getLast? ≠ some '\r') :
    ∀ line ∈ trimEnds ls, line.getLast? ≠ some '\r' := by
  have hs : ∀ line ∈ ls.modifyHead trimStart, line.getLast? ≠ some '\r' := by
    cases ls with
    | nil => exact h
    | cons first rest =>
      rw [List.modifyHead_cons, List.forall_mem_cons]
      refine ⟨fun hl => h first (.head _) ?_, fun line hl => h line (.tail _ hl)⟩
      obtain ⟨front, hf⟩ := List.dropWhile_suffix (l := first) isBlank
      change (first.dropWhile isBlank).getLast? = _ at hl
      rw [← hf, List.getLast?_append, hl]
      rfl
  rw [trimEnds]
  rcases List.eq_nil_or_concat (ls.modifyHead trimStart) with hn | ⟨front, last, hc⟩
  · rw [hn]
    nofun
  · -- A trimmed line ends in no blank, and a carriage return is one.
    rw [hc, List.concat_eq_append] at hs ⊢
    rw [List.modifyLast_concat]
    intro line hl
    rcases List.mem_append.1 hl with hl | hl
    · exact hs line (List.mem_append_left _ hl)
    · obtain rfl := List.mem_singleton.1 hl
      intro hr
      exact absurd (getLast?_dropEndWhile hr) (by decide)

lemma nonblank_endLines (h : ∀ line ∈ nonblank ls, line.getLast? ≠ some '\r') :
    nonblank (endLines ls) = nonblank ls := by
  induction ls with
  | nil => rfl
  | cons line rest ih =>
    obtain rfl | hn := eq_or_ne rest []
    · cases line with
      | nil => rfl
      | cons c cs => rfl
    · rw [endLines_cons line hn]
      cases hb : isBlankLine line with
      | true =>
        rw [nonblank_cons_of_blank hb] at h ⊢
        rw [nonblank_cons_of_blank ((isBlankLine_dropReturn line).trans hb), ih h]
      | false =>
        rw [nonblank_cons_of_not_blank hb, List.forall_mem_cons] at h
        have hd : dropReturn line = line := if_neg h.1
        rw [hd, nonblank_cons_of_not_blank hb, nonblank_cons_of_not_blank hb, ih h.2]

end Nonblank

end Text

namespace Message

open Text

def heldLines (part : Option String) : List (List Char) :=
  (part.map fun text => nonblank (Text.lines text.toList)).getD []

lemma heldLines_block? {ls : List (List Char)} (h : ∀ line ∈ ls, IsCleanLine line) :
    heldLines ((block? ls).map String.ofList) = trimEnds (nonblank ls) := by
  have hraw := nonblank_rawLines_trim fun line hl => (h line hl).newline
  have hreturn : ∀ line ∈ trimEnds (nonblank ls), line.getLast? ≠ some '\r' :=
    getLast?_ne_return_of_mem_trimEnds fun line hl => (h line (List.mem_of_mem_filter hl)).carriage
  have hlines : nonblank (Text.lines (trim (joinLines ls))) = trimEnds (nonblank ls) := by
    rw [← hraw] at hreturn
    exact (nonblank_endLines hreturn).trans hraw
  rw [← hlines, block?]
  cases ht : trim (joinLines ls) with
  | nil => rfl
  | cons c rest => simp [heldLines]

lemma linesAboveFooter?_eq_some_iff {ls : List (List Char)} {n : Nat} :
    linesAboveFooter? ls = some n ↔ Trailer.isBlock (Trailer.lastParagraph ls) = true ∧
      ls.length - (Trailer.lastParagraph ls).length = n := by
  rw [linesAboveFooter?]
  simp

lemma exists_append_of_linesAboveFooter? {ls : List (List Char)} {n : Nat}
    (h : linesAboveFooter? ls = some n) :
    ∃ above block, above ++ block = ls ∧ Trailer.lastParagraph ls = block ∧ above.length = n ∧
      Trailer.isBlock block = true ∧ (∀ line ∈ block, isBlankLine line = false) ∧
      ∀ line, above.getLast? = some line → isBlankLine line = true := by
  obtain ⟨hb, hn⟩ := linesAboveFooter?_eq_some_iff.1 h
  obtain ⟨above, ha, hblank⟩ := Trailer.exists_append_lastParagraph ls
  refine ⟨above, _, ha, rfl, ?_, hb, fun _ => Trailer.not_isBlankLine_of_mem_lastParagraph, hblank⟩
  have hlength := congrArg List.length ha
  rw [List.length_append] at hlength
  omega

structure IsDivided (message : Message) (cleaned : List (List Char)) : Prop where
  isSome_footer : message.footer.isSome = message.footerStart.isSome
  start_range : ∀ start, message.footerStart = some start → 1 ≤ start ∧ start < cleaned.length
  footer_nonblank : ∀ start, message.footerStart = some start →
    ∀ line ∈ cleaned.drop start, isBlankLine line = false
  line_above : ∀ start, message.footerStart = some start →
    (∃ line, cleaned[start - 1]? = some line ∧ isBlankLine line = true) ∨
      start = 1 ∧ ∀ line ∈ cleaned, isBlankLine line = false
  held : ∃ above below, above ++ below = nonblank cleaned.tail ∧
    heldLines message.body = trimEnds above ∧ heldLines message.footer = trimEnds below ∧
    below = (message.footerStart.map cleaned.drop).getD []

lemma block?_ne_none_of_isBlock {block : List (List Char)} (hc : ∀ line ∈ block, IsCleanLine line)
    (hn : ∀ line ∈ block, isBlankLine line = false) (hb : Trailer.isBlock block = true) :
    block? block ≠ none := by
  intro h
  have held := heldLines_block? hc
  rw [h, nonblank_eq_self hn] at held
  rw [trimEnds_eq_nil_iff.1 held.symm] at hb
  cases hb

section OfLines

variable {first : List Char} {below : List (List Char)}

lemma parts_of_none (raw : String) (h : linesAboveFooter? below = none) :
    (ofLines raw first below).footerStart = none ∧ (ofLines raw first below).footer = none ∧
      (ofLines raw first below).body = (block? below).map String.ofList := by
  refine ⟨?_, ?_, ?_⟩
  · change (linesAboveFooter? below).map _ = _
    rw [h]
    rfl
  · change ((linesAboveFooter? below).bind _).map _ = _
    rw [h]
    rfl
  · change (block? (below.take ((linesAboveFooter? below).getD below.length))).map _ = _
    rw [h, Option.getD_none, List.take_length]

lemma parts_of_some (raw : String) {above block : List (List Char)}
    (h : linesAboveFooter? (above ++ block) = some above.length) :
    (ofLines raw first (above ++ block)).footerStart = some (above.length + 1) ∧
      (ofLines raw first (above ++ block)).footer = (block? block).map String.ofList ∧
      (ofLines raw first (above ++ block)).body = (block? above).map String.ofList := by
  refine ⟨?_, ?_, ?_⟩
  · change (linesAboveFooter? (above ++ block)).map _ = _
    rw [h]
    rfl
  · change ((linesAboveFooter? (above ++ block)).bind _).map _ = _
    rw [h, Option.bind_some, List.drop_left]
  · change (block? ((above ++ block).take
      ((linesAboveFooter? (above ++ block)).getD (above ++ block).length))).map _ = _
    rw [h, Option.getD_some, List.take_left]

lemma isDivided_of_none (raw : String) (hc : ∀ line ∈ below, IsCleanLine line)
    (h : linesAboveFooter? below = none) :
    (ofLines raw first below).IsDivided (first :: below) := by
  obtain ⟨hstart, hfooter, hbody⟩ := parts_of_none raw h
  refine ⟨by rw [hstart, hfooter]; rfl, by simp [hstart], by simp [hstart], by simp [hstart],
    nonblank below, [], List.append_nil _, ?_, ?_, ?_⟩
  · rw [hbody, heldLines_block? hc]
  · rw [hfooter]
    rfl
  · rw [hstart]
    rfl

lemma isDivided_of_some (raw : String) (hf : isBlankLine first = false)
    (hc : ∀ line ∈ below, IsCleanLine line) {n : Nat} (h : linesAboveFooter? below = some n) :
    (ofLines raw first below).IsDivided (first :: below) := by
  obtain ⟨above, block, rfl, -, rfl, hblock, hnonblank, hblank⟩ :=
    exists_append_of_linesAboveFooter? h
  obtain ⟨hstart, hfooter, hbody⟩ := parts_of_some raw h
  have habove : ∀ line ∈ above, IsCleanLine line :=
    fun line hl => hc line (List.mem_append_left _ hl)
  have hbelow : ∀ line ∈ block, IsCleanLine line :=
    fun line hl => hc line (List.mem_append_right _ hl)
  have hdrop : (first :: (above ++ block)).drop (above.length + 1) = block := by
    rw [List.drop_succ_cons, List.drop_left]
  have hne : block ≠ [] := by
    rintro rfl
    cases hblock
  constructor
  case isSome_footer =>
    rw [hfooter, hstart, Option.isSome_map, Option.isSome_some,
      Option.isSome_iff_ne_none.2 (block?_ne_none_of_isBlock hbelow hnonblank hblock)]
  case start_range =>
    rw [hstart]
    rintro _ ⟨⟩
    have hpos := List.length_pos_iff.2 hne
    rw [List.length_cons, List.length_append]
    omega
  case footer_nonblank =>
    rw [hstart]
    rintro _ ⟨⟩
    rwa [hdrop]
  case line_above =>
    rw [hstart]
    rintro _ ⟨⟩
    rcases List.eq_nil_or_concat above with rfl | ⟨front, line, rfl⟩
    · exact .inr ⟨rfl, List.forall_mem_cons.2 ⟨hf, hnonblank⟩⟩
    · rw [List.concat_eq_append] at hblank ⊢
      exact .inl ⟨line, by simp, hblank line (List.getLast?_concat ..)⟩
  case held =>
    refine ⟨nonblank above, block, ?_, ?_, ?_, ?_⟩
    · rw [List.tail_cons, nonblank_append, nonblank_eq_self hnonblank]
    · rw [hbody, heldLines_block? habove]
    · rw [hfooter, heldLines_block? hbelow, nonblank_eq_self hnonblank]
    · rw [hstart]
      exact hdrop.symm

end OfLines

/-- A message has a footer just in case it says where the footer starts, which is in a line below
the header, behind a blank line unless there is none at all, and no line from there on is blank. The
body and the footer hold the cleaned lines below the header that are not blank, each one once and in
order, but for the blanks before and behind either part. -/
theorem parse?_isDivided (raw : String) (message : Message) (h : parse? raw = some message) :
    cleanLines raw.toList = message.lines.map String.toList ∧
      message.IsDivided (cleanLines raw.toList) := by
  refine ⟨cleanLines_of_parse? h, ?_⟩
  obtain ⟨first, below, hclean, rfl⟩ := parse?_eq_some_iff.1 h
  have hc : ∀ line ∈ below, IsCleanLine line := fun line hl =>
    isCleanLine_of_mem_cleanLines (hclean ▸ List.mem_cons_of_mem _ hl)
  have hf : isBlankLine first = false :=
    not_isBlankLine_head?_cleanLines (congrArg List.head? hclean)
  rw [hclean]
  cases ha : linesAboveFooter? below with
  | none => exact isDivided_of_none raw hc ha
  | some n => exact isDivided_of_some raw hf hc ha

def indented : String := "fix: leak\n \n  free it\n\n\tearly \n \nRefs: #7\n and #8 \n"

theorem parse?_isDivided_indented :
    ∃ message, parse? indented = some message ∧
      cleanLines indented.toList = message.lines.map String.toList ∧
      message.IsDivided (cleanLines indented.toList) ∧
      heldLines message.body = ["free it".toList, "\tearly".toList] ∧
      heldLines message.footer = ["Refs: #7".toList, " and #8".toList] ∧
      message.footerStart = some 6 := by
  have hp : parse? indented = some (.ofLines indented "fix: leak".toList [" ".toList,
      "  free it".toList, [], "\tearly ".toList, " ".toList, "Refs: #7".toList,
      " and #8 ".toList]) := by
    decide +kernel
  obtain ⟨hl, hd⟩ := parse?_isDivided indented _ hp
  exact ⟨_, hp, hl, hd, by decide +kernel, by decide +kernel, by decide +kernel⟩

end Message

end CommitStyle
