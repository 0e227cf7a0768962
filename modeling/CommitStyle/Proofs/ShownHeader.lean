import CommitStyle.Proofs.Linter
import CommitStyle.Proofs.Message.FirstLine

/-!
# The header that a report shows

A report shows the first line of the raw message that is not blank, and the rules judge the first one
that is no comment either. These are the same line unless comments stand above the header, and it is
shown trimmed unless blanks at its end are followed by more lines of text.
-/

namespace CommitStyle

namespace Text

variable {text line : List Char} {ls above below : List (List Char)}

/-! ### The first line that is not blank -/

lemma trim_dropEndWhile {p : Char → Bool} (hp : ∀ c, p c = true → Unicode.isBlank c = true)
    (h : isBlankLine line = false) : trim (dropEndWhile p line) = trim line := by
  have hl : dropEndWhile p line ++ (line.reverse.takeWhile p).reverse = line := by
    rw [dropEndWhile, ← List.reverse_append, List.takeWhile_append_dropWhile, List.reverse_reverse]
  have hb : isBlankLine (line.reverse.takeWhile p).reverse = true :=
    List.all_eq_true.2 fun c hc => hp c (List.mem_takeWhile_imp (List.mem_reverse.1 hc))
  conv_rhs => rw [← hl]
  exact (trim_append ((isBlankLine_dropEndWhile hp line).trans h) hb).symm

lemma trim_eq_trimStart_iff (h : isBlankLine line = false) :
    trim line = trimStart line ↔ trimEnd line = line := by
  have hs : isBlankLine (trimStart line) = false := (isBlankLine_trimStart line).trans h
  have hl : line.takeWhile Unicode.isBlank ++ trimStart line = line :=
    List.takeWhile_append_dropWhile
  have he : line.takeWhile Unicode.isBlank ++ trim line = trimEnd line := by
    rw [trim, ← trimEnd_append_of_not_blank hs, hl]
  constructor
  · intro ht
    rw [← he, ht, hl]
  · intro ht
    rw [ht] at he
    exact List.append_cancel_left (he.trans hl.symm)

structure OpensWith (text line : List Char) (below : List (List Char)) : Prop where
  above : ∃ blanks, blanks ++ line :: below = lines text ∧
    ∀ blank ∈ blanks, isBlankLine blank = true
  not_blank : isBlankLine line = false

lemma all_isBlankLine_endLines (ls : List (List Char)) :
    (endLines ls).all isBlankLine = isBlankLine (joinLines ls) := by
  induction ls with
  | nil => rfl
  | cons line rest ih =>
    obtain rfl | hn := eq_or_ne rest []
    · rw [joinLines_singleton]
      cases line with
      | nil => rfl
      | cons c cs => exact Bool.and_true _
    · rw [endLines_cons line hn, List.all_cons, ih, isBlankLine_dropReturn, joinLines_cons line hn,
        isBlankLine_append]
      rfl

lemma exists_append_of_endLines (h : above ++ line :: below = endLines ls) :
    ∃ rawAbove raw rawBelow, ls = rawAbove ++ raw :: rawBelow ∧ above = rawAbove.map dropReturn ∧
      line = (if rawBelow = [] then raw else dropReturn raw) ∧ below = endLines rawBelow := by
  induction ls generalizing above with
  | nil => simp [endLines] at h
  | cons first rest ih =>
    obtain rfl | hn := eq_or_ne rest []
    · have hf : above ++ line :: below = [first] := by
        cases first with
        | nil => simp [endLines] at h
        | cons c cs => exact h
      obtain ⟨rfl, hl⟩ | ⟨-, hl⟩ := List.append_eq_singleton_iff.1 hf
      · obtain ⟨rfl, rfl⟩ := List.cons.inj hl
        exact ⟨[], line, [], rfl, rfl, rfl, rfl⟩
      · cases hl
    · rw [endLines_cons first hn] at h
      cases above with
      | nil =>
        obtain ⟨rfl, rfl⟩ := List.cons.inj h
        exact ⟨[], first, rest, rfl, rfl, (if_neg hn).symm, rfl⟩
      | cons blank above =>
        obtain ⟨rfl, hrest⟩ := List.cons.inj h
        obtain ⟨rawAbove, raw, rawBelow, rfl, rfl, hline, hbelow⟩ := ih hrest
        exact ⟨first :: rawAbove, raw, rawBelow, rfl, rfl, hline, hbelow⟩

lemma OpensWith.firstLine_eq (h : OpensWith text line below) :
    firstLine text = if below.all isBlankLine then trim line else trimStart line := by
  obtain ⟨blanks, hls, hb⟩ := h.above
  have hline := h.not_blank
  obtain ⟨rawAbove, raw, rawBelow, hraw, rfl, rfl, rfl⟩ := exists_append_of_endLines hls
  rw [← rawLines] at hraw
  have hmem : raw ∈ rawLines text := hraw ▸ List.mem_append_right _ List.mem_cons_self
  have hnl : '\n' ∉ raw := newline_not_mem_of_mem_rawLines hmem
  have habove : ∀ blank ∈ rawAbove, isBlankLine blank = true := fun blank hm =>
    (isBlankLine_dropReturn blank).symm.trans (hb _ (List.mem_map_of_mem hm))
  have htext : firstLine text = firstLine (joinLines (raw :: rawBelow)) := by
    rw [← firstLine_trim, ← joinLines_rawLines text, hraw, trim,
      trimStart_joinLines_append habove (List.cons_ne_nil _ _), ← trim, firstLine_trim]
  rw [htext, all_isBlankLine_endLines]
  obtain rfl | hn := eq_or_ne rawBelow []
  · rw [joinLines_singleton]
    exact firstLine_of_newline_not_mem hnl
  · rw [if_neg hn, isBlankLine_dropReturn] at hline
    rw [joinLines_cons raw hn, firstLine_append_cons hline hnl, if_neg hn, trim_dropReturn hline]

lemma OpensWith.firstLine_eq_trim_iff (h : OpensWith text line below) (part : List Char) :
    firstLine text = trim part ↔
      trim line = trim part ∧ (trimEnd line = line ∨ ∀ other ∈ below, isBlankLine other = true) := by
  rw [h.firstLine_eq, ← List.all_eq_true, ← trim_eq_trimStart_iff h.not_blank]
  split
  next hb => simp [hb]
  next hb =>
    constructor
    · intro ht
      -- The text below keeps the blanks at the end, so that there can be none.
      have he : trim line = trimStart line := by rw [trim, ht, (trim_eq_self_iff.1 (trim_trim part)).2]
      exact ⟨he.trans ht, .inl he⟩
    · rintro ⟨ht, he | he⟩
      · rw [← he, ht]
      · exact absurd he hb

lemma newline_not_mem_firstLine (text : List Char) : '\n' ∉ firstLine text := by
  obtain ⟨line, others, hr⟩ := List.exists_cons_of_ne_nil (rawLines_ne_nil (trim text))
  have hn : '\n' ∉ line := newline_not_mem_of_mem_rawLines (hr ▸ List.mem_cons_self)
  rw [← firstLine_trim, firstLine_eq_of_rawLines (trim_trim text) hr]
  split
  next => exact hn
  next => exact fun hm => hn ((isPrefix_dropReturn line).subset hm)

lemma head?_rawLines_joinLines_cons (h : '\n' ∉ line) (ls : List (List Char)) :
    (rawLines (joinLines (line :: ls))).head? = some line := by
  obtain rfl | hn := eq_or_ne ls []
  · rw [joinLines_singleton, rawLines_of_newline_not_mem h]
    rfl
  · rw [joinLines_cons line hn, rawLines_append_cons, rawLines_of_newline_not_mem h]
    rfl

end Text

open Text

/-! ### The first line of the text form -/

namespace Report

def inputLabel (colors : Bool) : String := Style.apply colors [.bold] "⧗" ++ "   input: "

/-- The first line of the text form shows the given header, with colours or without them. -/
def Shows (report : Report) (shown : String) : Prop :=
  ∀ colors, ∃ text, report.render? colors = some text ∧
    (rawLines text.toList).head? = some (inputLabel colors ++ shown).toList

lemma newline_not_mem_inputLabel (colors : Bool) : '\n' ∉ (inputLabel colors).toList := by
  cases colors <;> decide

variable {report : Report} {shown other : String}

lemma inputLine?_eq_some (h : report.commit = none) (colors : Bool) :
    report.inputLine? colors = some (inputLabel colors ++ report.header) := by
  rw [inputLine?, h]
  change some (inputLabel colors ++ "" ++ report.header) = _
  rw [String.append_empty]

lemma shows_header (h : report.commit = none) : report.Shows report.header := by
  intro colors
  have hn : '\n' ∉ (inputLabel colors ++ report.header).toList := by
    rw [String.toList_append, List.mem_append, header, String.toList_ofList]
    exact not_or_intro (newline_not_mem_inputLabel colors) (newline_not_mem_firstLine _)
  refine ⟨_, by rw [render?, inputLine?_eq_some h, Option.map_some], ?_⟩
  rw [String.toList_intercalate]
  exact head?_rawLines_joinLines_cons hn _

lemma Shows.eq (h : report.Shows shown) (ho : report.Shows other) : shown = other := by
  obtain ⟨text, ht, hs⟩ := h false
  obtain ⟨text', ht', hs'⟩ := ho false
  obtain rfl : text = text' := Option.some.inj (ht.symm.trans ht')
  have hl := Option.some.inj (hs.symm.trans hs')
  rw [String.toList_append, String.toList_append] at hl
  exact String.toList_injective (List.append_cancel_left hl)

end Report

namespace Message

lemma exists_opensWith_of_parse? {text : String} {message : Message} (h : parse? text = some message) :
    ∃ line below, OpensWith text.toList line below ∧
      (isComment line = false → trim line = trim message.header.toList) := by
  obtain ⟨first, below, hc, rfl⟩ := parse?_eq_some_iff.1 h
  have hkeep : dropOuterBlank (keep (Text.lines text.toList)) = first :: below := hc
  obtain ⟨blanks, line, rest, hls, hb, hline, hf⟩ := exists_line_of_dropOuterBlank_keep hkeep
  refine ⟨line, rest, ⟨⟨blanks, hls, hb⟩, hline⟩, fun hn => ?_⟩
  rcases hf with hf | rfl
  · exact absurd hf (Bool.eq_false_iff.1 hn)
  · have hr : ∀ c, (c == '\r') = true → Unicode.isBlank c = true := fun c hr => by
      rw [beq_iff_eq.1 hr]
      decide
    change _ = trim (String.ofList _).toList
    rw [String.toList_ofList, trim_dropEndWhile hr hline]

end Message

namespace Linter

variable {linter : Linter} {text : String} {message : Message}

lemma check_header (message : Message) :
    (linter.check message).header = String.ofList (firstLine message.raw.toList) := by
  rw [check, Report.pushAll_eq]
  rfl

/-- What a report shows of a message is the header that the rules judge, trimmed, exactly if the first
line that is not blank is the header, and no blanks end it or no text follows. Only a comment can be
such a line in the place of the header. -/
theorem lint_shows_header_iff (hi : linter.ignore.holds text = false)
    (hp : Message.parse? text = some message) :
    ∃ report shown line below, linter.lint text = .ok report ∧ report.Shows shown ∧
      OpensWith text.toList line below ∧
      (Message.isComment line = false → trim line = trim message.header.toList) ∧
      (shown.toList = trim message.header.toList ↔
        trim line = trim message.header.toList ∧
          (trimEnd line = line ∨ ∀ other ∈ below, isBlankLine other = true)) := by
  obtain ⟨line, below, ho, hc⟩ := Message.exists_opensWith_of_parse? hp
  refine ⟨_, _, line, below, lint_of_parse? hi hp, Report.shows_header (commit_check message), ho, hc,
    ?_⟩
  have hraw : message.raw = text := by
    obtain ⟨first, rest, -, rfl⟩ := Message.parse?_eq_some_iff.1 hp
    rfl
  rw [check_header, hraw, String.toList_ofList]
  exact ho.firstLine_eq_trim_iff _

def lenientLinter : Linter := ⟨{}, Rule.builtins ++ [], ⟨true, []⟩⟩

theorem lint_shows_header_iff_note :
    lenientLinter.ignore.holds "\r\nfeat: add login\r\n\n# note" = false ∧
      ∃ message, Message.parse? "\r\nfeat: add login\r\n\n# note" = some message ∧
        message.header = "feat: add login" ∧
        ∃ report shown line below,
          lenientLinter.lint "\r\nfeat: add login\r\n\n# note" = .ok report ∧ report.Shows shown ∧
            OpensWith "\r\nfeat: add login\r\n\n# note".toList line below ∧
            (Message.isComment line = false → trim line = trim message.header.toList) ∧
            (shown.toList = trim message.header.toList ↔
              trim line = trim message.header.toList ∧
                (trimEnd line = line ∨ ∀ other ∈ below, isBlankLine other = true)) := by
  have hi : lenientLinter.ignore.holds "\r\nfeat: add login\r\n\n# note" = false := by
    decide +kernel
  have hp : Message.parse? "\r\nfeat: add login\r\n\n# note" =
      some (Message.ofLines "\r\nfeat: add login\r\n\n# note" "feat: add login".toList []) := by
    decide +kernel
  exact ⟨hi, _, hp, rfl, lint_shows_header_iff hi hp⟩

/-- The comment of an editor's template that stands above the header is shown in its place. -/
theorem not_lint_shows_header : ¬ ∀ (linter : Linter) (text : String) (message : Message),
    linter.ignore.holds text = false → Message.parse? text = some message →
      ∃ report shown, linter.lint text = .ok report ∧ report.Shows shown ∧
        shown.toList = trim message.header.toList := by
  intro h
  have hi : lenientLinter.ignore.holds "# Please enter the commit message\nfeat: add login\n" =
      false := by decide +kernel
  have hp : Message.parse? "# Please enter the commit message\nfeat: add login\n" =
      some (Message.ofLines "# Please enter the commit message\nfeat: add login\n"
        "feat: add login".toList []) := by decide +kernel
  obtain ⟨report, shown, hl, hs, he⟩ := h _ _ _ hi hp
  obtain rfl := Except.ok.inj (hl.symm.trans (lint_of_parse? hi hp))
  rw [hs.eq (Report.shows_header (commit_check _)), check_header] at he
  exact absurd he (by decide +kernel)

end Linter

end CommitStyle
