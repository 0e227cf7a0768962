import CommitStyle.Proofs.Message.Division

/-!
# Breaking changes in footers

Two tests look at the lines of a footer. One decides that the paragraph is a footer, and asks for a
value behind the separator. The other decides that the message is breaking, and knows no separator
but the colon. A breaking change that only one of them accepts goes unnoticed, and no other one
does.
-/

namespace CommitStyle

open Text

namespace Trailer

def breakingTokens : List (List Char) := ["BREAKING CHANGE".toList, "BREAKING-CHANGE".toList]

/-- The line announces a breaking change by a token with a colon behind it, or with any separator
and a value. -/
def Announces (line : List Char) : Prop :=
  ∃ token ∈ breakingTokens, ∃ rest, line = token ++ rest ∧
    (rest.head? = some ':' ∨ hasValue rest = true)

def AnnouncesByNumber (line : List Char) : Prop :=
  ∃ token ∈ breakingTokens, ∃ rest, line = token ++ ' ' :: '#' :: rest ∧
    hasValue (' ' :: '#' :: rest) = true

/-- Trailers and lines that begin like a breaking change, continued by indented lines. -/
def IsLooseBlock (paragraph : List (List Char)) : Prop :=
  ∃ first rest, paragraph = first :: rest ∧ (isTrailer first = true ∨ isBreaking first = true) ∧
    ∀ line ∈ rest, isTrailer line = true ∨ isBreaking line = true ∨ isIndented line = true

/-- Where a breaking change begins with a colon, a blank and the value follow. -/
def IsSpaced (paragraph : List (List Char)) : Prop :=
  ∀ line ∈ paragraph, isBreaking line = true → isTrailer line = true

variable {line : List Char} {paragraph : List (List Char)}

lemma isBreaking_iff : isBreaking line = true ↔
    ∃ token ∈ breakingTokens, ∃ rest, line = token ++ ':' :: rest := by
  have hc : "BREAKING CHANGE:".toList = "BREAKING CHANGE".toList ++ [':'] := by decide
  have hd : "BREAKING-CHANGE:".toList = "BREAKING-CHANGE".toList ++ [':'] := by decide
  rw [isBreaking, Bool.or_eq_true, List.isPrefixOf_iff_prefix, List.isPrefixOf_iff_prefix, hc, hd]
  simp only [breakingTokens, List.mem_cons, List.not_mem_nil, or_false, exists_eq_or_imp,
    exists_eq_left, List.prefix_iff_eq_append, List.append_assoc]
  constructor
  · rintro (h | h)
    · exact .inl ⟨_, h.symm⟩
    · exact .inr ⟨_, h.symm⟩
  · rintro (⟨rest, rfl⟩ | ⟨rest, rfl⟩)
    · exact .inl (by simp)
    · exact .inr (by simp)

lemma announces_iff : Announces line ↔ isBreaking line = true ∨ AnnouncesByNumber line := by
  rw [isBreaking_iff]
  constructor
  · rintro ⟨token, ht, rest, rfl, hcolon | hvalue⟩
    · cases rest with
      | nil => cases hcolon
      | cons c rest =>
        cases hcolon
        exact .inl ⟨token, ht, rest, rfl⟩
    · unfold hasValue at hvalue
      split at hvalue
      next c rest => exact .inl ⟨token, ht, _, rfl⟩
      next c rest => exact .inr ⟨token, ht, _, rfl, hvalue⟩
      next => cases hvalue
  · rintro (⟨token, ht, rest, rfl⟩ | ⟨token, ht, rest, rfl, hvalue⟩)
    · exact ⟨token, ht, _, rfl, .inl rfl⟩
    · exact ⟨token, ht, _, rfl, .inr hvalue⟩

lemma not_announcesByNumber_of_isBreaking (h : isBreaking line = true) :
    ¬ AnnouncesByNumber line := by
  obtain ⟨token, ht, rest, rfl⟩ := isBreaking_iff.1 h
  rintro ⟨other, ho, more, he, -⟩
  -- Both tokens have the same length, and so the next character decides.
  have hlength : ∀ token ∈ breakingTokens, token.length = 15 := by decide
  obtain ⟨-, hc⟩ := List.append_inj he ((hlength token ht).trans (hlength other ho).symm)
  cases hc

lemma forall_announcesByNumber_iff :
    (∀ line ∈ paragraph, Announces line → AnnouncesByNumber line) ↔
      ¬ ∃ line ∈ paragraph, isBreaking line = true := by
  constructor
  · rintro h ⟨line, hm, hb⟩
    exact not_announcesByNumber_of_isBreaking hb (h line hm (announces_iff.2 (.inl hb)))
  · intro h line hm ha
    exact (announces_iff.1 ha).resolve_left fun hb => h ⟨line, hm, hb⟩

lemma head?_of_isBreaking (h : isBreaking line = true) : line.head? = some 'B' := by
  obtain ⟨token, ht, rest, rfl⟩ := isBreaking_iff.1 h
  rcases List.mem_pair.1 ht with rfl | rfl <;> rfl

lemma isIndented_of_isBreaking (h : isBreaking line = true) : isIndented line = false := by
  cases line with
  | nil => rfl
  | cons c rest =>
    cases head?_of_isBreaking h
    rfl

lemma not_isBlankLine_of_isBreaking (h : isBreaking line = true) : isBlankLine line = false := by
  cases line with
  | nil => cases h
  | cons c rest =>
    cases head?_of_isBreaking h
    rfl

lemma isBreaking_trimEnd (line : List Char) : isBreaking (trimEnd line) = isBreaking line := by
  have hc : trimEnd "BREAKING CHANGE:".toList = "BREAKING CHANGE:".toList := by decide +kernel
  have hd : trimEnd "BREAKING-CHANGE:".toList = "BREAKING-CHANGE:".toList := by decide +kernel
  rw [Bool.eq_iff_iff, isBreaking, isBreaking, Bool.or_eq_true, Bool.or_eq_true]
  simp only [List.isPrefixOf_iff_prefix, isPrefix_trimEnd_iff hc, isPrefix_trimEnd_iff hd]

lemma any_isBreaking_nonblank (ls : List (List Char)) :
    (nonblank ls).any isBreaking = ls.any isBreaking := by
  rw [nonblank, List.any_filter]
  refine List.any_congr rfl fun line => ?_
  cases hb : isBreaking line with
  | true => simp [not_isBlankLine_of_isBreaking hb]
  | false => exact Bool.and_false _

lemma any_isBreaking_trimEnds (h : isBlock paragraph = true) :
    (trimEnds paragraph).any isBreaking = paragraph.any isBreaking := by
  obtain ⟨first, rest, rfl, hf, -⟩ := isBlock_iff.1 h
  -- The first line begins with a letter, so that only the last one can lose blanks.
  obtain ⟨c, cs, rfl, hc⟩ := isAlpha_of_isTrailer hf
  have hs : trimStart (c :: cs) = c :: cs := by
    rw [trimStart_eq_self_iff]
    rintro _ ⟨⟩
    exact not_isBlank_of_isAlpha hc
  rw [trimEnds, List.modifyHead_cons, hs]
  rcases List.eq_nil_or_concat ((c :: cs) :: rest) with hn | ⟨front, last, hl⟩
  · cases hn
  · rw [hl, List.concat_eq_append, List.modifyLast_concat, List.any_append, List.any_append,
      List.any_cons, List.any_cons, isBreaking_trimEnd]

lemma IsLooseBlock.isBlock_iff (h : IsLooseBlock paragraph) :
    isBlock paragraph = true ↔ IsSpaced paragraph := by
  obtain ⟨first, rest, rfl, hf, hr⟩ := h
  have hblock : isBlock (first :: rest) = true ↔
      isTrailer first = true ∧ ∀ line ∈ rest, isTrailer line = true ∨ isIndented line = true := by
    simp [isBlock]
  rw [hblock, IsSpaced, List.forall_mem_cons]
  constructor
  · rintro ⟨hft, hrt⟩
    refine ⟨fun _ => hft, fun line hl hb => (hrt line hl).resolve_right fun hi => ?_⟩
    rw [isIndented_of_isBreaking hb] at hi
    cases hi
  · rintro ⟨hft, hrt⟩
    refine ⟨hf.elim id hft, fun line hl => ?_⟩
    rcases hr line hl with ht | hb | hi
    · exact .inl ht
    · exact .inl (hrt line hl hb)
    · exact .inr hi

end Trailer

namespace Message

def hasBang (message : Message) : Bool :=
  (Header.parse? (trimEnd message.header.toList)).any (·.bang)

def lastParagraph (message : Message) : List (List Char) :=
  Trailer.lastParagraph (message.below.map String.toList)

/-- What a message makes of a last paragraph that could be a footer with breaking changes. -/
structure JudgesBreaking (message : Message) : Prop where
  footer_of_isSpaced : Trailer.IsSpaced message.lastParagraph →
    message.footerStart = some (message.lines.length - message.lastParagraph.length) ∧
      heldLines message.footer = trimEnds message.lastParagraph
  no_footer : ¬ Trailer.IsSpaced message.lastParagraph →
    message.footerStart = none ∧ message.footer = none
  breaking_iff : message.breaking = true ↔ message.hasBang = true ∨
    Trailer.IsSpaced message.lastParagraph ∧
      ∃ line ∈ message.lastParagraph, Trailer.isBreaking line = true
  announced : message.breaking = true →
    message.hasBang = true ∨ ∃ line ∈ message.lastParagraph, Trailer.Announces line
  -- one announcement has a colon without a value behind a blank, or all have a number sign
  unnoticed_iff : message.breaking = false ∧
      (message.hasBang = true ∨ ∃ line ∈ message.lastParagraph, Trailer.Announces line) ↔
    message.hasBang = false ∧ (∃ line ∈ message.lastParagraph, Trailer.Announces line) ∧
      (¬ Trailer.IsSpaced message.lastParagraph ∨
        ∀ line ∈ message.lastParagraph, Trailer.Announces line → Trailer.AnnouncesByNumber line)

lemma any_isBreaking_heldLines (part : Option (List Char)) :
    part.any (fun text => (Text.lines text).any Trailer.isBreaking) =
      (heldLines (part.map String.ofList)).any Trailer.isBreaking := by
  cases part with
  | none => rfl
  | some text =>
    rw [heldLines, Option.map_some, Option.map_some, String.toList_ofList]
    exact (Trailer.any_isBreaking_nonblank _).symm

lemma breaking_ofLines (raw : String) (first : List Char) (below : List (List Char)) :
    (ofLines raw first below).breaking = ((ofLines raw first below).hasBang ||
      (heldLines (ofLines raw first below).footer).any Trailer.isBreaking) := by
  have hb : (ofLines raw first below).hasBang = (Header.parse? (trimEnd first)).any (·.bang) := by
    rw [hasBang, ofLines, String.toList_ofList]
  rw [hb, ofLines, any_isBreaking_heldLines]

lemma lastParagraph_ofLines (raw : String) (first : List Char) (below : List (List Char)) :
    (ofLines raw first below).lastParagraph = Trailer.lastParagraph below := by
  rw [lastParagraph, ofLines, List.map_map]
  simp [Function.comp_def]

section

variable {raw : String} {first : List Char} {below : List (List Char)}

lemma footer_of_isBlock (hc : ∀ line ∈ below, IsCleanLine line)
    (h : Trailer.isBlock (Trailer.lastParagraph below) = true) :
    (ofLines raw first below).footerStart =
        some ((first :: below).length - (Trailer.lastParagraph below).length) ∧
      heldLines (ofLines raw first below).footer = trimEnds (Trailer.lastParagraph below) := by
  have ha := linesAboveFooter?_eq_some_iff.2 ⟨h, rfl⟩
  obtain ⟨above, block, rfl, hblock, hlength, -, hnonblank, -⟩ :=
    exists_append_of_linesAboveFooter? ha
  rw [← hlength] at ha
  obtain ⟨hstart, hfooter, -⟩ := parts_of_some raw ha
  rw [hblock, hstart, hfooter, heldLines_block? fun line hl => hc line (List.mem_append_right _ hl),
    nonblank_eq_self hnonblank, List.length_cons, List.length_append]
  exact ⟨congrArg some (by omega), rfl⟩

lemma footer_of_not_isBlock (h : ¬ Trailer.isBlock (Trailer.lastParagraph below) = true) :
    (ofLines raw first below).footerStart = none ∧ (ofLines raw first below).footer = none := by
  have ha : linesAboveFooter? below = none := if_neg h
  obtain ⟨hstart, hfooter, -⟩ := parts_of_none raw ha
  exact ⟨hstart, hfooter⟩

lemma breaking_ofLines_iff (raw : String) (first : List Char)
    (hc : ∀ line ∈ below, IsCleanLine line) :
    (ofLines raw first below).breaking = true ↔ (ofLines raw first below).hasBang = true ∨
      Trailer.isBlock (Trailer.lastParagraph below) = true ∧
        ∃ line ∈ Trailer.lastParagraph below, Trailer.isBreaking line = true := by
  rw [breaking_ofLines, Bool.or_eq_true]
  refine or_congr_right ?_
  by_cases h : Trailer.isBlock (Trailer.lastParagraph below) = true
  · obtain ⟨-, hf⟩ := footer_of_isBlock hc h
    rw [hf, Trailer.any_isBreaking_trimEnds h, List.any_eq_true, and_iff_right h]
  · obtain ⟨-, hf⟩ := footer_of_not_isBlock h
    rw [hf]
    simp [heldLines, h]

end

lemma unnoticed_iff_of_breaking_iff {message : Message}
    (h : message.breaking = true ↔ message.hasBang = true ∨
      Trailer.IsSpaced message.lastParagraph ∧
        ∃ line ∈ message.lastParagraph, Trailer.isBreaking line = true) :
    message.breaking = false ∧
        (message.hasBang = true ∨ ∃ line ∈ message.lastParagraph, Trailer.Announces line) ↔
      message.hasBang = false ∧ (∃ line ∈ message.lastParagraph, Trailer.Announces line) ∧
        (¬ Trailer.IsSpaced message.lastParagraph ∨
          ∀ line ∈ message.lastParagraph, Trailer.Announces line →
            Trailer.AnnouncesByNumber line) := by
  rw [Trailer.forall_announcesByNumber_iff, ← Bool.not_eq_true, h, not_or, not_and_or,
    ← Bool.not_eq_true]
  constructor
  · rintro ⟨⟨hb, hs⟩, ha⟩
    exact ⟨hb, ha.resolve_left hb, hs⟩
  · rintro ⟨hb, ha, hs⟩
    exact ⟨⟨hb, hs⟩, .inr ha⟩

/-- A last paragraph that could be a footer is one just in case a value stands behind each colon of
a breaking change. The message is then breaking if it has the exclamation mark or such a breaking
change, and otherwise if it has the exclamation mark. -/
theorem parse?_judgesBreaking (raw : String) (message : Message) (h : parse? raw = some message)
    (hl : Trailer.IsLooseBlock message.lastParagraph) : message.JudgesBreaking := by
  obtain ⟨first, below, hclean, rfl⟩ := parse?_eq_some_iff.1 h
  have hc : ∀ line ∈ below, IsCleanLine line := fun line hm =>
    isCleanLine_of_mem_cleanLines (hclean ▸ List.mem_cons_of_mem _ hm)
  have hblock := hl.isBlock_iff
  have hbreaking := breaking_ofLines_iff raw first hc
  rw [← lastParagraph_ofLines raw first] at hbreaking
  rw [hblock] at hbreaking
  have hlines : (ofLines raw first below).lines.length = (first :: below).length := by
    rw [lines, ofLines, List.length_cons, List.length_map, List.length_cons]
  refine ⟨fun hs => ?_, fun hs => ?_, hbreaking, fun hb => ?_, ?_⟩
  · rw [hlines]
    rw [← hblock] at hs
    rw [lastParagraph_ofLines] at hs ⊢
    exact footer_of_isBlock hc hs
  · rw [← hblock, lastParagraph_ofLines] at hs
    exact footer_of_not_isBlock hs
  · refine (hbreaking.1 hb).imp_right ?_
    rintro ⟨-, line, hm, hline⟩
    exact ⟨line, hm, Trailer.announces_iff.2 (.inl hline)⟩
  · exact unnoticed_iff_of_breaking_iff hbreaking

def retired : String := "feat: n\n\nBREAKING-CHANGE: use v2\n\tfor all calls\nBREAKING CHANGE #12"

def retiredBelow : List (List Char) :=
  [[], "BREAKING-CHANGE: use v2".toList, "\tfor all calls".toList, "BREAKING CHANGE #12".toList]

theorem parse?_judgesBreaking_retired :
    ∃ message, parse? retired = some message ∧ Trailer.IsLooseBlock message.lastParagraph ∧
      message.JudgesBreaking ∧ Trailer.IsSpaced message.lastParagraph ∧ message.hasBang = false ∧
      message.breaking = true := by
  have hp : parse? retired = some (.ofLines retired "feat: n".toList retiredBelow) := by
    decide +kernel
  have hlast := lastParagraph_ofLines retired "feat: n".toList retiredBelow
  have hloose :
      Trailer.IsLooseBlock (ofLines retired "feat: n".toList retiredBelow).lastParagraph :=
    ⟨_, _, hlast, .inl (by decide +kernel), by decide +kernel⟩
  have hspaced := hloose.isBlock_iff.1 (hlast ▸ by decide +kernel)
  exact ⟨_, hp, hloose, parse?_judgesBreaking retired _ hp hloose, hspaced, by decide +kernel,
    by decide +kernel⟩

def HidesBreaking (message : Message) : Prop :=
  (Header.parse? (trimEnd message.header.toList)).isSome = true ∧
    Trailer.IsLooseBlock message.lastParagraph ∧
    (∃ line ∈ message.lastParagraph, Trailer.Announces line) ∧ message.breaking = false

/-- With a number sign the footer is found and not the breaking change, and with a colon alone not
even the footer. -/
theorem exists_parse?_hidesBreaking :
    (∃ message, parse? "feat: n\n\nBREAKING CHANGE #12" = some message ∧
      message.HidesBreaking ∧ message.footer = some "BREAKING CHANGE #12") ∧
    ∃ message, parse? "feat: n\n\nBREAKING CHANGE:drop v1" = some message ∧
      message.HidesBreaking ∧ message.footer = none := by
  have hnumber : parse? "feat: n\n\nBREAKING CHANGE #12" = some (.ofLines
      "feat: n\n\nBREAKING CHANGE #12" "feat: n".toList [[], "BREAKING CHANGE #12".toList]) := by
    decide +kernel
  have hcolon : parse? "feat: n\n\nBREAKING CHANGE:drop v1" = some (.ofLines
      "feat: n\n\nBREAKING CHANGE:drop v1" "feat: n".toList
      [[], "BREAKING CHANGE:drop v1".toList]) := by
    decide +kernel
  have hn : Trailer.Announces "BREAKING CHANGE #12".toList :=
    Trailer.announces_iff.2 (.inr ⟨_, .head _, "12".toList, rfl, by decide +kernel⟩)
  have hc : Trailer.Announces "BREAKING CHANGE:drop v1".toList :=
    Trailer.announces_iff.2 (.inl (by decide +kernel))
  refine ⟨⟨_, hnumber, ⟨by decide +kernel, ?_, ⟨_, ?_, hn⟩, by decide +kernel⟩, by decide +kernel⟩,
    ⟨_, hcolon, ⟨by decide +kernel, ?_, ⟨_, ?_, hc⟩, by decide +kernel⟩, by decide +kernel⟩⟩
  · exact ⟨_, _, lastParagraph_ofLines _ _ _, .inl (by decide +kernel), by decide +kernel⟩
  · rw [lastParagraph_ofLines]
    exact .head _
  · exact ⟨_, _, lastParagraph_ofLines _ _ _, .inr (by decide +kernel), by decide +kernel⟩
  · rw [lastParagraph_ofLines]
    exact .head _

end Message

end CommitStyle
