import CommitStyle.Proofs.Message.Edits

/-!
# Headers and first lines

The lines above the header of a message are blank or comments. So the first line of the text that has
been trimmed is a comment, or it begins with the header.
-/

namespace CommitStyle

namespace Text

lemma isPrefix_joinLines_cons (line : List Char) (ls : List (List Char)) :
    line <+: joinLines (line :: ls) := by
  cases ls with
  | nil => exact (joinLines_singleton line).symm ▸ List.prefix_rfl
  | cons next rest =>
    rw [joinLines_cons line (List.cons_ne_nil _ _)]
    exact List.prefix_append _ _

lemma trimStart_joinLines_append {blanks ls : List (List Char)}
    (hb : ∀ blank ∈ blanks, isBlankLine blank = true) (hn : ls ≠ []) :
    trimStart (joinLines (blanks ++ ls)) = trimStart (joinLines ls) := by
  induction blanks with
  | nil => rfl
  | cons blank rest ih =>
    have hline : isBlankLine (blank ++ ['\n']) = true := by
      rw [isBlankLine_append, hb blank (.head _)]
      rfl
    rw [List.cons_append, joinLines_cons blank (List.append_ne_nil_of_right_ne_nil rest hn),
      List.append_cons, trimStart_append hline]
    exact ih fun other ho => hb other (.tail _ ho)

lemma isPrefix_trimStart_of_not_blank {line text : List Char} (h : isBlankLine line = false)
    (hp : line <+: text) : trimStart line <+: trimStart text := by
  obtain ⟨rest, rfl⟩ := hp
  rw [trimStart_append_of_not_blank h]
  exact List.prefix_append _ _

lemma isPrefix_firstLine_of_trimEnd {part text : List Char} (ht : trimEnd part = part)
    (hn : '\n' ∉ part) (hp : part <+: trimStart text) : part <+: firstLine text := by
  have hheld : IsHeld part :=
    ⟨hn, fun hr => absurd (trimEnd_eq_self_iff.1 ht _ hr) (by decide)⟩
  rw [← firstLine_trim]
  exact hheld.isPrefix_firstLine (trim_trim text) ((isPrefix_trimEnd_iff ht).2 hp)

end Text

namespace Message

open Text

lemma exists_line_of_dropOuterBlank_keep {ls below : List (List Char)} {first : List Char}
    (h : dropOuterBlank (keep ls) = first :: below) :
    ∃ blanks line rest, blanks ++ line :: rest = ls ∧
      (∀ blank ∈ blanks, isBlankLine blank = true) ∧ isBlankLine line = false ∧
      (isComment line = true ∨ dropEndWhile (· == '\r') line = first) := by
  have hblanks : ∀ blank ∈ ls.takeWhile isBlankLine, isBlankLine blank = true :=
    fun _ => List.mem_takeWhile_imp
  cases hd : ls.dropWhile isBlankLine with
  | nil =>
    have hnil : dropOuterBlank (keep ls) = [] := dropOuterBlank_eq_nil_iff.2 fun line =>
      isBlankLine_of_mem_keep (List.dropWhile_eq_nil_iff.1 hd)
    rw [hnil] at h
    cases h
  | cons line rest =>
    have hline : isBlankLine line = false := head?_dropWhile (congrArg List.head? hd)
    have hls : ls.takeWhile isBlankLine ++ line :: rest = ls := by
      rw [← hd, List.takeWhile_append_dropWhile]
    refine ⟨_, line, rest, hls, hblanks, hline, ?_⟩
    cases hc : isComment line with
    | true => exact .inl rfl
    | false =>
      right
      rw [← hls, keep_blanks_append hblanks,
        dropOuterBlank_blanks_append fun line => isBlankLine_of_mem_keep hblanks,
        keep_cons_of_not_comment hc] at h
      obtain ⟨more, hm⟩ := isPrefix_dropOuterBlank (dropEndWhile (· == '\r') line :: keep rest)
      rw [h, List.dropWhile_cons_of_neg (by simp [isBlankLine_dropEndWhile_return, hline])] at hm
      exact (List.cons.inj hm).1.symm

lemma isPrefix_firstLine_of_cleanLines {raw first : List Char} {below : List (List Char)}
    (h : cleanLines raw = first :: below) :
    ['#'] <+: firstLine raw ∨ trim first <+: firstLine raw := by
  have hmem : first ∈ cleanLines raw := h ▸ List.mem_cons_self
  have hclean : IsCleanLine first := isCleanLine_of_mem_cleanLines hmem
  have hblank : isBlankLine first = false :=
    not_isBlankLine_head?_cleanLines (congrArg List.head? h)
  rw [cleanLines_eq_dropOuterBlank] at h
  obtain ⟨blanks, line, rest, hls, hb, hline, hc⟩ := exists_line_of_dropOuterBlank_keep h
  have hp : trimStart line <+: trimStart raw := by
    rw [← joinLines_rawLines raw, ← hls, trimStart_joinLines_append hb (List.cons_ne_nil _ _)]
    exact isPrefix_trimStart_of_not_blank hline (isPrefix_joinLines_cons line rest)
  rcases hc with hc | rfl
  · left
    apply isPrefix_firstLine_of_trimEnd (by decide) (by decide)
    cases line with
    | nil => cases hc
    | cons c cs =>
      obtain rfl : c = '#' := by simpa [isComment] using hc
      have hs : trimStart ('#' :: cs) = '#' :: cs := List.dropWhile_cons_of_neg (by decide)
      rw [hs] at hp
      exact (List.prefix_append ['#'] cs).trans hp
  · right
    apply isPrefix_firstLine_of_trimEnd (trim_eq_self_iff.1 (trim_trim _)).2
    · exact fun hn => hclean.newline (trim_subset _ hn)
    · have hstart := isPrefix_trimStart_of_not_blank hblank (isPrefix_dropEndWhile _ line)
      exact (isPrefix_trimEnd _).trans (hstart.trans hp)

end Message

end CommitStyle
