import CommitStyle.Text
import Mathlib.Data.List.DropRight
import Mathlib.Data.List.TakeWhile
import Mathlib.Tactic.Common

/-!
# Lines and blanks

Lines without line feeds, put one under the other, are the pieces of the text that they make, and they
are its lines if none ends in a carriage return and the last one is not empty. Trimming leaves a text
as it is if and only if no blank stands at either end of it.
-/

namespace CommitStyle.Text

open Unicode (isBlank)

lemma eq_false_of_isBlank {p : Char → Bool} (h : ∀ span ∈ Unicode.whiteSpace,
    ∀ n ∈ List.range' span.1 (span.2 + 1 - span.1), p (Char.ofNat n) = false) {c : Char}
    (hb : isBlank c = true) : p c = false := by
  obtain ⟨span, hs, hl, hr⟩ := (Unicode.Spans.contains_iff _ _).1 hb
  have hn := h span hs c.toNat (List.mem_range'_1.2 ⟨hl, by omega⟩)
  rwa [Char.ofNat_toNat] at hn

/-! ### Splitting and joining -/

lemma splitBy_eq_splitOnP (p : Char → Bool) (text : List Char) :
    splitBy p text = text.splitOnP p := by
  induction text with
  | nil => simp [splitBy]
  | cons c rest ih =>
    rw [splitBy, List.splitOnP_cons_eq_if_modifyHead, ih]
    split
    · rfl
    · cases hs : rest.splitOnP p with
      | nil => exact (List.splitOnP_ne_nil p rest hs).elim
      | cons piece pieces => rfl

lemma eq_false_of_mem_splitBy {p : Char → Bool} {text piece : List Char}
    (h : piece ∈ splitBy p text) : ∀ c ∈ piece, p c = false := by
  induction text generalizing piece with
  | nil => simp_all [splitBy]
  | cons c rest ih =>
    rw [splitBy] at h
    split at h
    next =>
      rcases List.mem_cons.1 h with rfl | h
      · simp
      · exact ih h
    next hc =>
      split at h
      next => simp_all
      next first pieces hs =>
        rcases List.mem_cons.1 h with rfl | h
        · intro d hd
          rcases List.mem_cons.1 hd with rfl | hd
          · simpa using hc
          · exact ih (hs ▸ .head _) d hd
        · exact ih (hs ▸ .tail _ h)

lemma splitBy_ne_nil (p : Char → Bool) (text : List Char) : splitBy p text ≠ [] := by
  rw [splitBy_eq_splitOnP]
  exact List.splitOnP_ne_nil p text

lemma splitBy_eq_singleton {p : Char → Bool} {text : List Char} (h : ∀ c ∈ text, p c = false) :
    splitBy p text = [text] := by
  rw [splitBy_eq_splitOnP]
  exact List.splitOnP_eq_singleton h

lemma splitBy_append_cons (p : Char → Bool) {c : Char} (h : p c = true) (text rest : List Char) :
    splitBy p (text ++ c :: rest) = splitBy p text ++ splitBy p rest := by
  simp only [splitBy_eq_splitOnP]
  exact List.splitOnP_append_cons text rest h

/-- The lines of a text as they stand between its line feeds. -/
def rawLines (text : List Char) : List (List Char) := splitBy (· == '\n') text

lemma rawLines_ne_nil (text : List Char) : rawLines text ≠ [] := splitBy_ne_nil _ text

lemma newline_not_mem_of_mem_rawLines {text line : List Char} (h : line ∈ rawLines text) :
    '\n' ∉ line := by
  intro hn
  simpa using eq_false_of_mem_splitBy h '\n' hn

lemma joinLines_rawLines (text : List Char) : joinLines (rawLines text) = text := by
  rw [joinLines, rawLines, splitBy_eq_splitOnP, ← List.splitOn_eq_splitOnP]
  exact List.intercalate_splitOn '\n'

lemma rawLines_joinLines {ls : List (List Char)} (h : ∀ line ∈ ls, '\n' ∉ line) (hn : ls ≠ []) :
    rawLines (joinLines ls) = ls := by
  rw [joinLines, rawLines, splitBy_eq_splitOnP, ← List.splitOn_eq_splitOnP]
  exact List.splitOn_intercalate '\n' h hn

lemma rawLines_append_cons (text rest : List Char) :
    rawLines (text ++ '\n' :: rest) = rawLines text ++ rawLines rest :=
  splitBy_append_cons _ rfl text rest

lemma exists_rawLines_append {part : List Char} (h : '\n' ∉ part) (rest : List Char) :
    ∃ first others, rawLines (part ++ rest) = (part ++ first) :: others := by
  induction part with
  | nil =>
    obtain ⟨first, others, hr⟩ := List.exists_cons_of_ne_nil (rawLines_ne_nil rest)
    exact ⟨first, others, hr⟩
  | cons c part ih =>
    have hc : c ≠ '\n' := by
      rintro rfl
      exact h (.head _)
    obtain ⟨first, others, hr⟩ := ih fun hm => h (.tail _ hm)
    refine ⟨first, others, ?_⟩
    simp only [rawLines] at hr ⊢
    rw [List.cons_append, splitBy, hr]
    simp [hc]

@[simp] lemma joinLines_singleton (line : List Char) : joinLines [line] = line :=
  List.intercalate_singleton

lemma joinLines_cons (line : List Char) {ls : List (List Char)} (hn : ls ≠ []) :
    joinLines (line :: ls) = line ++ '\n' :: joinLines ls := by
  rw [joinLines, List.intercalate_cons_of_ne_nil hn, ← joinLines, List.append_assoc]
  rfl

lemma joinLines_append {ls others : List (List Char)} (hl : ls ≠ []) (ho : others ≠ []) :
    joinLines (ls ++ others) = joinLines ls ++ '\n' :: joinLines others := by
  induction ls with
  | nil => exact absurd rfl hl
  | cons line rest ih =>
    cases rest with
    | nil =>
      rw [joinLines_singleton]
      exact joinLines_cons line ho
    | cons next rest =>
      have hr : next :: rest ≠ [] := List.cons_ne_nil _ _
      rw [joinLines_cons line hr, List.append_assoc]
      change joinLines (line :: (next :: rest ++ others)) =
        line ++ '\n' :: (joinLines (next :: rest) ++ '\n' :: joinLines others)
      rw [← ih hr, joinLines_cons line (List.append_ne_nil_of_left_ne_nil hr others)]

lemma rawLines_of_newline_not_mem {line : List Char} (h : '\n' ∉ line) : rawLines line = [line] := by
  have hl : ∀ other ∈ [line], '\n' ∉ other := by simpa using h
  rw [← joinLines_singleton line, rawLines_joinLines hl (List.cons_ne_nil _ _), joinLines_singleton]

lemma isInfix_joinLines {ls : List (List Char)} {line : List Char} (h : line ∈ ls) :
    line <:+: joinLines ls := by
  induction ls with
  | nil => cases h
  | cons first rest ih =>
    cases rest with
    | nil =>
      obtain rfl := List.mem_singleton.1 h
      exact ⟨[], [], by simp⟩
    | cons next rest =>
      rw [joinLines_cons first (List.cons_ne_nil _ _)]
      rcases List.mem_cons.1 h with rfl | h
      · exact (List.prefix_append _ _).isInfix
      · exact (ih h).trans ((List.suffix_cons _ _).trans (List.suffix_append _ _)).isInfix

lemma isInfix_of_mem_rawLines {text line : List Char} (h : line ∈ rawLines text) :
    line <:+: text := by
  have hj := isInfix_joinLines h
  rwa [joinLines_rawLines] at hj

lemma mem_of_mem_rawLines {text line : List Char} {c : Char} (hl : line ∈ rawLines text)
    (hc : c ∈ line) : c ∈ text :=
  (isInfix_of_mem_rawLines hl).subset hc

lemma head?_joinLines {line : List Char} (hn : line ≠ []) (ls : List (List Char)) :
    (joinLines (line :: ls)).head? = line.head? := by
  cases ls with
  | nil => rw [joinLines_singleton]
  | cons next rest =>
    rw [joinLines_cons line (List.cons_ne_nil _ _)]
    cases line with
    | nil => exact absurd rfl hn
    | cons c cs => rfl

lemma getLast?_joinLines_of_suffix {ls others : List (List Char)} (h : others <:+ ls)
    (hn : joinLines others ≠ []) : (joinLines ls).getLast? = (joinLines others).getLast? := by
  have ho : others ≠ [] := by
    rintro rfl
    exact hn rfl
  obtain ⟨above, rfl⟩ := h
  cases above with
  | nil => rfl
  | cons line rest =>
    rw [joinLines_append (List.cons_ne_nil _ _) ho, List.getLast?_append, List.getLast?_cons,
      List.getLast?_eq_some_getLast hn]
    rfl

lemma endLines_cons (line : List Char) {ls : List (List Char)} (hn : ls ≠ []) :
    endLines (line :: ls) = dropReturn line :: endLines ls := by
  cases ls with
  | nil => exact absurd rfl hn
  | cons next rest => simp [endLines]

lemma dropReturn_concat (line : List Char) : dropReturn (line ++ ['\r']) = line := by
  simp [dropReturn]

lemma dropReturn_of_not_mem {line : List Char} (h : '\r' ∉ line) : dropReturn line = line :=
  if_neg fun hl => h (List.mem_of_getLast? hl)

lemma eq_dropReturn_or (line : List Char) :
    line = dropReturn line ∨ line = dropReturn line ++ ['\r'] := by
  by_cases h : line.getLast? = some '\r'
  · obtain ⟨front, rfl⟩ := List.getLast?_eq_some_iff.1 h
    right
    rw [dropReturn_concat]
  · left
    exact (if_neg h).symm

lemma isPrefix_dropReturn (line : List Char) : dropReturn line <+: line := by
  rcases eq_dropReturn_or line with h | h
  · exact h ▸ List.prefix_rfl
  · exact ⟨['\r'], h.symm⟩

lemma exists_isPrefix_of_mem_endLines {ls : List (List Char)} {line : List Char}
    (h : line ∈ endLines ls) : ∃ raw ∈ ls, line <+: raw := by
  induction ls with
  | nil => cases h
  | cons first rest ih =>
    by_cases hn : rest = []
    · subst hn
      have hf : line = first := by
        cases first with
        | nil => cases h
        | cons c cs => exact List.mem_singleton.1 h
      exact ⟨first, .head _, hf ▸ List.prefix_rfl⟩
    · rw [endLines_cons first hn, List.mem_cons] at h
      rcases h with rfl | h
      · exact ⟨first, .head _, isPrefix_dropReturn first⟩
      · obtain ⟨raw, hr, hp⟩ := ih h
        exact ⟨raw, .tail _ hr, hp⟩

lemma isInfix_of_mem_lines {text line : List Char} (h : line ∈ lines text) : line <:+: text := by
  obtain ⟨raw, hr, hp⟩ := exists_isPrefix_of_mem_endLines h
  exact hp.isInfix.trans (isInfix_of_mem_rawLines hr)

lemma endLines_eq_self {ls : List (List Char)} (hr : ∀ line ∈ ls, line.getLast? ≠ some '\r')
    (hl : ∀ line, ls.getLast? = some line → line ≠ []) : endLines ls = ls := by
  induction ls with
  | nil => rfl
  | cons line rest ih =>
    cases rest with
    | nil =>
      have hn : line ≠ [] := hl line rfl
      simp [endLines, hn]
    | cons next rest =>
      have hd : dropReturn line = line := if_neg (hr line (.head _))
      have hrest : endLines (next :: rest) = next :: rest :=
        ih (fun other ho => hr other (.tail _ ho)) fun other ho => hl other (by simpa using ho)
      rw [endLines, hd, hrest]
      simp

lemma lines_joinLines {ls : List (List Char)} (hn : ls ≠ []) (hf : ∀ line ∈ ls, '\n' ∉ line)
    (hr : ∀ line ∈ ls, line.getLast? ≠ some '\r')
    (hl : ∀ line, ls.getLast? = some line → line ≠ []) : lines (joinLines ls) = ls := by
  change endLines (rawLines (joinLines ls)) = ls
  rw [rawLines_joinLines hf hn, endLines_eq_self hr hl]

/-! ### Trimming -/

section DropWhile

variable {α : Type} {p : α → Bool}

lemma dropWhile_eq_self_iff_head? {xs : List α} :
    xs.dropWhile p = xs ↔ ∀ x, xs.head? = some x → p x = false := by
  cases xs with
  | nil => simp
  | cons x rest =>
    cases hp : p x with
    | false => simp [hp]
    | true =>
      have hlt : (rest.dropWhile p).length < (x :: rest).length :=
        Nat.lt_succ_of_le (List.dropWhile_suffix p).length_le
      have hne : rest.dropWhile p ≠ x :: rest := fun h => by
        rw [h] at hlt
        exact Nat.lt_irrefl _ hlt
      simp [hp, hne]

lemma head?_dropWhile {xs : List α} {x : α} (h : (xs.dropWhile p).head? = some x) : p x = false :=
  dropWhile_eq_self_iff_head?.1 (List.dropWhile_idempotent p xs) x h

lemma filter_dropWhile {q : α → Bool} (h : ∀ x, p x = true → q x = false) (xs : List α) :
    (xs.dropWhile p).filter q = xs.filter q := by
  have ht : (xs.takeWhile p).filter q = [] :=
    List.filter_eq_nil_iff.2 fun x hx => by simp [h x (List.mem_takeWhile_imp hx)]
  conv_rhs => rw [← List.takeWhile_append_dropWhile (p := p) (l := xs), List.filter_append, ht,
    List.nil_append]

lemma dropWhile_append_eq {xs ys : List α} (hx : ∀ x ∈ xs, p x = true)
    (hy : ∀ y, ys.head? = some y → p y = false) : (xs ++ ys).dropWhile p = ys := by
  rw [List.dropWhile_append_of_pos hx, dropWhile_eq_self_iff_head?.2 hy]

lemma takeWhile_append_eq {xs ys : List α} (hx : ∀ x ∈ xs, p x = true)
    (hy : ∀ y, ys.head? = some y → p y = false) : (xs ++ ys).takeWhile p = xs := by
  rw [List.takeWhile_append_of_pos hx]
  cases ys with
  | nil => simp
  | cons y rest => simp [hy y rfl]

end DropWhile

lemma dropEndWhile_eq_self_iff {p : Char → Bool} {text : List Char} :
    dropEndWhile p text = text ↔ ∀ c, text.getLast? = some c → p c = false := by
  rw [dropEndWhile, List.reverse_eq_iff, dropWhile_eq_self_iff_head?, List.head?_reverse]

lemma isPrefix_dropEndWhile (p : Char → Bool) (text : List Char) : dropEndWhile p text <+: text :=
  List.rdropWhile_prefix p text

lemma getLast?_dropEndWhile {p : Char → Bool} {text : List Char} {c : Char}
    (h : (dropEndWhile p text).getLast? = some c) : p c = false := by
  have hid : dropEndWhile p (dropEndWhile p text) = dropEndWhile p text :=
    List.rdropWhile_idempotent p text
  exact dropEndWhile_eq_self_iff.1 hid c h

lemma dropEndWhile_concat {p : Char → Bool} {c : Char} (hc : p c = true) (text : List Char) :
    dropEndWhile p (text ++ [c]) = dropEndWhile p text :=
  List.rdropWhile_concat_pos p text c hc

lemma trimStart_eq_self_iff {text : List Char} :
    trimStart text = text ↔ ∀ c, text.head? = some c → isBlank c = false :=
  dropWhile_eq_self_iff_head?

lemma trimEnd_eq_self_iff {text : List Char} :
    trimEnd text = text ↔ ∀ c, text.getLast? = some c → isBlank c = false :=
  dropEndWhile_eq_self_iff

lemma isPrefix_trimEnd (text : List Char) : trimEnd text <+: text :=
  isPrefix_dropEndWhile isBlank text

lemma trim_subset (text : List Char) : trim text ⊆ text := fun _ h =>
  (List.dropWhile_suffix isBlank).subset ((isPrefix_trimEnd (trimStart text)).subset h)

lemma filter_trim {p : Char → Bool} (h : ∀ c, isBlank c = true → p c = false) (text : List Char) :
    (trim text).filter p = text.filter p := by
  rw [trim, trimEnd, dropEndWhile, List.filter_reverse, filter_dropWhile h, ← List.filter_reverse,
    List.reverse_reverse, trimStart, filter_dropWhile h]

lemma trim_eq_self_iff {text : List Char} :
    trim text = text ↔ trimStart text = text ∧ trimEnd text = text := by
  constructor
  · intro h
    have hs : trimStart text = text := by
      have hle := (isPrefix_trimEnd (trimStart text)).length_le
      rw [← trim, h] at hle
      exact (List.dropWhile_suffix isBlank).eq_of_length_le hle
    rw [trim, hs] at h
    exact ⟨hs, h⟩
  · rintro ⟨hs, he⟩
    rw [trim, hs, he]

lemma trimStart_append {blanks : List Char} (hb : isBlankLine blanks = true) (text : List Char) :
    trimStart (blanks ++ text) = trimStart text :=
  List.dropWhile_append_of_pos (List.all_eq_true.1 hb)

lemma trimEnd_append {blanks : List Char} (hb : isBlankLine blanks = true) (text : List Char) :
    trimEnd (text ++ blanks) = trimEnd text := by
  have hr : ∀ c ∈ blanks.reverse, isBlank c = true := by simpa [isBlankLine] using hb
  rw [trimEnd, trimEnd, dropEndWhile, dropEndWhile, List.reverse_append,
    List.dropWhile_append_of_pos hr]

lemma trim_append_append {before text after : List Char} (hb : isBlankLine before = true)
    (ht : trim text = text) (ha : isBlankLine after = true) (hn : text ≠ []) :
    trim (before ++ text ++ after) = text := by
  obtain ⟨hs, he⟩ := trim_eq_self_iff.1 ht
  rw [trim, List.append_assoc, trimStart_append hb]
  have hs' : trimStart (text ++ after) = text ++ after := by
    rw [trimStart_eq_self_iff] at hs ⊢
    cases text with
    | nil => exact absurd rfl hn
    | cons c rest => exact hs
  rw [hs', trimEnd_append ha, he]

lemma isBlankLine_of_mem_rawLines {text line : List Char} (h : isBlankLine text = true)
    (hl : line ∈ rawLines text) : isBlankLine line = true :=
  List.all_eq_true.2 fun c hc => List.all_eq_true.1 h c (mem_of_mem_rawLines hl hc)

lemma isBlankLine_append (text rest : List Char) :
    isBlankLine (text ++ rest) = (isBlankLine text && isBlankLine rest) := List.all_append

@[simp] lemma isBlankLine_dropReturn (line : List Char) :
    isBlankLine (dropReturn line) = isBlankLine line := by
  rcases eq_dropReturn_or line with h | h
  · rw [← h]
  · conv_rhs => rw [h, isBlankLine_append]
    exact (Bool.and_true _).symm

lemma isBlankLine_dropEndWhile {p : Char → Bool} (hp : ∀ c, p c = true → isBlank c = true)
    (text : List Char) : isBlankLine (dropEndWhile p text) = isBlankLine text := by
  have ht : isBlankLine text =
      (isBlankLine (dropEndWhile p text) && (text.reverse.takeWhile p).all isBlank) := by
    conv_lhs => rw [isBlankLine, ← List.all_reverse, ← List.takeWhile_append_dropWhile (p := p)
      (l := text.reverse), List.all_append, Bool.and_comm]
    rw [isBlankLine, dropEndWhile, List.all_reverse]
  have hw : (text.reverse.takeWhile p).all isBlank = true :=
    List.all_eq_true.2 fun c hc => hp c (List.mem_takeWhile_imp hc)
  rw [ht, hw, Bool.and_true]

@[simp] lemma isBlankLine_trimStart (line : List Char) :
    isBlankLine (trimStart line) = isBlankLine line := by
  have h : isBlankLine line =
      ((line.takeWhile isBlank).all isBlank && isBlankLine (trimStart line)) := by
    rw [isBlankLine, isBlankLine, trimStart, ← List.all_append, List.takeWhile_append_dropWhile]
  have hw : (line.takeWhile isBlank).all isBlank = true :=
    List.all_eq_true.2 fun c => List.mem_takeWhile_imp
  rw [h, hw, Bool.true_and]

@[simp] lemma isBlankLine_trimEnd (line : List Char) :
    isBlankLine (trimEnd line) = isBlankLine line :=
  isBlankLine_dropEndWhile (fun _ h => h) line

lemma trimStart_append_of_not_blank {line : List Char} (h : isBlankLine line = false)
    (rest : List Char) :
    trimStart (line ++ rest) = trimStart line ++ rest := by
  have hn : trimStart line ≠ [] := by
    intro hn
    rw [← isBlankLine_trimStart, hn] at h
    cases h
  exact List.dropWhile_append.trans (if_neg fun he => hn (List.isEmpty_iff.1 he))

lemma trimEnd_append_of_not_blank {line : List Char} (h : isBlankLine line = false)
    (front : List Char) :
    trimEnd (front ++ line) = front ++ trimEnd line := by
  have hr : isBlankLine line.reverse = false := by rwa [isBlankLine, List.all_reverse]
  have ht := trimStart_append_of_not_blank hr front.reverse
  rw [trimEnd, dropEndWhile, List.reverse_append, ← trimStart, ht, List.reverse_append,
    List.reverse_reverse]
  rfl

lemma trim_append {line blanks : List Char} (h : isBlankLine line = false)
    (hb : isBlankLine blanks = true) : trim (line ++ blanks) = trim line := by
  rw [trim, trimStart_append_of_not_blank h, trimEnd_append hb, ← trim]

lemma trim_dropReturn {line : List Char} (h : isBlankLine line = false) :
    trim (dropReturn line) = trim line := by
  rcases eq_dropReturn_or line with hd | hd
  · rw [← hd]
  · conv_rhs => rw [hd]
    exact (trim_append ((isBlankLine_dropReturn line).trans h) (by decide)).symm

lemma dropReturn_trimStart {line : List Char} (h : isBlankLine line = false) :
    dropReturn (trimStart line) = trimStart (dropReturn line) := by
  rcases eq_dropReturn_or line with hd | hd
  · -- What is left of the line ends as the line does.
    have hl : line.takeWhile isBlank ++ trimStart line = line := List.takeWhile_append_dropWhile
    rcases eq_dropReturn_or (trimStart line) with hs | hs
    · rw [← hs, ← hd]
    · rw [hs, ← List.append_assoc] at hl
      rw [← hl, dropReturn_concat] at hd
      exact absurd (congrArg List.length hd) (by simp)
  · have hf : isBlankLine (dropReturn line) = false := (isBlankLine_dropReturn line).trans h
    conv_lhs => rw [hd, trimStart_append_of_not_blank hf, dropReturn_concat]

lemma isPrefix_trimEnd_iff {part text : List Char} (h : trimEnd part = part) :
    part <+: trimEnd text ↔ part <+: text := by
  refine ⟨fun hp => hp.trans (isPrefix_trimEnd text), ?_⟩
  rintro ⟨rest, rfl⟩
  cases hr : isBlankLine rest with
  | true =>
    rw [trimEnd_append hr]
    exact ⟨[], (List.append_nil part).trans h.symm⟩
  | false =>
    rw [trimEnd_append_of_not_blank hr]
    exact List.prefix_append _ _

lemma not_isBlankLine_of_getLast? {line : List Char} {c : Char} (h : line.getLast? = some c)
    (hc : isBlank c = false) : isBlankLine line = false := by
  rw [isBlankLine, List.all_eq_false]
  exact ⟨c, List.mem_of_getLast? h, by rw [hc]; decide⟩

lemma not_isBlankLine_of_trimEnd {text : List Char} (ht : trimEnd text = text) (hn : text ≠ []) :
    isBlankLine text = false :=
  not_isBlankLine_of_getLast? (List.getLast?_eq_some_getLast hn)
    (trimEnd_eq_self_iff.1 ht _ (List.getLast?_eq_some_getLast hn))

lemma not_isBlankLine_of_getLast?_rawLines {text line : List Char} (ht : trimEnd text = text)
    (hn : text ≠ []) (hl : (rawLines text).getLast? = some line) : isBlankLine line = false := by
  obtain ⟨above, ha⟩ := List.getLast?_eq_some_iff.1 hl
  have htext : text = joinLines (above ++ [line]) := by rw [← ha, joinLines_rawLines]
  have hlast := trimEnd_eq_self_iff.1 ht
  cases above with
  | nil =>
    rw [List.nil_append, joinLines_singleton] at htext
    exact htext ▸ not_isBlankLine_of_trimEnd ht hn
  | cons first rest =>
    rw [joinLines_append (List.cons_ne_nil _ _) (List.cons_ne_nil _ _), joinLines_singleton]
      at htext
    have hl? : text.getLast? = line.getLast?.or (some '\n') := by
      rw [htext, List.getLast?_append, List.getLast?_cons]
      cases line.getLast? <;> rfl
    cases hc : line.getLast? with
    | none =>
      rw [hc] at hl?
      exact absurd (hlast _ hl?) (by decide)
    | some c =>
      rw [hc] at hl?
      exact not_isBlankLine_of_getLast? hc (hlast _ hl?)

/-! ### First lines -/

section FirstLine

variable {text line part : List Char}

lemma trim_trim (text : List Char) : trim (trim text) = trim text := by
  have he : trimEnd (trim text) = trim text :=
    trimEnd_eq_self_iff.2 fun c hc => getLast?_dropEndWhile hc
  refine trim_eq_self_iff.2 ⟨trimStart_eq_self_iff.2 fun c hc => ?_, he⟩
  -- The first character of what is left was the first one before the end was trimmed.
  obtain ⟨rest, hr⟩ := isPrefix_trimEnd (trimStart text)
  have hs : (trimStart text).head? = some c := by
    rw [← hr, List.head?_append, ← trim, hc, Option.some_or]
  exact head?_dropWhile hs

lemma firstLine_trim (text : List Char) : firstLine (trim text) = firstLine text := by
  rw [firstLine, firstLine, trim_trim]

lemma headD_endLines (line : List Char) (others : List (List Char)) :
    (endLines (line :: others)).headD [] = if others = [] then line else dropReturn line := by
  cases others with
  | nil => cases line <;> rfl
  | cons next rest => rfl

lemma firstLine_eq_of_rawLines {others : List (List Char)} (ht : trim text = text)
    (hr : rawLines text = line :: others) :
    firstLine text = if others = [] then line else dropReturn line := by
  rw [firstLine, ht, ← headD_endLines, ← hr]
  rfl

lemma firstLine_eq_self (ht : trim text = text) (hn : '\n' ∉ text) : firstLine text = text :=
  firstLine_eq_of_rawLines ht (rawLines_of_newline_not_mem hn)

/-- What a line holds whole: no line feed, and at its end no carriage return, which may belong to the
end of the line. -/
def IsHeld (part : List Char) : Prop := '\n' ∉ part ∧ part.getLast? ≠ some '\r'

lemma IsHeld.isPrefix_dropReturn (h : IsHeld part) (hp : part <+: line) :
    part <+: dropReturn line := by
  obtain ⟨rest, rfl⟩ := hp
  rcases List.eq_nil_or_concat rest with rfl | ⟨front, c, rfl⟩
  · have hd : dropReturn (part ++ []) = part := by rw [List.append_nil, dropReturn, if_neg h.2]
    exact hd.symm ▸ List.prefix_rfl
  · rcases eq_dropReturn_or (part ++ front.concat c) with he | he
    · rw [← he]
      exact List.prefix_append _ _
    · rw [List.concat_eq_append, ← List.append_assoc] at he ⊢
      obtain ⟨hd, -⟩ := List.append_inj' he rfl
      rw [← hd]
      exact List.prefix_append _ _

lemma IsHeld.isPrefix_firstLine (h : IsHeld part) (ht : trim text = text)
    (hp : part <+: text) : part <+: firstLine text := by
  obtain ⟨rest, rfl⟩ := hp
  obtain ⟨first, others, hr⟩ := exists_rawLines_append h.1 rest
  rw [firstLine_eq_of_rawLines ht hr]
  split
  next => exact List.prefix_append _ _
  next => exact h.isPrefix_dropReturn (List.prefix_append _ _)

lemma firstLine_of_newline_not_mem (h : '\n' ∉ line) : firstLine line = trim line := by
  rw [← firstLine_trim]
  exact firstLine_eq_self (trim_trim line) fun hm => h (trim_subset line hm)

lemma firstLine_append_cons (h : isBlankLine line = false) (hl : '\n' ∉ line) (below : List Char) :
    firstLine (line ++ '\n' :: below) =
      if isBlankLine below then trim line else trimStart (dropReturn line) := by
  rw [← firstLine_trim]
  split
  next hbelow =>
    have hb : isBlankLine ('\n' :: below) = true := hbelow
    rw [trim_append h hb, firstLine_trim, firstLine_of_newline_not_mem hl]
  next hbelow =>
    have htrim : trim (line ++ '\n' :: below) = trimStart line ++ '\n' :: trimEnd below := by
      rw [trim, trimStart_append_of_not_blank h, List.append_cons,
        trimEnd_append_of_not_blank (Bool.eq_false_iff.2 hbelow), ← List.append_cons]
    have hs : '\n' ∉ trimStart line := fun hm => hl ((List.dropWhile_suffix _).subset hm)
    have hraw := rawLines_append_cons (trimStart line) (trimEnd below)
    rw [rawLines_of_newline_not_mem hs, ← htrim, List.singleton_append] at hraw
    rw [firstLine_eq_of_rawLines (trim_trim _) hraw, if_neg (rawLines_ne_nil _),
      dropReturn_trimStart h]

lemma firstLine_append {ret : List Char} (ht : trim line = line) (hn : line ≠ [])
    (hl : '\n' ∉ line ++ ret) (hd : dropReturn (line ++ ret) = line) (hr : isBlankLine ret = true)
    (below : List Char) : firstLine (line ++ ret ++ '\n' :: below) = line := by
  obtain ⟨hs, he⟩ := trim_eq_self_iff.1 ht
  have hb : isBlankLine line = false := not_isBlankLine_of_trimEnd he hn
  have hb' : isBlankLine (line ++ ret) = false := by rw [isBlankLine_append, hb, Bool.false_and]
  rw [firstLine_append_cons hb' hl, trim_append hb hr, ht, hd, hs, ite_self]

lemma firstLine_append_newline (ht : trim line = line) (hn : line ≠ []) (hl : '\n' ∉ line)
    (below : List Char) : firstLine (line ++ '\n' :: below) = line := by
  have hd : dropReturn line = line := if_neg fun hr =>
    absurd (trimEnd_eq_self_iff.1 (trim_eq_self_iff.1 ht).2 _ hr) (by decide)
  rw [← List.append_nil line] at hl hd
  simpa using firstLine_append ht hn hl (by simpa using hd) rfl below

lemma firstLine_append_return (ht : trim line = line) (hn : line ≠ []) (hl : '\n' ∉ line)
    (below : List Char) : firstLine (line ++ '\r' :: '\n' :: below) = line := by
  have hr : '\n' ∉ line ++ ['\r'] := by simpa using hl
  have hf := firstLine_append ht hn hr (dropReturn_concat line) (by decide) below
  rwa [← List.append_cons] at hf

end FirstLine

/-! ### Parts of a text -/

lemma hasInfix_iff {part text : List Char} : hasInfix part text = true ↔ part <:+: text := by
  induction text with
  | nil => rw [hasInfix, List.isEmpty_iff, List.infix_nil]
  | cons c rest ih =>
    rw [hasInfix, Bool.or_eq_true, List.isPrefixOf_iff_prefix, ih, List.infix_cons_iff]

end CommitStyle.Text
