import CommitStyle.Casing
import CommitStyle.Proofs.Message.Parts
import Mathlib.Data.List.Basic

/-!
# Quoted spans and apostrophes

A quote is paired with the next one of its kind, so that nothing is dropped from a text if and only if
no quote occurs twice in it. To this scan an apostrophe is a single quote: where two of them stand in a
text that quotes nothing, what is between them is dropped.
-/

namespace CommitStyle.Casing

open Unicode (isAlphabetic isBlank isWord_of_isAlphabetic)
open Text (splitBy splitBy_eq_singleton splitBy_append_cons splitBy_ne_nil trim)

variable {quote c : Char} {text rest inside after : List Char}

lemma afterQuote?_append (h : quote ∉ inside) (after : List Char) :
    afterQuote? quote (inside ++ quote :: after) = some after := by
  induction inside with
  | nil => simp [afterQuote?]
  | cons c rest ih =>
    obtain ⟨hc, hr⟩ := List.ne_and_not_mem_of_not_mem_cons h
    rw [List.cons_append, afterQuote?, if_neg hc.symm, ih hr]

lemma afterQuote?_eq_none (h : quote ∉ text) : afterQuote? quote text = none := by
  induction text with
  | nil => rfl
  | cons c rest ih =>
    obtain ⟨hc, hr⟩ := List.ne_and_not_mem_of_not_mem_cons h
    rw [afterQuote?, if_neg hc.symm, ih hr]

lemma dropQuoted_nil : dropQuoted [] = [] := by rw [dropQuoted]

lemma dropQuoted_kept (h : isQuote c = true → c ∉ rest) :
    dropQuoted (c :: rest) = c :: dropQuoted rest := by
  rw [dropQuoted]
  split
  next hq =>
    split
    next after ha =>
      rw [afterQuote?_eq_none (h hq)] at ha
      cases ha
    next => rfl
  next => rfl

lemma dropQuoted_span (hq : isQuote quote = true) (hi : quote ∉ inside) :
    dropQuoted (quote :: (inside ++ quote :: after)) = dropQuoted after := by
  rw [dropQuoted, if_pos hq]
  split
  next other ha =>
    rw [afterQuote?_append hi] at ha
    cases ha
    rfl
  next ha =>
    rw [afterQuote?_append hi] at ha
    cases ha

@[elab_as_elim]
lemma quoted_induction {motive : List Char → Prop} (text : List Char) (nil : motive [])
    (kept : ∀ c rest, (isQuote c = true → c ∉ rest) → motive rest → motive (c :: rest))
    (span : ∀ quote inside after, isQuote quote = true → quote ∉ inside → motive after →
      motive (quote :: (inside ++ quote :: after))) : motive text := by
  induction hn : text.length using Nat.strong_induction_on generalizing text with
  | _ n ih =>
    subst hn
    cases text with
    | nil => exact nil
    | cons c rest =>
      by_cases hc : isQuote c = true ∧ c ∈ rest
      · obtain ⟨inside, after, rfl, hi⟩ := List.eq_append_cons_of_mem hc.2
        exact span c inside after hc.1 hi (ih _ (by simp; omega) after rfl)
      · exact kept c rest (fun hq hm => hc ⟨hq, hm⟩) (ih _ (by simp) rest rfl)

/-! ### What is dropped -/

lemma dropQuoted_sublist (text : List Char) : (dropQuoted text).Sublist text := by
  induction text using quoted_induction with
  | nil => rw [dropQuoted_nil]
  | kept c rest h ih =>
    rw [dropQuoted_kept h]
    exact ih.cons_cons c
  | span quote inside after hq hi ih =>
    rw [dropQuoted_span hq hi]
    exact ((ih.cons quote).trans (List.sublist_append_right inside _)).cons quote

lemma count_dropQuoted_le_one (hq : isQuote quote = true) (text : List Char) :
    (dropQuoted text).count quote ≤ 1 := by
  induction text using quoted_induction with
  | nil => simp [dropQuoted_nil]
  | kept c rest h ih =>
    rw [dropQuoted_kept h]
    by_cases hc : c = quote
    · subst hc
      have hn : c ∉ dropQuoted rest := fun hm => h hq ((dropQuoted_sublist rest).subset hm)
      rw [List.count_cons_self, List.count_eq_zero.2 hn]
    · rwa [List.count_cons_of_ne hc]
  | span _ inside after hs hi ih => rwa [dropQuoted_span hs hi]

lemma dropQuoted_eq_self (h : ∀ quote, isQuote quote = true → text.count quote ≤ 1) :
    dropQuoted text = text := by
  induction text using quoted_induction with
  | nil => exact dropQuoted_nil
  | kept c rest hc ih =>
    have hr : ∀ quote, isQuote quote = true → rest.count quote ≤ 1 := fun quote hq =>
      List.count_le_count_cons.trans (h quote hq)
    rw [dropQuoted_kept hc, ih hr]
  | span quote inside after hq hi ih =>
    have hle := h quote hq
    rw [List.count_cons_self, List.count_append, List.count_cons_self] at hle
    omega

lemma exists_span_of_ne (h : dropQuoted text ≠ text) :
    ∃ before quote inside after, isQuote quote = true ∧
      text = before ++ quote :: (inside ++ quote :: after) ∧
      dropQuoted text = before ++ dropQuoted after := by
  induction text using quoted_induction with
  | nil => exact absurd dropQuoted_nil h
  | kept c rest hc ih =>
    rw [dropQuoted_kept hc] at h ⊢
    obtain ⟨before, quote, inside, after, hq, rfl, hd⟩ := ih fun hr => h (congrArg (c :: ·) hr)
    exact ⟨c :: before, quote, inside, after, hq, rfl, congrArg (c :: ·) hd⟩
  | span quote inside after hq hi ih =>
    exact ⟨[], quote, inside, after, hq, rfl, dropQuoted_span hq hi⟩

lemma count_trim (hq : isQuote quote = true) (text : List Char) :
    (trim text).count quote = text.count quote := by
  have hb : ∀ c, isBlank c = true → (c == quote) = false := by
    intro c hb
    rw [beq_eq_false_iff_ne]
    rintro rfl
    have hn : isQuote c = false := Text.eq_false_of_isBlank (by decide) hb
    rw [hn] at hq
    cases hq
  rw [List.count_eq_length_filter, List.count_eq_length_filter, Text.filter_trim hb]

lemma stripQuoted_eq_trim_iff :
    stripQuoted text = trim text ↔ ∀ quote, isQuote quote = true → text.count quote ≤ 1 := by
  constructor
  · intro h quote hq
    rw [← count_trim hq, ← h, stripQuoted, count_trim hq]
    exact count_dropQuoted_le_one hq text
  · intro h
    rw [stripQuoted, dropQuoted_eq_self h]

lemma not_isAlphabetic_of_isBlank (h : isBlank c = true) : isAlphabetic c = false := by
  rw [Bool.eq_false_iff]
  intro ha
  rw [not_isBlank_of_isWord (isWord_of_isAlphabetic ha)] at h
  cases h

lemma filter_isAlphabetic_trim (text : List Char) :
    (trim text).filter isAlphabetic = text.filter isAlphabetic :=
  Text.filter_trim (fun _ => not_isAlphabetic_of_isBlank) text

/-! ### Apostrophes -/

/-- A text that quotes nothing: each single quote in it stands between two letters. -/
def IsUnquoted (text : List Char) : Prop :=
  '`' ∉ text ∧ '"' ∉ text ∧ ∀ i < text.length, text[i]? = some '\'' →
    text[i - 1]?.any isAlphabetic = true ∧ text[i + 1]?.any isAlphabetic = true

instance : Decidable (IsUnquoted text) := inferInstanceAs (Decidable (_ ∧ _ ∧ _))

/-- What is left of the pieces between single quotes if every second one is a quoted span. A quote that
only one piece follows has no partner. -/
def outside : List (List Char) → List Char
  | [] => []
  | [last] => last
  | [before, last] => before ++ '\'' :: last
  | before :: _ :: rest => before ++ outside rest

lemma outside_cons_cons (c : Char) (piece : List Char) (pieces : List (List Char)) :
    outside ((c :: piece) :: pieces) = c :: outside (piece :: pieces) := by
  match pieces with
  | [] | [_] | _ :: _ :: _ => rfl

lemma eq_apostrophe (hq : isQuote quote = true) (hb : quote ≠ '`') (hd : quote ≠ '"') :
    quote = '\'' := by
  simpa [isQuote, hb, hd] using hq

lemma splitBy_of_not_mem (h : quote ∉ text) : splitBy (· == quote) text = [text] := by
  refine splitBy_eq_singleton fun c hc => ?_
  rw [beq_eq_false_iff_ne]
  rintro rfl
  exact h hc

lemma splitBy_span (hi : quote ∉ inside) (after : List Char) :
    splitBy (· == quote) (quote :: (inside ++ quote :: after)) =
      [] :: inside :: splitBy (· == quote) after := by
  have hq : (quote == quote) = true := beq_self_eq_true quote
  rw [splitBy, if_pos hq, splitBy_append_cons (· == quote) hq, splitBy_of_not_mem hi]
  rfl

lemma dropQuoted_eq_outside (hb : '`' ∉ text) (hd : '"' ∉ text) :
    dropQuoted text = outside (splitBy (· == '\'') text) := by
  induction text using quoted_induction with
  | nil => exact dropQuoted_nil
  | kept c rest h ih =>
    obtain ⟨hcb, hb⟩ := List.ne_and_not_mem_of_not_mem_cons hb
    obtain ⟨hcd, hd⟩ := List.ne_and_not_mem_of_not_mem_cons hd
    rw [dropQuoted_kept h, ih hb hd, splitBy]
    by_cases hc : c = '\''
    · subst hc
      rw [splitBy_of_not_mem (h rfl)]
      rfl
    · rw [if_neg (by simpa using hc)]
      split
      next hs => simp [hs, outside]
      next piece pieces hs => rw [hs, outside_cons_cons]
  | span quote inside after hq hi ih =>
    obtain ⟨hqb, hb⟩ := List.ne_and_not_mem_of_not_mem_cons hb
    obtain ⟨hqd, hd⟩ := List.ne_and_not_mem_of_not_mem_cons hd
    obtain rfl : quote = '\'' := eq_apostrophe hq hqb.symm hqd.symm
    have hba : '`' ∉ after := fun hm => hb (by simp [hm])
    have hda : '"' ∉ after := fun hm => hd (by simp [hm])
    rw [dropQuoted_span hq hi, ih hba hda, splitBy_span hi]
    obtain ⟨piece, pieces, hs⟩ := List.exists_cons_of_ne_nil (splitBy_ne_nil (· == '\'') after)
    rw [hs]
    rfl

lemma IsUnquoted.letter_after {before : List Char} (h : IsUnquoted (before ++ '\'' :: after)) :
    ∃ c rest, after = c :: rest ∧ isAlphabetic c = true := by
  obtain ⟨-, -, hletters⟩ := h
  obtain ⟨-, hl⟩ := hletters before.length (by simp) (by simp)
  cases after with
  | nil => simp at hl
  | cons c rest => exact ⟨c, rest, rfl, by simpa [List.getElem?_append_right] using hl⟩

lemma IsUnquoted.countP_dropQuoted_lt (h : IsUnquoted text) (hn : dropQuoted text ≠ text) :
    (dropQuoted text).countP isAlphabetic < text.countP isAlphabetic := by
  obtain ⟨before, quote, inside, after, hq, rfl, hd⟩ := exists_span_of_ne hn
  have hb : quote ≠ '`' := fun he => h.1 (by simp [he])
  have hd' : quote ≠ '"' := fun he => h.2.1 (by simp [he])
  obtain rfl : quote = '\'' := eq_apostrophe hq hb hd'
  obtain ⟨c, rest, hc, hl⟩ := h.letter_after
  have hle : (dropQuoted after).countP isAlphabetic ≤ after.countP isAlphabetic :=
    (dropQuoted_sublist after).countP_le
  cases inside with
  | nil =>
    obtain ⟨rfl, -⟩ := List.cons.inj hc
    exact absurd hl (by decide +kernel)
  | cons first inside =>
    obtain ⟨rfl, -⟩ := List.cons.inj hc
    rw [hd]
    simp only [List.cons_append, List.countP_append, List.countP_cons, hl, if_true]
    omega

lemma IsUnquoted.count_le_one_iff (h : IsUnquoted text) :
    (∀ quote, isQuote quote = true → text.count quote ≤ 1) ↔ text.count '\'' ≤ 1 := by
  refine ⟨fun hall => hall '\'' rfl, fun hle quote hq => ?_⟩
  by_cases hb : quote = '`'
  · rw [hb, List.count_eq_zero.2 h.1]
    exact Nat.zero_le 1
  by_cases hd : quote = '"'
  · rw [hd, List.count_eq_zero.2 h.2.1]
    exact Nat.zero_le 1
  rwa [eq_apostrophe hq hb hd]

/-- A text that quotes nothing is seen as a whole, with all its letters, if and only if it has no more
than one apostrophe. Otherwise every second piece between its apostrophes is dropped. -/
theorem stripQuoted_of_apostrophes (text : List Char) (h : IsUnquoted text) :
    (stripQuoted text = trim text ↔ text.count '\'' ≤ 1) ∧
    ((stripQuoted text).filter isAlphabetic = text.filter isAlphabetic ↔ text.count '\'' ≤ 1) ∧
    stripQuoted text = trim (outside (splitBy (· == '\'') text)) := by
  have hcount := h.count_le_one_iff
  refine ⟨stripQuoted_eq_trim_iff.trans hcount, ⟨fun hf => hcount.1 ?_, fun hle => ?_⟩, ?_⟩
  · -- If all letters are seen, no span can have been dropped.
    by_contra hn
    rw [stripQuoted, filter_isAlphabetic_trim] at hf
    have hlt := h.countP_dropQuoted_lt fun he => hn fun quote hq =>
      he ▸ count_dropQuoted_le_one hq text
    rw [List.countP_eq_length_filter, List.countP_eq_length_filter, hf] at hlt
    exact Nat.lt_irrefl _ hlt
  · rw [stripQuoted_eq_trim_iff.2 (hcount.2 hle), filter_isAlphabetic_trim]
  · rw [stripQuoted, dropQuoted_eq_outside h.1 h.2.1]

theorem stripQuoted_of_apostrophes_thrice :
    IsUnquoted " it's Fine".toList ∧ stripQuoted " it's Fine".toList = "it's Fine".toList ∧
    IsUnquoted "don't say it's Broken, isn't it".toList ∧
      stripQuoted "don't say it's Broken, isn't it".toList = "dons Broken, isn't it".toList := by
  have hone : IsUnquoted " it's Fine".toList := by decide +kernel
  have hthree : IsUnquoted "don't say it's Broken, isn't it".toList := by decide +kernel
  obtain ⟨hkept, -⟩ := stripQuoted_of_apostrophes _ hone
  obtain ⟨-, -, hpieces⟩ := stripQuoted_of_apostrophes _ hthree
  exact ⟨hone, (hkept.2 (by decide)).trans (by decide +kernel), hthree,
    hpieces.trans (by decide +kernel)⟩

/-- Of a text with two apostrophes the uppercase letter between them is overlooked, which it is not if
there is one apostrophe alone. -/
theorem stripQuoted_ne_trim :
    IsUnquoted "it's Broken, isn't it".toList ∧
    stripQuoted "it's Broken, isn't it".toList ≠ trim "it's Broken, isn't it".toList ∧
    lower.fits "it's Broken, isn't it".toList = true ∧
    lower.shapes (trim "it's Broken, isn't it".toList) = false ∧
    lower.fits "it's Broken".toList = false := by
  decide +kernel

end CommitStyle.Casing
