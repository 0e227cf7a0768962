import CommitStyle.Regex.Extent
import Mathlib.Data.List.Basic
import Mathlib.Data.List.Pairwise
import Mathlib.Tactic.Common

/-!
# Sets of characters as spans

Between two cuts of a set all characters are in the set or none is. So the spans that are found by asking
for one character after each cut hold the code points of the members and nothing else.
-/

namespace CommitStyle

namespace Unicode

/-- What is told of characters changes from one code point to the next only at a cut. -/
def Steady {β : Type} (stops : List Nat) (f : Char → β) : Prop :=
  ∀ ⦃c d : Char⦄, d.toNat = c.toNat + 1 → d.toNat ∉ stops → f c = f d

variable {α β γ : Type} {stops others : List Nat} {f : Char → β} {g : Char → γ}

lemma Steady.mono (h : Steady stops f) (hs : stops ⊆ others) : Steady others f :=
  fun _ _ hd hc => h hd fun hm => hc (hs hm)

lemma Steady.comp (h : Steady stops f) (k : β → α) : Steady stops fun c => k (f c) :=
  fun _ _ hd hc => congrArg k (h hd hc)

lemma Steady.both (hf : Steady stops f) (hg : Steady others g) :
    Steady (stops ++ others) fun c => (f c, g c) := fun _ _ hd hc => by
  rw [List.mem_append, not_or] at hc
  exact Prod.ext (hf hd hc.1) (hg hd hc.2)

/-! ### Tables -/

lemma steady_lt (n : Nat) : Steady [n] fun c => decide (c.toNat < n) := by
  intro c d hd hc
  rw [List.mem_singleton] at hc
  simp only [decide_eq_decide]
  omega

lemma steady_find (runs : Runs α) (found : α) :
    Steady runs.cuts fun c => runs.find c.toNat found := by
  induction runs generalizing found with
  | nil => exact fun _ _ _ _ => rfl
  | cons run rest ih =>
    intro c d hd hc
    obtain ⟨hn, hr⟩ : d.toNat ≠ run.1 ∧ d.toNat ∉ Runs.cuts rest :=
      List.ne_and_not_mem_of_not_mem_cons hc
    have hlt : c.toNat < run.1 ↔ d.toNat < run.1 := by omega
    have hrest : Runs.find c.toNat run.2 rest = Runs.find d.toNat run.2 rest := ih run.2 hd hr
    simp only [Runs.find, hlt, hrest]

lemma steady_span (first last : Nat) :
    Steady [first, last + 1] fun c => decide (first ≤ c.toNat) && decide (c.toNat ≤ last) := by
  intro c d hd hc
  simp only [List.mem_cons, List.not_mem_nil, or_false, not_or] at hc
  simp only [← Bool.decide_and, decide_eq_decide]
  omega

lemma steady_contains (spans : Spans) : Steady spans.cuts fun c => spans.contains c.toNat := by
  induction spans with
  | nil => exact fun _ _ _ _ => rfl
  | cons span rest ih =>
    have h := ((steady_span span.1 span.2).both ih).comp fun p => p.1 || p.2
    exact h

lemma contains_eq_of_not_mem_cuts {spans : Spans} {c d : Char} (hd : d.toNat = c.toNat + 1)
    (hc : d.toNat ∉ spans.cuts) : spans.contains c.toNat = spans.contains d.toNat :=
  steady_contains spans hd hc

lemma steady_allOf :
    Steady (Script.runs.cuts ++ Script.extensions.flatMap fun (first, last, _) => [first, last + 1])
      Script.allOf := by
  have hext : ∀ extensions : List (Nat × Nat × List String),
      Steady (extensions.flatMap fun (first, last, _) => [first, last + 1]) fun c =>
        extensions.find? fun (first, last, _) => first ≤ c.toNat && c.toNat ≤ last := by
    intro extensions
    induction extensions with
    | nil => exact fun _ _ _ _ => rfl
    | cons extension rest ih =>
      intro c d hd hc
      rw [List.flatMap_cons, List.mem_append, not_or] at hc
      have hs := steady_span extension.1 extension.2.1 hd hc.1
      simp only [List.find?_cons, hs, ih hd hc.2]
  intro c d hd hc
  rw [List.mem_append, not_or] at hc
  have hof : Script.of c = Script.of d := steady_find Script.runs "Zzzz" hd hc.1
  have hfind := hext Script.extensions hd hc.2
  beta_reduce at hfind
  rw [Script.allOf, Script.allOf, hfind, hof]

/-! ### Case -/

lemma Shift.mem_sources {shift : Shift} {n : Nat} (h : shift.applies n = true) :
    n ∈ shift.sources := by
  simp only [applies, Bool.and_eq_true, decide_eq_true_eq, beq_iff_eq] at h
  obtain ⟨⟨hf, hl⟩, hm⟩ := h
  refine List.mem_map.2 ⟨(n - shift.first) / shift.step, ?_, ?_⟩
  · rw [List.mem_range]
    exact Nat.lt_succ_of_le (Nat.div_le_div_right (Nat.sub_le_sub_right hl _))
  · rw [Nat.mul_div_cancel' (Nat.dvd_of_mod_eq_zero hm)]
    omega

lemma Shift.applies_eq_false {shift : Shift} {n m : Nat} (h : n + 1 ∉ shift.cuts)
    (hm : m = n ∨ m = n + 1) : shift.applies m = false := by
  rw [Bool.eq_false_iff]
  intro ha
  refine h (List.mem_flatMap.2 ⟨m, mem_sources ha, ?_⟩)
  rcases hm with rfl | rfl <;> simp

lemma Shift.image_eq_self {shifts : List Shift} {n : Nat} (h : n + 1 ∉ shifts.flatMap Shift.cuts)
    {c : Char} (hc : c.toNat = n ∨ c.toNat = n + 1) : image shifts c = c := by
  have hf : shifts.find? (·.applies c.toNat) = none := by
    rw [List.find?_eq_none]
    intro shift hs
    rw [applies_eq_false (fun hm => h (List.mem_flatMap.2 ⟨shift, hs, hm⟩)) hc]
    exact Bool.false_ne_true
  rw [image, hf]

lemma steady_lowerChar :
    Steady (0x130 :: 0x131 :: lowerShifts.flatMap Shift.cuts) fun c => lowerChar c != [c] := by
  intro c d hd hc
  simp only [List.mem_cons, not_or] at hc
  have hcd : c ≠ '\u0130' ∧ d ≠ '\u0130' := by
    constructor
    · rintro rfl
      exact hc.2.1 hd
    · rintro rfl
      exact hc.1 rfl
  rw [hd] at hc
  simp [lowerChar, hcd, Shift.image_eq_self hc.2.2 (.inl rfl), Shift.image_eq_self hc.2.2 (.inr hd)]

lemma steady_upperChar :
    Steady (upperShifts.flatMap Shift.cuts ++ upperExpansions.flatMap fun (n, _) => [n, n + 1])
      fun c => upperChar c != [c] := by
  intro c d hd hc
  rw [hd, List.mem_append, not_or] at hc
  have hf : ∀ e : Char, e.toNat = c.toNat ∨ e.toNat = c.toNat + 1 →
      upperExpansions.find? (·.1 == e.toNat) = none := by
    intro e he
    rw [List.find?_eq_none]
    rintro ⟨n, expansion⟩ hm hn
    refine hc.2 (List.mem_flatMap.2 ⟨_, hm, ?_⟩)
    rcases he with he | he <;> simp_all
  simp [upperChar, hf c (.inl rfl), hf d (.inr hd), Shift.image_eq_self hc.1 (.inl rfl),
    Shift.image_eq_self hc.1 (.inr hd)]

lemma steady_of : Steady Category.runs.cuts Category.of := steady_find _ _

lemma steady_letterCase : Steady caseCuts letterCase := by
  intro c d hd hc
  simp only [caseCuts, List.mem_append, not_or] at hc
  rw [letterCase, letterCase, steady_of hd hc.1.1, contains_eq_of_not_mem_cuts hd hc.1.2,
    contains_eq_of_not_mem_cuts hd hc.2]

lemma runs_cuts_subset : Category.runs.cuts ⊆ alphabeticCuts := fun n hn => by
  rw [alphabeticCuts, caseCuts, List.append_assoc, List.append_assoc]
  exact List.mem_append_left _ hn

lemma steady_isAlphabetic : Steady alphabeticCuts isAlphabetic := by
  have h := ((steady_letterCase.both steady_of).both (steady_contains otherAlphabetic)).comp fun p =>
    p.1.1.isSome || p.1.2.isLetter || p.1.2 == .Nl || p.2
  exact h.mono (List.append_subset.2 ⟨List.append_subset.2 ⟨List.subset_append_left _ _,
    runs_cuts_subset⟩, List.subset_append_right _ _⟩)

/-! ### Properties -/

lemma steady_isCaseIgnorable :
    Steady (Category.runs.cuts ++ wordPunctuation.cuts) isCaseIgnorable := by
  intro c d hd hc
  rw [List.mem_append, not_or] at hc
  rw [isCaseIgnorable, isCaseIgnorable, steady_of hd hc.1,
    contains_eq_of_not_mem_cuts hd hc.2]

lemma steady_isWord : Steady (alphabeticCuts ++ [0x200C, 0x200E]) isWord := by
  have h := ((steady_isAlphabetic.both steady_of).both (steady_span 0x200C 0x200D)).comp fun p =>
    p.1.1 || p.1.2.isMark || p.1.2 == .Nd || p.1.2 == .Pc || p.2
  have hj : ∀ c : Char, (c == '\u200C' || c == '\u200D') =
      (decide (0x200C ≤ c.toNat) && decide (c.toNat ≤ 0x200D)) := by
    intro c
    have hc : ∀ e : Char, c = e ↔ c.toNat = e.toNat := fun e => Char.toNat_inj.symm
    rw [Bool.eq_iff_iff]
    simp only [Bool.or_eq_true, beq_iff_eq, hc, Bool.and_eq_true, decide_eq_true_eq]
    change c.toNat = 0x200C ∨ c.toNat = 0x200D ↔ _
    omega
  have he : isWord = fun c => isAlphabetic c || (Category.of c).isMark || Category.of c == .Nd ||
      Category.of c == .Pc || (decide (0x200C ≤ c.toNat) && decide (c.toNat ≤ 0x200D)) := by
    funext c
    rw [isWord, ← hj, isDecimal, Bool.or_assoc _ (c == '\u200C')]
  rw [he]
  exact h.mono (List.append_subset.2 ⟨List.append_subset.2 ⟨List.subset_append_left _ _,
    List.Subset.trans runs_cuts_subset (List.subset_append_left _ _)⟩,
    List.subset_append_right _ _⟩)

lemma Property.steady_holds (property : Property) : Steady property.cuts property.holds := by
  induction property with
  | any => exact fun _ _ _ _ => rfl
  | ascii => exact steady_lt 0x80
  | categories members => exact steady_of.comp members.contains
  | script code => exact (steady_find Script.runs "Zzzz").comp (· == code)
  | scriptExtension code => exact steady_allOf.comp (·.contains code)
  | age version => exact (steady_find Age.runs 0).comp fun age => age != 0 && age ≤ version
  | alphabetic => exact steady_isAlphabetic
  | uppercase => exact steady_letterCase.comp (· == some .upper)
  | lowercase => exact steady_letterCase.comp (· == some .lower)
  | cased => exact steady_letterCase.comp Option.isSome
  | caseIgnorable => exact steady_isCaseIgnorable
  | changesWhenLowercased => exact steady_lowerChar
  | changesWhenUppercased => exact steady_upperChar
  | whiteSpace => exact steady_contains Unicode.whiteSpace
  | word => exact steady_isWord
  | spans members => exact steady_contains members
  | either left right hl hr => exact (hl.both hr).comp fun p => p.1 || p.2
  | without left right hl hr => exact (hl.both hr).comp fun p => p.1 && !p.2

/-! ### Sorted cuts -/

lemma mem_insertCut {cut n : Nat} {l : List Nat} : n ∈ insertCut cut l ↔ n = cut ∨ n ∈ l := by
  induction l with
  | nil => simp [insertCut]
  | cons next rest ih =>
    rw [insertCut]
    split
    · exact List.mem_cons
    · split
      next h => simp [h]
      next => rw [List.mem_cons, ih, List.mem_cons, or_left_comm]

lemma pairwise_insertCut {cut : Nat} {l : List Nat} (h : l.Pairwise (· < ·)) :
    (insertCut cut l).Pairwise (· < ·) := by
  induction l with
  | nil => simp [insertCut]
  | cons next rest ih =>
    obtain ⟨hn, hr⟩ := List.pairwise_cons.1 h
    rw [insertCut]
    split
    next hlt =>
      refine List.pairwise_cons.2 ⟨List.forall_mem_cons.2 ⟨hlt, fun m hm => ?_⟩, h⟩
      exact Nat.lt_trans hlt (hn m hm)
    next hle =>
      split
      · exact h
      next hne =>
        refine List.pairwise_cons.2 ⟨fun m hm => ?_, ih hr⟩
        rcases mem_insertCut.1 hm with rfl | hm
        · omega
        · exact hn m hm

lemma mem_sortCuts {n : Nat} {l : List Nat} : n ∈ sortCuts l ↔ n ∈ l := by
  induction l with
  | nil => rfl
  | cons cut rest ih => rw [sortCuts, List.foldr_cons, mem_insertCut, ← sortCuts, ih, List.mem_cons]

lemma pairwise_sortCuts (l : List Nat) : (sortCuts l).Pairwise (· < ·) := by
  induction l with
  | nil => exact .nil
  | cons cut rest ih => exact pairwise_insertCut ih

lemma le_getLast {l : List Nat} (hs : l.Pairwise (· < ·)) {n : Nat} (hn : n ∈ l) :
    n ≤ l.getLast (List.ne_nil_of_mem hn) :=
  (hs.imp Nat.le_of_lt).rel_getLast hn

lemma caseVariants_eq_singleton {n : Nat} (h : n + 1 ∉ foldCuts) {c : Char}
    (hc : c.toNat = n ∨ c.toNat = n + 1) : caseVariants c = [c] := by
  have hcuts : ∀ shift ∈ foldShifts, n + 1 ∉ shift.cuts ∧ n + 1 ∉ shift.imageCuts := by
    intro shift hs
    rw [← not_or, ← List.mem_append]
    exact fun hm => h (mem_sortCuts.2 (List.mem_flatMap.2 ⟨shift, hs, hm⟩))
  have hfold : fold c = c := by
    refine Shift.image_eq_self (fun hm => ?_) hc
    obtain ⟨shift, hs, hm⟩ := List.mem_flatMap.1 hm
    exact (hcuts shift hs).1 hm
  have hpre : foldShifts.filterMap (·.preimage? c.toNat) = [] := by
    rw [List.filterMap_eq_nil_iff]
    intro shift hs
    rw [Shift.preimage?]
    split
    next ha =>
      rw [Bool.and_eq_true, beq_iff_eq] at ha
      refine absurd (List.mem_flatMap.2 ⟨_, Shift.mem_sources ha.1, ?_⟩) (hcuts shift hs).2
      rw [ha.2]
      rcases hc with hc | hc <;> simp [hc]
    next => rfl
  rw [caseVariants, hfold, hpre]

end Unicode

open Unicode

namespace CharSet

lemma steady_contains (set : CharSet) : Steady set.cuts set.contains := by
  induction set with
  | span first last => exact steady_span first.toNat last.toNat
  | property p => exact p.steady_holds
  | union left right hl hr => exact (hl.both hr).comp fun p => p.1 || p.2
  | inter left right hl hr => exact (hl.both hr).comp fun p => p.1 && p.2
  | compl set ih => exact ih.comp (!·)
  | foldCase set ih =>
    intro c d hd hc
    rw [cuts, List.mem_append, not_or] at hc
    have hfold : c.toNat + 1 ∉ foldCuts := hd ▸ hc.2
    rw [contains, contains, caseVariants_eq_singleton hfold (.inl rfl),
      caseVariants_eq_singleton hfold (.inr hd), List.any_cons, List.any_cons, ih hd hc.1,
      List.any_nil]

def holds (set : CharSet) (n : Nat) : Bool := n.isValidChar && set.contains (Char.ofNat n)

variable {set : CharSet} {spans : Spans} {span : Nat × Nat} {n : Nat}

lemma toNat_ofNat (h : n.isValidChar) : (Char.ofNat n).toNat = n := by
  rw [Char.ofNat, dif_pos h]
  rfl

lemma toNat_lt (c : Char) : c.toNat < 0x110000 := by
  rcases c.valid with h | h
  · exact Nat.lt_trans h (by decide)
  · exact h.2

lemma holds_toNat (c : Char) : set.holds c.toNat = set.contains c := by
  have hv : c.toNat.isValidChar := c.valid
  rw [holds, Char.ofNat_toNat, decide_eq_true hv, Bool.true_and]

lemma holds_succ (h : n + 1 ∉ 0 :: 0xD800 :: 0xE000 :: 0x110000 :: set.cuts) :
    set.holds (n + 1) = set.holds n := by
  simp only [List.mem_cons, not_or] at h
  have hv : (n + 1).isValidChar ↔ n.isValidChar := by
    simp only [Nat.isValidChar]
    omega
  rw [holds, holds]
  by_cases hn : n.isValidChar
  · have hs : (Char.ofNat (n + 1)).toNat = (Char.ofNat n).toNat + 1 := by
      rw [toNat_ofNat hn, toNat_ofNat (hv.2 hn)]
    have hc : (Char.ofNat (n + 1)).toNat ∉ set.cuts := by
      rw [toNat_ofNat (hv.2 hn)]
      exact h.2.2.2.2
    rw [set.steady_contains hs hc]
    simp only [hv]
  · simp [hv, hn]

lemma holds_of_between {first next : Nat} {rest : List Nat}
    (hs : (first :: next :: rest).Pairwise (· < ·))
    (h : ∀ n, first ≤ n → n + 1 ∉ first :: next :: rest → set.holds (n + 1) = set.holds n)
    (hf : first ≤ n) (hn : n < next) : set.holds n = set.holds first := by
  obtain ⟨k, rfl⟩ := Nat.exists_eq_add_of_le hf
  clear hf
  induction k with
  | zero => rfl
  | succ k ih =>
    have hrest := (List.pairwise_cons.1 (List.pairwise_cons.1 hs).2).1
    have hk : first + k + 1 ∉ first :: next :: rest := by
      simp only [List.mem_cons, not_or]
      refine ⟨by omega, by omega, fun hm => ?_⟩
      exact absurd (hrest _ hm) (by omega)
    rw [← Nat.add_assoc, h (first + k) (Nat.le_add_right _ _) hk, ih (by omega)]

/-! ### Spans -/

lemma contains_addSpan (hspan : span.1 ≤ span.2) (hspans : ∀ s ∈ spans, s.1 ≤ s.2) :
    (addSpan span spans).contains n = true ↔
      (span.1 ≤ n ∧ n ≤ span.2) ∨ spans.contains n = true := by
  cases spans with
  | nil => simp [addSpan, Spans.contains_iff]
  | cons next rest =>
    have hnext := hspans next (.head _)
    rw [addSpan]
    split
    · simp only [Spans.contains_iff, List.mem_cons, exists_eq_or_imp, ← or_assoc]
      refine or_congr_left ?_
      omega
    · simp [Spans.contains_iff]

lemma le_of_mem_addSpan (hspan : span.1 ≤ span.2) (hspans : ∀ s ∈ spans, s.1 ≤ s.2) :
    ∀ s ∈ addSpan span spans, s.1 ≤ s.2 := by
  cases spans with
  | nil => simpa [addSpan] using hspan
  | cons next rest =>
    obtain ⟨hnext, hrest⟩ := List.forall_mem_cons.1 hspans
    rw [addSpan]
    split
    next h => exact List.forall_mem_cons.2 ⟨by simp only; omega, hrest⟩
    next => exact List.forall_mem_cons.2 ⟨hspan, hspans⟩

lemma le_of_mem_pieces {l : List Nat} (hs : l.Pairwise (· < ·)) :
    ∀ s ∈ set.pieces l, s.1 ≤ s.2 := by
  induction l with
  | nil => nofun
  | cons first rest ih =>
    cases rest with
    | nil => nofun
    | cons next rest =>
      obtain ⟨hlt, hrest⟩ := List.pairwise_cons.1 hs
      have hfirst := hlt next (.head _)
      rw [pieces]
      split
      · exact le_of_mem_addSpan (by simp only; omega) (ih hrest)
      · exact ih hrest

lemma contains_pieces {first : Nat} {rest : List Nat} (hs : (first :: rest).Pairwise (· < ·))
    (h : ∀ n, first ≤ n → n + 1 ∉ first :: rest → set.holds (n + 1) = set.holds n) :
    (set.pieces (first :: rest)).contains n = true ↔
      (first ≤ n ∧ n < (first :: rest).getLast (List.cons_ne_nil _ _)) ∧ set.holds n = true := by
  induction rest generalizing first with
  | nil =>
    simp only [pieces, Spans.contains, List.any_nil, Bool.false_eq_true, List.getLast_singleton,
      false_iff, not_and]
    omega
  | cons next rest ih =>
    obtain ⟨hlt, hrest⟩ := List.pairwise_cons.1 hs
    have hfirst := hlt next (.head _)
    have hlast : next ≤ (next :: rest).getLast (List.cons_ne_nil _ _) := le_getLast hrest (.head _)
    have hothers := ih hrest fun n hn hm => h n (by omega) fun hf => by
      rcases List.mem_cons.1 hf with hf | hf
      · omega
      · exact hm hf
    have hbetween : first ≤ n → n < next → set.holds n = set.holds first :=
      holds_of_between hs h
    rw [List.getLast_cons (List.cons_ne_nil _ _), pieces]
    split
    next hh =>
      change set.holds first = true at hh
      rw [contains_addSpan (by simp only; omega) (le_of_mem_pieces hrest), hothers]
      constructor
      · rintro (⟨hf, hn⟩ | ⟨⟨hn, hl⟩, hm⟩)
        · have hn : n < next := by omega
          exact ⟨⟨hf, Nat.lt_of_lt_of_le hn hlast⟩, (hbetween hf hn).trans hh⟩
        · exact ⟨⟨Nat.le_trans (Nat.le_of_lt hfirst) hn, hl⟩, hm⟩
      · rintro ⟨⟨hf, hl⟩, hm⟩
        rcases Nat.lt_or_ge n next with hn | hn
        · exact .inl ⟨hf, Nat.le_sub_one_of_lt hn⟩
        · exact .inr ⟨⟨hn, hl⟩, hm⟩
    next hh =>
      change ¬set.holds first = true at hh
      rw [hothers]
      constructor
      · rintro ⟨⟨hn, hl⟩, hm⟩
        exact ⟨⟨Nat.le_trans (Nat.le_of_lt hfirst) hn, hl⟩, hm⟩
      · rintro ⟨⟨hf, hl⟩, hm⟩
        refine ⟨⟨Nat.le_of_not_lt fun hn => hh ?_, hl⟩, hm⟩
        exact (hbetween hf hn).symm.trans hm

/-- The spans of a set hold the code points of its members and no others. -/
theorem contains_spans (set : CharSet) (c : Char) :
    set.spans.contains c.toNat = set.contains c := by
  have hp := pairwise_sortCuts (0 :: 0xD800 :: 0xE000 :: 0x110000 :: set.cuts)
  have hm : ∀ n, n ∈ sortCuts (0 :: 0xD800 :: 0xE000 :: 0x110000 :: set.cuts) ↔
      n ∈ 0 :: 0xD800 :: 0xE000 :: 0x110000 :: set.cuts := fun n => mem_sortCuts
  rw [spans, Bool.eq_iff_iff, ← holds_toNat]
  generalize sortCuts (0 :: 0xD800 :: 0xE000 :: 0x110000 :: set.cuts) = l at hp hm
  match l with
  | [] => exact absurd ((hm 0).2 (.head _)) List.not_mem_nil
  | first :: rest =>
    have hfirst : first = 0 := by
      rcases List.mem_cons.1 ((hm 0).2 (.head _)) with h | h
      · exact h.symm
      · exact absurd ((List.pairwise_cons.1 hp).1 0 h) (Nat.not_lt_zero _)
    have hlast : c.toNat < (first :: rest).getLast (List.cons_ne_nil _ _) :=
      Nat.lt_of_lt_of_le (toNat_lt c) (le_getLast hp ((hm 0x110000).2 (by simp)))
    rw [contains_pieces hp fun n _ hn => holds_succ fun h => hn ((hm _).2 h)]
    exact and_iff_right ⟨hfirst ▸ Nat.zero_le _, hlast⟩

end CharSet

end CommitStyle
