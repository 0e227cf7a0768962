import CommitStyle.Regex
import Mathlib.Data.Nat.Bitwise
import Mathlib.Logic.Function.Iterate
import Mathlib.Tactic.Common

/-!
# What an expression matches

An expression matches a part of a text, or does not, and may look at what is before and after the part.
Matching by sets of places finds the parts that are matched: a step on sets of places tracks a property
of parts if it leads from the places where such a part begins to those where it ends.
-/

namespace CommitStyle

/-- A property of a part of a text, told what is before and after the part. -/
abbrev PartProperty := List Char → List Char → List Char → Prop

namespace PartProperty

variable {P Q : PartProperty} {before part after : List Char}

def Nothing : PartProperty := fun _ part _ => part = []

def Then (P Q : PartProperty) : PartProperty := fun before part after =>
  ∃ left right, left ++ right = part ∧ P before left (right ++ after) ∧ Q (before ++ left) right after

def Either (P Q : PartProperty) : PartProperty := fun before part after =>
  P before part after ∨ Q before part after

def Repeated (P : PartProperty) : Nat → PartProperty
  | 0 => Nothing
  | n + 1 => Then P (P.Repeated n)

lemma Repeated.exists_le_length {n : Nat} (h : P.Repeated n before part after) :
    ∃ m ≤ part.length, P.Repeated m before part after := by
  induction n generalizing before part with
  | zero =>
    obtain rfl : part = [] := h
    exact ⟨0, Nat.le_refl 0, rfl⟩
  | succ n ih =>
    obtain ⟨left, right, rfl, hl, hr⟩ := h
    obtain ⟨m, hm, hr⟩ := ih hr
    cases left with
    | nil => exact ⟨m, hm, by simpa using hr⟩
    | cons c rest =>
      refine ⟨m + 1, ?_, c :: rest, right, rfl, hl, hr⟩
      rw [List.length_append, List.length_cons]
      omega

lemma Repeated.all {n : Nat} {p : Char → Bool}
    (hp : ∀ before part after, P before part after → part.all p = true)
    (h : P.Repeated n before part after) : part.all p = true := by
  induction n generalizing before part with
  | zero =>
    obtain rfl : part = [] := h
    rfl
  | succ n ih =>
    obtain ⟨left, right, rfl, hl, hr⟩ := h
    rw [List.all_append, hp _ _ _ hl, ih hr, Bool.true_and]

lemma repeated_either_nothing_iff {n : Nat} :
    (Either Nothing P).Repeated n before part after ↔ ∃ m ≤ n, P.Repeated m before part after := by
  constructor
  · intro h
    induction n generalizing before part with
    | zero => exact ⟨0, Nat.le_refl 0, h⟩
    | succ n ih =>
      obtain ⟨left, right, rfl, hl, hr⟩ := h
      obtain ⟨m, hm, hr⟩ := ih hr
      rcases hl with hl | hl
      · obtain rfl : left = [] := hl
        exact ⟨m, Nat.le_succ_of_le hm, by simpa using hr⟩
      · exact ⟨m + 1, Nat.succ_le_succ hm, left, right, rfl, hl, hr⟩
  · rintro ⟨m, hm, h⟩
    induction n generalizing m before part with
    | zero =>
      obtain rfl := Nat.le_zero.1 hm
      exact h
    | succ n ih =>
      cases m with
      | zero =>
        obtain rfl : part = [] := h
        exact ⟨[], [], rfl, .inl rfl, ih 0 (Nat.zero_le n) rfl⟩
      | succ m =>
        obtain ⟨left, right, rfl, hl, hr⟩ := h
        exact ⟨left, right, rfl, .inr hl, ih m (Nat.le_of_succ_le_succ hm) hr⟩

def Joins (P : PartProperty) (text : List Char) (i j : Nat) : Prop :=
  ∃ before part after, before ++ (part ++ after) = text ∧ before.length = i ∧
    (before ++ part).length = j ∧ P before part after

variable {text : List Char} {i j k : Nat}

lemma Joins.le_length (h : P.Joins text i j) : j ≤ text.length := by
  obtain ⟨before, part, after, rfl, -, rfl, -⟩ := h
  simp

lemma joins_nothing_iff : Nothing.Joins text i j ↔ i = j ∧ i ≤ text.length := by
  constructor
  · rintro ⟨before, part, after, rfl, rfl, rfl, hp⟩
    obtain rfl : part = [] := hp
    simp
  · rintro ⟨rfl, hi⟩
    exact ⟨text.take i, [], text.drop i, by simp, by simp [hi], by simp [hi], rfl⟩

lemma joins_either_iff : (Either P Q).Joins text i j ↔ P.Joins text i j ∨ Q.Joins text i j := by
  constructor
  · rintro ⟨before, part, after, ht, hi, hj, hp | hq⟩
    · exact .inl ⟨before, part, after, ht, hi, hj, hp⟩
    · exact .inr ⟨before, part, after, ht, hi, hj, hq⟩
  · rintro (⟨before, part, after, ht, hi, hj, hp⟩ | ⟨before, part, after, ht, hi, hj, hq⟩)
    · exact ⟨before, part, after, ht, hi, hj, .inl hp⟩
    · exact ⟨before, part, after, ht, hi, hj, .inr hq⟩

lemma joins_then_iff :
    (Then P Q).Joins text i k ↔ ∃ j, P.Joins text i j ∧ Q.Joins text j k := by
  constructor
  · rintro ⟨before, _, after, rfl, rfl, rfl, left, right, rfl, hp, hq⟩
    exact ⟨(before ++ left).length,
      ⟨before, left, right ++ after, by simp, rfl, rfl, hp⟩,
      before ++ left, right, after, by simp, rfl, by simp, hq⟩
  · rintro ⟨_, ⟨before, left, rest, rfl, rfl, rfl, hp⟩, other, right, after, ht, hj, rfl, hq⟩
    -- Both parts meet at one place, so what is before the second one ends in the first.
    obtain ⟨rfl, rfl⟩ := List.append_inj (ht.trans (List.append_assoc ..).symm) hj
    exact ⟨before, left ++ right, after, by simp, rfl, by simp, left, right, rfl, hp, hq⟩

/-- The step leads from the places where parts with the property begin to those where they end. -/
def Tracks (text : List Char) (step : Nat → Nat) (P : PartProperty) : Prop :=
  ∀ places, (∀ i, places.testBit i = true → i ≤ text.length) →
    ∀ j, (step places).testBit j = true ↔ ∃ i, places.testBit i = true ∧ P.Joins text i j

variable {step next : Nat → Nat}

lemma Tracks.congr (h : Tracks text step P)
    (hj : ∀ i j, P.Joins text i j ↔ Q.Joins text i j) : Tracks text step Q := by
  intro places hp j
  rw [h places hp j]
  exact exists_congr fun i => and_congr_right fun _ => hj i j

lemma tracks_nothing (text : List Char) : Tracks text id Nothing := by
  intro places hp j
  constructor
  · intro hj
    exact ⟨j, hj, joins_nothing_iff.2 ⟨rfl, hp j hj⟩⟩
  · rintro ⟨i, hi, h⟩
    obtain ⟨rfl, -⟩ := joins_nothing_iff.1 h
    exact hi

lemma Tracks.or (hp : Tracks text step P) (hq : Tracks text next Q) :
    Tracks text (fun places => step places ||| next places) (Either P Q) := by
  intro places hb j
  rw [Nat.testBit_or, Bool.or_eq_true, hp places hb j, hq places hb j]
  constructor
  · rintro (⟨i, hi, h⟩ | ⟨i, hi, h⟩)
    · exact ⟨i, hi, joins_either_iff.2 (.inl h)⟩
    · exact ⟨i, hi, joins_either_iff.2 (.inr h)⟩
  · rintro ⟨i, hi, h⟩
    exact (joins_either_iff.1 h).imp (fun h => ⟨i, hi, h⟩) fun h => ⟨i, hi, h⟩

lemma Tracks.andThen (hp : Tracks text step P) (hq : Tracks text next Q) :
    Tracks text (fun places => next (step places)) (Then P Q) := by
  intro places hb k
  have hs : ∀ j, (step places).testBit j = true → j ≤ text.length := by
    intro j hj
    obtain ⟨i, -, h⟩ := (hp places hb j).1 hj
    exact h.le_length
  rw [hq _ hs k]
  constructor
  · rintro ⟨j, hj, h⟩
    obtain ⟨i, hi, hij⟩ := (hp places hb j).1 hj
    exact ⟨i, hi, joins_then_iff.2 ⟨j, hij, h⟩⟩
  · rintro ⟨i, hi, h⟩
    obtain ⟨j, hij, h⟩ := joins_then_iff.1 h
    exact ⟨j, (hp places hb j).2 ⟨i, hi, hij⟩, h⟩

lemma Tracks.iterate (h : Tracks text step P) (n : Nat) : Tracks text step^[n] (P.Repeated n) := by
  induction n with
  | zero => exact tracks_nothing text
  | succ n ih => exact h.andThen ih

lemma Tracks.iterate_or (h : Tracks text step P) (n : Nat) :
    Tracks text (fun places => places ||| step places)^[n]
      fun before part after => ∃ m ≤ n, P.Repeated m before part after := by
  refine (((tracks_nothing text).or h).iterate n).congr fun i j => ?_
  simp only [Joins, repeated_either_nothing_iff]

end PartProperty

namespace Expr

open PartProperty

def Matches : Regex → PartProperty
  | empty => Nothing
  | chars set => fun _ part _ => ∃ c, set.contains c = true ∧ part = [c]
  | place look => fun before part after =>
    look.holds before.getLast? after.head? = true ∧ part = []
  | seq first second => Then first.Matches second.Matches
  | alt left right => Either left.Matches right.Matches
  | star inner => fun before part after => ∃ n, Repeated inner.Matches n before part after
  | times count inner => Repeated inner.Matches count
  | upTo count inner => fun before part after =>
    ∃ n ≤ count, Repeated inner.Matches n before part after

lemma iterate_eq (step : Nat → Nat) (n places : Nat) : iterate step n places = step^[n] places := by
  induction n generalizing places with
  | zero => rfl
  | succ n ih =>
    rw [iterate, Function.iterate_succ_apply]
    split
    next h => rw [h, Function.iterate_fixed h]
    next => exact ih _

end Expr

namespace Regex

open PartProperty CommitStyle.Expr

variable {text : List Char}

lemma testBit_placesOf (answers : List Bool) (i : Nat) :
    (placesOf answers).testBit i = answers[i]?.getD false := by
  induction answers generalizing i with
  | nil => simp [placesOf]
  | cons answer rest ih =>
    change (2 * placesOf rest + answer.toNat).testBit i = _
    rw [← Nat.bit_val]
    cases i with
    | zero => rw [Nat.testBit_bit_zero]; rfl
    | succ i => rw [Nat.testBit_bit_succ, ih]; rfl

lemma testBit_placesBefore (set : CharSet) (before after : List Char) :
    (placesBefore (before ++ after) set).testBit before.length = after.head?.any set.contains := by
  rw [placesBefore, testBit_placesOf, List.getElem?_map, List.getElem?_append_right (Nat.le_refl _)]
  cases after with
  | nil => simp
  | cons c rest => simp

lemma testBit_placesWhere (look : Look) (before after : List Char) :
    (placesWhere (before ++ after) look).testBit before.length =
      look.holds before.getLast? after.head? := by
  have hb : (none :: (before ++ after).map some)[before.length]? = some before.getLast? := by
    rcases List.eq_nil_or_concat before with rfl | ⟨front, c, rfl⟩
    · rfl
    · simp
  have ha : ((before ++ after).map some ++ [none])[before.length]? = some after.head? := by
    cases after with
    | nil => simp
    | cons c rest => simp
  rw [placesWhere, testBit_placesOf, List.getElem?_zipWith, hb, ha]
  rfl

lemma tracks_chars (text : List Char) (set : CharSet) :
    Tracks text (fun places => (places &&& placesBefore text set) <<< 1) (chars set).Matches := by
  intro places hp j
  simp only [Nat.testBit_shiftLeft, Nat.testBit_and, Bool.and_eq_true, decide_eq_true_eq]
  constructor
  · rintro ⟨hj, hi, hs⟩
    obtain ⟨i, rfl⟩ : ∃ i, j = i + 1 := ⟨j - 1, by omega⟩
    rw [Nat.add_sub_cancel] at hi hs
    refine ⟨i, hi, ?_⟩
    have hl : (text.take i).length = i := List.length_take_of_le (hp i hi)
    have ht := testBit_placesBefore set (text.take i) (text.drop i)
    rw [List.take_append_drop, hl, hs] at ht
    cases hd : text.drop i with
    | nil =>
      rw [hd] at ht
      cases ht
    | cons c rest =>
      rw [hd] at ht
      exact ⟨text.take i, [c], rest, by rw [List.singleton_append, ← hd, List.take_append_drop],
        hl, by simp [hl], c, ht.symm, rfl⟩
  · rintro ⟨_, hi, before, _, after, rfl, rfl, rfl, c, hc, rfl⟩
    rw [List.length_append, List.length_singleton, Nat.add_sub_cancel]
    exact ⟨Nat.le_add_left _ _, hi, (testBit_placesBefore set before _).trans hc⟩

lemma tracks_place (text : List Char) (look : Look) :
    Tracks text (fun places => places &&& placesWhere text look) (place look).Matches := by
  intro places hp j
  simp only [Nat.testBit_and, Bool.and_eq_true]
  constructor
  · rintro ⟨hj, hw⟩
    have hl : (text.take j).length = j := List.length_take_of_le (hp j hj)
    have ht := testBit_placesWhere look (text.take j) (text.drop j)
    rw [List.take_append_drop, hl, hw] at ht
    exact ⟨j, hj, text.take j, [], text.drop j, List.take_append_drop _ _, hl, by simp [hl],
      ht.symm, rfl⟩
  · rintro ⟨_, hi, before, _, after, rfl, rfl, rfl, hl, rfl⟩
    rw [List.append_nil]
    exact ⟨hi, (testBit_placesWhere look before after).trans hl⟩

lemma joins_star_iff {P : PartProperty} {i j : Nat} :
    Joins (fun before part after => ∃ n ≤ text.length + 1, P.Repeated n before part after) text i j ↔
      Joins (fun before part after => ∃ n, P.Repeated n before part after) text i j := by
  constructor
  · rintro ⟨before, part, after, ht, hi, hj, n, -, h⟩
    exact ⟨before, part, after, ht, hi, hj, n, h⟩
  · rintro ⟨before, part, after, rfl, hi, hj, n, h⟩
    obtain ⟨m, hm, h⟩ := h.exists_le_length
    refine ⟨before, part, after, rfl, hi, hj, m, ?_, h⟩
    simp only [List.length_append]
    omega

/-- Matching by sets of places finds the parts that are matched. -/
lemma tracks_advance (text : List Char) (regex : Regex) :
    Tracks text
      ((regex.map (placesBefore text) (placesWhere text)).advance (text.length + 1))
      regex.Matches := by
  induction regex with
  | empty => exact tracks_nothing text
  | chars set => exact tracks_chars text set
  | place look => exact tracks_place text look
  | seq first second hf hs => exact hf.andThen hs
  | alt left right hl hr => exact hl.or hr
  | star inner ih =>
    intro places hp j
    change (iterate _ _ _).testBit j = true ↔ _
    rw [iterate_eq]
    exact ((ih.iterate_or _).congr fun _ _ => joins_star_iff) places hp j
  | times count inner ih =>
    intro places hp j
    change (iterate _ _ _).testBit j = true ↔ _
    rw [iterate_eq]
    exact ih.iterate count places hp j
  | upTo count inner ih =>
    intro places hp j
    change (iterate _ _ _).testBit j = true ↔ _
    rw [iterate_eq]
    exact ih.iterate_or count places hp j

/-- An expression is found in a text if and only if it matches some part of it. -/
lemma isMatch_iff {regex : Regex} :
    regex.isMatch text = true ↔
      ∃ before part after, before ++ (part ++ after) = text ∧ regex.Matches before part after := by
  have hall : ∀ i, (1 <<< (text.length + 1) - 1).testBit i = true ↔ i ≤ text.length := by
    intro i
    rw [Nat.one_shiftLeft, Nat.testBit_two_pow_sub_one, decide_eq_true_eq, Nat.lt_succ_iff]
  have htracks := tracks_advance text regex _ fun i => (hall i).1
  rw [isMatch, bne_iff_ne]
  constructor
  · intro h
    obtain ⟨j, hj⟩ := Nat.exists_testBit_of_ne_zero h
    obtain ⟨i, -, before, part, after, ht, -, -, hm⟩ := (htracks j).1 hj
    exact ⟨before, part, after, ht, hm⟩
  · rintro ⟨before, part, after, rfl, hm⟩ h
    have hi : before.length ≤ (before ++ (part ++ after)).length := by simp
    have hj := (htracks _).2
      ⟨before.length, (hall _).2 hi, before, part, after, rfl, rfl, rfl, hm⟩
    rw [h, Nat.zero_testBit] at hj
    cases hj

end Regex

end CommitStyle
