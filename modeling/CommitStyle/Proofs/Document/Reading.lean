import CommitStyle.Proofs.Lines
import CommitStyle.Reader
import Mathlib.Data.List.Basic
import Mathlib.Tactic.Common

/-!
# What readers take

A reader is told by the value that it takes from the front of a text and by what it leaves, so that a
reader of several steps is run one step after the other. Numbers are read back from their digits.
-/

namespace CommitStyle

open Text (dropWhile_append_eq takeWhile_append_eq dropWhile_eq_self_iff_head?)

namespace Reader

variable {α β : Type}

def Stops (p : Char → Bool) (rest : List Char) : Prop := ∀ c, rest.head? = some c → p c = false

@[simp] lemma stops_nil (p : Char → Bool) : Stops p [] := by simp [Stops]

@[simp] lemma stops_cons {p : Char → Bool} {c : Char} {rest : List Char} :
    Stops p (c :: rest) ↔ p c = false := by
  simp [Stops]

lemma stops_append {p : Char → Bool} {text rest : List Char} (ht : text ≠ [])
    (h : Stops p text) : Stops p (text ++ rest) := by
  rw [Stops, List.head?_append_of_ne_nil text ht]
  exact h

lemma stops_of_head? {p : Char → Bool} {c : Char} {text : List Char} (hc : text.head? = some c)
    (hp : p c = false) (rest : List Char) : Stops p (text ++ rest) := by
  intro d hd
  rw [List.mem_head?_append_of_mem_head? hc, Option.some.injEq] at hd
  exact hd ▸ hp

lemma stops_mono {p q : Char → Bool} (hpq : ∀ c, q c = true → p c = true) {rest : List Char}
    (h : Stops p rest) : Stops q rest := by
  intro c hc
  by_contra hq
  have hp := hpq c (by simpa using hq)
  rw [h c hc] at hp
  exact Bool.false_ne_true hp

lemma run_discard {reader : Reader α} {text rest : List Char} {value : α}
    (h : reader.run text = some (value, rest)) : (discard reader).run text = some ((), rest) := by
  change (reader.run text).bind _ = _
  rw [h]
  rfl

lemma run_bind_of {reader : Reader α} {text rest : List Char} {value : α}
    (h : reader.run text = some (value, rest)) (next : α → Reader β) :
    (reader >>= next).run text = (next value).run rest := by
  rw [StateT.run_bind, h]
  rfl

lemma run_get (text : List Char) : (get : Reader (List Char)).run text = some (text, text) := rfl

lemma run_next (c : Char) (rest : List Char) : next.run (c :: rest) = some (c, rest) := rfl

lemma run_peek? (text : List Char) : peek?.run text = some (text.head?, text) := rfl

lemma run_expect (token rest : List Char) : (expect token).run (token ++ rest) = some ((), rest) := by
  simp [expect]

lemma run_accept (token rest : List Char) :
    (accept token).run (token ++ rest) = some (true, rest) := by
  simp [accept]

lemma run_expect_cons (c : Char) (rest : List Char) :
    (expect [c]).run (c :: rest) = some ((), rest) :=
  run_expect [c] rest

lemma run_accept_cons (c : Char) (rest : List Char) :
    (accept [c]).run (c :: rest) = some (true, rest) :=
  run_accept [c] rest

lemma run_accept_of_not {token text : List Char} (h : ¬ token <+: text) :
    (accept token).run text = some (false, text) := by
  simp [accept, h]

lemma run_accept_of_stops {c : Char} {text : List Char} (h : Stops (· == c) text) (more : List Char) :
    (accept (c :: more)).run text = some (false, text) := by
  refine run_accept_of_not ?_
  rintro ⟨rest, rfl⟩
  simp at h

lemma run_takeWhile {p : Char → Bool} {taken rest : List Char} (ht : ∀ c ∈ taken, p c = true)
    (hr : Stops p rest) : (takeWhile p).run (taken ++ rest) = some (taken, rest) := by
  change some ((taken ++ rest).takeWhile p, (taken ++ rest).dropWhile p) = _
  rw [takeWhile_append_eq ht hr, dropWhile_append_eq ht hr]

lemma run_skipWhile {p : Char → Bool} (skipped : List Char) {rest : List Char}
    (hs : ∀ c ∈ skipped, p c = true) (hr : Stops p rest) :
    (skipWhile p).run (skipped ++ rest) = some ((), rest) := by
  change some ((), (skipped ++ rest).dropWhile p) = _
  rw [dropWhile_append_eq hs hr]

lemma run_skipWhile_of_stops {p : Char → Bool} {text : List Char} (h : Stops p text) :
    (skipWhile p).run text = some ((), text) :=
  run_skipWhile [] (by simp) h

lemma run_require {condition : Bool} (h : condition = true) (text : List Char) :
    (require condition).run text = some ((), text) := by
  subst h
  rfl

lemma run_takeExactly {n : Nat} {taken : List Char} (h : taken.length = n) (rest : List Char) :
    (takeExactly n).run (taken ++ rest) = some (taken, rest) := by
  subst h
  simp [takeExactly, require]

lemma readAll?_eq_some {reader : Reader α} {text : List Char} {value : α}
    (h : reader.run text = some (value, [])) : readAll? reader text = some value := by
  rw [readAll?, h]

end Reader

lemma length_le_length_flatMap {α β : Type} {f : α → List β} (h : ∀ x, f x ≠ []) (xs : List α) :
    xs.length ≤ (xs.flatMap f).length := by
  induction xs with
  | nil => simp
  | cons x xs ih =>
    have hx := List.length_pos_of_ne_nil (h x)
    rw [List.flatMap_cons, List.length_append, List.length_cons]
    omega

lemma mapM_map_eq_some {α β γ : Type} {f : β → Option γ} {g : α → β} {value : α → γ} {xs : List α}
    (h : ∀ x ∈ xs, f (g x) = some (value x)) : (xs.map g).mapM f = some (xs.map value) := by
  induction xs with
  | nil => rfl
  | cons x xs ih =>
    rw [List.map_cons, List.mapM_cons, h x (.head _), ih fun y hy => h y (.tail _ hy)]
    rfl

lemma exists_mem_of_mapM_eq_some {α β : Type} {f : α → Option β} {xs : List α} {ys : List β}
    (h : xs.mapM f = some ys) {y : β} (hy : y ∈ ys) : ∃ x ∈ xs, f x = some y := by
  induction xs generalizing ys with
  | nil =>
    cases h
    cases hy
  | cons x xs ih =>
    rw [List.mapM_cons] at h
    obtain ⟨first, hf, h⟩ := Option.bind_eq_some_iff.1 h
    obtain ⟨rest, hr, h⟩ := Option.bind_eq_some_iff.1 h
    cases h
    rcases List.mem_cons.1 hy with rfl | hy
    · exact ⟨x, .head _, hf⟩
    · obtain ⟨x', hx, hf⟩ := ih hr hy
      exact ⟨x', .tail _ hx, hf⟩

/-! ### Digits -/

lemma digitValue?_of_isDigit {c : Char} (h : c.isDigit = true) :
    digitValue? c = some (c.toNat - '0'.toNat) :=
  if_pos h

lemma digitValue?_digitChar {d : Nat} (h : d < 10) : digitValue? d.digitChar = some d := by
  have hd : d.digitChar.isDigit = true := by simp [Nat.isDigit_digitChar, h]
  rw [digitValue?_of_isDigit hd, Nat.toNat_digitChar_of_lt_ten h]
  exact congrArg some (Nat.add_sub_cancel_left 48 d)

lemma ofDigits_concat (base : Nat) (digits : List Char) (c : Char) :
    ofDigits base (digits ++ [c]) = ofDigits base digits * base + (digitValue? c).getD 0 := by
  simp [ofDigits]

lemma ofDigits_toDigits (n : Nat) : ofDigits 10 (Nat.toDigits 10 n) = n := by
  induction n using Nat.strongRecOn with
  | ind n ih =>
    by_cases hn : n < 10
    · rw [Nat.toDigits_of_lt_base hn]
      simp [ofDigits, digitValue?_digitChar hn]
    · have hlt : n / 10 < n := by omega
      have hd : n % 10 < 10 := by omega
      rw [Nat.toDigits_of_base_le (by omega) (by omega), ofDigits_concat, ih _ hlt,
        digitValue?_digitChar hd, Option.getD_some]
      omega

lemma isDigit_of_mem_toDigits {n : Nat} {c : Char} (h : c ∈ Nat.toDigits 10 n) : c.isDigit = true :=
  Nat.isDigit_of_mem_toDigits (by decide) (by decide) h

lemma isDigitIn_of_mem_toDigits {n : Nat} {c : Char} (h : c ∈ Nat.toDigits 10 n) :
    isDigitIn 10 c = true := by
  have hd := isDigit_of_mem_toDigits h
  have hlt : c.toNat ≤ '9'.toNat := by
    simp only [Char.isDigit, Bool.and_eq_true, decide_eq_true_eq] at hd
    exact hd.2
  rw [isDigitIn, digitValue?_of_isDigit hd]
  simp only [Option.any_some, decide_eq_true_eq]
  have h9 : '9'.toNat = 57 := rfl
  have h0 : '0'.toNat = 48 := rfl
  omega

lemma head?_toDigits_ne {n : Nat} (hn : 10 ≤ n) : (Nat.toDigits 10 n).head? ≠ some '0' := by
  induction n using Nat.strongRecOn with
  | ind n ih =>
    rw [Nat.toDigits_of_base_le (by omega) hn, List.head?_append_of_ne_nil _ Nat.toDigits_ne_nil]
    by_cases hd : n / 10 < 10
    · rw [Nat.toDigits_of_lt_base hd]
      simp only [List.head?_cons, ne_eq, Option.some.injEq, Nat.digitChar_eq_zero]
      omega
    · exact ih _ (by omega) (by omega)

lemma length_toDigits_or (n : Nat) :
    ((Nat.toDigits 10 n).length == 1 || (Nat.toDigits 10 n).head? != some '0') = true := by
  by_cases hn : n < 10
  · simp [Nat.toDigits_of_lt_base hn]
  · simp [head?_toDigits_ne (by omega : 10 ≤ n)]

lemma toList_toString_natCast (n : Nat) : (toString (n : Int)).toList = Nat.toDigits 10 n :=
  Nat.toList_repr

lemma toList_toString_negSucc (n : Nat) :
    (toString (Int.negSucc n)).toList = '-' :: Nat.toDigits 10 (n + 1) := by
  change ("-" ++ Nat.repr (n + 1)).toList = _
  simp

def isIntegerChar (c : Char) : Bool := c == '-' || c.isDigit

lemma isIntegerChar_of_mem_toString {n : Int} {c : Char} (h : c ∈ (toString n).toList) :
    isIntegerChar c = true := by
  cases n with
  | ofNat n =>
    rw [Int.ofNat_eq_natCast, toList_toString_natCast] at h
    simp [isIntegerChar, isDigit_of_mem_toDigits h]
  | negSucc n =>
    rw [toList_toString_negSucc, List.mem_cons] at h
    rcases h with rfl | h
    · decide
    · simp [isIntegerChar, isDigit_of_mem_toDigits h]

lemma toList_toString_ne_nil (n : Int) : (toString n).toList ≠ [] := by
  cases n with
  | ofNat n =>
    rw [Int.ofNat_eq_natCast, toList_toString_natCast]
    exact Nat.toDigits_ne_nil
  | negSucc n =>
    rw [toList_toString_negSucc]
    exact List.cons_ne_nil _ _

lemma exists_head?_toString (n : Int) :
    ∃ c, (toString n).toList.head? = some c ∧ isIntegerChar c = true :=
  ⟨_, List.head?_eq_some_head (toList_toString_ne_nil n),
    isIntegerChar_of_mem_toString (List.head_mem _)⟩

lemma charOf?_toNat (c : Char) : charOf? c.toNat = some c := by
  have hv : c.toNat.isValidChar := c.valid
  rw [charOf?, if_pos hv, Char.ofNat_toNat]

end CommitStyle
