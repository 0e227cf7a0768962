import CommitStyle.Document.TomlReader
import CommitStyle.Proofs.Document.TomlStrings

/-!
# TOML values read back

A boolean, a number in range, a text or an array of such values comes back from its print, if the
arrays do not nest too deep. An array of more than one item ends each line in a comma, and an array of
one item does not.
-/

namespace CommitStyle.Document

/-- A value without tables in which arrays nest at most `depth` deep. -/
inductive Tree.IsPlain : Nat → Tree → Prop
  | bool (depth : Nat) (value : Bool) : IsPlain depth (.bool value)
  | integer (depth : Nat) {value : Int} (h : isInRange value = true) : IsPlain depth (.integer value)
  | text (depth : Nat) (value : String) : IsPlain depth (.text value)
  | list {depth : Nat} {items : List Tree} (h : ∀ item ∈ items, IsPlain depth item) :
    IsPlain (depth + 1) (.list items)

namespace Toml

open Reader

/-! ### Numbers -/

lemma plainDigits?_eq_some {base : Nat} {digits : List Char} (hne : digits ≠ [])
    (hd : ∀ c ∈ digits, isDigitIn base c = true) (hu : '_' ∉ digits) :
    plainDigits? base digits = some digits := by
  induction digits with
  | nil => exact absurd rfl hne
  | cons c digits ih =>
    have hc := hd c (.head _)
    cases digits with
    | nil => simp [plainDigits?, hc]
    | cons d digits =>
      have hrest := ih (by simp) (fun e he => hd e (.tail _ he)) (fun hm => hu (.tail _ hm))
      have hne : d ≠ '_' := by
        rintro rfl
        exact hu (by simp)
      rw [plainDigits?]
      · rw [if_pos hc, hrest]
        rfl
      · simp
      · simp [hne]

lemma decimalDigits?_toDigits (n : Nat) :
    decimalDigits? (Nat.toDigits 10 n) = some (Nat.toDigits 10 n) := by
  have hplain : plainDigits? 10 (Nat.toDigits 10 n) = some (Nat.toDigits 10 n) :=
    plainDigits?_eq_some Nat.toDigits_ne_nil (fun c hc => isDigitIn_of_mem_toDigits hc) (by simp)
  rw [decimalDigits?, hplain]
  exact if_pos (length_toDigits_or n)

lemma splitSign_toDigits (n : Nat) :
    splitSign (Nat.toDigits 10 n) = (false, Nat.toDigits 10 n) := by
  have hall : ∀ c ∈ Nat.toDigits 10 n, c.isDigit = true := fun c hc => isDigit_of_mem_toDigits hc
  unfold splitSign
  split
  next h => exact absurd (hall '+' (by simp [h])) (by decide)
  next h => exact absurd (hall '-' (by simp [h])) (by decide)
  next => rfl

lemma exists_splitSign_toString (n : Int) :
    ∃ (negative : Bool) (m : Nat), splitSign (toString n).toList = (negative, Nat.toDigits 10 m) ∧
      (if negative then -(m : Int) else m) = n := by
  cases n with
  | ofNat n => exact ⟨false, n, by rw [Int.ofNat_eq_natCast, toList_toString_natCast,
      splitSign_toDigits], rfl⟩
  | negSucc n => exact ⟨true, n + 1, by rw [toList_toString_negSucc]; rfl, rfl⟩

lemma integer?_toString {n : Int} (h : isInRange n = true) :
    integer? (toString n).toList = some n := by
  have hall : ∀ c ∈ (toString n).toList, isIntegerChar c = true :=
    fun c hc => isIntegerChar_of_mem_toString hc
  obtain ⟨negative, m, hs, hn⟩ := exists_splitSign_toString n
  unfold integer?
  split
  next heq => exact absurd (hall 'x' (by rw [heq]; simp)) (by decide)
  next heq => exact absurd (hall 'o' (by rw [heq]; simp)) (by decide)
  next heq => exact absurd (hall 'b' (by rw [heq]; simp)) (by decide)
  next =>
    simp only [hs, decimalDigits?_toDigits, ofDigits_toDigits, Option.map_some, hn]
    exact if_pos h

lemma run_scalar_integer {n : Int} (h : isInRange n = true) {rest : List Char}
    (hr : Stops isScalarChar rest) :
    scalar.run ((toString n).toList ++ rest) = some (.integer n, rest) := by
  have hall : ∀ c ∈ (toString n).toList, isScalarChar c = true := by
    intro c hc
    have hi := isIntegerChar_of_mem_toString hc
    simp only [isIntegerChar, Bool.or_eq_true, beq_iff_eq] at hi
    rcases hi with rfl | hd
    · decide
    · simp [isScalarChar, Char.isAlphanum, hd]
  have hword : ∀ word : String, 'e' ∈ word.toList → (toString n).toList ≠ word.toList := by
    intro word hw he
    exact absurd (isIntegerChar_of_mem_toString (he ▸ hw)) (by decide)
  rw [scalar, run_bind_of (run_takeWhile hall hr), if_neg (by simpa using hword "true" (by simp)),
    if_neg (by simpa using hword "false" (by simp)), integer?_toString h]
  rfl

lemma run_scalar_bool (b : Bool) {rest : List Char} (hr : Stops isScalarChar rest) :
    scalar.run ((if b then "true" else "false").toList ++ rest) = some (.bool b, rest) := by
  cases b with
  | true => rw [if_pos rfl, scalar, run_bind_of (run_takeWhile (by simp; decide) hr)]; simp
  | false =>
    rw [if_neg Bool.false_ne_true, scalar, run_bind_of (run_takeWhile (by simp; decide) hr)]
    simp

/-! ### Values -/

def isValueChar (c : Char) : Bool := isScalarChar c || isQuote c

/-- A value that comes back from its print, if what follows cannot go on with it. -/
def ReadsBack (depth : Nat) (tree : Tree) : Prop :=
  ∀ (fuel : Nat) (rest : List Char), (printValue tree).toList.length + 1 ≤ fuel →
    Stops isValueChar rest →
    (value fuel depth).run ((printValue tree).toList ++ rest) = some (tree, rest)

lemma stops_isScalarChar {rest : List Char} (h : Stops isValueChar rest) :
    Stops isScalarChar rest :=
  stops_mono (fun c hc => by simp [isValueChar, hc]) h

lemma stops_isQuote {rest : List Char} (h : Stops isValueChar rest) : Stops isQuote rest :=
  stops_mono (fun c hc => by simp [isValueChar, hc]) h

def isOutside (c : Char) : Bool := isSpace c || c == '\n' || c == '#' || c == ']'

lemma isOutside_eq_false_of_isIntegerChar {c : Char} (hc : isIntegerChar c = true) :
    isOutside c = false := by
  by_contra ho
  simp only [isOutside, isSpace, Bool.not_eq_false, Bool.or_eq_true, beq_iff_eq] at ho
  rcases ho with (((rfl | rfl) | rfl) | rfl) | rfl <;> exact absurd hc (by decide)

lemma isOutside_eq_false_of_isQuote {c : Char} (hc : isQuote c = true) : isOutside c = false := by
  simp only [isQuote, Bool.or_eq_true, beq_iff_eq] at hc
  rcases hc with rfl | rfl <;> decide

lemma exists_head?_printValue (tree : Tree) :
    ∃ c, (printValue tree).toList.head? = some c ∧ isOutside c = false := by
  match tree with
  | .null | .other => exact ⟨'"', by simp [printValue], by decide⟩
  | .bool true => exact ⟨'t', by simp [printValue], by decide⟩
  | .bool false => exact ⟨'f', by simp [printValue], by decide⟩
  | .integer n =>
    obtain ⟨c, hn, hc⟩ := exists_head?_toString n
    exact ⟨c, by rw [printValue, hn], isOutside_eq_false_of_isIntegerChar hc⟩
  | .text text =>
    obtain ⟨c, hq, hc⟩ := head?_quoteAs (.ofValue text.toList) text.toList
    exact ⟨c, by rw [printValue, printText, String.toList_ofList, hq],
      isOutside_eq_false_of_isQuote hc⟩
  | .list [] => exact ⟨'[', by simp [printValue], by decide⟩
  | .list [item] => exact ⟨'[', by simp [printValue], by decide⟩
  | .list (first :: second :: items) => exact ⟨'[', by simp [printValue], by decide⟩
  | .table entries => exact ⟨'\x7b', by simp [printValue], by decide⟩

lemma stops_printValue (tree : Tree) (rest : List Char) :
    Stops isOutside ((printValue tree).toList ++ rest) := by
  obtain ⟨c, hc, ho⟩ := exists_head?_printValue tree
  exact stops_of_head? hc ho rest

lemma readsBack_of_succ {depth : Nat} {tree : Tree}
    (h : ∀ (fuel : Nat) (rest : List Char), (printValue tree).toList.length ≤ fuel →
      Stops isValueChar rest →
      (value (fuel + 1) depth).run ((printValue tree).toList ++ rest) = some (tree, rest)) :
    ReadsBack depth tree := by
  intro fuel rest hf hr
  obtain ⟨fuel, rfl⟩ : ∃ k, fuel = k + 1 := Nat.exists_eq_succ_of_ne_zero (by omega)
  exact h fuel rest (by omega) hr

lemma run_value_of_scalar (c : Char) (hq : isQuote c = false) (hb : c ≠ '[') (ht : c ≠ '\x7b')
    {text : List Char} (hc : text.head? = some c) (fuel depth : Nat) :
    (value (fuel + 1) depth).run text = scalar.run text := by
  rw [value, run_bind_of (run_peek? _), hc]
  split <;> simp_all [isQuote]

lemma readsBack_bool (depth : Nat) (b : Bool) : ReadsBack depth (.bool b) :=
  readsBack_of_succ fun fuel rest _ hr => by
    have hscalar := run_scalar_bool b (stops_isScalarChar hr)
    rw [printValue, ← hscalar]
    cases b with
    | true => exact run_value_of_scalar 't' (by decide) (by decide) (by decide) (by simp) _ _
    | false => exact run_value_of_scalar 'f' (by decide) (by decide) (by decide) (by simp) _ _

lemma readsBack_integer (depth : Nat) {n : Int} (h : isInRange n = true) :
    ReadsBack depth (.integer n) :=
  readsBack_of_succ fun fuel rest _ hr => by
    obtain ⟨c, hn, hc⟩ := exists_head?_toString n
    have hhead : ((toString n).toList ++ rest).head? = some c :=
      List.mem_head?_append_of_mem_head? hn
    have hne : ∀ d, isIntegerChar d = false → c ≠ d := by
      rintro d hd rfl
      rw [hc] at hd
      exact Bool.false_ne_true hd.symm
    have hdouble := hne '"' (by decide)
    have hsingle := hne '\'' (by decide)
    rw [printValue, run_value_of_scalar c (by simp [isQuote, hdouble, hsingle]) (hne _ (by decide))
      (hne _ (by decide)) hhead, run_scalar_integer h (stops_isScalarChar hr)]

lemma readsBack_text (depth : Nat) (text : String) : ReadsBack depth (.text text) :=
  readsBack_of_succ fun fuel rest hf hr => by
    have hlen := length_add_two_le_length_quoteAs (.ofValue text.toList) text.toList
    rw [printValue, printText, String.toList_ofList] at hf ⊢
    have hstring : (string fuel).run _ = _ :=
      run_string (carries_ofValue text.toList) (by omega) (stops_isQuote hr)
    rw [String.ofList_toList] at hstring
    obtain ⟨c, hc, hq⟩ := head?_quoteAs (.ofValue text.toList) text.toList
    rw [value, run_bind_of (run_peek? _), List.mem_head?_append_of_mem_head? hc]
    simp only [isQuote, Bool.or_eq_true, beq_iff_eq] at hq
    rcases hq with rfl | rfl
    · change (string fuel >>= _).run _ = _
      rw [run_bind_of hstring]
      rfl
    · change (string fuel >>= _).run _ = _
      rw [run_bind_of hstring]
      rfl

/-! ### Arrays -/

lemma run_skipFiller (blanks : List Char) {rest : List Char}
    (hb : ∀ c ∈ blanks, (isSpace c || c == '\n') = true)
    (hr : Stops (fun c => isSpace c || c == '\n') rest) (hc : Stops (· == '#') rest) (fuel : Nat) :
    (skipFiller (fuel + 1)).run (blanks ++ rest) = some ((), rest) := by
  have hne : (rest.head? == some '#') = false := by
    cases rest with
    | nil => rfl
    | cons c rest => simpa using hc
  rw [skipFiller, run_bind_of (run_skipWhile blanks hb hr), run_bind_of (run_peek? _), hne]
  rfl

lemma run_skipFiller_outside (blanks : List Char) {rest : List Char}
    (hb : ∀ c ∈ blanks, (isSpace c || c == '\n') = true) (hr : Stops isOutside rest) (fuel : Nat) :
    (skipFiller (fuel + 1)).run (blanks ++ rest) = some ((), rest) :=
  run_skipFiller blanks hb
    (stops_mono (fun c hc => by simp_all [isOutside]) hr)
    (stops_mono (fun c hc => by simp_all [isOutside]) hr) fuel

lemma run_skipFiller_of_stops {rest : List Char} (hr : Stops isOutside rest) (fuel : Nat) :
    (skipFiller (fuel + 1)).run rest = some ((), rest) :=
  run_skipFiller_outside [] (by simp) hr fuel

lemma stops_close_printValue (tree : Tree) (rest : List Char) :
    Stops (· == ']') ((printValue tree).toList ++ rest) :=
  stops_mono (fun c hc => by simp_all [isOutside]) (stops_printValue tree rest)

lemma run_items {depth : Nat} {items : List Tree} (h : ∀ item ∈ items, ReadsBack depth item)
    {fuel : Nat} (hf : (printItems items).toList.length + 2 ≤ fuel) (rest : List Char) :
    (Toml.items (fuel + 1) depth).run ('\n' :: ((printItems items).toList ++ ']' :: rest)) =
      some (items, rest) := by
  induction items generalizing fuel with
  | nil =>
    obtain ⟨fuel, rfl⟩ : ∃ k, fuel = k + 1 := Nat.exists_eq_succ_of_ne_zero (by omega)
    have hfiller : (skipFiller (fuel + 1)).run ('\n' :: ']' :: rest) = some ((), ']' :: rest) :=
      run_skipFiller ['\n'] (by simp) (by simp [isSpace]) (by simp) fuel
    simp only [printItems, String.toList_empty, List.nil_append]
    rw [Toml.items, run_bind_of hfiller, run_bind_of (run_accept_cons ']' rest), if_pos rfl]
    rfl
  | cons item items ih =>
    have htext : (printItems (item :: items)).toList ++ ']' :: rest = [' ', ' ', ' ', ' '] ++
        ((printValue item).toList ++ ',' :: '\n' :: ((printItems items).toList ++ ']' :: rest)) := by
      simp [printItems]
    have hlength : (printItems (item :: items)).toList.length =
        (printValue item).toList.length + (printItems items).toList.length + 6 := by
      simp [printItems]
      omega
    obtain ⟨fuel, rfl⟩ : ∃ k, fuel = k + 1 := Nat.exists_eq_succ_of_ne_zero (by omega)
    have hvalue := h item (.head _) (fuel + 1)
      (',' :: '\n' :: ((printItems items).toList ++ ']' :: rest)) (by omega) (stops_cons.2 rfl)
    have hrest := ih (fun item hi => h item (.tail _ hi)) (by omega : _ ≤ fuel)
    have hfiller := run_skipFiller_outside ('\n' :: [' ', ' ', ' ', ' ']) (List.all_eq_true.1 rfl)
      (stops_printValue item (',' :: '\n' :: ((printItems items).toList ++ ']' :: rest))) fuel
    rw [htext, ← List.cons_append, Toml.items, run_bind_of hfiller,
      run_bind_of (run_accept_of_stops (stops_close_printValue item _) []),
      if_neg Bool.false_ne_true, run_bind_of hvalue,
      run_bind_of (run_skipFiller_of_stops (stops_cons.2 rfl) fuel), run_bind_of (run_next ',' _)]
    change (Toml.items (fuel + 1) depth >>= _).run _ = _
    rw [run_bind_of hrest]
    rfl

lemma run_items_single {depth : Nat} {item : Tree} (h : ReadsBack depth item) {fuel : Nat}
    (hf : (printValue item).toList.length + 1 ≤ fuel) (rest : List Char) :
    (Toml.items (fuel + 1) depth).run ((printValue item).toList ++ ']' :: rest) =
      some ([item], rest) := by
  have hvalue := h fuel (']' :: rest) hf (stops_cons.2 rfl)
  obtain ⟨fuel, rfl⟩ : ∃ k, fuel = k + 1 := Nat.exists_eq_succ_of_ne_zero (by omega)
  have hfiller : (skipFiller (fuel + 1)).run (']' :: rest) = some ((), ']' :: rest) :=
    run_skipFiller [] (by simp) (stops_cons.2 rfl) (stops_cons.2 rfl) fuel
  rw [Toml.items, run_bind_of (run_skipFiller_of_stops (stops_printValue item _) fuel),
    run_bind_of (run_accept_of_stops (stops_close_printValue item _) []), if_neg Bool.false_ne_true,
    run_bind_of hvalue, run_bind_of hfiller, run_bind_of (run_next ']' rest)]
  rfl

lemma run_value_list {depth fuel : Nat} (hd : 1 < depth) {items : List Tree}
    {text rest : List Char} (h : (Toml.items fuel (depth - 1)).run text = some (items, rest)) :
    (value (fuel + 1) depth).run ('[' :: text) = some (.list items, rest) := by
  have hdepth : decide (1 < depth) = true := decide_eq_true hd
  rw [value, run_bind_of (run_peek? _)]
  change (require (decide (1 < depth)) >>= _).run ('[' :: text) = _
  rw [run_bind_of (run_require hdepth _), run_bind_of (run_expect_cons '[' text), run_bind_of h]
  rfl

lemma toList_printValue_list (first second : Tree) (items : List Tree) :
    (printValue (.list (first :: second :: items))).toList =
      '[' :: '\n' :: ((printItems (first :: second :: items)).toList ++ [']']) := by
  simp [printValue, printItems]

lemma readsBack_list {depth : Nat} {items : List Tree} (hd : 1 < depth)
    (h : ∀ item ∈ items, ReadsBack (depth - 1) item) : ReadsBack depth (.list items) :=
  readsBack_of_succ fun fuel rest hf _ => by
    match items, h with
    | [], _ =>
      have hlength : (printValue (.list [])).toList.length = 2 := by simp [printValue]
      have htext : (printValue (.list [])).toList ++ rest = '[' :: ([] ++ ']' :: rest) := by
        simp [printValue]
      obtain ⟨fuel, rfl⟩ : ∃ k, fuel = k + 2 := Nat.exists_eq_add_of_le' (by omega)
      rw [htext]
      refine run_value_list hd ?_
      have hfiller : (skipFiller (fuel + 1)).run (']' :: rest) = some ((), ']' :: rest) :=
        run_skipFiller [] (by simp) (stops_cons.2 rfl) (stops_cons.2 rfl) fuel
      rw [List.nil_append, Toml.items, run_bind_of hfiller, run_bind_of (run_accept_cons ']' rest),
        if_pos rfl]
      rfl
    | [item], h =>
      have htext : (printValue (.list [item])).toList = '[' :: ((printValue item).toList ++ [']']) := by
        simp [printValue]
      have hlength := congrArg List.length htext
      simp only [List.length_cons, List.length_append, List.length_nil] at hlength
      obtain ⟨fuel, rfl⟩ : ∃ k, fuel = k + 1 := Nat.exists_eq_succ_of_ne_zero (by omega)
      have hitems := run_items_single (h item (.head _)) (by omega : _ ≤ fuel) rest
      rw [htext, List.cons_append, List.append_assoc]
      exact run_value_list hd hitems
    | first :: second :: items, h =>
      have hlength := congrArg List.length (toList_printValue_list first second items)
      simp only [List.length_cons, List.length_append, List.length_nil] at hlength
      obtain ⟨fuel, rfl⟩ : ∃ k, fuel = k + 1 := Nat.exists_eq_succ_of_ne_zero (by omega)
      have hitems := run_items h (by omega : _ ≤ fuel) rest
      rw [toList_printValue_list, List.cons_append, List.cons_append, List.append_assoc]
      exact run_value_list hd hitems

/-- Arrays may nest up to the limit of the reader, less one level for the value itself. -/
lemma readsBack_of_isPlain {nesting depth : Nat} {tree : Tree} (h : tree.IsPlain nesting)
    (hd : nesting < depth) : ReadsBack depth tree := by
  induction h generalizing depth with
  | bool _ b => exact readsBack_bool depth b
  | integer _ hn => exact readsBack_integer depth hn
  | text _ text => exact readsBack_text depth text
  | list _ ih => exact readsBack_list (by omega) fun item hi => ih item hi (by omega)

lemma return_not_mem_toString (n : Int) : '\r' ∉ (toString n).toList :=
  fun h => absurd (isIntegerChar_of_mem_toString h) (by decide)

lemma return_not_mem_printItems {items : List Tree}
    (h : ∀ item ∈ items, '\r' ∉ (printValue item).toList) : '\r' ∉ (printItems items).toList := by
  induction items with
  | nil => simp [printItems]
  | cons item items ih =>
    have hrest := ih fun item hi => h item (.tail _ hi)
    have hitem := h item (.head _)
    simp [printItems, hitem, hrest]

lemma return_not_mem_printValue {nesting : Nat} {tree : Tree} (h : tree.IsPlain nesting) :
    '\r' ∉ (printValue tree).toList := by
  induction h with
  | bool _ b => cases b <;> simp [printValue]
  | integer _ _ => exact return_not_mem_toString _
  | text _ text =>
    rw [printValue, printText, String.toList_ofList]
    exact return_not_mem_quoteAs (carries_ofValue text.toList)
  | @list _ items _ ih =>
    match items, ih with
    | [], _ => simp [printValue]
    | [item], ih => simp [printValue, ih item (.head _)]
    | first :: second :: items, ih =>
      simpa [toList_printValue_list] using return_not_mem_printItems ih

end Toml

end CommitStyle.Document
