import CommitStyle.Document.JsonPrinter
import CommitStyle.Document.JsonReader
import CommitStyle.Proofs.Document.Reading

/-!
# JSON read back

Every value that JSON can write comes back from its print. The fuel of the reader is compared with the
length of the print, since each value, item and entry takes a character.
-/

namespace CommitStyle.Document

inductive Tree.IsJson : Tree → Prop
  | null : IsJson .null
  | bool (value : Bool) : IsJson (.bool value)
  | integer (value : Int) : IsJson (.integer value)
  | text (value : String) : IsJson (.text value)
  | list {items : List Tree} (h : ∀ item ∈ items, IsJson item) : IsJson (.list items)
  | table {entries : List (String × Tree)} (h : ∀ entry ∈ entries, IsJson entry.2) :
    IsJson (.table entries)

namespace Json

open Reader

/-! ### Strings -/

lemma digitValue?_hexDigit {n : Nat} (h : n < 16) : digitValue? (hexDigit n) = some n := by
  have hall : ∀ n < 16, digitValue? (hexDigit n) = some n := by decide
  exact hall n h

lemma run_escapedUnit {n : Nat} (h : n < 256) (rest : List Char) :
    escapedUnit.run (['0', '0', hexDigit (n / 16), hexDigit (n % 16)] ++ rest) = some (n, rest) := by
  have hhigh := digitValue?_hexDigit (by omega : n / 16 < 16)
  have hlow := digitValue?_hexDigit (by omega : n % 16 < 16)
  have hzero : digitValue? '0' = some 0 := rfl
  have hall : ['0', '0', hexDigit (n / 16), hexDigit (n % 16)].all (isDigitIn 16) = true := by
    simp [isDigitIn, hhigh, hlow, hzero]
    omega
  have htake : (takeExactly 4).run (['0', '0', hexDigit (n / 16), hexDigit (n % 16)] ++ rest) =
      some (['0', '0', hexDigit (n / 16), hexDigit (n % 16)], rest) := run_takeExactly rfl rest
  rw [escapedUnit, run_bind_of htake, run_bind_of (run_require hall rest)]
  have hn : ofDigits 16 ['0', '0', hexDigit (n / 16), hexDigit (n % 16)] = n := by
    simp [ofDigits, hhigh, hlow, hzero]
    omega
  rw [hn]
  rfl

lemma escapeChar_cases (c : Char) :
    (escapeChar c = [c] ∧ c ≠ '"' ∧ c ≠ '\\' ∧ 0x20 ≤ c.toNat) ∨
      ∃ escaped, escapeChar c = '\\' :: escaped ∧
        ∀ rest, escape.run (escaped ++ rest) = some (c.toNat, rest) := by
  unfold escapeChar
  split_ifs with hq hb hn hr ht hbs hff hlt
  · subst hq; exact .inr ⟨_, rfl, fun _ => rfl⟩
  · subst hb; exact .inr ⟨_, rfl, fun _ => rfl⟩
  · subst hn; exact .inr ⟨_, rfl, fun _ => rfl⟩
  · subst hr; exact .inr ⟨_, rfl, fun _ => rfl⟩
  · subst ht; exact .inr ⟨_, rfl, fun _ => rfl⟩
  · subst hbs; exact .inr ⟨_, rfl, fun _ => rfl⟩
  · subst hff; exact .inr ⟨_, rfl, fun _ => rfl⟩
  · exact .inr ⟨_, rfl, fun rest => run_escapedUnit (by omega) rest⟩
  · exact .inl ⟨rfl, hq, hb, by omega⟩

lemma run_stringUnits_cons {fuel : Nat} {c : Char} (hq : c ≠ '"') (hb : c ≠ '\\')
    (hc : 0x20 ≤ c.toNat) {text rest : List Char} {units : List Nat}
    (h : (stringUnits fuel).run text = some (units, rest)) :
    (stringUnits (fuel + 1)).run (c :: text) = some (c.toNat :: units, rest) := by
  rw [stringUnits, run_bind_of (run_next c text)]
  split
  next => exact absurd rfl hq
  next => exact absurd rfl hb
  next =>
    rw [run_bind_of (run_require (by simpa using hc) _), run_bind_of h]
    rfl

lemma run_stringUnits (text rest : List Char) {fuel : Nat} (hf : text.length < fuel) :
    (stringUnits fuel).run (text.flatMap escapeChar ++ '"' :: rest) =
      some (text.map Char.toNat, rest) := by
  induction text generalizing fuel with
  | nil =>
    obtain ⟨fuel, rfl⟩ : ∃ k, fuel = k + 1 := Nat.exists_eq_succ_of_ne_zero (by omega)
    rfl
  | cons c text ih =>
    obtain ⟨fuel, rfl⟩ : ∃ k, fuel = k + 1 := Nat.exists_eq_succ_of_ne_zero (by omega)
    have hrest := ih (by simpa using hf)
    rw [List.flatMap_cons, List.append_assoc]
    rcases escapeChar_cases c with ⟨he, hq, hb, hc⟩ | ⟨escaped, he, hrun⟩
    · rw [he]
      exact run_stringUnits_cons hq hb hc hrest
    · rw [he, List.cons_append, stringUnits, run_bind_of (run_next _ _)]
      change StateT.run (escape >>= _) _ = _
      rw [run_bind_of (hrun _), run_bind_of hrest]
      rfl

lemma not_isHighSurrogate_toNat (c : Char) : isHighSurrogate c.toNat = false := by
  have hv : c.toNat.isValidChar := c.valid
  unfold Nat.isValidChar at hv
  simp only [isHighSurrogate, Bool.and_eq_false_iff, decide_eq_false_iff_not]
  omega

lemma textOf?_map_toNat (text : List Char) : textOf? (text.map Char.toNat) = some text := by
  induction text with
  | nil => rfl
  | cons c text ih =>
    cases text with
    | nil => simp [textOf?, charOf?_toNat]
    | cons d text =>
      rw [List.map_cons] at ih
      simp [textOf?, not_isHighSurrogate_toNat, charOf?_toNat, ih]

lemma toList_quote (text : String) :
    (quote text).toList = '"' :: text.toList.flatMap escapeChar ++ ['"'] := by
  simp [quote]

lemma run_string (text : String) (rest : List Char) {fuel : Nat} (hf : text.toList.length < fuel) :
    (string fuel).run ((quote text).toList ++ rest) = some (some text, rest) := by
  have htext : (quote text).toList ++ rest =
      ['"'] ++ (text.toList.flatMap escapeChar ++ '"' :: rest) := by
    simp [toList_quote]
  rw [htext, string, run_bind_of (run_expect _ _), run_bind_of (run_stringUnits _ rest hf),
    textOf?_map_toNat]
  simp

lemma escapeChar_ne_nil (c : Char) : escapeChar c ≠ [] := by
  rcases escapeChar_cases c with ⟨he, -⟩ | ⟨escaped, he, -⟩ <;> simp [he]

lemma length_add_two_le_length_quote (text : String) :
    text.toList.length + 2 ≤ (quote text).toList.length := by
  have hle := length_le_length_flatMap escapeChar_ne_nil text.toList
  simp only [toList_quote, List.cons_append, List.length_cons, List.length_append, List.length_nil]
  omega

/-! ### Numbers -/

def isNumberChar (c : Char) : Bool := c.isDigit || c == '.' || c == 'e' || c == 'E'

lemma run_digits1 (n : Nat) {rest : List Char} (h : Stops isNumberChar rest) :
    digits1.run (Nat.toDigits 10 n ++ rest) = some (Nat.toDigits 10 n, rest) := by
  have hstop : Stops Char.isDigit rest := stops_mono (fun c hc => by simp [isNumberChar, hc]) h
  rw [digits1, run_bind_of (run_takeWhile (fun c hc => isDigit_of_mem_toDigits hc) hstop),
    run_bind_of (run_require (by simp [Nat.toDigits_ne_nil]) _)]
  rfl

lemma run_sign (n : Int) (rest : List Char) :
    ∃ (negative : Bool) (m : Nat),
      (accept ['-']).run ((toString n).toList ++ rest) = some (negative, Nat.toDigits 10 m ++ rest) ∧
        n = (if negative then -(m : Int) else m) ∧ (negative && m == 0) = false := by
  cases n with
  | ofNat n =>
    refine ⟨false, n, ?_, rfl, rfl⟩
    have hstop : Stops (· == '-') (Nat.toDigits 10 n) := by
      intro c hc
      have hd := isDigit_of_mem_toDigits (List.mem_of_head? hc)
      refine beq_false_of_ne ?_
      rintro rfl
      exact absurd hd (by decide)
    rw [Int.ofNat_eq_natCast, toList_toString_natCast]
    exact run_accept_of_stops (stops_append Nat.toDigits_ne_nil hstop) []
  | negSucc n =>
    refine ⟨true, n + 1, ?_, rfl, by simp⟩
    rw [toList_toString_negSucc]
    exact run_accept_cons '-' _

lemma run_number (n : Int) {rest : List Char} (h : Stops isNumberChar rest) :
    number.run ((toString n).toList ++ rest) = some (.integer n, rest) := by
  have hpoint : Stops (· == '.') rest := stops_mono (fun c hc => by simp_all [isNumberChar]) h
  have hlower : Stops (· == 'e') rest := stops_mono (fun c hc => by simp_all [isNumberChar]) h
  have hupper : Stops (· == 'E') rest := stops_mono (fun c hc => by simp_all [isNumberChar]) h
  obtain ⟨negative, m, hsign, rfl, hzero⟩ := run_sign n rest
  rw [number, run_bind_of hsign, run_bind_of (run_digits1 m h),
    run_bind_of (run_require (length_toDigits_or m) _),
    run_bind_of (run_accept_of_stops hpoint []), if_neg Bool.false_ne_true,
    run_bind_of (run_accept_of_stops hlower []), if_neg Bool.false_ne_true,
    run_bind_of (run_accept_of_stops hupper [])]
  simp [ofDigits_toDigits, hzero]

/-! ### Values -/

/-- A value that comes back from its print, if what follows cannot go on with a number. -/
def ReadsBack (tree : Tree) : Prop :=
  ∀ (depth fuel : Nat) (rest : List Char), (print depth tree).toList.length ≤ fuel →
    Stops isNumberChar rest →
    (value fuel).run ((print depth tree).toList ++ rest) = some (tree, rest)

lemma toList_newLine (depth : Nat) :
    (newLine depth).toList = '\n' :: List.replicate (2 * depth) ' ' := by
  simp [newLine]

lemma isSpace_of_mem_newLine {depth : Nat} {c : Char} (h : c ∈ (newLine depth).toList) :
    isSpace c = true := by
  rw [toList_newLine, List.mem_cons, List.mem_replicate] at h
  rcases h with rfl | ⟨-, rfl⟩ <;> rfl

lemma run_skipSpace (blanks : List Char) {rest : List Char} (hb : ∀ c ∈ blanks, isSpace c = true)
    (hr : Stops isSpace rest) : skipSpace.run (blanks ++ rest) = some ((), rest) :=
  run_skipWhile blanks hb hr

lemma run_skipSpace_of_stops {rest : List Char} (hr : Stops isSpace rest) :
    skipSpace.run rest = some ((), rest) :=
  run_skipWhile_of_stops hr

lemma run_skipSpace_newLine (depth : Nat) {rest : List Char} (hr : Stops isSpace rest) :
    skipSpace.run ((newLine depth).toList ++ rest) = some ((), rest) :=
  run_skipSpace _ (fun _ => isSpace_of_mem_newLine) hr

def isOutside (c : Char) : Bool := isSpace c || c == ']' || c == '\x7d'

lemma isOutside_eq_false_of_isIntegerChar {c : Char} (hc : isIntegerChar c = true) :
    isOutside c = false := by
  by_contra ho
  simp only [isOutside, isSpace, Bool.not_eq_false, Bool.or_eq_true, beq_iff_eq] at ho
  rcases ho with ((((rfl | rfl) | rfl) | rfl) | rfl) | rfl <;> exact absurd hc (by decide)

lemma exists_head?_print (depth : Nat) (tree : Tree) :
    ∃ c, (print depth tree).toList.head? = some c ∧ isOutside c = false := by
  match tree with
  | .null | .other => exact ⟨'n', by simp [print], by decide⟩
  | .bool true => exact ⟨'t', by simp [print], by decide⟩
  | .bool false => exact ⟨'f', by simp [print], by decide⟩
  | .integer n =>
    obtain ⟨c, hn, hc⟩ := exists_head?_toString n
    exact ⟨c, by rw [print, hn], isOutside_eq_false_of_isIntegerChar hc⟩
  | .text text => exact ⟨'"', by simp [print, toList_quote], by decide⟩
  | .list [] => exact ⟨'[', by simp [print], by decide⟩
  | .list (item :: items) => exact ⟨'[', by simp [print], by decide⟩
  | .table [] => exact ⟨'\x7b', by simp [print], by decide⟩
  | .table (entry :: entries) => exact ⟨'\x7b', by simp [print], by decide⟩

lemma stops_print (depth : Nat) (tree : Tree) (rest : List Char) :
    Stops isOutside ((print depth tree).toList ++ rest) := by
  obtain ⟨c, hc, ho⟩ := exists_head?_print depth tree
  exact stops_of_head? hc ho rest

lemma stops_isSpace {text : List Char} (h : Stops isOutside text) : Stops isSpace text :=
  stops_mono (fun c hc => by simp [isOutside, hc]) h

lemma readsBack_of_succ {tree : Tree}
    (h : ∀ (depth fuel : Nat) (rest : List Char), (print depth tree).toList.length ≤ fuel + 1 →
      Stops isNumberChar rest →
      (value (fuel + 1)).run ((print depth tree).toList ++ rest) = some (tree, rest)) :
    ReadsBack tree := by
  intro depth fuel rest hf hr
  obtain ⟨c, hc, -⟩ := exists_head?_print depth tree
  obtain ⟨fuel, rfl⟩ : ∃ k, fuel = k + 1 := Nat.exists_eq_succ_of_ne_zero (by
    rintro rfl
    simp [List.eq_nil_of_length_eq_zero (Nat.le_zero.1 hf)] at hc)
  exact h depth fuel rest hf hr

lemma readsBack_null : ReadsBack .null :=
  readsBack_of_succ fun _ _ rest _ _ => by
    have hhead : ("null".toList ++ rest).head? = some 'n' := by simp
    rw [print, value, run_bind_of (run_peek? _), hhead]
    change (expect "null".toList >>= _).run _ = _
    rw [run_bind_of (run_expect _ rest)]
    rfl

lemma readsBack_bool (b : Bool) : ReadsBack (.bool b) :=
  readsBack_of_succ fun _ _ rest _ _ => by
    cases b with
    | true =>
      have hhead : ("true".toList ++ rest).head? = some 't' := by simp
      rw [print, if_pos rfl, value, run_bind_of (run_peek? _), hhead]
      change (expect "true".toList >>= _).run _ = _
      rw [run_bind_of (run_expect _ rest)]
      rfl
    | false =>
      have hhead : ("false".toList ++ rest).head? = some 'f' := by simp
      rw [print, if_neg Bool.false_ne_true, value, run_bind_of (run_peek? _), hhead]
      change (expect "false".toList >>= _).run _ = _
      rw [run_bind_of (run_expect _ rest)]
      rfl

lemma run_value_of_isIntegerChar {c : Char} (hc : isIntegerChar c = true) {text : List Char}
    (ht : text.head? = some c) (fuel : Nat) : (value (fuel + 1)).run text = number.run text := by
  rw [value, run_bind_of (run_peek? _), ht]
  split <;> simp_all [isIntegerChar]

lemma readsBack_integer (n : Int) : ReadsBack (.integer n) :=
  readsBack_of_succ fun depth fuel rest _ hr => by
    obtain ⟨c, hn, hc⟩ := exists_head?_toString n
    have hhead : ((toString n).toList ++ rest).head? = some c :=
      List.mem_head?_append_of_mem_head? hn
    rw [print, run_value_of_isIntegerChar hc hhead, run_number n hr]

lemma readsBack_text (text : String) : ReadsBack (.text text) :=
  readsBack_of_succ fun depth fuel rest hf _ => by
    have hlen := length_add_two_le_length_quote text
    rw [print] at hf
    have hstring : (string fuel).run _ = _ := run_string text rest (by omega)
    have hhead : ((quote text).toList ++ rest).head? = some '"' := by simp [toList_quote]
    rw [print, value, run_bind_of (run_peek? _), hhead]
    change (string fuel >>= _).run _ = _
    rw [run_bind_of hstring]
    rfl

lemma run_items_newLine (depth fuel : Nat) {text : List Char} (ht : Stops isSpace text) :
    (items fuel).run ((newLine depth).toList ++ text) = (items fuel).run text := by
  cases fuel with
  | zero => rfl
  | succ fuel =>
    rw [items, run_bind_of (run_skipSpace_newLine depth ht), run_bind_of (run_skipSpace_of_stops ht)]

def printRest (depth outer : Nat) (item : Tree) (items : List Tree) : List Char :=
  (print depth item ++ printItems depth items ++ newLine outer).toList

lemma printRest_nil (depth outer : Nat) (item : Tree) :
    printRest depth outer item [] = (print depth item).toList ++ (newLine outer).toList := by
  simp [printRest, printItems]

lemma printRest_cons (depth outer : Nat) (item next : Tree) (items : List Tree) :
    printRest depth outer item (next :: items) =
      (print depth item).toList ++ ',' :: ((newLine depth).toList ++ printRest depth outer next items) := by
  simp [printRest, printItems]

lemma stops_printRest (depth outer : Nat) (item : Tree) (items : List Tree) (rest : List Char) :
    Stops isOutside (printRest depth outer item items ++ rest) := by
  simpa only [printRest, String.toList_append, List.append_assoc] using stops_print depth item _

lemma run_items {item : Tree} {rest : List Tree} (h : ∀ tree ∈ item :: rest, ReadsBack tree)
    {depth outer fuel : Nat} (hf : (printRest depth outer item rest).length ≤ fuel)
    (after : List Char) :
    (items (fuel + 1)).run (printRest depth outer item rest ++ ']' :: after) =
      some (item :: rest, after) := by
  induction rest generalizing item fuel with
  | nil =>
    have hlength := congrArg List.length (printRest_nil depth outer item)
    rw [List.length_append] at hlength
    have hitem := h item (by simp) depth fuel ((newLine outer).toList ++ ']' :: after) (by omega)
      (by simp [toList_newLine, isNumberChar])
    rw [printRest_nil, List.append_assoc, items,
      run_bind_of (run_skipSpace_of_stops (stops_isSpace (stops_print depth item _))),
      run_bind_of hitem, run_bind_of (run_skipSpace_newLine outer (by simp [isSpace])),
      run_bind_of (run_next ']' after)]
    rfl
  | cons next rest ih =>
    have hlength := congrArg List.length (printRest_cons depth outer item next rest)
    simp only [List.length_append, List.length_cons] at hlength
    obtain ⟨fuel, rfl⟩ : ∃ k, fuel = k + 1 := Nat.exists_eq_succ_of_ne_zero (by omega)
    have hbelow := ih (fun tree ht => h tree (.tail _ ht)) (by omega : _ ≤ fuel)
    have hstop := stops_isSpace (stops_printRest depth outer next rest (']' :: after))
    have hitem := h item (by simp) depth (fuel + 1)
      (',' :: ((newLine depth).toList ++ (printRest depth outer next rest ++ ']' :: after)))
      (by omega) (by simp [isNumberChar])
    rw [printRest_cons, List.append_assoc, List.cons_append, List.append_assoc, items,
      run_bind_of (run_skipSpace_of_stops (stops_isSpace (stops_print depth item _))),
      run_bind_of hitem, run_bind_of (run_skipSpace_of_stops (by simp [isSpace])),
      run_bind_of (run_next ',' _)]
    change (items (fuel + 1) >>= _).run _ = _
    rw [run_bind_of ((run_items_newLine depth _ hstop).trans hbelow)]
    rfl

lemma readsBack_list {items : List Tree} (h : ∀ item ∈ items, ReadsBack item) :
    ReadsBack (.list items) :=
  readsBack_of_succ fun depth fuel rest hf _ => by
    cases items with
    | nil =>
      have htext : (print depth (.list [])).toList ++ rest = '[' :: ']' :: rest := by simp [print]
      rw [htext, value, run_bind_of (run_peek? _)]
      change (expect ['['] >>= _).run _ = _
      rw [run_bind_of (run_expect_cons '[' _),
        run_bind_of (run_skipSpace_of_stops (stops_cons.2 rfl)),
        run_bind_of (run_accept_cons ']' rest), if_pos rfl]
      rfl
    | cons item items =>
      have htext : (print depth (.list (item :: items))).toList =
          '[' :: ((newLine (depth + 1)).toList ++ (printRest (depth + 1) depth item items ++ [']'])) := by
        simp [print, printRest]
      have hlength := congrArg List.length htext
      simp only [List.length_append, List.length_cons] at hlength
      obtain ⟨fuel, rfl⟩ : ∃ k, fuel = k + 1 := Nat.exists_eq_succ_of_ne_zero (by omega)
      have hstop := stops_printRest (depth + 1) depth item items (']' :: rest)
      have hclose : Stops (· == ']') (printRest (depth + 1) depth item items ++ ']' :: rest) :=
        stops_mono (fun c hc => by simp_all [isOutside]) hstop
      rw [htext, value, run_bind_of (run_peek? _)]
      simp only [List.cons_append, List.append_assoc, List.nil_append, List.head?_cons]
      change (expect ['['] >>= _).run _ = _
      rw [run_bind_of (run_expect_cons '[' _),
        run_bind_of (run_skipSpace_newLine _ (stops_isSpace hstop)),
        run_bind_of (run_accept_of_stops hclose []), if_neg Bool.false_ne_true,
        run_bind_of (run_items h (by omega) rest)]
      rfl

/-! ### Objects -/

def printFields (depth outer : Nat) (entry : String × Tree) (entries : List (String × Tree)) :
    List Char :=
  (quote entry.1 ++ ": " ++ print depth entry.2 ++ printEntries depth entries ++
    newLine outer).toList

lemma printFields_nil (depth outer : Nat) (entry : String × Tree) :
    printFields depth outer entry [] =
      (quote entry.1).toList ++ ':' :: ' ' :: ((print depth entry.2).toList ++
        (newLine outer).toList) := by
  simp [printFields, printEntries]

lemma printFields_cons (depth outer : Nat) (entry next : String × Tree)
    (entries : List (String × Tree)) :
    printFields depth outer entry (next :: entries) =
      (quote entry.1).toList ++ ':' :: ' ' :: ((print depth entry.2).toList ++
        ',' :: ((newLine depth).toList ++ printFields depth outer next entries)) := by
  simp [printFields, printEntries]

lemma stops_quote (text : String) (rest : List Char) :
    Stops isOutside ((quote text).toList ++ rest) := by
  simp [toList_quote, isOutside, isSpace]

lemma stops_printFields (depth outer : Nat) (entry : String × Tree)
    (entries : List (String × Tree)) (rest : List Char) :
    Stops isOutside (printFields depth outer entry entries ++ rest) := by
  simpa only [printFields, String.toList_append, List.append_assoc] using stops_quote entry.1 _

lemma run_entries_newLine (depth fuel : Nat) {text : List Char} (ht : Stops isSpace text) :
    (entries fuel).run ((newLine depth).toList ++ text) = (entries fuel).run text := by
  cases fuel with
  | zero => rfl
  | succ fuel =>
    rw [entries, run_bind_of (run_skipSpace_newLine depth ht),
      run_bind_of (run_skipSpace_of_stops ht)]

lemma run_entries_field (key : String) {tree : Tree} (h : ReadsBack tree) {depth fuel : Nat}
    (hk : (quote key).toList.length ≤ fuel) (ht : (print depth tree).toList.length ≤ fuel)
    {rest : List Char} (hr : Stops isNumberChar rest) :
    (entries (fuel + 1)).run
        ((quote key).toList ++ ':' :: ' ' :: ((print depth tree).toList ++ rest)) =
      (do
        skipSpace
        match ← next with
        | '\x7d' => return [(some key, tree)]
        | ',' => return (some key, tree) :: (← entries fuel)
        | _ => failure : Reader _).run rest := by
  have hlength := length_add_two_le_length_quote key
  have hstring : (string fuel).run _ = _ :=
    run_string key (':' :: ' ' :: ((print depth tree).toList ++ rest)) (by omega)
  have hblank : skipSpace.run (' ' :: ((print depth tree).toList ++ rest)) =
      some ((), (print depth tree).toList ++ rest) :=
    run_skipSpace [' '] (by simp [isSpace]) (stops_isSpace (stops_print depth tree rest))
  rw [entries, run_bind_of (run_skipSpace_of_stops (stops_isSpace (stops_quote key _))),
    run_bind_of hstring, run_bind_of (run_skipSpace_of_stops (by simp [isSpace])),
    run_bind_of (run_expect_cons ':' _), run_bind_of hblank]
  exact run_bind_of (h depth fuel rest ht hr) _

lemma run_entries {entry : String × Tree} {rest : List (String × Tree)}
    (h : ∀ e ∈ entry :: rest, ReadsBack e.2) {depth outer fuel : Nat}
    (hf : (printFields depth outer entry rest).length ≤ fuel) (after : List Char) :
    (entries (fuel + 1)).run (printFields depth outer entry rest ++ '\x7d' :: after) =
      some ((entry :: rest).map fun e => (some e.1, e.2), after) := by
  induction rest generalizing entry fuel with
  | nil =>
    have hlength := congrArg List.length (printFields_nil depth outer entry)
    simp only [List.length_append, List.length_cons] at hlength
    have hfield := run_entries_field entry.1 (h entry (by simp)) (by omega)
      (by omega : (print depth entry.2).toList.length ≤ fuel)
      (by simp [toList_newLine, isNumberChar] :
        Stops isNumberChar ((newLine outer).toList ++ '\x7d' :: after))
    simp only [printFields_nil, List.append_assoc, List.cons_append]
    rw [hfield, run_bind_of (run_skipSpace_newLine outer (by simp [isSpace])),
      run_bind_of (run_next '\x7d' after)]
    rfl
  | cons next rest ih =>
    have hlength := congrArg List.length (printFields_cons depth outer entry next rest)
    simp only [List.length_append, List.length_cons] at hlength
    obtain ⟨fuel, rfl⟩ : ∃ k, fuel = k + 1 := Nat.exists_eq_succ_of_ne_zero (by omega)
    have hbelow := ih (fun e he => h e (.tail _ he)) (by omega : _ ≤ fuel)
    have hstop := stops_isSpace (stops_printFields depth outer next rest ('\x7d' :: after))
    have hfield := run_entries_field entry.1 (h entry (by simp)) (by omega)
      (by omega : (print depth entry.2).toList.length ≤ fuel + 1)
      (by simp [isNumberChar] : Stops isNumberChar (',' :: ((newLine depth).toList ++
        (printFields depth outer next rest ++ '\x7d' :: after))))
    simp only [printFields_cons, List.append_assoc, List.cons_append]
    rw [hfield, run_bind_of (run_skipSpace_of_stops (by simp [isSpace])),
      run_bind_of (run_next ',' _)]
    change (entries (fuel + 1) >>= _).run _ = _
    rw [run_bind_of ((run_entries_newLine depth _ hstop).trans hbelow)]
    rfl

lemma ofEntries_map_some (entries : List (String × Tree)) :
    ofEntries (entries.map fun entry => (some entry.1, entry.2)) = .table entries := by
  have hnamed : (entries.map fun entry => (some entry.1, entry.2)).mapM
      (fun field => field.1.map fun key => (key, field.2)) = some (entries.map id) :=
    mapM_map_eq_some fun _ _ => rfl
  rw [ofEntries, hnamed, List.map_id]

lemma readsBack_table {entries : List (String × Tree)} (h : ∀ e ∈ entries, ReadsBack e.2) :
    ReadsBack (.table entries) :=
  readsBack_of_succ fun depth fuel rest hf _ => by
    cases entries with
    | nil =>
      have htext : (print depth (.table [])).toList ++ rest = '\x7b' :: '\x7d' :: rest := by
        simp [print]
      rw [htext, value, run_bind_of (run_peek? _)]
      change (expect ['\x7b'] >>= _).run _ = _
      rw [run_bind_of (run_expect_cons '\x7b' _),
        run_bind_of (run_skipSpace_of_stops (stops_cons.2 rfl)),
        run_bind_of (run_accept_cons '\x7d' rest), if_pos rfl]
      rfl
    | cons entry entries =>
      have htext : (print depth (.table (entry :: entries))).toList =
          '\x7b' :: ((newLine (depth + 1)).toList ++
            (printFields (depth + 1) depth entry entries ++ ['\x7d'])) := by
        simp [print, printFields]
      have hlength := congrArg List.length htext
      simp only [List.length_append, List.length_cons] at hlength
      obtain ⟨fuel, rfl⟩ : ∃ k, fuel = k + 1 := Nat.exists_eq_succ_of_ne_zero (by omega)
      have hstop := stops_printFields (depth + 1) depth entry entries ('\x7d' :: rest)
      have hclose : Stops (· == '\x7d') (printFields (depth + 1) depth entry entries ++ '\x7d' :: rest) :=
        stops_mono (fun c hc => by simp_all [isOutside]) hstop
      rw [htext, value, run_bind_of (run_peek? _)]
      simp only [List.cons_append, List.append_assoc, List.nil_append, List.head?_cons]
      change (expect ['\x7b'] >>= _).run _ = _
      rw [run_bind_of (run_expect_cons '\x7b' _),
        run_bind_of (run_skipSpace_newLine _ (stops_isSpace hstop)),
        run_bind_of (run_accept_of_stops hclose []), if_neg Bool.false_ne_true,
        run_bind_of (run_entries h (by omega) rest), ofEntries_map_some]
      rfl

/-! ### Documents -/

lemma readsBack_of_isJson {tree : Tree} (h : tree.IsJson) : ReadsBack tree := by
  induction h with
  | null => exact readsBack_null
  | bool value => exact readsBack_bool value
  | integer value => exact readsBack_integer value
  | text value => exact readsBack_text value
  | list _ ih => exact readsBack_list ih
  | table _ ih => exact readsBack_table ih

/-- A value that JSON can write comes back from its document, whatever blanks follow it. -/
theorem read?_write_append {tree : Tree} (h : tree.IsJson) {blanks : List Char}
    (hb : ∀ c ∈ blanks, isSpace c = true) :
    read? (write tree ++ String.ofList blanks) = some tree := by
  have hnumber : Stops isNumberChar blanks := by
    intro c hc
    have hs := hb c (List.mem_of_head? hc)
    simp only [isSpace, Bool.or_eq_true, beq_iff_eq] at hs
    rcases hs with ((rfl | rfl) | rfl) | rfl <;> decide
  have hlength : (print 0 tree).toList.length ≤
      2 * ((write tree ++ String.ofList blanks).length + 1) := by
    simp only [write, ← String.length_toList, String.toList_append, List.length_append]
    omega
  have hblanks : skipSpace.run blanks = some ((), []) := by
    simpa using run_skipSpace blanks hb (stops_nil _)
  refine readAll?_eq_some ?_
  rw [String.toList_append, String.toList_ofList, document]
  change (skipSpace >>= _).run ((print 0 tree).toList ++ blanks) = _
  rw [run_bind_of (run_skipSpace_of_stops (stops_isSpace (stops_print 0 tree blanks))),
    run_bind_of (readsBack_of_isJson h 0 _ blanks hlength hnumber), run_bind_of hblanks]
  rfl

end Json

end CommitStyle.Document
