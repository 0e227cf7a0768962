import CommitStyle.Document.TomlPrinter
import CommitStyle.Proofs.Document.Reading

/-!
# TOML strings read back

A text comes back from the string that is printed for it, whichever of the four kinds is chosen. In a
multi-line string up to two quotes are pending before a character is read.
-/

namespace CommitStyle.Document.Toml

open Reader

/-! ### Escapes -/

lemma digitValue?_upperHexDigit {n : Nat} (h : n < 16) : digitValue? (upperHexDigit n) = some n := by
  have hall : ∀ n < 16, digitValue? (upperHexDigit n) = some n := by decide
  exact hall n h

lemma toNat_lt_of_not_isPlain {c : Char} (h : isPlain c = false) : c.toNat < 256 := by
  simp only [isPlain, Bool.or_eq_false_iff, Bool.and_eq_false_iff, decide_eq_false_iff_not,
    bne_eq_false_iff_eq] at h
  omega

lemma run_codePoint {c : Char} (h : c.toNat < 256) (rest : List Char) :
    (codePoint 4).run
        (['0', '0', upperHexDigit (c.toNat / 16), upperHexDigit (c.toNat % 16)] ++ rest) =
      some (c, rest) := by
  have hhigh := digitValue?_upperHexDigit (by omega : c.toNat / 16 < 16)
  have hlow := digitValue?_upperHexDigit (by omega : c.toNat % 16 < 16)
  have hzero : digitValue? '0' = some 0 := rfl
  generalize htaken : ['0', '0', upperHexDigit (c.toNat / 16), upperHexDigit (c.toNat % 16)] = taken
  have hall : taken.all (isDigitIn 16) = true := by
    simp [← htaken, isDigitIn, hhigh, hlow, hzero]
    omega
  have hn : ofDigits 16 taken = c.toNat := by
    simp [← htaken, ofDigits, hhigh, hlow, hzero]
    omega
  have hlength : taken.length = 4 := by simp [← htaken]
  rw [codePoint, run_bind_of (run_takeExactly hlength rest), run_bind_of (run_require hall rest), hn,
    charOf?_toNat]
  rfl

lemma escapeChar_cases (c : Char) :
    (escapeChar c = [c] ∧ c ≠ '"' ∧ c ≠ '\\' ∧ c ≠ '\n' ∧ isPlain c = true) ∨
      ∃ letter more, escapeChar c = '\\' :: letter :: more ∧ isSpace letter = false ∧
        letter ≠ '\n' ∧ '\r' ∉ letter :: more ∧
        ∀ rest, escape.run (letter :: more ++ rest) = some (c, rest) := by
  unfold escapeChar
  split_ifs with hbs ht hn hff hr hq hb hp
  · subst hbs; exact .inr ⟨_, _, rfl, by decide, by decide, by decide, fun _ => rfl⟩
  · subst ht; exact .inr ⟨_, _, rfl, by decide, by decide, by decide, fun _ => rfl⟩
  · subst hn; exact .inr ⟨_, _, rfl, by decide, by decide, by decide, fun _ => rfl⟩
  · subst hff; exact .inr ⟨_, _, rfl, by decide, by decide, by decide, fun _ => rfl⟩
  · subst hr; exact .inr ⟨_, _, rfl, by decide, by decide, by decide, fun _ => rfl⟩
  · subst hq; exact .inr ⟨_, _, rfl, by decide, by decide, by decide, fun _ => rfl⟩
  · subst hb; exact .inr ⟨_, _, rfl, by decide, by decide, by decide, fun _ => rfl⟩
  · exact .inl ⟨rfl, hq, hb, hn, hp⟩
  · have hlt := toNat_lt_of_not_isPlain (by simpa using hp)
    have hdigit : ∀ n < 16, upperHexDigit n ≠ '\r' := by decide
    refine .inr ⟨_, _, rfl, by decide, by decide, ?_, fun rest => run_codePoint hlt rest⟩
    have hhigh := hdigit (c.toNat / 16) (by omega)
    have hlow := hdigit (c.toNat % 16) (by omega)
    simp [hhigh.symm, hlow.symm]

lemma escapeChar_ne_nil (c : Char) : escapeChar c ≠ [] := by
  rcases escapeChar_cases c with ⟨he, -⟩ | ⟨letter, more, he, -⟩ <;> simp [he]

/-! ### Strings within a line -/

lemma run_basicChars_cons {fuel : Nat} {c : Char} (hq : c ≠ '"') (hb : c ≠ '\\')
    (hc : isPlain c = true) {text rest kept : List Char}
    (h : (basicChars fuel).run text = some (kept, rest)) :
    (basicChars (fuel + 1)).run (c :: text) = some (c :: kept, rest) := by
  rw [basicChars, run_bind_of (run_next c text)]
  split
  next => exact absurd rfl hq
  next => exact absurd rfl hb
  next =>
    rw [run_bind_of (run_require hc _), run_bind_of h]
    rfl

lemma run_basicChars (text rest : List Char) {fuel : Nat} (hf : text.length < fuel) :
    (basicChars fuel).run (text.flatMap escapeChar ++ '"' :: rest) = some (text, rest) := by
  induction text generalizing fuel with
  | nil =>
    obtain ⟨fuel, rfl⟩ : ∃ k, fuel = k + 1 := Nat.exists_eq_succ_of_ne_zero (by omega)
    rfl
  | cons c text ih =>
    obtain ⟨fuel, rfl⟩ : ∃ k, fuel = k + 1 := Nat.exists_eq_succ_of_ne_zero (by omega)
    have hrest := ih (by simpa using hf)
    rw [List.flatMap_cons, List.append_assoc]
    rcases escapeChar_cases c with ⟨he, hq, hb, -, hc⟩ | ⟨letter, more, he, -, -, -, hrun⟩
    · rw [he]
      exact run_basicChars_cons hq hb hc hrest
    · rw [he, List.cons_append, basicChars, run_bind_of (run_next _ _)]
      change StateT.run (escape >>= _) _ = _
      rw [run_bind_of (hrun _), run_bind_of hrest]
      rfl

lemma run_literalChars {text : List Char} (h : StringKind.literal.holds text = true)
    (rest : List Char) : literalChars.run (text ++ '\'' :: rest) = some (text, rest) := by
  simp only [StringKind.holds, List.all_eq_true, Bool.and_eq_true] at h
  have hplain : text.all isPlain = true := List.all_eq_true.2 fun c hc => (h c hc).1
  rw [literalChars, run_bind_of (run_takeWhile (fun c hc => (h c hc).2) (by simp)),
    run_bind_of (run_require hplain _), run_bind_of (run_expect_cons '\'' rest)]
  rfl

/-! ### Multi-line strings -/

lemma run_closing?_of_lt {quotes : List Char} (h : quotes.length < 3) (text : List Char) :
    (closing? quotes).run text = some (none, text) := by
  rw [closing?, run_bind_of (run_require (decide_eq_true (by omega)) _), if_pos h]
  rfl

lemma run_closing?_replicate {run : Nat} (h : run < 3) (quote : Char) (text : List Char) :
    (closing? (List.replicate (run + 3) quote)).run text =
      some (some (List.replicate run quote), text) := by
  rw [closing?, run_bind_of (run_require (decide_eq_true (by simp; omega)) _), if_neg (by simp)]
  simp

lemma run_takeWhile_replicate (run : Nat) (quote : Char) {rest : List Char}
    (h : Stops (· == quote) rest) :
    (takeWhile (· == quote)).run (List.replicate run quote ++ rest) =
      some (List.replicate run quote, rest) :=
  run_takeWhile (fun c hc => by simp [List.eq_of_mem_replicate hc]) h

lemma replicate_append_three (run : Nat) (quote : Char) (rest : List Char) :
    List.replicate run quote ++ quote :: quote :: quote :: rest =
      List.replicate (run + 3) quote ++ rest := by
  rw [List.replicate_add, List.append_assoc]
  rfl

section MultiBasic

variable {run fuel : Nat} {text rest kept : List Char}

lemma run_multiBasicChars_close (hrun : run < 3) (hr : Stops (· == '"') rest) :
    (multiBasicChars (fuel + 1)).run (List.replicate run '"' ++ '"' :: '"' :: '"' :: rest) =
      some (List.replicate run '"', rest) := by
  rw [replicate_append_three, multiBasicChars, run_bind_of (run_takeWhile_replicate _ _ hr),
    run_bind_of (run_closing?_replicate hrun _ _)]
  rfl

lemma run_multiBasicChars_plain {c : Char} (hrun : run < 3) (hq : c ≠ '"') (hb : c ≠ '\\')
    (hc : isPlain c = true ∨ c = '\n') (h : (multiBasicChars fuel).run text = some (kept, rest)) :
    (multiBasicChars (fuel + 1)).run (List.replicate run '"' ++ c :: text) =
      some (List.replicate run '"' ++ c :: kept, rest) := by
  have hplain : (isPlain c || c == '\n') = true := by simpa using hc
  rw [multiBasicChars, run_bind_of (run_takeWhile_replicate _ _ (by simpa using hq)),
    run_bind_of (run_closing?_of_lt (by simpa using hrun) _)]
  change StateT.run (next >>= _) _ = _
  rw [run_bind_of (run_next c text)]
  split
  next => exact absurd rfl hb
  next =>
    rw [run_bind_of (run_require hplain _), run_bind_of h]
    rfl

lemma run_skipLineEnd_of_stops (h : Stops (fun c => isSpace c || c == '\n') text) :
    skipLineEnd.run text = some (false, text) := by
  have hspace : text.dropWhile isSpace = text :=
    Text.dropWhile_eq_self_iff_head?.2 (stops_mono (fun c hc => by simp [hc]) h)
  rw [skipLineEnd, run_bind_of (run_get text), hspace]
  split
  next => simp at h
  next => rfl

lemma run_multiBasicChars_escape {c letter : Char} (more : List Char) (hrun : run < 3)
    (hs : isSpace letter = false) (hn : letter ≠ '\n')
    (he : escape.run (letter :: more ++ text) = some (c, text))
    (h : (multiBasicChars fuel).run text = some (kept, rest)) :
    (multiBasicChars (fuel + 1)).run (List.replicate run '"' ++ '\\' :: (letter :: more ++ text)) =
      some (List.replicate run '"' ++ c :: kept, rest) := by
  have hskip : skipLineEnd.run (letter :: more ++ text) = some (false, letter :: more ++ text) :=
    run_skipLineEnd_of_stops (by simp [hs, hn])
  rw [multiBasicChars, run_bind_of (run_takeWhile_replicate _ _ (by simp)),
    run_bind_of (run_closing?_of_lt (by simpa using hrun) _)]
  change StateT.run (next >>= _) _ = _
  rw [run_bind_of (run_next '\\' _)]
  change StateT.run (skipLineEnd >>= _) _ = _
  rw [run_bind_of hskip, if_neg Bool.false_ne_true, run_bind_of he, run_bind_of h]
  rfl

lemma append_cons_replicate (run : Nat) (quote : Char) (text : List Char) :
    List.replicate run quote ++ quote :: text = List.replicate (run + 1) quote ++ text := by
  rw [List.replicate_succ', List.append_assoc]
  rfl

/-- The induction is on the text; the quotes that are pending grow until another character comes. -/
lemma run_multiBasicChars (text : List Char) (run : Nat) (hrun : run < 3)
    (hf : text.length < fuel) (hr : Stops (· == '"') rest) :
    (multiBasicChars fuel).run
        (List.replicate run '"' ++ (escapeMultiLine run text ++ '"' :: '"' :: '"' :: rest)) =
      some (List.replicate run '"' ++ text, rest) := by
  obtain ⟨fuel, rfl⟩ : ∃ k, fuel = k + 1 := Nat.exists_eq_succ_of_ne_zero (by omega)
  induction text generalizing run fuel with
  | nil => simpa [escapeMultiLine] using run_multiBasicChars_close hrun hr
  | cons c text ih =>
    rw [List.length_cons] at hf
    obtain ⟨fuel, rfl⟩ : ∃ k, fuel = k + 1 := Nat.exists_eq_succ_of_ne_zero (by omega)
    have hrest := ih 0 (by omega) fuel (by omega)
    rw [List.replicate_zero, List.nil_append, List.nil_append] at hrest
    by_cases hn : c = '\n'
    · subst hn
      rw [escapeMultiLine, List.cons_append]
      exact run_multiBasicChars_plain hrun (by decide) (by decide) (.inr rfl) hrest
    by_cases hq : c = '"'
    · subst hq
      by_cases htwo : run < 2
      · rw [escapeMultiLine, if_pos htwo, List.cons_append, append_cons_replicate,
          append_cons_replicate]
        exact ih (run + 1) (by omega) (fuel + 1) (by omega)
      · rw [escapeMultiLine, if_neg htwo, List.append_assoc]
        exact run_multiBasicChars_escape [] hrun (by decide) (by decide) rfl hrest
    · rw [escapeMultiLine, List.append_assoc]
      · rcases escapeChar_cases c with ⟨he, -, hb, -, hc⟩ | ⟨letter, more, he, hs, hl, -, hescape⟩
        · rw [he]
          exact run_multiBasicChars_plain hrun hq hb (.inl hc) hrest
        · rw [he]
          exact run_multiBasicChars_escape more hrun hs hl (hescape _) hrest
      · exact hn
      · exact hq

end MultiBasic

section MultiLiteral

variable {run fuel : Nat} {text rest kept : List Char}

lemma run_multiLiteralChars_close (hrun : run < 3) (hr : Stops (· == '\'') rest) :
    (multiLiteralChars (fuel + 1)).run (List.replicate run '\'' ++ '\'' :: '\'' :: '\'' :: rest) =
      some (List.replicate run '\'', rest) := by
  rw [replicate_append_three, multiLiteralChars, run_bind_of (run_takeWhile_replicate _ _ hr),
    run_bind_of (run_closing?_replicate hrun _ _)]
  rfl

lemma run_multiLiteralChars_plain {c : Char} (hrun : run < 3) (hq : c ≠ '\'')
    (hc : isControl c = false) (h : (multiLiteralChars fuel).run text = some (kept, rest)) :
    (multiLiteralChars (fuel + 1)).run (List.replicate run '\'' ++ c :: text) =
      some (List.replicate run '\'' ++ c :: kept, rest) := by
  have hplain : (isPlain c || c == '\n') = true := by
    cases hp : isPlain c <;> simp_all [isControl]
  rw [multiLiteralChars, run_bind_of (run_takeWhile_replicate _ _ (by simpa using hq)),
    run_bind_of (run_closing?_of_lt (by simpa using hrun) _)]
  change StateT.run (next >>= _) _ = _
  rw [run_bind_of (run_next c text), run_bind_of (run_require hplain _), run_bind_of h]
  rfl

lemma run_multiLiteralChars (text : List Char) (run : Nat) (hrun : longestRun '\'' run text ≤ 2)
    (hc : ∀ c ∈ text, isControl c = false) (hf : text.length < fuel)
    (hr : Stops (· == '\'') rest) :
    (multiLiteralChars fuel).run
        (List.replicate run '\'' ++ (text ++ '\'' :: '\'' :: '\'' :: rest)) =
      some (List.replicate run '\'' ++ text, rest) := by
  obtain ⟨fuel, rfl⟩ : ∃ k, fuel = k + 1 := Nat.exists_eq_succ_of_ne_zero (by omega)
  induction text generalizing run fuel with
  | nil =>
    rw [longestRun] at hrun
    simpa using run_multiLiteralChars_close (by omega) hr
  | cons c text ih =>
    rw [List.length_cons] at hf
    rw [longestRun] at hrun
    obtain ⟨fuel, rfl⟩ : ∃ k, fuel = k + 1 := Nat.exists_eq_succ_of_ne_zero (by omega)
    have htext : ∀ d ∈ text, isControl d = false := fun d hd => hc d (.tail _ hd)
    by_cases hq : c = '\''
    · subst hq
      rw [if_pos rfl] at hrun
      rw [List.cons_append, append_cons_replicate, append_cons_replicate]
      exact ih (run + 1) hrun htext (fuel + 1) (by omega)
    · rw [if_neg hq] at hrun
      have hrest := ih 0 (by omega) htext fuel (by omega)
      rw [List.replicate_zero, List.nil_append, List.nil_append] at hrest
      exact run_multiLiteralChars_plain (by omega) hq (hc c (.head _)) hrest

end MultiLiteral

/-! ### Strings of any kind -/

/-- The line feed that may stand after the opening of a multi-line string. -/
def opening (text : List Char) : List Char := if text.contains '\n' then ['\n'] else []

lemma quoteAs_basic (text : List Char) :
    quoteAs .basic text = '"' :: (text.flatMap escapeChar ++ ['"']) := rfl

lemma quoteAs_literal (text : List Char) : quoteAs .literal text = '\'' :: (text ++ ['\'']) := rfl

lemma quoteAs_multiBasic (text : List Char) :
    quoteAs .multiBasic text =
      ['"', '"', '"'] ++ (opening text ++ (escapeMultiLine 0 text ++ ['"', '"', '"'])) := by
  change ['"', '"', '"'] ++ opening text ++ escapeMultiLine 0 text ++ ['"', '"', '"'] = _
  simp only [List.append_assoc]

lemma quoteAs_multiLiteral (text : List Char) :
    quoteAs .multiLiteral text =
      ['\'', '\'', '\''] ++ (opening text ++ (text ++ ['\'', '\'', '\''])) := by
  change ['\'', '\'', '\''] ++ opening text ++ text ++ ['\'', '\'', '\''] = _
  simp only [List.append_assoc]

/-- Whether a text can be written in a string of the kind, with escapes where there are any. -/
def StringKind.carries (text : List Char) (kind : StringKind) : Bool :=
  kind = basic || kind = multiBasic || kind.holds text

lemma carries_ofValue (text : List Char) : (StringKind.ofValue text).carries text = true := by
  rw [StringKind.ofValue]
  split
  next kind hk => simp [StringKind.carries, (List.find?_some hk)]
  next => split <;> simp [StringKind.carries]

def isQuote (c : Char) : Bool := c == '"' || c == '\''

lemma stops_escaped (text : List Char) {rest : List Char} (h : Stops (· == '"') rest) :
    Stops (· == '"') (text.flatMap escapeChar ++ rest) := by
  cases text with
  | nil => exact h
  | cons c text =>
    rcases escapeChar_cases c with ⟨he, hq, -⟩ | ⟨letter, more, he, -⟩
    · simpa [he] using hq
    · simp [he]

lemma not_three_append_of_stops {quote : Char} {text rest : List Char} (ht : Stops (· == quote) text)
    (hr : Stops (· == quote) rest) :
    ¬ [quote, quote, quote] <+: quote :: (text ++ quote :: rest) := by
  rintro ⟨more, hm⟩
  cases text with
  | nil =>
    simp only [List.nil_append, List.cons_append, List.cons.injEq, true_and] at hm
    simp [← hm] at hr
  | cons c text =>
    simp only [List.nil_append, List.cons_append, List.cons.injEq, true_and] at hm
    simp [← hm.1] at ht

lemma toList_threeDouble : "\"\"\"".toList = ['"', '"', '"'] := by simp

lemma toList_threeSingle : "'''".toList = ['\'', '\'', '\''] := by simp

section String

variable {text rest : List Char} {fuel : Nat}

lemma run_string_basic (hf : text.length < fuel) (hr : Stops (· == '"') rest) :
    (string fuel).run (quoteAs .basic text ++ rest) = some (String.ofList text, rest) := by
  have htext : quoteAs .basic text ++ rest = '"' :: (text.flatMap escapeChar ++ '"' :: rest) := by
    simp [quoteAs_basic]
  have hstops : Stops (· == '"') (text.flatMap escapeChar) := by
    simpa using stops_escaped text (stops_nil (· == '"'))
  have hthree := not_three_append_of_stops hstops hr
  rw [htext, string, toList_threeDouble, toList_threeSingle,
    run_bind_of (run_accept_of_not hthree), if_neg Bool.false_ne_true,
    run_bind_of (run_accept_of_stops (by simp) _), if_neg Bool.false_ne_true,
    run_bind_of (run_accept_cons '"' _), if_pos rfl, run_bind_of (run_basicChars text rest hf)]
  rfl

lemma run_string_literal (h : StringKind.literal.holds text = true) (hr : Stops (· == '\'') rest) :
    (string fuel).run (quoteAs .literal text ++ rest) = some (String.ofList text, rest) := by
  have htext : quoteAs .literal text ++ rest = '\'' :: (text ++ '\'' :: rest) := by
    simp [quoteAs_literal]
  have hstops : Stops (· == '\'') text := by
    intro c hc
    simp only [StringKind.holds, List.all_eq_true, Bool.and_eq_true] at h
    simpa using (h c (List.mem_of_head? hc)).2
  have hthree := not_three_append_of_stops hstops hr
  rw [htext, string, toList_threeDouble, toList_threeSingle,
    run_bind_of (run_accept_of_stops (by simp) _), if_neg Bool.false_ne_true,
    run_bind_of (run_accept_of_not hthree), if_neg Bool.false_ne_true,
    run_bind_of (run_accept_of_stops (by simp) _), if_neg Bool.false_ne_true,
    run_bind_of (run_expect_cons '\'' _), run_bind_of (run_literalChars h rest)]
  rfl

lemma run_opening {content : List Char} (h : '\n' ∉ text → Stops (· == '\n') content) :
    (discard (accept ['\n'])).run (opening text ++ content) = some ((), content) := by
  by_cases hn : '\n' ∈ text
  · rw [opening, if_pos (by simpa using hn)]
    exact run_discard (run_accept_cons '\n' content)
  · rw [opening, if_neg (by simpa using hn)]
    exact run_discard (run_accept_of_stops (h hn) [])

lemma stops_newline_escapeMultiLine (hn : '\n' ∉ text) (rest : List Char) :
    Stops (· == '\n') (escapeMultiLine 0 text ++ '"' :: rest) := by
  cases text with
  | nil => simp [escapeMultiLine]
  | cons c text =>
    have hc : c ≠ '\n' := fun h => hn (h ▸ .head _)
    by_cases hq : c = '"'
    · subst hq
      simp [escapeMultiLine]
    · rw [escapeMultiLine]
      · rcases escapeChar_cases c with ⟨he, -⟩ | ⟨letter, more, he, -⟩
        · simpa [he] using hc
        · simp [he]
      · exact hc
      · exact hq

lemma run_string_multiBasic (hf : text.length < fuel) (hr : Stops (· == '"') rest) :
    (string fuel).run (quoteAs .multiBasic text ++ rest) = some (String.ofList text, rest) := by
  have htext : quoteAs .multiBasic text ++ rest =
      ['"', '"', '"'] ++ (opening text ++ (escapeMultiLine 0 text ++ '"' :: '"' :: '"' :: rest)) := by
    simp [quoteAs_multiBasic]
  have hcontent : (multiBasicChars fuel).run
      (escapeMultiLine 0 text ++ '"' :: '"' :: '"' :: rest) = some (text, rest) :=
    run_multiBasicChars text 0 (by omega) hf hr
  rw [htext, string, toList_threeDouble, run_bind_of (run_accept _ _), if_pos rfl,
    run_bind_of (run_opening fun hn => stops_newline_escapeMultiLine hn _),
    run_bind_of hcontent]
  rfl

lemma run_string_multiLiteral (h : StringKind.multiLiteral.holds text = true)
    (hf : text.length < fuel) (hr : Stops (· == '\'') rest) :
    (string fuel).run (quoteAs .multiLiteral text ++ rest) = some (String.ofList text, rest) := by
  have htext : quoteAs .multiLiteral text ++ rest =
      ['\'', '\'', '\''] ++ (opening text ++ (text ++ '\'' :: '\'' :: '\'' :: rest)) := by
    simp [quoteAs_multiLiteral]
  have hopening : '\n' ∉ text → Stops (· == '\n') (text ++ '\'' :: '\'' :: '\'' :: rest) := by
    intro hn
    cases text with
    | nil => simp
    | cons c text => simpa using fun hc : c = '\n' => hn (hc ▸ .head _)
  simp only [StringKind.holds, Bool.and_eq_true, List.all_eq_true, Bool.not_eq_true',
    decide_eq_true_eq] at h
  have hcontent : (multiLiteralChars fuel).run (text ++ '\'' :: '\'' :: '\'' :: rest) =
      some (text, rest) :=
    run_multiLiteralChars text 0 h.2 h.1 hf hr
  rw [htext, string, toList_threeDouble, toList_threeSingle, List.cons_append,
    run_bind_of (run_accept_of_stops (by simp) _), if_neg Bool.false_ne_true, ← List.cons_append,
    run_bind_of (run_accept _ _), if_pos rfl, run_bind_of (run_opening hopening),
    run_bind_of hcontent]
  rfl

lemma run_string {kind : StringKind} (h : kind.carries text = true) (hf : text.length < fuel)
    (hr : Stops isQuote rest) :
    (string fuel).run (quoteAs kind text ++ rest) = some (String.ofList text, rest) := by
  have hdouble : Stops (· == '"') rest := stops_mono (fun c hc => by simp_all [isQuote]) hr
  have hsingle : Stops (· == '\'') rest := stops_mono (fun c hc => by simp_all [isQuote]) hr
  cases kind with
  | basic => exact run_string_basic hf hdouble
  | literal => exact run_string_literal (by simpa [StringKind.carries] using h) hsingle
  | multiBasic => exact run_string_multiBasic hf hdouble
  | multiLiteral => exact run_string_multiLiteral (by simpa [StringKind.carries] using h) hf hsingle

end String

/-! ### What is printed -/

lemma return_not_mem_escapeChar (c : Char) : '\r' ∉ escapeChar c := by
  rcases escapeChar_cases c with ⟨he, -, -, -, hp⟩ | ⟨letter, more, he, -, -, hr, -⟩
  · rw [he, List.mem_singleton]
    rintro rfl
    exact absurd hp (by decide)
  · rw [he, List.mem_cons, not_or]
    exact ⟨by decide, hr⟩

lemma exists_escapeMultiLine_cons (run : Nat) (c : Char) (text : List Char) :
    ∃ piece next, escapeMultiLine run (c :: text) = piece ++ escapeMultiLine next text ∧
      piece ≠ [] ∧ '\r' ∉ piece := by
  by_cases hn : c = '\n'
  · subst hn
    exact ⟨['\n'], 0, rfl, by decide, by decide⟩
  by_cases hq : c = '"'
  · subst hq
    by_cases htwo : run < 2
    · exact ⟨['"'], run + 1, by simp [escapeMultiLine, htwo], by decide, by decide⟩
    · exact ⟨escapeChar '"', 0, by simp [escapeMultiLine, htwo], by decide, by decide⟩
  · refine ⟨escapeChar c, 0, ?_, escapeChar_ne_nil c, return_not_mem_escapeChar c⟩
    rw [escapeMultiLine]
    · exact hn
    · exact hq

lemma length_le_length_escapeMultiLine (text : List Char) (run : Nat) :
    text.length ≤ (escapeMultiLine run text).length := by
  induction text generalizing run with
  | nil => simp
  | cons c text ih =>
    obtain ⟨piece, next, he, hne, -⟩ := exists_escapeMultiLine_cons run c text
    have hpiece := List.length_pos_of_ne_nil hne
    have hrest := ih next
    rw [he, List.length_append, List.length_cons]
    omega

lemma return_not_mem_escapeMultiLine (text : List Char) (run : Nat) :
    '\r' ∉ escapeMultiLine run text := by
  induction text generalizing run with
  | nil => simp [escapeMultiLine]
  | cons c text ih =>
    obtain ⟨piece, next, he, -, hr⟩ := exists_escapeMultiLine_cons run c text
    rw [he, List.mem_append, not_or]
    exact ⟨hr, ih next⟩

lemma length_add_two_le_length_quoteAs (kind : StringKind) (text : List Char) :
    text.length + 2 ≤ (quoteAs kind text).length := by
  cases kind with
  | basic =>
    have hle := length_le_length_flatMap escapeChar_ne_nil text
    simp only [quoteAs_basic, List.length_cons, List.length_append, List.length_nil]
    omega
  | literal => simp [quoteAs_literal]
  | multiBasic =>
    have hle := length_le_length_escapeMultiLine text 0
    simp only [quoteAs_multiBasic, List.length_cons, List.length_append, List.length_nil]
    omega
  | multiLiteral =>
    simp only [quoteAs_multiLiteral, List.length_cons, List.length_append, List.length_nil]
    omega

lemma return_not_mem_quoteAs {kind : StringKind} {text : List Char}
    (h : kind.carries text = true) : '\r' ∉ quoteAs kind text := by
  have hopening : '\r' ∉ opening text := by
    rw [opening]
    split <;> decide
  have hreturn : isPlain '\r' = false := by decide
  cases kind with
  | basic =>
    have hall : ∀ c ∈ text, '\r' ∉ escapeChar c := fun c _ => return_not_mem_escapeChar c
    simpa [quoteAs_basic] using hall
  | literal =>
    have hr : '\r' ∉ text := by
      intro hm
      simp only [StringKind.carries, StringKind.holds] at h
      simp at h
      have := (h _ hm).1
      rw [hreturn] at this
      exact Bool.false_ne_true this
    simpa [quoteAs_literal] using hr
  | multiBasic => simpa [quoteAs_multiBasic, hopening] using return_not_mem_escapeMultiLine text 0
  | multiLiteral =>
    have hr : '\r' ∉ text := by
      intro hm
      simp only [StringKind.carries, StringKind.holds] at h
      simp at h
      have := h.1 _ hm
      simp [isControl, hreturn] at this
    simpa [quoteAs_multiLiteral, hopening] using hr

lemma head?_quoteAs (kind : StringKind) (text : List Char) :
    ∃ c, (quoteAs kind text).head? = some c ∧ isQuote c = true := by
  cases kind with
  | basic => exact ⟨'"', rfl, rfl⟩
  | literal => exact ⟨'\'', rfl, rfl⟩
  | multiBasic => exact ⟨'"', rfl, rfl⟩
  | multiLiteral => exact ⟨'\'', rfl, rfl⟩

end CommitStyle.Document.Toml
