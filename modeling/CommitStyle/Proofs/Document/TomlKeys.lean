import CommitStyle.Proofs.Document.TomlStrings

/-!
# TOML keys read back

A name comes back from the key that is printed for it, which is bare or a string within the line.
-/

namespace CommitStyle.Document.Toml

open Reader

lemma carries_ofKey (text : List Char) : (StringKind.ofKey text).carries text = true := by
  rw [StringKind.ofKey]
  split
  next kind hk => simp [StringKind.carries, (List.find?_some hk)]
  next => simp [StringKind.carries]

lemma ofKey_eq (text : List Char) :
    StringKind.ofKey text = .basic ∨ StringKind.ofKey text = .literal := by
  rw [StringKind.ofKey]
  split
  next kind hk => simpa using List.mem_of_find?_eq_some hk
  next => exact .inl rfl

lemma toList_printKey (name : String) :
    (printKey name).toList = name.toList ∧ name.toList ≠ [] ∧
        (∀ c ∈ name.toList, isBareKeyChar c = true) ∨
      (printKey name).toList = quoteAs (.ofKey name.toList) name.toList := by
  rw [printKey]
  split
  next h => exact .inl ⟨rfl, by simpa using h⟩
  next => exact .inr String.toList_ofList

lemma run_keyPart (name : String) {fuel : Nat} (hf : name.toList.length < fuel) {rest : List Char}
    (hr : Stops isBareKeyChar rest) :
    (keyPart fuel).run ((printKey name).toList ++ rest) = some (name, rest) := by
  rcases toList_printKey name with ⟨hk, hne, hbare⟩ | hk
  · have hquote : ∀ quote, isBareKeyChar quote = false → Stops (· == quote) (name.toList ++ rest) := by
      intro quote hq c hc
      rw [List.head?_append_of_ne_nil _ hne] at hc
      have hb := hbare c (List.mem_of_head? hc)
      refine beq_false_of_ne ?_
      rintro rfl
      rw [hb] at hq
      exact Bool.false_ne_true hq.symm
    rw [hk, keyPart, run_bind_of (run_accept_of_stops (hquote '"' (by decide)) []),
      if_neg Bool.false_ne_true, run_bind_of (run_accept_of_stops (hquote '\'' (by decide)) []),
      if_neg Bool.false_ne_true, run_bind_of (run_takeWhile hbare hr),
      run_bind_of (run_require (by simpa using hne) _)]
    simp
  · rcases ofKey_eq name.toList with hkind | hkind
    · rw [hk, hkind, quoteAs_basic, List.cons_append, List.append_assoc, keyPart,
        run_bind_of (run_accept_cons '"' _), if_pos rfl]
      change (basicChars fuel >>= _).run (name.toList.flatMap escapeChar ++ '"' :: rest) = _
      rw [run_bind_of (run_basicChars name.toList rest hf)]
      simp
    · have hcarries := carries_ofKey name.toList
      rw [hkind] at hcarries
      have hholds : StringKind.literal.holds name.toList = true := by
        simpa [StringKind.carries] using hcarries
      rw [hk, hkind, quoteAs_literal, List.cons_append, List.append_assoc, keyPart,
        run_bind_of (run_accept_of_stops (by simp) []), if_neg Bool.false_ne_true,
        run_bind_of (run_accept_cons '\'' _), if_pos rfl]
      change (literalChars >>= _).run (name.toList ++ '\'' :: rest) = _
      rw [run_bind_of (run_literalChars hholds rest)]
      simp

def isKeyStart (c : Char) : Bool := isBareKeyChar c || isQuote c

lemma exists_head?_printKey (name : String) :
    ∃ c, (printKey name).toList.head? = some c ∧ isKeyStart c = true := by
  rcases toList_printKey name with ⟨hk, hne, hbare⟩ | hk
  · refine ⟨name.toList.head hne, by rw [hk, List.head?_eq_some_head hne], ?_⟩
    simp [isKeyStart, hbare _ (List.head_mem hne)]
  · obtain ⟨c, hc, hq⟩ := head?_quoteAs (.ofKey name.toList) name.toList
    exact ⟨c, by rw [hk, hc], by simp [isKeyStart, hq]⟩

lemma stops_printKey {p : Char → Bool} (hp : ∀ c, p c = true → isKeyStart c = false) (name : String)
    (rest : List Char) : Stops p ((printKey name).toList ++ rest) := by
  obtain ⟨c, hc, hs⟩ := exists_head?_printKey name
  refine stops_of_head? hc ?_ rest
  by_contra hpc
  rw [hp c (by simpa using hpc)] at hs
  exact Bool.false_ne_true hs

lemma stops_beq_printKey {mark : Char} (hm : isKeyStart mark = false) (name : String)
    (rest : List Char) : Stops (· == mark) ((printKey name).toList ++ rest) :=
  stops_printKey (fun c hc => by rw [beq_iff_eq.1 hc, hm]) name rest

lemma length_le_length_printKey (name : String) :
    name.toList.length ≤ (printKey name).toList.length := by
  rcases toList_printKey name with ⟨hk, -⟩ | hk
  · exact Nat.le_of_eq (congrArg List.length hk.symm)
  · have hle := length_add_two_le_length_quoteAs (.ofKey name.toList) name.toList
    rw [hk]
    omega

lemma return_not_mem_printKey (name : String) : '\r' ∉ (printKey name).toList := by
  rcases toList_printKey name with ⟨hk, -, hbare⟩ | hk
  · rw [hk]
    exact fun hm => absurd (hbare _ hm) (by decide)
  · rw [hk]
    exact return_not_mem_quoteAs (carries_ofKey name.toList)

lemma run_key (name : String) (blanks : List Char) {rest : List Char} {fuel : Nat}
    (hf : name.toList.length < fuel) (hb : ∀ c ∈ blanks, isSpace c = true) (hs : Stops isSpace rest)
    (hd : Stops (· == '.') rest) (hr : Stops isBareKeyChar (blanks ++ rest)) :
    (key (fuel + 1)).run ((printKey name).toList ++ (blanks ++ rest)) = some ([name], rest) := by
  have hspace : Stops isSpace ((printKey name).toList ++ (blanks ++ rest)) := by
    refine stops_printKey (fun c hc => ?_) name _
    simp only [isSpace, Bool.or_eq_true, beq_iff_eq] at hc
    rcases hc with rfl | rfl <;> decide
  have hparts : (keyParts (fuel + 1)).run ((printKey name).toList ++ (blanks ++ rest)) =
      some ([name], rest) := by
    rw [keyParts, skipSpace, run_bind_of (run_skipWhile_of_stops hspace),
      run_bind_of (run_keyPart name hf hr), run_bind_of (run_skipWhile blanks hb hs),
      run_bind_of (run_accept_of_stops hd []), if_neg Bool.false_ne_true]
    rfl
  have hdepth : decide ([name].length < depthLimit) = true := rfl
  rw [key, run_bind_of hparts, run_bind_of (run_require hdepth _)]
  rfl

end CommitStyle.Document.Toml
