import CommitStyle.Preset
import CommitStyle.Proofs.Casing.Quoted
import CommitStyle.Proofs.Outcome

/-!
# How the shapes of letter case are related

Of a text with a letter outside its quoted spans, pascal case is start case and start case is sentence
case, and camel case is none of the three. A text without such a letter has every shape. So a list with
sentence case in it says the same with start case and pascal case as without them.
-/

namespace CommitStyle

open Unicode
open Text (splitBy splitBy_eq_singleton)

namespace Casing

variable {text : List Char}

def HasLetter (text : List Char) : Prop := ∃ c ∈ dropQuoted text, isAlphabetic c = true

lemma not_isAlphanumeric_of_isBlank {c : Char} (h : isBlank c = true) : isAlphanumeric c = false := by
  have hn : isNumeric c = false := Text.eq_false_of_isBlank (by decide +kernel) h
  rw [isAlphanumeric, not_isAlphabetic_of_isBlank h, hn]
  rfl

lemma hasLetter_iff : HasLetter text ↔ (stripQuoted text).any isAlphabetic = true := by
  have hf := filter_isAlphabetic_trim (dropQuoted text)
  rw [List.any_eq_true, stripQuoted, HasLetter]
  simp only [← List.mem_filter, ← hf]

instance : DecidablePred HasLetter := fun _ => decidable_of_iff _ hasLetter_iff.symm

lemma fits_of_hasLetter (h : HasLetter text) (casing : Casing) :
    casing.fits text = casing.shapes (stripQuoted text) := by
  rw [fits, hasLetter_iff.1 h]
  rfl

lemma fits_of_not_hasLetter (h : ¬ HasLetter text) (casing : Casing) : casing.fits text = true := by
  rw [hasLetter_iff, Bool.not_eq_true] at h
  rw [fits, h]
  rfl

/-! ### Words -/

lemma isWordBreak_of_isAlphanumeric {c : Char} (h : isAlphanumeric c = true) :
    isWordBreak c = false := by
  have hb : isBlank c = false := by
    rw [Bool.eq_false_iff]
    intro hb
    rw [not_isAlphanumeric_of_isBlank hb] at h
    cases h
  have hh : c ≠ '-' := by
    rintro rfl
    exact absurd h (by decide +kernel)
  have hl : c ≠ '_' := by
    rintro rfl
    exact absurd h (by decide +kernel)
  simp [isWordBreak, hb, hh, hl]

lemma words_eq_singleton (h : ∀ c ∈ text, isWordBreak c = false) (hn : text ≠ []) :
    words text = [text] := by
  rw [words, splitBy_eq_singleton h]
  simp [hn]

lemma exists_words_cons {c : Char} (h : isWordBreak c = false) (rest : List Char) :
    ∃ word others, words (c :: rest) = (c :: word) :: others := by
  rw [words, splitBy, if_neg (by simp [h])]
  split
  · exact ⟨[], [], rfl⟩
  · exact ⟨_, _, rfl⟩

/-! ### Shapes -/

lemma shapes_start_of_pascal (h : shapes pascal text = true) : shapes start text = true := by
  obtain ⟨hh, ha⟩ := Bool.and_eq_true_iff.1 h
  cases text with
  | nil => cases hh
  | cons c rest =>
    -- Nothing alphanumeric ends a word, so that the text is its only word.
    have hb : ∀ d ∈ c :: rest, isWordBreak d = false := fun d hd =>
      isWordBreak_of_isAlphanumeric (List.all_eq_true.1 ha d hd)
    have hc : isUppercase c = true := hh
    rw [shapes, words_eq_singleton hb (List.cons_ne_nil c rest)]
    simp [startsUpper, hc]

lemma shapes_sentence_of_start (h : shapes start text = true) : shapes sentence text = true := by
  cases text with
  | nil => rfl
  | cons c rest =>
    cases hc : isAlphabetic c with
    | false => simp [shapes, startsUpper, hc]
    | true =>
      -- A letter in front begins the first word as well.
      have hb : isWordBreak c = false :=
        isWordBreak_of_isAlphanumeric (by rw [isAlphanumeric, hc, Bool.true_or])
      obtain ⟨word, others, hw⟩ := exists_words_cons hb rest
      rw [shapes, hw, List.all_cons, Bool.and_eq_true] at h
      exact h.1

lemma not_shapes_sentence_of_camel (h : shapes camel text = true) :
    shapes sentence text = false := by
  obtain ⟨hh, -⟩ := Bool.and_eq_true_iff.1 h
  cases text with
  | nil => cases hh
  | cons c rest =>
    have hc : isLowercase c = true := hh
    have hu : isUppercase c = false := by
      rw [Bool.eq_false_iff]
      intro hu
      rw [isLowercase_eq_false hu] at hc
      cases hc
    simp [shapes, startsUpper, isAlphabetic_of_isLowercase hc, hu]

/-! ### Texts with quoted spans -/

lemma fits_of_shapes {casing other : Casing}
    (h : ∀ text, casing.shapes text = true → other.shapes text = true)
    (hf : casing.fits text = true) : other.fits text = true := by
  by_cases hl : HasLetter text
  · rw [fits_of_hasLetter hl] at hf ⊢
    exact h _ hf
  · exact fits_of_not_hasLetter hl other

lemma fits_start_of_pascal (h : fits pascal text = true) : fits start text = true :=
  fits_of_shapes (fun _ => shapes_start_of_pascal) h

lemma fits_sentence_of_start (h : fits start text = true) : fits sentence text = true :=
  fits_of_shapes (fun _ => shapes_sentence_of_start) h

lemma not_fits_sentence_of_camel (hl : HasLetter text) (h : fits camel text = true) :
    fits sentence text = false := by
  rw [fits_of_hasLetter hl] at h ⊢
  exact not_shapes_sentence_of_camel h

lemma any_fits_conventional (text : List Char) :
    [sentence, start, pascal, upper].any (·.fits text) =
      (fits sentence text || fits upper text) := by
  have hs := @fits_sentence_of_start text
  have hp := @fits_start_of_pascal text
  rw [Bool.eq_iff_iff]
  simp only [List.any_cons, List.any_nil, Bool.or_false, Bool.or_eq_true]
  tauto

def conventionalNames : List String := ["sentence-case", "start-case", "pascal-case", "upper-case"]

lemma valid_hasCasing {names : List String} (hn : names ≠ []) (field : Field) (message : Message)
    (condition : Condition) :
    (Check.hasCasing field message condition (some (.list names))).valid =
      Verdict.shapedAs field (names.filterMap ofName?) message condition :=
  (Check.judges_hasCasing field).valid (Check.items?_eq_some rfl hn) message condition

lemma shapedAs_conventional (field : Field) (message : Message) (condition : Condition) :
    Verdict.shapedAs field (conventionalNames.filterMap ofName?) message condition =
      (field.of message).all fun text =>
        condition.accepts (fits sentence text.toList || fits upper text.toList) := by
  have hc : conventionalNames.filterMap ofName? = [sentence, start, pascal, upper] := by
    decide +kernel
  simp only [Verdict.shapedAs, hc, any_fits_conventional]

lemma shapedAs_sentence_upper (field : Field) (message : Message) (condition : Condition) :
    Verdict.shapedAs field (["sentence-case", "upper-case"].filterMap ofName?) message condition =
      (field.of message).all fun text =>
        condition.accepts (fits sentence text.toList || fits upper text.toList) := by
  have hc : ["sentence-case", "upper-case"].filterMap ofName? = [sentence, upper] := by
    decide +kernel
  simp only [Verdict.shapedAs, hc, List.any_cons, List.any_nil, Bool.or_false]

/-- Of a text with a letter outside its quoted spans, pascal case is start case, start case is sentence
case and camel case is none of them; any other text has all shapes. So the conventional list judges a
subject as sentence case and upper case alone do. -/
theorem fits_lattice :
    (∀ text, HasLetter text →
      (fits pascal text = true → fits start text = true) ∧
      (fits start text = true → fits sentence text = true) ∧
      (fits camel text = true → fits sentence text = false ∧ fits start text = false ∧
        fits pascal text = false)) ∧
    (∀ text, ¬ HasLetter text → ∀ casing, fits casing text = true) ∧
    ∃ rule setting, Rule.builtin? "subject-case" = some rule ∧
      Preset.conventional.rule? "subject-case" = some setting ∧
      setting.value = some (.list conventionalNames) ∧
      ∀ message condition,
        (rule.check message condition setting.value).valid =
          (rule.check message condition (some (.list ["sentence-case", "upper-case"]))).valid ∧
        (rule.check message condition setting.value).valid = message.subject.all fun subject =>
          condition.accepts (fits sentence subject.toList || fits upper subject.toList) := by
  refine ⟨fun text hl => ⟨fits_start_of_pascal, fits_sentence_of_start, fun hc => ?_⟩,
    fun text hl casing => fits_of_not_hasLetter hl casing, _, _, rfl, rfl, rfl,
    fun message condition => ?_⟩
  · have hs : ¬ fits sentence text = true := by
      rw [not_fits_sentence_of_camel hl hc]
      decide
    have ht : ¬ fits start text = true := fun ht => hs (fits_sentence_of_start ht)
    have hp : ¬ fits pascal text = true := fun hp => ht (fits_start_of_pascal hp)
    exact ⟨by simpa using hs, by simpa using ht, by simpa using hp⟩
  · have hfour := (valid_hasCasing (List.cons_ne_nil _ _) .subject message condition).trans
      (shapedAs_conventional .subject message condition)
    have htwo := (valid_hasCasing (List.cons_ne_nil _ _) .subject message condition).trans
      (shapedAs_sentence_upper .subject message condition)
    exact ⟨hfour.trans htwo.symm, hfour⟩

theorem fits_lattice_login :
    HasLetter "LoginForm".toList ∧ fits pascal "LoginForm".toList = true ∧
      fits start "LoginForm".toList = true ∧ fits sentence "LoginForm".toList = true ∧
    HasLetter "loginForm".toList ∧ fits camel "loginForm".toList = true ∧
      fits sentence "loginForm".toList = false ∧
    ¬ HasLetter "`Login` 1.2".toList ∧ ∀ casing, fits casing "`Login` 1.2".toList = true := by
  obtain ⟨hlattice, hnone, -⟩ := fits_lattice
  have hupper : HasLetter "LoginForm".toList := by decide +kernel
  have hlower : HasLetter "loginForm".toList := by decide +kernel
  have hquoted : ¬ HasLetter "`Login` 1.2".toList := by decide +kernel
  have hp : fits pascal "LoginForm".toList = true := by decide +kernel
  have hc : fits camel "loginForm".toList = true := by decide +kernel
  obtain ⟨hstart, hsentence, -⟩ := hlattice _ hupper
  obtain ⟨-, -, hcamel⟩ := hlattice _ hlower
  exact ⟨hupper, hp, hstart hp, hsentence (hstart hp), hlower, hc, (hcamel hc).1, hquoted,
    hnone _ hquoted⟩

end Casing

end CommitStyle
