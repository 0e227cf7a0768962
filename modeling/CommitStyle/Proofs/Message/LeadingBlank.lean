import CommitStyle.Proofs.Message.Division
import CommitStyle.Rule

/-!
# Blank lines before the parts of a message

A footer is what follows the last blank line, so that the rule on the blank line before it is violated
only where there is no blank line at all and the footer takes up all lines below the header. Nothing is
left for a body then, and the rule on the blank line before that has nothing to say.
-/

namespace CommitStyle

open Text

namespace Check

variable {message : Message} {value : Option RuleValue}

lemma valid_hasBlankBeforeBody_of_none (h : message.body = none) (condition : Condition) :
    (hasBlankBeforeBody message condition value).valid = true := by
  rw [hasBlankBeforeBody, h]
  rfl

lemma valid_hasBlankBeforeBody_of_some {body : String} (h : message.body = some body) :
    (hasBlankBeforeBody message .always value).valid =
      message.below.head?.any (isBlankLine ·.toList) := by
  rw [hasBlankBeforeBody, h]
  rfl

lemma valid_hasBlankBeforeFooter_of_none (h : message.footerStart = none) (condition : Condition) :
    (hasBlankBeforeFooter message condition value).valid = true := by
  rw [hasBlankBeforeFooter, h]
  rfl

lemma valid_hasBlankBeforeFooter_of_some {start : Nat} (h : message.footerStart = some start) :
    (hasBlankBeforeFooter message .always value).valid =
      (1 < start && message.lines[start - 1]?.any (isBlankLine ·.toList)) := by
  rw [hasBlankBeforeFooter, h]
  rfl

end Check

namespace Message

open Check

structure JudgesLeadingBlanks (message : Message) (cleaned : List (List Char))
    (body footer : Outcome) : Prop where
  footer_iff : footer.valid = false ↔
    message.footer.isSome = true ∧ ∀ line ∈ cleaned, isBlankLine line = false
  footer_below_header : footer.valid = false → message.footerStart = some 1 ∧ message.body = none
  body_iff : body.valid = false ↔
    message.body.isSome = true ∧ ∃ line, cleaned[1]? = some line ∧ isBlankLine line = false
  one_valid : body.valid = true ∨ footer.valid = true

section OfLines

variable {first : List Char} {below : List (List Char)}

lemma valid_hasBlankBeforeBody_ofLines (raw : String) (first : List Char)
    (below : List (List Char)) (value : Option RuleValue) :
    (hasBlankBeforeBody (ofLines raw first below) .always value).valid = false ↔
      (ofLines raw first below).body.isSome = true ∧
        ∃ line, below.head? = some line ∧ isBlankLine line = false := by
  cases hb : (ofLines raw first below).body with
  | none => simp [valid_hasBlankBeforeBody_of_none hb]
  | some body =>
    have hbelow : (ofLines raw first below).below = below.map String.ofList := rfl
    rw [valid_hasBlankBeforeBody_of_some hb, hbelow]
    cases below with
    | nil => cases hb
    | cons line rest => simp

lemma valid_hasBlankBeforeFooter_ofLines (raw : String) (value : Option RuleValue)
    {above block : List (List Char)}
    (h : linesAboveFooter? (above ++ block) = some above.length)
    (ha : ∀ line, above.getLast? = some line → isBlankLine line = true) :
    (hasBlankBeforeFooter (ofLines raw first (above ++ block)) .always value).valid = false ↔
      above = [] := by
  obtain ⟨hstart, -, -⟩ := parts_of_some raw h
  rw [valid_hasBlankBeforeFooter_of_some hstart]
  rcases List.eq_nil_or_concat above with rfl | ⟨front, line, rfl⟩
  · simp
  · rw [List.concat_eq_append] at ha ⊢
    have hline : isBlankLine line = true := ha line (List.getLast?_concat ..)
    simp [Message.lines, ofLines, hline]

lemma footer_judged_ofLines (raw : String) (value : Option RuleValue)
    (hf : isBlankLine first = false) (hc : ∀ line ∈ below, IsCleanLine line) :
    ((hasBlankBeforeFooter (ofLines raw first below) .always value).valid = false ↔
      (ofLines raw first below).footer.isSome = true ∧
        ∀ line ∈ first :: below, isBlankLine line = false) ∧
    ((hasBlankBeforeFooter (ofLines raw first below) .always value).valid = false →
      (ofLines raw first below).footerStart = some 1 ∧ (ofLines raw first below).body = none) := by
  cases hl : linesAboveFooter? below with
  | none =>
    obtain ⟨hstart, hfooter, -⟩ : (ofLines raw first below).footerStart = none ∧ _ ∧ _ :=
      parts_of_none raw hl
    simp [valid_hasBlankBeforeFooter_of_none hstart, hfooter]
  | some n =>
    obtain ⟨above, block, rfl, -, rfl, hblock, hnonblank, hblank⟩ :=
      exists_append_of_linesAboveFooter? hl
    obtain ⟨hstart, hfooter, hbody⟩ := parts_of_some raw hl
    have hsome : (ofLines raw first (above ++ block)).footer.isSome = true := by
      have hclean : ∀ line ∈ block, IsCleanLine line :=
        fun line hm => hc line (List.mem_append_right _ hm)
      rw [hfooter, Option.isSome_map]
      exact Option.isSome_iff_ne_none.2 (block?_ne_none_of_isBlock hclean hnonblank hblock)
    rw [valid_hasBlankBeforeFooter_ofLines raw value hl hblank]
    constructor
    · constructor
      · rintro rfl
        exact ⟨hsome, List.forall_mem_cons.2 ⟨hf, hnonblank⟩⟩
      · rintro ⟨-, hall⟩
        by_contra hn
        have hlast := hblank _ (List.getLast?_eq_some_getLast hn)
        have hmem : above.getLast hn ∈ first :: (above ++ block) :=
          List.mem_cons_of_mem _ (List.mem_append_left _ (List.getLast_mem hn))
        rw [hall _ hmem] at hlast
        cases hlast
    · rintro rfl
      exact ⟨hstart, hbody⟩

end OfLines

/-- The rule on the blank line before the footer is violated if and only if there is a footer and no
line is blank, so that the footer starts right below the header and there is no body; the rule on the
blank line before the body is violated if and only if there is a body and the line right below the
header is not blank. No message violates both. -/
theorem parse?_judgesLeadingBlanks (raw : String) (message : Message) (h : parse? raw = some message) :
    ∃ bodyRule footerRule, Rule.builtin? "body-leading-blank" = some bodyRule ∧
      Rule.builtin? "footer-leading-blank" = some footerRule ∧
      ∀ value other, message.JudgesLeadingBlanks (cleanLines raw.toList)
        (bodyRule.check message .always value) (footerRule.check message .always other) := by
  refine ⟨_, _, rfl, rfl, fun value other => ?_⟩
  obtain ⟨first, below, hclean, rfl⟩ := parse?_eq_some_iff.1 h
  have hf : isBlankLine first = false :=
    not_isBlankLine_head?_cleanLines (congrArg List.head? hclean)
  have hc : ∀ line ∈ below, IsCleanLine line := fun line hl =>
    isCleanLine_of_mem_cleanLines (hclean ▸ List.mem_cons_of_mem _ hl)
  obtain ⟨hfooter, hbelow⟩ := footer_judged_ofLines raw other hf hc
  have hbody := valid_hasBlankBeforeBody_ofLines raw first below value
  rw [hclean]
  refine ⟨hfooter, hbelow, by rwa [List.getElem?_cons_succ, ← List.head?_eq_getElem?], ?_⟩
  cases hv : (hasBlankBeforeFooter (ofLines raw first below) .always other).valid with
  | true => exact .inr rfl
  | false =>
    have hskip : (hasBlankBeforeBody (ofLines raw first below) .always value).valid = true :=
      valid_hasBlankBeforeBody_of_none (hbelow hv).2 _
    exact .inl hskip

def crowded : String := "fix: leak\nRefs: #7\n and #8\n"

theorem parse?_judgesLeadingBlanks_crowded :
    ∃ message, parse? crowded = some message ∧ message.footer = some "Refs: #7\n and #8" ∧
      (hasBlankBeforeFooter message .always none).valid = false ∧
      ∃ bodyRule footerRule, Rule.builtin? "body-leading-blank" = some bodyRule ∧
        Rule.builtin? "footer-leading-blank" = some footerRule ∧
        ∀ value other, message.JudgesLeadingBlanks (cleanLines crowded.toList)
          (bodyRule.check message .always value) (footerRule.check message .always other) := by
  have hp : parse? crowded =
      some (.ofLines crowded "fix: leak".toList ["Refs: #7".toList, " and #8".toList]) := by
    decide +kernel
  exact ⟨_, hp, by decide +kernel, by decide +kernel, parse?_judgesLeadingBlanks crowded _ hp⟩

end Message

end CommitStyle
