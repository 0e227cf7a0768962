import CommitStyle.Rule
import Mathlib.Data.List.Basic

/-!
# Rules about one field

A rule is named after the part of a message that it is about. Apart from the rules on leading blank
lines, such a rule looks at nothing else of a message, and unless it asks whether the part is there it
skips a message that does not have it.
-/

namespace CommitStyle

def Field.Names (field : Field) (name : String) : Prop :=
  field.name.toList ++ ['-'] <+: name.toList

instance (field : Field) (name : String) : Decidable (field.Names name) :=
  inferInstanceAs (Decidable (_ <+: _))

namespace Check

def LooksOnlyAt (check : Check) (field : Field) : Prop :=
  ∀ message other condition value, field.of message = field.of other →
    check message condition value = check other condition value

def SkipsWithout (check : Check) (field : Field) : Prop :=
  ∀ message condition value, field.of message = none → check message condition value = .skipped

variable (field : Field)

@[simp] lemma looksOnlyAt_isEmpty : (isEmpty field).LooksOnlyAt field := by
  intro message other condition value h
  rw [isEmpty, isEmpty, h]

@[simp] lemma looksOnlyAt_hasCasing : (hasCasing field).LooksOnlyAt field := by
  intro message other condition value h
  rw [hasCasing, hasCasing, h]

@[simp] lemma looksOnlyAt_endsInStop : (endsInStop field).LooksOnlyAt field := by
  intro message other condition value h
  rw [endsInStop, endsInStop, h]

@[simp] lemma looksOnlyAt_hasMaxLength : (hasMaxLength field).LooksOnlyAt field := by
  intro message other condition value h
  rw [hasMaxLength, hasMaxLength, h]

@[simp] lemma looksOnlyAt_hasMinLength : (hasMinLength field).LooksOnlyAt field := by
  intro message other condition value h
  rw [hasMinLength, hasMinLength, h]

@[simp] lemma looksOnlyAt_hasMaxLineLength : (hasMaxLineLength field).LooksOnlyAt field := by
  intro message other condition value h
  rw [hasMaxLineLength, hasMaxLineLength, h]

@[simp] lemma looksOnlyAt_hasListedType : hasListedType.LooksOnlyAt .type := by
  intro message other condition value (h : message.type = other.type)
  rw [hasListedType, hasListedType, h]

@[simp] lemma looksOnlyAt_hasListedScopes : hasListedScopes.LooksOnlyAt .scope := by
  intro message other condition value (h : message.scope = other.scope)
  rw [hasListedScopes, hasListedScopes, h]

@[simp] lemma looksOnlyAt_isTrimmed : isTrimmed.LooksOnlyAt .header := by
  intro message other condition value h
  rw [isTrimmed, isTrimmed, Option.some.inj h]

@[simp] lemma skipsWithout_hasCasing : (hasCasing field).SkipsWithout field := by
  intro message condition value h
  rw [hasCasing, h]

@[simp] lemma skipsWithout_endsInStop : (endsInStop field).SkipsWithout field := by
  intro message condition value h
  rw [endsInStop, h]

@[simp] lemma skipsWithout_hasMaxLength : (hasMaxLength field).SkipsWithout field := by
  intro message condition value h
  rw [hasMaxLength, h]

@[simp] lemma skipsWithout_hasMinLength : (hasMinLength field).SkipsWithout field := by
  intro message condition value h
  rw [hasMinLength, h]

@[simp] lemma skipsWithout_hasMaxLineLength : (hasMaxLineLength field).SkipsWithout field := by
  intro message condition value h
  rw [hasMaxLineLength, h]

@[simp] lemma skipsWithout_hasListedType : hasListedType.SkipsWithout .type := by
  intro message condition value (h : message.type = none)
  rw [hasListedType, h]

@[simp] lemma skipsWithout_hasListedScopes : hasListedScopes.SkipsWithout .scope := by
  intro message condition value (h : message.scope = none)
  rw [hasListedScopes, h]

@[simp] lemma skipsWithout_header (check : Check) : check.SkipsWithout .header := by
  intro message condition value h
  cases h

end Check

namespace Rule

open Check

/-- The rule is about the field, and only `empty` has something to say where it is missing. -/
structure IsAbout (rule : Rule) (field : Field) : Prop where
  looksOnlyAt : rule.check.LooksOnlyAt field
  skipsWithout : rule.name ≠ field.name ++ "-empty" → rule.check.SkipsWithout field

lemma isAbout_iff {rule : Rule} {field : Field} : rule.IsAbout field ↔
    rule.check.LooksOnlyAt field ∧
      (rule.name ≠ field.name ++ "-empty" → rule.check.SkipsWithout field) :=
  ⟨fun h => ⟨h.looksOnlyAt, h.skipsWithout⟩, fun h => ⟨h.1, h.2⟩⟩

lemma isAbout_of_mem_builtins {rule : Rule} {field : Field} (h : rule ∈ builtins)
    (hb : rule.name ≠ "body-leading-blank") (hf : rule.name ≠ "footer-leading-blank")
    (hn : field.Names rule.name) : rule.IsAbout field := by
  revert rule
  rw [← List.forall_iff_forall_mem]
  -- The name decides which rules are left, and each of these has the lemmas of its check.
  cases field <;> simp +decide [builtins, isAbout_iff]

/-- Of a rule that is called after a field, and not on leading blank lines: messages that agree on the
field have the same outcome, and a message without the field is valid, unless the rule asks whether the
field is there. -/
theorem outcome_of_field (rule : Rule) (field : Field) (h : rule ∈ builtins)
    (hn : field.Names rule.name) (hb : rule.name ≠ "body-leading-blank")
    (hf : rule.name ≠ "footer-leading-blank") :
    (∀ message other condition value, field.of message = field.of other →
      rule.check message condition value = rule.check other condition value) ∧
    (rule.name ≠ field.name ++ "-empty" → ∀ message condition value, field.of message = none →
      (rule.check message condition value).valid = true) := by
  have ha := isAbout_of_mem_builtins h hb hf hn
  refine ⟨ha.looksOnlyAt, fun he message condition value hm => ?_⟩
  rw [ha.skipsWithout he message condition value hm]
  rfl

def brief : Message := .ofLines "feat(api)!: Add login" "feat(api)!: Add login".toList []

def lengthy : Message :=
  .ofLines "fix: Add login\n\nBy mail.\n\nRefs: #7" "fix: Add login".toList
    [[], "By mail.".toList, [], "Refs: #7".toList]

theorem outcome_of_field_subject :
    ∃ rule ∈ builtins, rule.name = "subject-case" ∧
      Message.parse? "feat(api)!: Add login" = some brief ∧
      Message.parse? "fix: Add login\n\nBy mail.\n\nRefs: #7" = some lengthy ∧
      Field.subject.of brief = Field.subject.of lengthy ∧
      (∀ condition value, rule.check brief condition value = rule.check lengthy condition value) ∧
      ∀ condition value, (rule.check (Message.empty "") condition value).valid = true := by
  have hm : (⟨"subject-case", .casings, hasCasing .subject⟩ : Rule) ∈ builtins :=
    List.mem_of_find?_eq_some (show builtin? "subject-case" = some _ from rfl)
  have hs : Field.subject.of brief = Field.subject.of lengthy := by decide +kernel
  obtain ⟨hagree, hmissing⟩ :=
    outcome_of_field _ .subject hm (by decide) (by decide) (by decide)
  exact ⟨_, hm, rfl, by decide +kernel, by decide +kernel, hs,
    fun condition value => hagree brief lengthy condition value hs,
    fun condition value => hmissing (by decide) (Message.empty "") condition value rfl⟩

end Rule

end CommitStyle
