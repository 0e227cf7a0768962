import CommitStyle.RuleSet.Validity
import Mathlib.Data.List.Basic

/-!
# What a condition decides

Most built-in rules ask a question that has one answer, so that a message is valid under exactly one
of the two conditions. Limits and the rule on blanks around the header ask for the same answer under
either. The rule on listed scopes asks about every scope that a message names, and the answers can
differ: under `always` all must be yes, under `never` all must be no.
-/

namespace CommitStyle

namespace Check

def Applies (check : Check) (message : Message) (value : Option RuleValue) : Prop :=
  ∃ condition, (check message condition value).demand ≠ ""

/-- The check skips a message, or puts one question to it under either condition. -/
def IsQuestion (check : Check) : Prop :=
  ∀ message value, (∀ condition, check message condition value = .skipped) ∨
    ∃ answer demand, ∀ condition, check message condition value = ask answer condition demand

/-- A message is valid under exactly one of the conditions, wherever the check applies. -/
def IsDecided (check : Check) : Prop :=
  ∀ message value, check.Applies message value →
    (check message .always value).valid ≠ (check message .never value).valid

def IsUnconditional (check : Check) : Prop :=
  ∀ message value, check message .always value = check message .never value

variable {check : Check} {message : Message} {value : Option RuleValue}

lemma Applies.ne_skipped (h : check.Applies message value)
    (hs : ∀ condition, check message condition value = .skipped) : False := by
  obtain ⟨condition, hd⟩ := h
  rw [hs condition] at hd
  exact hd rfl

lemma IsQuestion.isDecided (h : check.IsQuestion) : check.IsDecided := by
  intro message value ha
  obtain hs | ⟨answer, demand, ho⟩ := h message value
  · exact (ha.ne_skipped hs).elim
  · rw [ho, ho]
    cases answer <;> simp [ask, Outcome.valid, Condition.accepts]

@[simp] lemma isQuestion_isEmpty (field : Field) : (isEmpty field).IsQuestion :=
  fun _ _ => .inr ⟨_, _, fun _ => rfl⟩

@[simp] lemma isQuestion_isSigned : isSigned.IsQuestion := by
  intro message value
  unfold isSigned
  exact .inr ⟨_, _, fun _ => rfl⟩

@[simp] lemma isQuestion_endsInStop (field : Field) : (endsInStop field).IsQuestion := by
  intro message value
  unfold endsInStop
  cases field.of message with
  | none => exact .inl fun _ => rfl
  | some text => exact .inr ⟨_, _, fun _ => rfl⟩

@[simp] lemma isQuestion_hasCasing (field : Field) : (hasCasing field).IsQuestion := by
  intro message value
  unfold hasCasing
  cases field.of message with
  | none => exact .inl fun _ => rfl
  | some text =>
    cases items? value with
    | none => exact .inl fun _ => rfl
    | some names => exact .inr ⟨_, _, fun _ => rfl⟩

@[simp] lemma isQuestion_hasListedType : hasListedType.IsQuestion := by
  intro message value
  unfold hasListedType
  cases message.type with
  | none => exact .inl fun _ => rfl
  | some type =>
    cases items? value with
    | none => exact .inl fun _ => rfl
    | some allowed => exact .inr ⟨_, _, fun _ => rfl⟩

@[simp] lemma isQuestion_hasBlankBeforeBody : hasBlankBeforeBody.IsQuestion := by
  intro message value
  unfold hasBlankBeforeBody
  cases message.body with
  | none => exact .inl fun _ => rfl
  | some body =>
    simp only [Option.isNone_some, Bool.false_eq_true, if_false]
    exact .inr ⟨_, _, fun _ => rfl⟩

@[simp] lemma isQuestion_hasBlankBeforeFooter : hasBlankBeforeFooter.IsQuestion := by
  intro message value
  unfold hasBlankBeforeFooter
  cases message.footerStart with
  | none => exact .inl fun _ => rfl
  | some start => exact .inr ⟨_, _, fun _ => rfl⟩

@[simp] lemma isUnconditional_hasMaxLength (field : Field) : (hasMaxLength field).IsUnconditional :=
  fun _ _ => rfl

@[simp] lemma isUnconditional_hasMinLength (field : Field) : (hasMinLength field).IsUnconditional :=
  fun _ _ => rfl

@[simp] lemma isUnconditional_hasMaxLineLength (field : Field) :
    (hasMaxLineLength field).IsUnconditional :=
  fun _ _ => rfl

@[simp] lemma isUnconditional_isTrimmed : isTrimmed.IsUnconditional := fun _ _ => rfl

structure JudgesScopes (check : Check) (message : Message) (value : Option RuleValue)
    (scopes allowed : List String) : Prop where
  valid_always : (check message .always value).valid = true ↔ ∀ scope ∈ scopes, scope ∈ allowed
  valid_never : (check message .never value).valid = true ↔ ∀ scope ∈ scopes, scope ∉ allowed

lemma JudgesScopes.valid_ne_iff {scopes allowed : List String}
    (h : check.JudgesScopes message value scopes allowed) :
    (check message .always value).valid ≠ (check message .never value).valid ↔
      scopes ≠ [] ∧
        ((∀ scope ∈ scopes, scope ∈ allowed) ∨ ∀ scope ∈ scopes, scope ∉ allowed) := by
  have hn : scopes ≠ [] → ¬((∀ scope ∈ scopes, scope ∈ allowed) ∧
      ∀ scope ∈ scopes, scope ∉ allowed) := by
    intro hs hb
    obtain ⟨scope, hm⟩ := List.exists_mem_of_ne_nil scopes hs
    exact hb.2 scope hm (hb.1 scope hm)
  rw [Ne, Bool.eq_iff_iff, h.valid_always, h.valid_never]
  by_cases hs : scopes = []
  · simp [hs]
  · have hb := hn hs
    tauto

lemma judgesScopes_of_scope {scope : String} {allowed : List String}
    (hs : message.scope = some scope) (hi : items? value = some allowed) :
    hasListedScopes.JudgesScopes message value (scopesIn scope) allowed := by
  constructor <;> simp [hasListedScopes, hs, hi, Outcome.valid]

lemma judgesScopes_hasListedScopes (h : hasListedScopes.Applies message value) :
    ∃ scope allowed, message.scope = some scope ∧ items? value = some allowed ∧
      hasListedScopes.JudgesScopes message value (scopesIn scope) allowed := by
  cases hs : message.scope with
  | none =>
    refine (h.ne_skipped fun condition => ?_).elim
    rw [hasListedScopes, hs]
  | some scope =>
    cases hi : items? value with
    | none =>
      refine (h.ne_skipped fun condition => ?_).elim
      rw [hasListedScopes, hs, hi]
    | some allowed => exact ⟨scope, allowed, rfl, rfl, judgesScopes_of_scope hs hi⟩

end Check

namespace Rule

open Check

variable {rule : Rule}

lemma isQuestion_of_mem_builtins (h : rule ∈ builtins) (hk : rule.kind ≠ .limit)
    (ht : rule.name ≠ "header-trim") (hs : rule.name ≠ "scope-enum") : rule.check.IsQuestion := by
  revert rule
  rw [← List.forall_iff_forall_mem]
  -- Each rule is told apart by its kind or its name, or has the lemma of its check.
  simp [builtins]

lemma isUnconditional_of_mem_builtins (h : rule ∈ builtins)
    (hk : rule.kind = .limit ∨ rule.name = "header-trim") : rule.check.IsUnconditional := by
  revert rule
  rw [← List.forall_iff_forall_mem]
  simp [builtins]

lemma check_eq_of_scope_enum (h : rule ∈ builtins) (hn : rule.name = "scope-enum") :
    rule.check = hasListedScopes := by
  revert rule
  rw [← List.forall_iff_forall_mem]
  simp [builtins]

/-- What the conditions decide of every built-in rule. -/
theorem conditions_of_mem_builtins (rule : Rule) (h : rule ∈ builtins) :
    (rule.kind ≠ .limit → rule.name ≠ "header-trim" → rule.name ≠ "scope-enum" →
      rule.check.IsDecided) ∧
    (rule.kind = .limit ∨ rule.name = "header-trim" → rule.check.IsUnconditional) ∧
    (rule.name = "scope-enum" → ∀ message value, rule.check.Applies message value →
      ∃ scope allowed, message.scope = some scope ∧ items? value = some allowed ∧
        rule.check.JudgesScopes message value (scopesIn scope) allowed ∧
        ((rule.check message .always value).valid ≠ (rule.check message .never value).valid ↔
          scopesIn scope ≠ [] ∧ ((∀ name ∈ scopesIn scope, name ∈ allowed) ∨
            ∀ name ∈ scopesIn scope, name ∉ allowed))) := by
  refine ⟨fun hk ht hs => (isQuestion_of_mem_builtins h hk ht hs).isDecided,
    isUnconditional_of_mem_builtins h, fun hs message value ha => ?_⟩
  rw [check_eq_of_scope_enum h hs] at ha ⊢
  obtain ⟨scope, allowed, hm, hi, hj⟩ := judgesScopes_hasListedScopes ha
  exact ⟨scope, allowed, hm, hi, hj, hj.valid_ne_iff⟩

theorem conditions_of_mem_builtins_type_enum :
    ∃ rule message, rule ∈ builtins ∧ rule.name = "type-enum" ∧
      Message.parse? "feat: add login" = some message ∧
      rule.check.Applies message (some (.list ["fix"])) ∧
      (rule.check message .always (some (.list ["fix"]))).valid ≠
        (rule.check message .never (some (.list ["fix"]))).valid := by
  have hm : (⟨"type-enum", .list, hasListedType⟩ : Rule) ∈ builtins :=
    List.mem_of_find?_eq_some (show builtin? "type-enum" = some _ from rfl)
  have hp : ∃ message, Message.parse? "feat: add login" = some message ∧
      message.type = some "feat" := ⟨_, rfl, by decide +kernel⟩
  obtain ⟨message, hp, ht⟩ := hp
  have ha : hasListedType.Applies message (some (.list ["fix"])) := by
    refine ⟨.always, ?_⟩
    rw [hasListedType, ht]
    decide
  exact ⟨_, message, hm, rfl, hp, ha,
    (conditions_of_mem_builtins _ hm).1 (by decide) (by decide) (by decide) _ _ ha⟩

/-- A header within its limit is valid under both conditions, and a scope is valid under neither that
names a listed scope beside one that is not. -/
theorem conditions_met_alike :
    (∃ rule message, rule ∈ builtins ∧ rule.name = "header-max-length" ∧
      Message.parse? "feat: x" = some message ∧
      rule.validateValue (some (.number 50)) = .ok () ∧
      ∀ condition, rule.check message condition (some (.number 50)) =
        .judged true "header must not be longer than 50 characters, current length is 7") ∧
    ∃ rule message, rule ∈ builtins ∧ rule.name = "scope-enum" ∧
      Message.parse? "feat(api,db): x" = some message ∧
      rule.validateValue (some (.list ["api"])) = .ok () ∧
      ∀ condition, rule.check message condition (some (.list ["api"])) =
        .judged false s!"scope {condition.verb} be one of [api]" := by
  constructor
  · refine ⟨_, _, List.mem_of_find?_eq_some (show builtin? "header-max-length" = some _ from rfl),
      rfl, rfl, rfl, fun condition => ?_⟩
    cases condition <;> rfl
  · refine ⟨_, _, List.mem_of_find?_eq_some (show builtin? "scope-enum" = some _ from rfl),
      rfl, rfl, rfl, fun condition => ?_⟩
    cases condition <;> decide +kernel

end Rule

end CommitStyle
