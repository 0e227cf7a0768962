import CommitStyle.Proofs.Outcome
import Mathlib.Data.List.Basic

/-!
# Longer lists

Some rules go by a list, of types, of scopes or of shapes. Whatever is added to a list, no message that
passed under `always` is refused, and no message passes under `never` that was refused. The empty list
is the exception: it is no list at all, and refuses nothing.
-/

namespace CommitStyle

namespace Verdict

/-- A longer list lets no fewer messages pass under `always` and no more under `never`. -/
structure Widens (verdict : List String → Verdict) : Prop where
  always {listed others : List String} (h : listed ⊆ others) (message : Message)
    (hv : verdict listed message .always = true) : verdict others message .always = true
  never {listed others : List String} (h : listed ⊆ others) (message : Message)
    (hv : verdict others message .never = true) : verdict listed message .never = true

lemma widens_of_answer {text? : Message → Option String} {answer : List String → String → Bool}
    (h : ∀ listed others text, listed ⊆ others → answer listed text = true →
      answer others text = true) :
    Widens fun items message condition =>
      (text? message).all fun text => condition.accepts (answer items text) where
  always {listed others} hs message hv := by
    cases ht : text? message with
    | none => rfl
    | some text =>
      rw [ht] at hv
      exact h listed others text hs hv
  never {listed others} hs message hv := by
    cases ht : text? message with
    | none => rfl
    | some text =>
      rw [ht] at hv
      have hn : answer others text = false := by simpa [Condition.accepts] using hv
      have hl : answer listed text = false := by
        by_contra hl
        rw [h listed others text hs (by simpa using hl)] at hn
        cases hn
      simp [Condition.accepts, hl]

lemma widens_typeIn : Widens typeIn := by
  apply widens_of_answer
  intro listed others type hs ht
  rw [List.contains_iff_mem] at ht ⊢
  exact hs ht

lemma widens_shapedAs (field : Field) :
    Widens fun names => shapedAs field (names.filterMap Casing.ofName?) := by
  apply widens_of_answer
  intro listed others text hs ht
  obtain ⟨casing, hc, hf⟩ := List.any_eq_true.1 ht
  obtain ⟨name, hn, hname⟩ := List.mem_filterMap.1 hc
  exact List.any_eq_true.2 ⟨casing, List.mem_filterMap.2 ⟨name, hs hn, hname⟩, hf⟩

lemma scopesIn_always_iff {scopes : List String} {message : Message} :
    scopesIn scopes message .always = true ↔
      ∀ scope, message.scope = some scope → ∀ name ∈ Check.scopesIn scope, name ∈ scopes := by
  cases hs : message.scope <;> simp [scopesIn, hs]

lemma scopesIn_never_iff {scopes : List String} {message : Message} :
    scopesIn scopes message .never = true ↔
      ∀ scope, message.scope = some scope → ∀ name ∈ Check.scopesIn scope, name ∉ scopes := by
  cases hs : message.scope <;> simp [scopesIn, hs]

-- The two conditions put two questions here, so that there is no one answer to go by.
lemma widens_scopesIn : Widens scopesIn where
  always {listed others} hs message hv := by
    rw [scopesIn_always_iff] at hv ⊢
    intro scope hscope name hn
    exact hs (hv scope hscope name hn)
  never {listed others} hs message hv := by
    rw [scopesIn_never_iff] at hv ⊢
    intro scope hscope name hn hl
    exact hv scope hscope name hn (hs hl)

end Verdict

namespace Check

variable {check : Check} {value other : RuleValue} {listed others : List String}

def Widens (check : Check) : Prop :=
  ∃ verdict, check.Judges items? verdict ∧ Verdict.Widens verdict

@[simp] lemma widens_hasListedType : hasListedType.Widens :=
  ⟨_, judges_hasListedType, Verdict.widens_typeIn⟩

@[simp] lemma widens_hasListedScopes : hasListedScopes.Widens :=
  ⟨_, judges_hasListedScopes, Verdict.widens_scopesIn⟩

@[simp] lemma widens_hasCasing (field : Field) : (hasCasing field).Widens :=
  ⟨_, judges_hasCasing field, Verdict.widens_shapedAs field⟩

lemma Widens.valid_of_nil (h : check.Widens) (hv : value.toList? = some []) (message : Message)
    (condition : Condition) : (check message condition (some value)).valid = true := by
  obtain ⟨verdict, hj, -⟩ := h
  have hread : items? (some value) = none := items?_eq_none hv
  rw [hj.skipped hread]
  rfl

lemma Widens.valid_of_subset (h : check.Widens) (hv : value.toList? = some listed)
    (ho : other.toList? = some others) (hn : listed ≠ []) (hs : listed ⊆ others)
    (message : Message) :
    ((check message .always (some value)).valid = true →
      (check message .always (some other)).valid = true) ∧
    ((check message .never (some other)).valid = true →
      (check message .never (some value)).valid = true) := by
  obtain ⟨verdict, hj, hw⟩ := h
  have hno : others ≠ [] := fun he => hn (List.eq_nil_of_subset_nil (he ▸ hs))
  have hl : items? (some value) = some listed := items?_eq_some hv hn
  have hm : items? (some other) = some others := items?_eq_some ho hno
  rw [hj.valid hl, hj.valid hl, hj.valid hm, hj.valid hm]
  exact ⟨hw.always hs message, hw.never hs message⟩

lemma Widens.valid_eq (h : check.Widens) (hv : value.toList? = some listed)
    (ho : other.toList? = some others) (hm : ∀ item, item ∈ listed ↔ item ∈ others)
    (message : Message) (condition : Condition) :
    (check message condition (some value)).valid = (check message condition (some other)).valid := by
  have hsub : listed ⊆ others := fun item => (hm item).1
  have hsup : others ⊆ listed := fun item => (hm item).2
  by_cases hn : listed = []
  · subst hn
    obtain rfl : others = [] := List.eq_nil_of_subset_nil hsup
    rw [h.valid_of_nil hv, h.valid_of_nil ho]
  · have hno : others ≠ [] := fun he => hn (List.eq_nil_of_subset_nil (he ▸ hsub))
    obtain ⟨halways, hnever⟩ := h.valid_of_subset hv ho hn hsub message
    obtain ⟨halways', hnever'⟩ := h.valid_of_subset ho hv hno hsup message
    rw [Bool.eq_iff_iff]
    cases condition with
    | always => exact ⟨halways, halways'⟩
    | never => exact ⟨hnever', hnever⟩

end Check

namespace Rule

def listRules : List String :=
  ["type-enum", "scope-enum", "header-case", "scope-case", "subject-case", "type-case"]

lemma exists_widens {name : String} (h : name ∈ listRules) :
    ∃ rule, builtin? name = some rule ∧ rule.check.Widens := by
  revert name
  rw [← List.forall_iff_forall_mem]
  simp +decide [listRules, builtin?, builtins]

/-- Of a rule that goes by a list: a longer list refuses no more messages under `always` and no fewer
under `never`, so that only the members of a list count, not their order nor how often they stand in it.
The empty list refuses nothing. -/
theorem valid_of_longer_list (name : String) (h : name ∈ listRules) :
    ∃ rule, builtin? name = some rule ∧ ∀ message,
      (∀ value other listed others, RuleValue.toList? value = some listed →
        RuleValue.toList? other = some others → listed ≠ [] → listed ⊆ others →
          ((rule.check message .always (some value)).valid = true →
            (rule.check message .always (some other)).valid = true) ∧
          ((rule.check message .never (some other)).valid = true →
            (rule.check message .never (some value)).valid = true)) ∧
      (∀ value other listed others, RuleValue.toList? value = some listed →
        RuleValue.toList? other = some others → (∀ item, item ∈ listed ↔ item ∈ others) →
          ∀ condition, (rule.check message condition (some value)).valid =
            (rule.check message condition (some other)).valid) ∧
      ∀ value, RuleValue.toList? value = some [] → ∀ condition,
        (rule.check message condition (some value)).valid = true := by
  obtain ⟨rule, hr, hw⟩ := exists_widens h
  refine ⟨rule, hr, fun message => ⟨?_, ?_, ?_⟩⟩
  · intro value other listed others hv ho hn hs
    exact hw.valid_of_subset hv ho hn hs message
  · intro value other listed others hv ho hm condition
    exact hw.valid_eq hv ho hm message condition
  · intro value hv condition
    exact hw.valid_of_nil hv message condition

theorem valid_of_longer_list_scopes :
    "scope-enum" ∈ listRules ∧
    ∃ rule message, builtin? "scope-enum" = some rule ∧
      Message.parse? "feat(api,cli): add login" = some message ∧
      (rule.check message .always (some (.list ["cli", "api"]))).valid = true ∧
      (rule.check message .always (some (.list ["api", "db", "api", "cli"]))).valid = true ∧
      (rule.check message .never (some (.list ["db", "ui"]))).valid = true ∧
      (rule.check message .never (some (.text "db"))).valid = true ∧
      (rule.check message .never (some (.list ["ui", "db", "ui"]))).valid = true ∧
      (rule.check message .always (some (.list []))).valid = true ∧
      (rule.check message .always (some (.list ["db"]))).valid = false := by
  have hmem : "scope-enum" ∈ listRules := by decide
  obtain ⟨rule, hr, hlists⟩ := valid_of_longer_list "scope-enum" hmem
  obtain rfl : ⟨"scope-enum", .list, Check.hasListedScopes⟩ = rule := Option.some.inj hr
  obtain ⟨message, hp, halways, hnever, hrefused⟩ : ∃ message,
      Message.parse? "feat(api,cli): add login" = some message ∧
      (Check.hasListedScopes message .always (some (.list ["cli", "api"]))).valid = true ∧
      (Check.hasListedScopes message .never (some (.list ["db", "ui"]))).valid = true ∧
      (Check.hasListedScopes message .always (some (.list ["db"]))).valid = false :=
    ⟨_, rfl, by decide +kernel, by decide +kernel, by decide +kernel⟩
  obtain ⟨hlonger, hsame, hempty⟩ := hlists message
  have hs : ["cli", "api"] ⊆ ["api", "db", "api", "cli"] := by decide
  have hdb : ["db"] ⊆ ["db", "ui"] := by decide
  have hui : ∀ item, item ∈ ["db", "ui"] ↔ item ∈ ["ui", "db", "ui"] := by simp
  refine ⟨hmem, _, message, hr, hp, halways, ?_, hnever, ?_, ?_, hempty (.list []) rfl .always,
    hrefused⟩
  · exact (hlonger (.list _) (.list _) _ _ rfl rfl (by decide) hs).1 halways
  · exact (hlonger (.text "db") (.list _) _ _ rfl rfl (by decide) hdb).2 hnever
  · exact (hsame (.list _) (.list _) _ _ rfl rfl hui .never).symm.trans hnever

end Rule

end CommitStyle
