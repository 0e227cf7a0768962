import CommitStyle.Proofs.Conditions
import CommitStyle.Proofs.Message.Cleaning
import CommitStyle.Proofs.TypeList

/-!
# Listed scopes

A scope can name several scopes at once, divided by commas and slashes. A scope without any of them, and
without blanks around it, names itself alone, and is recognised if it is listed. Any other scope stands
for the names in it, and it is these that have to be listed: that the whole is listed says nothing.
-/

namespace CommitStyle

open Text

structure IsSingleScope (scope : String) : Prop where
  undivided : ∀ c ∈ scope.toList, c ≠ ',' ∧ c ≠ '/' ∧ c ≠ '\\'
  trimmed : trim scope.toList = scope.toList

namespace Check

variable {scope name : String}

def dividesScopes (c : Char) : Bool := c == ',' || c == '/' || c == '\\'

lemma dividesScopes_eq_false_iff {c : Char} :
    dividesScopes c = false ↔ c ≠ ',' ∧ c ≠ '/' ∧ c ≠ '\\' := by
  simp [dividesScopes, and_assoc]

lemma scopesIn_eq (scope : String) : scopesIn scope =
    (((splitBy dividesScopes scope.toList).map trim).filter (!·.isEmpty)).map String.ofList := rfl

lemma mem_scopesIn_iff : name ∈ scopesIn scope ↔
    name ≠ "" ∧ ∃ piece ∈ splitBy dividesScopes scope.toList, trim piece = name.toList := by
  rw [scopesIn_eq, List.mem_map]
  constructor
  · rintro ⟨text, ht, rfl⟩
    obtain ⟨hm, hn⟩ := List.mem_filter.1 ht
    obtain ⟨piece, hp, rfl⟩ := List.mem_map.1 hm
    refine ⟨fun he => ?_, piece, hp, String.toList_ofList.symm⟩
    rw [← String.toList_inj, String.toList_ofList] at he
    rw [he] at hn
    cases hn
  · rintro ⟨hn, piece, hp, ht⟩
    refine ⟨name.toList, List.mem_filter.2 ⟨List.mem_map.2 ⟨piece, hp, ht⟩, ?_⟩,
      String.ofList_toList⟩
    simpa using hn

lemma scopesIn_eq_singleton (h : IsSingleScope scope) (hn : scope ≠ "") :
    scopesIn scope = [scope] := by
  have hs : splitBy dividesScopes scope.toList = [scope.toList] :=
    splitBy_eq_singleton fun c hc => dividesScopes_eq_false_iff.2 (h.undivided c hc)
  simp [scopesIn_eq, hs, h.trimmed, hn]

lemma mem_scopesIn_self_iff (hn : scope ≠ "") : scope ∈ scopesIn scope ↔ IsSingleScope scope := by
  constructor
  · intro hm
    obtain ⟨-, piece, hp, ht⟩ := mem_scopesIn_iff.1 hm
    refine ⟨fun c hc => ?_, ht ▸ trim_trim piece⟩
    rw [← ht] at hc
    exact dividesScopes_eq_false_iff.1 (eq_false_of_mem_splitBy hp c (trim_subset piece hc))
  · intro h
    rw [scopesIn_eq_singleton h hn]
    exact List.mem_singleton_self scope

end Check

namespace Message

open Check

lemma scope_ne_empty {raw scope : String} {message : Message} (h : parse? raw = some message)
    (hs : message.scope = some scope) : scope ≠ "" := by
  obtain ⟨first, below, -, rfl⟩ := parse?_eq_some_iff.1 h
  obtain ⟨-, -, -, hn⟩ := header_of_scope hs
  simpa using hn

/-- A listed scope that is a single name is recognised. Any scope stands for the names in it, of which
it is one itself only if it is the single one: `always` asks that all of them are listed, and `never`
that none is. -/
theorem scope_recognised (raw : String) (message : Message) (scope : String) (listed : List String)
    (hp : parse? raw = some message) (hs : message.scope = some scope) (hl : scope ∈ listed) :
    ∃ rule, Rule.builtin? "scope-enum" = some rule ∧
      (IsSingleScope scope →
        (rule.check message .always (some (.list listed))).valid = true ∧
          (rule.check message .never (some (.list listed))).valid = false) ∧
      ((rule.check message .always (some (.list listed))).valid = true ↔
        ∀ name ∈ scopesIn scope, name ∈ listed) ∧
      ((rule.check message .never (some (.list listed))).valid = false ↔
        ∃ name ∈ scopesIn scope, name ∈ listed) ∧
      (scope ∈ scopesIn scope ↔ IsSingleScope scope) := by
  have hn : scope ≠ "" := scope_ne_empty hp hs
  have hj : hasListedScopes.JudgesScopes message (some (.list listed)) (scopesIn scope) listed :=
    judgesScopes_of_scope hs (items?_eq_some rfl (List.ne_nil_of_mem hl))
  have hnever : (hasListedScopes message .never (some (.list listed))).valid = false ↔
      ∃ name ∈ scopesIn scope, name ∈ listed := by
    rw [← Bool.not_eq_true, hj.valid_never]
    simp only [not_forall, not_not, exists_prop]
  refine ⟨_, rfl, fun h => ?_, hj.valid_always, hnever, mem_scopesIn_self_iff hn⟩
  have hsingle := scopesIn_eq_singleton h hn
  refine ⟨hj.valid_always.2 ?_, hnever.2 ⟨scope, ?_, hl⟩⟩
  · rwa [hsingle, List.forall_mem_singleton]
  · rw [hsingle]
    exact List.mem_singleton_self scope

theorem scope_recognised_dotted :
    ∃ message, parse? "feat(my app.v2)!: add login" = some message ∧
      message.scope = some "my app.v2" ∧ IsSingleScope "my app.v2" ∧
      ∃ rule, Rule.builtin? "scope-enum" = some rule ∧
        (rule.check message .always (some (.list ["api", "my app.v2"]))).valid = true ∧
        (rule.check message .never (some (.list ["api", "my app.v2"]))).valid = false := by
  have hp : parse? "feat(my app.v2)!: add login" = some
      (.ofLines "feat(my app.v2)!: add login" "feat(my app.v2)!: add login".toList []) := by
    decide +kernel
  have hall : "my app.v2".toList.all (!dividesScopes ·) = true := by decide
  have hs : IsSingleScope "my app.v2" := by
    refine ⟨fun c hc => dividesScopes_eq_false_iff.1 ?_, by decide +kernel⟩
    simpa using List.all_eq_true.1 hall c hc
  obtain ⟨rule, hr, hsingle, -⟩ :=
    scope_recognised _ _ "my app.v2" ["api", "my app.v2"] hp (by decide +kernel) (by decide)
  exact ⟨_, hp, by decide +kernel, hs, rule, hr, hsingle hs⟩

/-- A scope with a slash in it stands for the names on either side, and is refused where it is listed
itself. -/
theorem scope_overlooked :
    ∃ message, parse? "feat(api/cli): add login" = some message ∧
      message.scope = some "api/cli" ∧
      ∃ rule, Rule.builtin? "scope-enum" = some rule ∧
        rule.validateValue (some (.list ["api/cli"])) = .ok () ∧
        rule.check message .always (some (.list ["api/cli"])) =
          .judged false "scope must be one of [api/cli]" ∧
        rule.check message .never (some (.list ["api/cli"])) =
          .judged true "scope may not be one of [api/cli]" := by
  have hp : parse? "feat(api/cli): add login" = some
      (.ofLines "feat(api/cli): add login" "feat(api/cli): add login".toList []) := by
    decide +kernel
  exact ⟨_, hp, by decide +kernel, _, rfl, rfl, by decide +kernel, by decide +kernel⟩

end Message

end CommitStyle
