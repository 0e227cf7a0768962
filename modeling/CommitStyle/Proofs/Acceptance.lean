import CommitStyle.Proofs.Agreement
import CommitStyle.Proofs.TypeList

/-!
# Accepted commit types

A rule set says which commit types it accepts, and a linter raises issues about the types of messages.
Both agree: the type of a message is found fault with if and only if the rule set of the linter does
not accept it.
-/

namespace CommitStyle

namespace Linter

variable {linter : Linter} {extra : List Rule} {message : Message}

lemma mem_issues_check_iff {issue : Issue} :
    issue ∈ (linter.check message).issues ↔ issue ∈ linter.issues message := by
  have hl : issue ∈ linter.issues message → issue.level ≠ .off := by
    intro hi
    obtain ⟨setting, -, hs⟩ := mem_issues_iff_issue?.1 hi
    obtain ⟨he, rule, demand, -, -, heq⟩ := issue?_eq_some_iff.1 hs
    rw [← heq]
    exact he
  rw [Report.issues, errors_check, warnings_check, List.mem_append, List.mem_filter,
    List.mem_filter, beq_iff_eq, beq_iff_eq]
  cases he : issue.level <;> simp_all

lemma hasIssue_check_iff (hl : linter.rules = Rule.builtins ++ extra) {name : String} :
    (linter.check message).hasIssue name = true ↔
      ∃ level demand, level ≠ .off ∧
        linter.ruleSet.outcome? extra message name = some (level, .judged false demand) := by
  rw [Report.hasIssue, List.any_eq_true]
  constructor
  · rintro ⟨issue, hi, hn⟩
    obtain ⟨he, hr⟩ := (mem_issues_iff hl).1 (mem_issues_check_iff.1 hi)
    exact ⟨issue.level, issue.message, he, eq_of_beq hn ▸ hr⟩
  · rintro ⟨level, demand, he, ho⟩
    exact ⟨⟨name, level, demand⟩, mem_issues_check_iff.2 ((mem_issues_iff hl).2 ⟨he, ho⟩),
      BEq.rfl⟩

lemma hasIssue_typeEnum_check (hl : linter.rules = Rule.builtins ++ [])
    (hv : linter.ruleSet.validateTypes = .ok ()) (message : Message) :
    (linter.check message).hasIssue RuleSet.typeEnum =
      message.type.any fun type => !linter.ruleSet.allowsType type := by
  rw [Bool.eq_iff_iff, hasIssue_check_iff hl, RuleSet.outcome?_typeEnum]
  rcases RuleSet.exists_enforces hv with hn | ⟨setting, types, he⟩
  · have ha := RuleSet.allowsType_of_typeSetting?_eq_none hn
    constructor
    · rintro ⟨level, demand, hlevel, ho⟩
      obtain ⟨setting, hs, ho⟩ := Option.map_eq_some_iff.1 ho
      obtain ⟨rfl, -⟩ := Prod.mk.inj ho
      rw [RuleSet.typeSetting?_eq_some_iff.2 ⟨hs, hlevel⟩] at hn
      cases hn
    · simp [ha]
  · rw [he.rule?]
    cases ht : message.type with
    | none => simp [Check.hasListedType_of_none ht]
    | some type => simp [Check.hasListedType_of_some ht he.items?, he.allowsType, he.enabled]

lemma validateTypes_of_ofRuleSet {w : Workspace} {set : RuleSet}
    (h : ofRuleSet w set = .ok linter) :
    linter.rules = Rule.builtins ++ [] ∧ linter.ruleSet.validateTypes = .ok () := by
  obtain ⟨resolved, ignore, -, hv, -, rfl⟩ := make_eq_ok_iff.1 h
  exact ⟨rfl, RuleSet.validateTypes_of_validateWith hv⟩

/-- The linter finds fault with the type of a message if and only if its rule set does not accept the
type; where a message has no type there is nothing to find fault with. -/
theorem hasIssue_typeEnum_iff (w : Workspace) (set : RuleSet) (linter : Linter) (text : String)
    (message : Message) (hm : ofRuleSet w set = .ok linter)
    (hi : linter.ignore.holds text = false) (hp : Message.parse? text = some message) :
    ∃ report, linter.lint text = .ok report ∧ report.ignored = false ∧
      (∀ type, message.type = some type →
        (report.hasIssue RuleSet.typeEnum = true ↔ linter.ruleSet.allowsType type = false)) ∧
      (message.type = none → report.hasIssue RuleSet.typeEnum = false) := by
  obtain ⟨hl, hv⟩ := validateTypes_of_ofRuleSet hm
  have hcheck := hasIssue_typeEnum_check hl hv message
  refine ⟨_, lint_of_parse? hi hp, ignored_check message, fun type ht => ?_, fun ht => ?_⟩
  · rw [hcheck, ht, Option.any_some, Bool.not_eq_true']
  · rw [hcheck, ht, Option.any_none]

def bannedSet : RuleSet where
  rules := .ofList [(RuleSet.typeEnum, .withValue .warning .never (.text "wip"))]

def bannedLinter : Linter := ⟨bannedSet, Rule.builtins ++ [], ⟨true, []⟩⟩

lemma ofRuleSet_bannedSet (w : Workspace) : ofRuleSet w bannedSet = .ok bannedLinter :=
  make_eq_ok_iff.2 ⟨bannedSet, ⟨true, []⟩, Workspace.resolve_of_bases_eq_nil rfl .nil, rfl, rfl, rfl⟩

def unfinished : Message := .ofLines "wip(api): half done" "wip(api): half done".toList []

theorem hasIssue_typeEnum_iff_banned :
    ofRuleSet {} bannedSet = .ok bannedLinter ∧
    bannedLinter.ignore.holds "wip(api): half done" = false ∧
    Message.parse? "wip(api): half done" = some unfinished ∧
    unfinished.type = some "wip" ∧ bannedLinter.ruleSet.allowsType "wip" = false ∧
    ∃ report, bannedLinter.lint "wip(api): half done" = .ok report ∧ report.ignored = false ∧
      (∀ type, unfinished.type = some type →
        (report.hasIssue RuleSet.typeEnum = true ↔
          bannedLinter.ruleSet.allowsType type = false)) ∧
      (unfinished.type = none → report.hasIssue RuleSet.typeEnum = false) := by
  have hi : bannedLinter.ignore.holds "wip(api): half done" = false := by decide +kernel
  have hp : Message.parse? "wip(api): half done" = some unfinished := by decide +kernel
  exact ⟨ofRuleSet_bannedSet {}, hi, hp, by decide +kernel, by decide +kernel,
    hasIssue_typeEnum_iff {} bannedSet bannedLinter _ _ (ofRuleSet_bannedSet {}) hi hp⟩

end Linter

end CommitStyle
