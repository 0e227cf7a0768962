import CommitStyle.Proofs.ByteOrder
import CommitStyle.Proofs.Resolution.Idempotence

/-!
# What a report says

A linter holds no setting of a rule that does not exist. Its report on a message that is not exempt
lists the rules that judge the message invalid: those set to the level of errors, those set to the
level of warnings, and no others. Both lists ascend by name.
-/

namespace CommitStyle

namespace Rule

/-- The rule that counts for a name: the last one of that name beside the built-in ones, or else the
built-in one. -/
def applicable? (extra : List Rule) (name : String) : Option Rule :=
  ((extra.filter (·.name == name)).getLast?).or (builtin? name)

lemma find?_reverse_of_nodup {rules : List Rule} (h : (rules.map (·.name)).Nodup) (name : String) :
    rules.reverse.find? (·.name == name) = rules.find? (·.name == name) := by
  induction rules with
  | nil => rfl
  | cons rule rest ih =>
    obtain ⟨hr, hn⟩ := List.nodup_cons.1 h
    rw [List.reverse_cons, List.find?_append, ih hn, List.find?_cons]
    cases hc : rule.name == name with
    | false => simp [hc]
    | true =>
      have hnone : rest.find? (·.name == name) = none := by
        rw [List.find?_eq_none]
        intro other ho he
        refine hr (List.mem_map.2 ⟨other, ho, ?_⟩)
        exact (eq_of_beq he).trans (eq_of_beq hc).symm
      rw [hnone, List.find?_cons, hc]
      rfl

lemma nodup_builtins : (builtins.map (·.name)).Nodup := by decide +kernel

lemma find?_reverse_append (extra : List Rule) (name : String) :
    (builtins ++ extra).reverse.find? (·.name == name) = applicable? extra name := by
  rw [List.reverse_append, List.find?_append, find?_reverse_of_nodup nodup_builtins, applicable?,
    ← List.head?_reverse, ← List.filter_reverse, List.head?_filter]
  rfl

lemma isSome_applicable? (extra : List Rule) (name : String) :
    (applicable? extra name).isSome = (builtins ++ extra).any (·.name == name) := by
  rw [← find?_reverse_append, List.isSome_find?, List.any_reverse]

end Rule

namespace RuleSet

def outcome? (set : RuleSet) (extra : List Rule) (message : Message) (name : String) :
    Option (Level × Outcome) := do
  let setting ← set.rule? name
  let rule ← Rule.applicable? extra name
  return (setting.level, rule.check message (setting.condition.getD .always) setting.value)

/-- The rule of the issue is set to the level of the issue and judges the message invalid, with the
text of the issue. -/
def Raises (set : RuleSet) (extra : List Rule) (message : Message) (issue : Issue) : Prop :=
  set.outcome? extra message issue.rule = some (issue.level, .judged false issue.message)

variable {set : RuleSet} {extra : List Rule}

lemma Raises.level? {message : Message} {issue : Issue} (h : set.Raises extra message issue) :
    set.level? issue.rule = some issue.level := by
  obtain ⟨setting, hs, h⟩ := Option.bind_eq_some_iff.1 h
  obtain ⟨rule, -, h⟩ := Option.bind_eq_some_iff.1 h
  rw [RuleSet.level?, hs]
  exact congrArg some (Prod.mk.inj (Option.some.inj h)).1

lemma isSome_outcome? (h : set.validateWith (fun name => (Rule.builtins ++ extra).any
    (·.name == name)) = .ok ()) (message : Message) (name : String) :
    (set.outcome? extra message name).isSome = (set.rule? name).isSome := by
  rw [outcome?]
  cases hs : set.rule? name with
  | none => rfl
  | some setting =>
    have hk := isKnown_of_validateWith h hs
    rw [← Rule.isSome_applicable?, Option.isSome_iff_exists] at hk
    obtain ⟨rule, hr⟩ := hk
    rw [hr]
    rfl

end RuleSet

namespace Report

/-- What a report says that lists all violations of a rule set by a message, and nothing else. -/
structure Accounts (report : Report) (set : RuleSet) (extra : List Rule) (message : Message) :
    Prop where
  mem_errors_iff : ∀ issue, issue ∈ report.errors ↔
    issue.level = .error ∧ set.Raises extra message issue
  mem_warnings_iff : ∀ issue, issue ∈ report.warnings ↔
    issue.level = .warning ∧ set.Raises extra message issue
  errors_ascending : report.errors.Pairwise fun a b => Text.bytes a.rule < Text.bytes b.rule
  warnings_ascending : report.warnings.Pairwise fun a b => Text.bytes a.rule < Text.bytes b.rule
  disjoint : ∀ issue ∈ report.errors, ∀ other ∈ report.warnings, issue.rule ≠ other.rule
  level : ∀ issue ∈ report.issues, set.level? issue.rule = some issue.level ∧ issue.level ≠ .off

end Report

namespace Linter

variable {linter : Linter} {extra : List Rule} {message : Message} {issue : Issue}

lemma rule_of_issue? {name : String} {setting : Setting}
    (h : linter.issue? message name setting = some issue) : issue.rule = name := by
  obtain ⟨-, rule, demand, -, -, rfl⟩ := issue?_eq_some_iff.1 h
  rfl

lemma mem_issues_iff_issue? : issue ∈ linter.issues message ↔
    ∃ setting, linter.ruleSet.rule? issue.rule = some setting ∧
      linter.issue? message issue.rule setting = some issue := by
  rw [issues, List.mem_filterMap]
  constructor
  · rintro ⟨⟨name, setting⟩, he, hi⟩
    obtain rfl := rule_of_issue? hi
    exact ⟨setting, RuleSet.mem_entries_iff.1 he, hi⟩
  · rintro ⟨setting, hs, hi⟩
    exact ⟨(issue.rule, setting), RuleSet.mem_entries_iff.2 hs, hi⟩

lemma mem_issues_iff (hl : linter.rules = Rule.builtins ++ extra) :
    issue ∈ linter.issues message ↔
      issue.level ≠ .off ∧ linter.ruleSet.Raises extra message issue := by
  have hr : ∀ name, linter.rule? name = Rule.applicable? extra name := fun name => by
    rw [rule?, hl, Rule.find?_reverse_append]
  rw [mem_issues_iff_issue?, RuleSet.Raises, RuleSet.outcome?]
  constructor
  · rintro ⟨setting, hs, hi⟩
    obtain ⟨he, rule, demand, ha, hc, hi⟩ := issue?_eq_some_iff.1 hi
    rw [hs, ← hr, ha]
    cases issue
    cases hi
    exact ⟨he, congrArg (fun outcome => some (setting.level, outcome)) hc⟩
  · rintro ⟨he, ho⟩
    obtain ⟨setting, hs, ho⟩ := Option.bind_eq_some_iff.1 ho
    obtain ⟨rule, ha, ho⟩ := Option.bind_eq_some_iff.1 ho
    obtain ⟨hlevel, hc⟩ := Prod.mk.inj (Option.some.inj ho)
    refine ⟨setting, hs, issue?_eq_some_iff.2 ⟨hlevel ▸ he, rule, issue.message, (hr _).trans ha, hc, ?_⟩⟩
    rw [hlevel]

lemma pairwise_issues (linter : Linter) (message : Message) :
    (linter.issues message).Pairwise fun a b => Text.bytes a.rule < Text.bytes b.rule := by
  refine List.Pairwise.filterMap _ ?_ linter.ruleSet.rules.ascending
  rintro ⟨name, setting⟩ ⟨other, held⟩ hlt a ha b hb
  rw [rule_of_issue? ha, rule_of_issue? hb]
  exact Text.bytes_lt_of_lt hlt

lemma errors_check (linter : Linter) (message : Message) :
    (linter.check message).errors = (linter.issues message).filter (·.level == .error) := by
  rw [check, Report.pushAll_eq]
  rfl

lemma warnings_check (linter : Linter) (message : Message) :
    (linter.check message).warnings = (linter.issues message).filter (·.level == .warning) := by
  rw [check, Report.pushAll_eq]
  rfl

lemma mem_filter_issues_iff (hl : linter.rules = Rule.builtins ++ extra) {level : Level}
    (hn : level ≠ .off) :
    issue ∈ (linter.issues message).filter (·.level == level) ↔
      issue.level = level ∧ linter.ruleSet.Raises extra message issue := by
  rw [List.mem_filter, mem_issues_iff hl, beq_iff_eq]
  constructor
  · rintro ⟨⟨-, hr⟩, he⟩
    exact ⟨he, hr⟩
  · rintro ⟨he, hr⟩
    exact ⟨⟨he ▸ hn, hr⟩, he⟩

lemma accounts_check (hl : linter.rules = Rule.builtins ++ extra) (message : Message) :
    (linter.check message).Accounts linter.ruleSet extra message := by
  have he : ∀ issue, issue ∈ (linter.check message).errors ↔
      issue.level = .error ∧ linter.ruleSet.Raises extra message issue := fun issue => by
    rw [errors_check, mem_filter_issues_iff hl (by decide)]
  have hw : ∀ issue, issue ∈ (linter.check message).warnings ↔
      issue.level = .warning ∧ linter.ruleSet.Raises extra message issue := fun issue => by
    rw [warnings_check, mem_filter_issues_iff hl (by decide)]
  refine ⟨he, hw, ?_, ?_, ?_, ?_⟩
  · rw [errors_check]
    exact (pairwise_issues linter message).filter _
  · rw [warnings_check]
    exact (pairwise_issues linter message).filter _
  · intro issue hi other ho hr
    obtain ⟨hle, hre⟩ := (he issue).1 hi
    obtain ⟨hlw, hrw⟩ := (hw other).1 ho
    -- One rule has one level, and these two issues would give it two.
    have hlevel := hre.level?
    rw [hr, hrw.level?, hle, hlw] at hlevel
    cases hlevel
  · intro issue hi
    rcases List.mem_append.1 hi with hi | hi
    · obtain ⟨hle, hre⟩ := (he issue).1 hi
      exact ⟨hre.level?, by rw [hle]; decide⟩
    · obtain ⟨hlw, hrw⟩ := (hw issue).1 hi
      exact ⟨hrw.level?, by rw [hlw]; decide⟩

/-- Of a message that is not exempt, the report lists exactly the rules that are set to the level of
errors or of warnings and judge it invalid; and every rule that is set exists. -/
theorem lint_accounts (w : Workspace) (set : RuleSet) (extra : List Rule) (linter : Linter)
    (text : String) (message : Message) (hm : make w set extra = .ok linter)
    (hi : linter.ignore.holds text = false) (hp : Message.parse? text = some message) :
    ∃ resolved report, w.resolve none set = .ok resolved ∧ linter.lint text = .ok report ∧
      report.ignored = false ∧ report.Accounts resolved extra message ∧
      ∀ name, (resolved.outcome? extra message name).isSome = (resolved.rule? name).isSome := by
  obtain ⟨resolved, ignore, hr, hv, -, rfl⟩ := make_eq_ok_iff.1 hm
  have hl : lint ⟨resolved, Rule.builtins ++ extra, ignore⟩ text =
      .ok (check ⟨resolved, Rule.builtins ++ extra, ignore⟩ message) := by
    rw [lint, hi, hp]
    rfl
  exact ⟨resolved, _, hr, hl, ignored_check message, accounts_check rfl message,
    fun name => RuleSet.isSome_outcome? hv message name⟩

/-- The first of these two rules does not count. -/
def ticketRules : List Rule := [
  ⟨"ticket", .none, fun _ _ _ => .judged true ""⟩,
  ⟨"ticket", .none, fun message _ _ =>
    .judged (Text.hasInfix "OPS-".toList message.raw.toList) "message must reference a ticket"⟩]

def ticketSet : RuleSet where
  rules := .ofList [
    ("ticket", .plain .warning .always), ("header-trim", .off), ("type-empty", .plain .error .never)]

def ticketLinter : Linter := ⟨ticketSet, Rule.builtins ++ ticketRules, ⟨true, []⟩⟩

def oops : Message := .ofLines "oops" "oops".toList []

lemma make_ticketSet : make {} ticketSet ticketRules = .ok ticketLinter := by
  refine make_eq_ok_iff.2 ⟨ticketSet, ⟨true, []⟩,
    Workspace.resolve_of_bases_eq_nil rfl List.nodup_nil, ?_, rfl, rfl⟩
  rfl

theorem lint_accounts_ticket :
    make {} ticketSet ticketRules = .ok ticketLinter ∧
    ticketLinter.ignore.holds "oops" = false ∧ Message.parse? "oops" = some oops ∧
    ∃ resolved report, Workspace.resolve {} none ticketSet = .ok resolved ∧
      ticketLinter.lint "oops" = .ok report ∧ report.ignored = false ∧
      report.Accounts resolved ticketRules oops ∧
      ∀ name, (resolved.outcome? ticketRules oops name).isSome = (resolved.rule? name).isSome := by
  have hi : ticketLinter.ignore.holds "oops" = false := by decide +kernel
  have hp : Message.parse? "oops" = some oops := by decide +kernel
  exact ⟨make_ticketSet, hi, hp,
    lint_accounts {} ticketSet ticketRules ticketLinter "oops" oops make_ticketSet hi hp⟩

end Linter

end CommitStyle
