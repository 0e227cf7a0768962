import CommitStyle.Proofs.Message.Cleaning
import CommitStyle.Proofs.Resolution.Idempotence

/-!
# Comments and exemption

The built-in rules look at a message as it has been cleaned and never at its raw text. The patterns of
exempt messages look at the raw text. So text that cleaning removes has no influence on what is found
in a message, unless it makes a pattern match that does not match without it, or the other way round.
-/

namespace CommitStyle

namespace Check

def IgnoresRaw (check : Check) : Prop :=
  ∀ message raw condition value,
    check (Message.withRaw message raw) condition value = check message condition value

lemma ignoresRaw_of_mem_builtins {rule : Rule} (h : rule ∈ Rule.builtins) :
    IgnoresRaw rule.check := by
  revert rule
  rw [← List.forall_iff_forall_mem]
  simp only [Rule.builtins, List.Forall]
  and_intros
  all_goals
    intro message raw condition value
    rfl

end Check

def Report.findings (report : Report) : Bool × List Issue × List Issue :=
  (report.ignored, report.errors, report.warnings)

namespace Linter

variable {linter : Linter}

lemma check_withRaw (hl : linter.rules = Rule.builtins) (message : Message) (raw : String) :
    linter.check (message.withRaw raw) = { linter.check message with input := raw } := by
  have hissue : ∀ name setting,
      linter.issue? (message.withRaw raw) name setting = linter.issue? message name setting := by
    intro name setting
    refine Option.ext fun issue => ?_
    rw [issue?_eq_some_iff, issue?_eq_some_iff]
    refine and_congr_right fun _ => exists_congr fun rule => exists_congr fun demand =>
      and_congr_right fun hr => ?_
    rw [rule?, hl] at hr
    have hm : rule ∈ Rule.builtins := List.mem_reverse.1 (List.mem_of_find?_eq_some hr)
    rw [Check.ignoresRaw_of_mem_builtins hm]
  have hissues : linter.issues (message.withRaw raw) = linter.issues message := by
    simp only [issues, hissue]
  rw [check, check, hissues, Report.pushAll_eq, Report.pushAll_eq]
  rfl

lemma findings_lint_of_not_holds (hl : linter.rules = Rule.builtins) {a b : String}
    (hc : Message.cleanLines a.toList = Message.cleanLines b.toList)
    (ha : linter.ignore.holds a = false) (hb : linter.ignore.holds b = false) :
    (linter.lint a).map Report.findings = (linter.lint b).map Report.findings := by
  rw [lint, lint, ha, hb, Message.parse?, Message.parse?, hc]
  cases Message.cleanLines b.toList with
  | nil => rfl
  | cons first below =>
    change Except.ok (linter.check _).findings = Except.ok (linter.check _).findings
    rw [Message.ofLines_eq_withRaw b a, check_withRaw hl]
    rfl

lemma holds_of_findings_lint {a b : String}
    (h : (linter.lint a).map Report.findings = (linter.lint b).map Report.findings) :
    linter.ignore.holds a = linter.ignore.holds b := by
  cases ha : linter.lint a with
  | ok report =>
    cases hb : linter.lint b with
    | ok other =>
      rw [ha, hb] at h
      rw [← ignored_of_lint ha, ← ignored_of_lint hb]
      exact congrArg Prod.fst (Except.ok.inj h)
    | error e =>
      rw [ha, hb] at h
      cases h
  | error e =>
    cases hb : linter.lint b with
    | ok other =>
      rw [ha, hb] at h
      cases h
    | error e' => rw [holds_of_lint_error ha, holds_of_lint_error hb]

/-- The same is found in two messages of the same cleaned lines if and only if the patterns exempt
both or none of them. A linter without patterns always finds the same. -/
theorem findings_lint_eq_iff (w : Workspace) (set : RuleSet) (linter : Linter)
    (h : ofRuleSet w set = .ok linter) (a b : String)
    (hc : Message.cleanLines a.toList = Message.cleanLines b.toList) :
    ((linter.lint a).map Report.findings = (linter.lint b).map Report.findings ↔
      linter.ignore.holds a = linter.ignore.holds b) ∧
    (linter.ruleSet.defaultIgnores = false → linter.ruleSet.ignores = [] →
      (linter.lint a).map Report.findings = (linter.lint b).map Report.findings) := by
  obtain ⟨resolved, ignore, -, -, hig, rfl⟩ := make_eq_ok_iff.1 h
  have hl : Rule.builtins ++ [] = Rule.builtins := List.append_nil _
  constructor
  · refine ⟨holds_of_findings_lint, fun hi => ?_⟩
    cases ha : ignore.holds a with
    | false => exact findings_lint_of_not_holds hl hc ha (hi ▸ ha)
    | true =>
      have hb : ignore.holds b = true := hi ▸ ha
      rw [lint_of_holds ha, lint_of_holds hb]
      rfl
  · intro hd hp
    have hn : ∀ text, ignore.holds text = false := by
      obtain ⟨patterns, hm, rfl⟩ := Ignore.ofRuleSet_eq_ok_iff.1 hig
      rw [hp] at hm
      cases hm
      intro text
      rw [Ignore.holds, hd]
      rfl
    exact findings_lint_of_not_holds hl hc (hn a) (hn b)

def draftSet : RuleSet where
  ignores := ["WIP"]
  rules := .ofList [("type-empty", .plain .error .never)]

def draftLinter : Linter := ⟨draftSet, Rule.builtins ++ [], ⟨true, [Regex.literal "WIP"]⟩⟩

lemma ofRuleSet_draftSet : ofRuleSet {} draftSet = .ok draftLinter := by
  have hi : Ignore.ofRuleSet draftSet = .ok ⟨true, [Regex.literal "WIP"]⟩ := by rfl
  refine make_eq_ok_iff.2 ⟨draftSet, _, Workspace.resolve_of_bases_eq_nil rfl (by decide), ?_, hi,
    rfl⟩
  rfl

theorem findings_lint_eq_iff_draft :
    ofRuleSet {} draftSet = .ok draftLinter ∧
    Message.cleanLines "oops\n# one".toList =
      Message.cleanLines "oops\n\n# ------------------------ >8 ------------------------\ntwo".toList ∧
    ((draftLinter.lint "oops\n# one").map Report.findings =
        (draftLinter.lint
          "oops\n\n# ------------------------ >8 ------------------------\ntwo").map
            Report.findings ↔
      draftLinter.ignore.holds "oops\n# one" =
        draftLinter.ignore.holds
          "oops\n\n# ------------------------ >8 ------------------------\ntwo") := by
  have hc : Message.cleanLines "oops\n# one".toList =
      Message.cleanLines
        "oops\n\n# ------------------------ >8 ------------------------\ntwo".toList := by
    decide +kernel
  exact ⟨ofRuleSet_draftSet, hc,
    (findings_lint_eq_iff {} draftSet draftLinter ofRuleSet_draftSet _ _ hc).1⟩

theorem findings_lint_ne_of_comment :
    ofRuleSet {} draftSet = .ok draftLinter ∧
    Message.cleanLines "oops".toList = Message.cleanLines "oops\n# WIP".toList ∧
    (draftLinter.lint "oops").map Report.findings =
      .ok (false, [⟨"type-empty", .error, "type may not be empty"⟩], []) ∧
    (draftLinter.lint "oops\n# WIP").map Report.findings = .ok (true, [], []) ∧
    (draftLinter.lint "oops").map Report.findings ≠
      (draftLinter.lint "oops\n# WIP").map Report.findings := by
  have ho : (draftLinter.lint "oops").map Report.findings =
      .ok (false, [⟨"type-empty", .error, "type may not be empty"⟩], []) := by rfl
  have hw : (draftLinter.lint "oops\n# WIP").map Report.findings = .ok (true, [], []) := by rfl
  refine ⟨ofRuleSet_draftSet, by decide +kernel, ho, hw, ?_⟩
  rw [ho, hw]
  intro h
  cases h

end Linter

end CommitStyle
