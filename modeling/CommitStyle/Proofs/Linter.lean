import CommitStyle.Linter
import CommitStyle.Proofs.Checked

/-!
# Linters and exempt messages

A report says of a message that it is exempt just in case the linter exempts it. Two linters that
check alike therefore agree on a message if and only if they exempt it alike.
-/

namespace CommitStyle

namespace Report

lemma pushAll_eq (report : Report) (issues : List Issue) :
    report.pushAll issues =
      { report with
        errors := report.errors ++ issues.filter (·.level == .error)
        warnings := report.warnings ++ issues.filter (·.level == .warning) } := by
  induction issues generalizing report with
  | nil => simp [pushAll]
  | cons issue rest ih =>
    change (report.push issue).pushAll rest = _
    rw [ih]
    cases hl : issue.level <;> simp [push, hl]

end Report

lemma Ignore.ofRuleSet_eq_ok_iff {set : RuleSet} {ignore : Ignore} :
    Ignore.ofRuleSet set = .ok ignore ↔
      ∃ patterns, set.ignores.mapM RuleSet.readPattern = .ok patterns ∧
        ⟨set.defaultIgnores, patterns⟩ = ignore := by
  rw [ofRuleSet, bind_eq_ok_iff]
  simp only [pure, Except.pure, Except.ok.injEq]

namespace Linter

lemma make_eq_ok_iff {w : Workspace} {set : RuleSet} {extra : List Rule} {linter : Linter} :
    make w set extra = .ok linter ↔
      ∃ resolved ignore, w.resolve none set = .ok resolved ∧
        resolved.validateWith (fun name => (Rule.builtins ++ extra).any (·.name == name)) = .ok () ∧
        Ignore.ofRuleSet resolved = .ok ignore ∧
        ⟨resolved, Rule.builtins ++ extra, ignore⟩ = linter := by
  rw [make, bind_eq_ok_iff]
  constructor
  · rintro ⟨resolved, hr, h⟩
    obtain ⟨_, hv, h⟩ := bind_eq_ok_iff.1 h
    obtain ⟨ignore, hi, h⟩ := bind_eq_ok_iff.1 h
    exact ⟨resolved, ignore, hr, hv, hi, Except.ok.inj h⟩
  · rintro ⟨resolved, ignore, hr, hv, hi, rfl⟩
    exact ⟨resolved, hr, bind_eq_ok_iff.2 ⟨(), hv, bind_eq_ok_iff.2 ⟨ignore, hi, rfl⟩⟩⟩

variable {linter other : Linter} {text : String} {report : Report}

lemma issue?_eq_some_iff {message : Message} {issue : Issue} {name : String}
    {setting : Setting} :
    linter.issue? message name setting = some issue ↔
      setting.level ≠ .off ∧ ∃ rule demand, linter.rule? name = some rule ∧
        rule.check message setting.when setting.value = .judged false demand ∧
        ⟨name, setting.level, demand⟩ = issue := by
  have he : setting.isEnabled = true ↔ setting.level ≠ .off := by simp [Setting.isEnabled]
  rw [issue?, ← he]
  cases setting.isEnabled with
  | false => simp
  | true =>
    cases linter.rule? name with
    | none => simp
    | some rule =>
      cases hc : rule.check message setting.when setting.value with
      | skipped => simp [hc, Outcome.valid]
      | judged valid demand => cases valid <;> simp [hc, Outcome.valid, Outcome.demand]

lemma commit_check (message : Message) : (linter.check message).commit = none := by
  rw [check, Report.pushAll_eq]

lemma commit_of_lint (h : linter.lint text = .ok report) : report.commit = none := by
  unfold lint at h
  split at h
  · cases h
    rfl
  · split at h
    · cases h
      exact commit_check _
    · cases h

lemma commit_of_lintCommit {commit : String × String} (h : linter.lintCommit commit = .ok report) :
    report.commit = some commit.1 := by
  unfold lintCommit at h
  split at h
  · cases h
    rfl
  · obtain ⟨found, -, hf⟩ := bind_eq_ok_iff.1 h
    cases hf
    rfl

@[simp] lemma ignored_check (message : Message) : (linter.check message).ignored = false := by
  rw [check, Report.pushAll_eq]

lemma ignored_of_lint (h : linter.lint text = .ok report) :
    report.ignored = linter.ignore.holds text := by
  unfold lint at h
  split at h
  next hi =>
    cases h
    exact hi.symm
  next hi =>
    split at h
    · cases h
      rw [ignored_check]
      exact (Bool.eq_false_iff.2 hi).symm
    · cases h

lemma lint_of_holds (h : linter.ignore.holds text = true) :
    linter.lint text = .ok { input := text, ignored := true } := by
  rw [lint, if_pos h]

lemma lint_of_parse? {message : Message} (hi : linter.ignore.holds text = false)
    (hp : Message.parse? text = some message) : linter.lint text = .ok (linter.check message) := by
  rw [lint, hi, hp]
  rfl

lemma holds_of_lint_error {e : Error} (h : linter.lint text = .error e) :
    linter.ignore.holds text = false := by
  refine Bool.eq_false_iff.2 fun hi => ?_
  rw [lint_of_holds hi] at h
  cases h

lemma lint_eq_iff (hc : ∀ message, other.check message = linter.check message) :
    other.lint text = linter.lint text ↔ other.ignore.holds text = linter.ignore.holds text := by
  constructor
  · intro h
    cases hl : linter.lint text with
    | ok report => rw [← ignored_of_lint hl, ← ignored_of_lint (h.trans hl)]
    | error e =>
      rw [holds_of_lint_error hl, holds_of_lint_error (h.trans hl)]
  · intro h
    simp only [lint, h, hc]

end Linter

end CommitStyle
