import CommitStyle.Proofs.Revision
import CommitStyle.Proofs.Showing
import Mathlib.Algebra.GroupWithZero.Nat

/-!
# Recorded commits

A linter refuses a message only if cleaning leaves nothing of it, and the message of a recorded
commit is then checked as one without a type and a subject. So the check of a range has one report
on each commit, whatever the messages are, and it fails by the sums of what is found in the commits
one by one.
-/

namespace CommitStyle

namespace Report

def failure? (errors warnings : Nat) (strict : Bool) : Option Error :=
  if 0 < errors ∨ strict = true ∧ 0 < warnings then some (.violations errors warnings) else none

lemma verdict_eq (reports : List Report) (strict : Bool) :
    verdict reports strict =
      match failure? (reports.map (·.errors.length)).sum (reports.map (·.warnings.length)).sum
        strict with
      | some error => .error error
      | none => .ok () := by
  simp only [verdict, failure?, List.length_flatMap, Bool.or_eq_true, Bool.and_eq_true,
    decide_eq_true_eq]
  split <;> rfl

end Report

namespace Linter

variable {linter : Linter}

lemma lint_eq_error_iff {text : String} {error : Error} :
    linter.lint text = .error error ↔
      linter.ignore.holds text = false ∧ Message.parse? text = none ∧
        error = .commit .emptyMessage := by
  rw [lint]
  cases linter.ignore.holds text with
  | true => simp
  | false =>
    cases Message.parse? text with
    | none => simp [eq_comm]
    | some message => simp

/-- The report on a recorded commit bears its name. It is the one on the message, or else the one on
a message without a type and a subject. -/
structure Covers (linter : Linter) (commit : Repository.Commit) (report : Report) : Prop where
  of_ok : ∀ found, linter.lint commit.message = .ok found →
    report = { found with commit := some commit.id.digits }
  of_error : ∀ error, linter.lint commit.message = .error error →
    error = .commit .emptyMessage ∧
      report = { linter.check (Message.empty commit.message) with commit := some commit.id.digits }

lemma lintCommit_of_ok {commit : String × String} {found : Report}
    (h : linter.lint commit.2 = .ok found) :
    linter.lintCommit commit = .ok { found with commit := some commit.1 } := by
  simp only [lintCommit, h]
  rfl

lemma lintCommit_of_error {commit : String × String} {error : Error}
    (h : linter.lint commit.2 = .error error) :
    linter.lintCommit commit =
      .ok { linter.check (Message.empty commit.2) with commit := some commit.1 } := by
  obtain ⟨-, -, rfl⟩ := lint_eq_error_iff.1 h
  simp only [lintCommit, h]
  rfl

lemma exists_lintCommit (linter : Linter) (commit : Repository.Commit) :
    ∃ report, linter.lintCommit (commit.id.digits, commit.message) = .ok report ∧
      linter.Covers commit report := by
  cases h : linter.lint commit.message with
  | ok found =>
    refine ⟨_, lintCommit_of_ok h, fun other ho => ?_, fun error he => ?_⟩
    · rw [Except.ok.inj (h.symm.trans ho)]
    · rw [h] at he
      cases he
  | error error =>
    refine ⟨_, lintCommit_of_error h, fun other ho => ?_, fun error he => ?_⟩
    · rw [h] at ho
      cases ho
    · exact ⟨(lint_eq_error_iff.1 he).2.2, rfl⟩

end Linter

namespace CommandLine

variable {surroundings : Surroundings} {request : Request} {check : CheckRequest}
  {linter : Linter} {repo : Repository}

lemma exists_checkRange (linter : Linter) (commits : List Repository.Commit) :
    ∃ reports, checkRange linter commits = .ok reports ∧
      List.Forall₂ (fun commit report =>
        linter.lintCommit (commit.id.digits, commit.message) = .ok report ∧ linter.Covers commit report)
        commits reports := by
  induction commits with
  | nil => exact ⟨[], rfl, .nil⟩
  | cons commit rest ih =>
    obtain ⟨report, hl, hc⟩ := linter.exists_lintCommit commit
    obtain ⟨reports, hr, hcs⟩ := ih
    exact ⟨report :: reports, mapM_eq_ok_iff.2 (.cons hl (mapM_eq_ok_iff.1 hr)),
      .cons ⟨hl, hc⟩ hcs⟩

lemma failure_shown (output : String) (reports : List Report) (strict : Bool) :
    (Result.shown surroundings output (Report.verdict reports strict)).failure =
      Report.failure? (reports.map (·.errors.length)).sum (reports.map (·.warnings.length)).sum
        strict := by
  rw [Report.verdict_eq]
  cases h : Report.failure? (reports.map (·.errors.length)).sum
    (reports.map (·.warnings.length)).sum strict <;> rw [Result.shown]

section

variable (hm : makeLinter surroundings request = .ok linter)
  (hr : repository surroundings = .ok repo)

include hm hr

lemma runCheck_of_range {commits : List Repository.Commit} {reports : List Report}
    (hc : check.isRange = true) (hg : repo.range check.rangeExpression = .ok commits)
    (h : checkRange linter commits = .ok reports) :
    ∃ text, showReports? surroundings check.form reports = some text ∧
      runCheck surroundings request check =
        .ok (.shown surroundings text (Report.verdict reports check.strict)) := by
  obtain ⟨text, ht⟩ := exists_showReports? surroundings
    (isRecorded_of_checkRange h) check.form
  refine ⟨text, ht, ?_⟩
  rw [runCheck, hm]
  change checkWith surroundings linter check = _
  rw [checkWith, hr]
  simp only [bind, Except.bind, hc, if_true, hg, h, ht]
  rfl

lemma runCheck_of_find {commit : Repository.Commit} {report : Report}
    (hc : check.isRange = false) (hf : repo.find check.target = .ok commit)
    (h : linter.lintCommit (commit.id.digits, commit.message) = .ok report) :
    ∃ text, showReport? surroundings check.form report = some text ∧
      runCheck surroundings request check =
        .ok (.shown surroundings text (Report.verdict [report] check.strict)) := by
  obtain ⟨text, ht⟩ := exists_showReport? surroundings
    (Report.isRecorded_of_digits (Linter.commit_of_lintCommit h)) check.form
  refine ⟨text, ht, ?_⟩
  rw [runCheck, hm]
  change checkWith surroundings linter check = _
  rw [checkWith, hr]
  simp only [bind, Except.bind, hc, hf, h, ht]
  rfl

end

/-- Every commit of a range has its report, in the order of the commits. The check fails by the sums
of the errors and warnings that are found in each commit when it is checked alone. -/
theorem checkRange_covers (linter : Linter) (commits : List Repository.Commit) :
    ∃ reports, checkRange linter commits = .ok reports ∧
      List.Forall₂ linter.Covers commits reports ∧
      ∀ surroundings request check repo, makeLinter surroundings request = .ok linter →
        repository surroundings = .ok repo → check.isRange = true →
        repo.range check.rangeExpression = .ok commits →
        (∃ result, runCheck surroundings request check = .ok result ∧
          showReports? surroundings check.form reports = some result.output ∧
          result.failure = Report.failure? (reports.map (·.errors.length)).sum
            (reports.map (·.warnings.length)).sum check.strict) ∧
        ∀ commit report, (commit, report) ∈ commits.zip reports →
          ∀ single : CheckRequest, single.isRange = false →
            repo.find single.target = .ok commit →
            ∃ alone, runCheck surroundings request single = .ok alone ∧
              showReport? surroundings single.form report = some alone.output ∧
              alone.failure = Report.failure? report.errors.length report.warnings.length
                single.strict := by
  obtain ⟨reports, h, hcs⟩ := exists_checkRange linter commits
  refine ⟨reports, h, hcs.imp fun _ _ hc => hc.2, ?_⟩
  intro surroundings request check repo hm hr hc hg
  obtain ⟨text, ht, hrun⟩ := runCheck_of_range hm hr hc hg h
  refine ⟨⟨_, hrun, ht, failure_shown _ _ _⟩, ?_⟩
  intro commit report hp single hs hf
  obtain ⟨hl, -⟩ := (List.forall₂_iff_zip.1 hcs).2 hp
  obtain ⟨shown, hshown, halone⟩ := runCheck_of_find hm hr hs hf hl
  refine ⟨_, halone, hshown, ?_⟩
  rw [failure_shown]
  simp

def storedObject (lengths checksum : List UInt8) (lines : List String) : Entry :=
  let content : List UInt8 := lines.flatMap fun line => line.toUTF8.data.toList
  .file ⟨([0x78, 0x01, 0x01] ++ lengths ++ content ++ checksum).toArray⟩

def recorded : Surroundings where
  workspace :=
    { tree := ⟨[
        ([".git"], .directory), ([".git", "objects"], .directory), ([".git", "refs"], .directory),
        ([".git", "HEAD"], .file "31d3a3ccbdc2212282079edb804c57d156ee40e6\n".toUTF8),
        ([".git", "objects", "3d", "fc6ce089316c71cb7e06907992eb163aa13548"],
          storedObject [0x96, 0x00, 0x69, 0xff] [0xb8, 0xd3, 0x2f, 0x11] [
            "commit 139\x00", "tree 4b825dc642cb6eb9a060e54bf8d69288fbee4904\n",
            "author Test <test@example.com> 0 +0000\n",
            "committer Test <test@example.com> 0 +0000\n", "\n", "chore: init"]),
        ([".git", "objects", "cb", "2c52c562460799f066164988bd8f87be17a0b6"],
          storedObject [0xbb, 0x00, 0x44, 0xff] [0x7f, 0xa3, 0x38, 0x3e] [
            "commit 176\x00", "tree 4b825dc642cb6eb9a060e54bf8d69288fbee4904\n",
            "parent 3dfc6ce089316c71cb7e06907992eb163aa13548\n",
            "author Test <test@example.com> 0 +0000\n",
            "committer Test <test@example.com> 0 +0000\n", "\n"]),
        ([".git", "objects", "31", "d3a3ccbdc2212282079edb804c57d156ee40e6"],
          storedObject [0xc5, 0x00, 0x3a, 0xff] [0xab, 0xc4, 0x3b, 0xce] [
            "commit 186\x00", "tree 4b825dc642cb6eb9a060e54bf8d69288fbee4904\n",
            "parent cb2c52c562460799f066164988bd8f87be17a0b6\n",
            "author Test <test@example.com> 0 +0000\n",
            "committer Test <test@example.com> 0 +0000\n", "\n", "fix: patch"])]⟩ }

def sinceFirst : CheckRequest := { target := "HEAD~2", sinceTarget := true }

def sinceFirstRequest : Request := { command := .check sinceFirst, revision := some .extended }

lemma repository_recorded :
    repository recorded = .ok ⟨recorded.workspace.tree, [".git"]⟩ := by
  have h : (Repository.candidates recorded.workspace.directory).find?
      (Repository.isRepository recorded.workspace.tree) = some [".git"] := by decide +kernel
  rw [repository, Repository.discover, h]

lemma range_recorded :
    ∃ commits, Repository.range ⟨recorded.workspace.tree, [".git"]⟩ sinceFirst.rangeExpression =
        .ok commits ∧
      commits.map (fun commit => (commit.id.digits, commit.message)) = [
        ("31d3a3ccbdc2212282079edb804c57d156ee40e6", "fix: patch"),
        ("cb2c52c562460799f066164988bd8f87be17a0b6", "")] := by
  have h : (Repository.range ⟨recorded.workspace.tree, [".git"]⟩
      sinceFirst.rangeExpression).toOption.map
        (·.map fun commit => (commit.id.digits, commit.message)) = some [
          ("31d3a3ccbdc2212282079edb804c57d156ee40e6", "fix: patch"),
          ("cb2c52c562460799f066164988bd8f87be17a0b6", "")] := by
    decide +kernel
  obtain ⟨commits, hc, hm⟩ := Option.map_eq_some_iff.1 h
  exact ⟨commits, eq_ok_of_toOption_eq_some hc, hm⟩

theorem checkRange_covers_recorded :
    ∃ linter repo commits reports,
      makeLinter recorded sinceFirstRequest = .ok linter ∧ repository recorded = .ok repo ∧
      sinceFirst.isRange = true ∧ repo.range sinceFirst.rangeExpression = .ok commits ∧
      commits.map (fun commit => (commit.id.digits, commit.message)) = [
        ("31d3a3ccbdc2212282079edb804c57d156ee40e6", "fix: patch"),
        ("cb2c52c562460799f066164988bd8f87be17a0b6", "")] ∧
      checkRange linter commits = .ok reports ∧ List.Forall₂ linter.Covers commits reports ∧
      ∃ result, runCheck recorded sinceFirstRequest sinceFirst = .ok result ∧
        showReports? recorded .text reports = some result.output ∧
        result.failure = Report.failure? (reports.map (·.errors.length)).sum
          (reports.map (·.warnings.length)).sum false := by
  obtain ⟨commits, hg, hs⟩ := range_recorded
  have hm : makeLinter recorded sinceFirstRequest =
      .ok (Revision.linterOf Revision.extended.resolved) :=
    Revision.ofRuleSet_ruleSet recorded.workspace .extended
  obtain ⟨reports, hr, hc, h⟩ := checkRange_covers (Revision.linterOf Revision.extended.resolved)
    commits
  exact ⟨_, _, commits, reports, hm, repository_recorded, rfl, hg, hs, hr, hc,
    (h recorded sinceFirstRequest sinceFirst _ hm repository_recorded rfl hg).1⟩

end CommandLine

end CommitStyle
