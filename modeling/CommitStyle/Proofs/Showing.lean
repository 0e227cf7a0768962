import CommitStyle.CommandLine
import CommitStyle.Proofs.Linter

/-!
# What can be shown

A report is shown with the name of its commit cut to seven bytes, which may end inside a character of a
name that is given from outside. The name of an object is written in digits, so the reports on messages
and on recorded commits can always be shown. What breaks off a command is a version that was built from
a commit of another name, and nothing else.
-/

namespace CommitStyle

lemma utf8Size_of_isDigitIn {base : Nat} {c : Char} (h : isDigitIn base c = true) :
    c.utf8Size = 1 := by
  have hc : c ≤ 'z' := by
    obtain ⟨n, hn, -⟩ := (Option.any_eq_true _ _).1 h
    unfold digitValue? at hn
    simp only [Bool.and_eq_true, decide_eq_true_eq, Char.isDigit] at hn
    split at hn
    next hd => exact Char.le_trans hd.2 (by decide)
    next =>
      split at hn
      next hl => exact hl.2
      next =>
        split at hn
        next hu => exact Char.le_trans hu.2 (by decide)
        next => cases hn
  exact Char.utf8Size_eq_one_iff.2 (Nat.le_trans hc (by decide))

namespace Report

lemma takeBytes?_eq_take {text : List Char} (h : ∀ c ∈ text, c.utf8Size = 1) (size : Nat) :
    takeBytes? size text = some (text.take size) := by
  induction text generalizing size with
  | nil => rw [takeBytes?, List.take_nil]
  | cons c rest ih =>
    obtain ⟨hc, hr⟩ := List.forall_mem_cons.1 h
    cases size with
    | zero => rfl
    | succ size => simp [takeBytes?, hc, ih hr]

lemma shortCommit?_digits (id : Git.ObjectId) :
    shortCommit? id.digits = some (String.ofList (id.digits.toList.take 7)) := by
  have h : ∀ c ∈ id.digits.toList, c.utf8Size = 1 := fun c hc =>
    utf8Size_of_isDigitIn (List.all_eq_true.1 id.isHex_eq c hc)
  rw [shortCommit?, takeBytes?_eq_take h]
  rfl

def IsRecorded (report : Report) : Prop :=
  ∀ commit, report.commit = some commit → ∃ id : Git.ObjectId, id.digits = commit

variable {report : Report} {reports : List Report}

lemma isRecorded_of_none (h : report.commit = none) : report.IsRecorded := fun commit hc => by
  rw [h] at hc
  cases hc

lemma isRecorded_of_digits {id : Git.ObjectId} (h : report.commit = some id.digits) :
    report.IsRecorded := fun _ hc => ⟨id, Option.some.inj (h.symm.trans hc)⟩

lemma IsRecorded.exists_render? (h : report.IsRecorded) (colors : Bool) :
    ∃ text, report.render? colors = some text := by
  rw [render?, inputLine?]
  cases hc : report.commit with
  | none => exact ⟨_, rfl⟩
  | some commit =>
    obtain ⟨id, rfl⟩ := h commit hc
    rw [commitPart?, shortCommit?_digits]
    exact ⟨_, rfl⟩

end Report

namespace CommandLine

variable {surroundings : Surroundings} {request : Request} {report : Report} {reports : List Report}

/-! ### Reports -/

lemma exists_showReport? (surroundings : Surroundings) (h : report.IsRecorded) (form : ReportForm) :
    ∃ text, showReport? surroundings form report = some text := by
  cases form with
  | json => exact ⟨_, rfl⟩
  | text =>
    obtain ⟨text, ht⟩ := h.exists_render? surroundings.colors
    exact ⟨_, by rw [showReport?, ht, Option.map_some]⟩

lemma exists_showReports? (surroundings : Surroundings)
    (h : ∀ report ∈ reports, report.IsRecorded) (form : ReportForm) :
    ∃ text, showReports? surroundings form reports = some text := by
  cases form with
  | json => exact ⟨_, rfl⟩
  | text =>
    have hm : ∃ texts, reports.mapM (showReport? surroundings .text) = some texts := by
      induction reports with
      | nil => exact ⟨[], rfl⟩
      | cons report rest ih =>
        obtain ⟨hr, hrest⟩ := List.forall_mem_cons.1 h
        obtain ⟨text, ht⟩ := exists_showReport? surroundings hr .text
        obtain ⟨texts, hts⟩ := ih hrest
        exact ⟨text :: texts, by rw [List.mapM_cons, ht, hts]; rfl⟩
    obtain ⟨texts, hts⟩ := hm
    exact ⟨_, by rw [showReports?, hts, Option.map_some]⟩

lemma isRecorded_of_checkRange {linter : Linter} {commits : List Repository.Commit}
    (h : checkRange linter commits = .ok reports) : ∀ report ∈ reports, report.IsRecorded := by
  have hf := mapM_eq_ok_iff.1 h
  clear h
  induction hf with
  | nil => nofun
  | cons hl _ ih =>
    exact List.forall_mem_cons.2 ⟨Report.isRecorded_of_digits (Linter.commit_of_lintCommit hl), ih⟩

/-! ### Commands -/

/-- A computation that does not break off. -/
def Settles (x : Except Error Result) : Prop := ∀ result, x = .ok result → result.aborted = false

lemma settles_bind {α : Type} {x : Except Error α} {f : α → Except Error Result}
    (h : ∀ a, x = .ok a → Settles (f a)) : Settles (x >>= f) := fun result hr => by
  obtain ⟨a, ha, hf⟩ := bind_eq_ok_iff.1 hr
  exact h a ha result hf

lemma settles_ok {result : Result} (h : result.aborted = false) : Settles (.ok result) := by
  rintro _ ⟨⟩
  exact h

lemma settles_shownOrAborted {output : Option String} (h : ∃ text, output = some text)
    (verdict : Except Error Unit) :
    Settles (.ok (.shownOrAborted surroundings output verdict)) := by
  obtain ⟨text, rfl⟩ := h
  exact settles_ok rfl

lemma settles_lintWith (linter : Linter) (lint : LintRequest) :
    Settles (lintWith surroundings linter lint) :=
  settles_bind fun _ _ => settles_bind fun _ hl => settles_shownOrAborted
    (exists_showReport? _ (Report.isRecorded_of_none (Linter.commit_of_lint hl)) _) _

lemma settles_checkWith (linter : Linter) (check : CheckRequest) :
    Settles (checkWith surroundings linter check) := by
  refine settles_bind fun repository _ => ?_
  split
  · exact settles_bind fun commits _ => settles_bind fun reports hr => settles_shownOrAborted
      (exists_showReports? _ (isRecorded_of_checkRange hr) _) _
  · exact settles_bind fun commit _ => settles_bind fun report hl => settles_shownOrAborted
      (exists_showReport? _ (Report.isRecorded_of_digits (Linter.commit_of_lintCommit hl)) _) _

lemma settles_runPrintConfig (request : Request) (print : PrintRequest) :
    Settles (runPrintConfig surroundings request print) := by
  unfold runPrintConfig
  split
  · exact settles_bind fun _ _ => settles_bind fun _ _ => settles_bind fun _ _ => settles_ok rfl
  · exact settles_bind fun _ _ => settles_bind fun _ _ => settles_ok rfl

lemma settles_runInit (request : Request) (force : Bool) :
    Settles (runInit surroundings request force) := by
  dsimp only [runInit]
  split
  · exact settles_bind fun _ hr => nomatch hr
  · split
    · exact settles_ok rfl
    · nofun

lemma settles_runHooks (hooks : HookRequest) : Settles (runHooks surroundings hooks) := by
  refine settles_bind fun repository _ => ?_
  dsimp only
  split <;> exact settles_ok rfl

lemma aborted_orFailure {x : Except Error Result} (h : Settles x) :
    (Result.orFailure surroundings x).aborted = false := by
  cases hx : x with
  | error error => rfl
  | ok result => exact h result hx

lemma aborted_run_of_ne_version (h : request.command ≠ .version) :
    (run surroundings request).aborted = false := by
  rw [run]
  cases hc : request.command with
  | lint lint => exact aborted_orFailure (settles_bind fun linter _ => settles_lintWith linter lint)
  | check check =>
    exact aborted_orFailure (settles_bind fun linter _ => settles_checkWith linter check)
  | printConfig print => exact aborted_orFailure (settles_runPrintConfig request print)
  | types => exact aborted_orFailure (settles_bind fun _ _ => settles_ok rfl)
  | init force => exact aborted_orFailure (settles_runInit request force)
  | hooks hooks => exact aborted_orFailure (settles_runHooks hooks)
  | version => exact absurd hc h

lemma versionOutput?_eq_none_iff {build : Build} :
    versionOutput? build = none ↔
      ∃ commit, build.commit = some commit ∧ Report.shortCommit? commit = none := by
  rw [versionOutput?, Option.map_eq_none_iff, versionText?]
  cases build.commit with
  | none => simp
  | some commit => simp

/-- A command breaks off only if it shows a version whose commit cannot be cut to seven bytes. -/
theorem aborted_run_iff : (run surroundings request).aborted = true ↔
    request.command = .version ∧ ∃ commit, surroundings.build.commit = some commit ∧
      Report.shortCommit? commit = none := by
  by_cases hc : request.command = .version
  · rw [and_iff_right hc, ← versionOutput?_eq_none_iff, run, hc]
    cases ho : versionOutput? surroundings.build with
    | none => simp [Result.orFailure, Result.shownOrAborted]
    | some output => simp [Result.orFailure, Result.shownOrAborted, Result.shown]
  · simp [aborted_run_of_ne_version hc, hc]

end CommandLine

end CommitStyle
