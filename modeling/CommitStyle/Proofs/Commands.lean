import CommitStyle.Proofs.Listing
import CommitStyle.Proofs.RuleSet.RoundTrip

/-!
# Commands agree on the configuration

Commands load the rule set of a request, or read it as it is written, and they resolve and check it
a different number of times, with paths that start from different directories. Whatever the options,
the files and the current directory are, they come to one and the same rule set, or fail for the
same reason.
-/

namespace CommitStyle

open Document (Notation)

lemma RuleSet.IsStated.parse_shown {set : RuleSet} (h : set.IsStated) (format : Notation) :
    parse format (set.shown format) = .ok set :=
  (RuleSet.parse_shown format h.isInRange).trans (congrArg Except.ok h.explicit_eq)

namespace CommandLine

variable {surroundings : Surroundings} {request : Request}

/-! ### Commands in terms of one linter -/

section Run

variable {linter : Linter} {set : RuleSet}

lemma run_lint (h : makeLinter surroundings request = .ok linter) (lint : LintRequest) :
    run surroundings { request with command := .lint lint } =
      .orFailure surroundings (lintWith surroundings linter lint) := by
  change Result.orFailure surroundings
    (makeLinter surroundings request >>= fun linter => lintWith surroundings linter lint) = _
  rw [h]
  rfl

lemma run_check (h : makeLinter surroundings request = .ok linter) (check : CheckRequest) :
    run surroundings { request with command := .check check } =
      .orFailure surroundings (checkWith surroundings linter check) := by
  change Result.orFailure surroundings
    (makeLinter surroundings request >>= fun linter => checkWith surroundings linter check) = _
  rw [h]
  rfl

lemma run_types (h : resolvedRuleSet surroundings request = .ok set) :
    run surroundings { request with command := .types } =
      .shown surroundings (typesText surroundings set) (.ok ()) :=
  congrArg (Result.orFailure surroundings) (runTypes_of_resolvedRuleSet h)

lemma run_printConfig_resolved (h : resolvedRuleSet surroundings request = .ok set)
    (hv : set.validate = .ok ()) (format : Notation) :
    run surroundings { request with command := .printConfig ⟨format, true⟩ } =
      .shown surroundings (set.shown format) (.ok ()) := by
  have hp : runPrintConfig surroundings request ⟨format, true⟩ =
      .ok (.shown surroundings (set.shown format) (.ok ())) :=
    bind_eq_ok_iff.2 ⟨set, h, bind_eq_ok_iff.2 ⟨(), hv, rfl⟩⟩
  exact congrArg (Result.orFailure surroundings) hp

lemma run_printConfig_written (h : readRuleSet surroundings request = .ok set)
    (format : Notation) :
    run surroundings { request with command := .printConfig ⟨format, false⟩ } =
      .shown surroundings (set.shown format) (.ok ()) := by
  have hp : runPrintConfig surroundings request ⟨format, false⟩ =
      .ok (.shown surroundings (set.shown format) (.ok ())) :=
    bind_eq_ok_iff.2 ⟨set, h, rfl⟩
  exact congrArg (Result.orFailure surroundings) hp

end Run

def Command.isGuided : Command → Bool
  | .lint _ | .check _ | .types => true
  | .printConfig print => print.resolved
  | .init _ | .hooks _ | .version => false

lemma run_of_loadRuleSet_error {e : Error} (h : loadRuleSet surroundings request = .error e)
    {command : Command} (hc : command.isGuided = true) :
    run surroundings { request with command } = .orFailure surroundings (.error e) := by
  have hm : makeLinter surroundings request = .error e := bind_eq_error_iff.2 (.inl h)
  have hr : resolvedRuleSet surroundings request = .error e := bind_eq_error_iff.2 (.inl h)
  refine congrArg (Result.orFailure surroundings) ?_
  cases command with
  | lint lint => exact bind_eq_error_iff.2 (.inl hm)
  | check check => exact bind_eq_error_iff.2 (.inl hm)
  | printConfig print =>
    obtain ⟨format, resolved⟩ := print
    cases hc
    exact bind_eq_error_iff.2 (.inl hr)
  | types => exact bind_eq_error_iff.2 (.inl hr)
  | init force => cases hc
  | hooks hooks => cases hc
  | version => cases hc

/-- The commands go by one rule set: it is the one that the linter is made of and holds, the one
whose types are listed and the one that is shown resolved. The one that is shown as it is written
resolves to it from the directory of its file. -/
structure AgreeOn (surroundings : Surroundings) (request : Request) (set written : RuleSet)
    (linter : Linter) : Prop where
  ofRuleSet : Linter.ofRuleSet surroundings.workspace set = .ok linter
  ruleSet : linter.ruleSet = set
  lint : ∀ lint, run surroundings { request with command := .lint lint } =
    .orFailure surroundings (lintWith surroundings linter lint)
  check : ∀ check, run surroundings { request with command := .check check } =
    .orFailure surroundings (checkWith surroundings linter check)
  types : run surroundings { request with command := .types } =
    .shown surroundings (typesText surroundings set) (.ok ())
  printResolved : ∀ format,
    run surroundings { request with command := .printConfig ⟨format, true⟩ } =
      .shown surroundings (set.shown format) (.ok ())
  printWritten : ∀ format,
    run surroundings { request with command := .printConfig ⟨format, false⟩ } =
      .shown surroundings (written.shown format) (.ok ())
  -- a text that is shown is that of no other rule set
  parse_resolved : ∀ format, RuleSet.parse format (set.shown format) = .ok set
  parse_written : ∀ format, RuleSet.parse format (written.shown format) = .ok written
  resolve : surroundings.workspace.resolve (sourceDirectory? surroundings request) written = .ok set

lemma exists_agreeOn {loaded : RuleSet} (h : loadRuleSet surroundings request = .ok loaded) :
    ∃ set written linter, AgreeOn surroundings request set written linter := by
  obtain ⟨written, set, hw, hs, hr, hv⟩ := resolve_of_loadRuleSet h
  obtain ⟨linter, hl, hset⟩ := Linter.exists_of_resolve_of_validate hr hv
  have hm : makeLinter surroundings request = .ok linter := bind_eq_ok_iff.2 ⟨loaded, h, hl⟩
  have hres : resolvedRuleSet surroundings request = .ok set := bind_eq_ok_iff.2 ⟨loaded, h, hr⟩
  refine ⟨set, written, linter, ?_⟩
  exact {
    ofRuleSet := (Linter.ofRuleSet_resolved hr).symm.trans hl
    ruleSet := hset
    lint := run_lint hm
    check := run_check hm
    types := run_types hres
    printResolved := run_printConfig_resolved hres hv
    printWritten := run_printConfig_written hw
    parse_resolved := (isStated_of_resolvedRuleSet hres).parse_shown
    parse_written := (isStated_of_readRuleSet hw).parse_shown
    resolve := hs }

/-- Whatever a request asks for, the commands that go by its resolved rule set all fail for the same
reason, which is one of its configuration, or all go by one and the same rule set. -/
theorem commands_agree (surroundings : Surroundings) (request : Request) :
    (∃ cause, ∀ command : Command, command.isGuided = true →
      run surroundings { request with command } =
        .orFailure surroundings (.error (.config cause))) ∨
    ∃ set written linter, AgreeOn surroundings request set written linter := by
  cases h : loadRuleSet surroundings request with
  | error e =>
    obtain ⟨cause, rfl⟩ := failsByConfig_loadRuleSet surroundings request e h
    exact .inl ⟨cause, fun command => run_of_loadRuleSet_error h⟩
  | ok loaded => exact .inr (exists_agreeOn h)

end CommandLine

end CommitStyle
