import CommitStyle.Proofs.Verdict

/-!
# Linters that differ in some rules

A linter finds an issue of a rule by the setting of that rule alone. So two linters that set all but
some rules alike exempt the same messages and find the same issues, in the same order, once the issues
of these rules are left out.
-/

namespace CommitStyle

inductive Matches {α : Type} (r : α → α → Prop) : Except Error α → Except Error α → Prop
  | ok {a b : α} (h : r a b) : Matches r (.ok a) (.ok b)
  | error (e : Error) : Matches r (.error e) (.error e)

def Report.without (report : Report) (names : List String) : Report :=
  { report with
    errors := report.errors.filter (·.rule ∉ names)
    warnings := report.warnings.filter (·.rule ∉ names) }

namespace Linter

/-- The linters have the same rules and exempt the same messages, and all but some rules are set
alike in them. -/
structure AgreesOff (names : List String) (linter other : Linter) : Prop where
  rules : other.rules = linter.rules
  ignore : other.ignore = linter.ignore
  helpUrl : other.ruleSet.helpUrl = linter.ruleSet.helpUrl
  rule? : ∀ name, name ∉ names → other.ruleSet.rule? name = linter.ruleSet.rule? name

variable {names : List String} {linter other : Linter} {message : Message} {issue : Issue}

lemma issue?_congr (h : other.rules = linter.rules) : other.issue? = linter.issue? := by
  funext message name setting
  simp only [issue?, Linter.rule?, h]

lemma nodup_of_pairwise {issues : List Issue}
    (h : issues.Pairwise fun a b => Text.bytes a.rule < Text.bytes b.rule) : issues.Nodup := by
  refine h.imp ?_
  rintro a b hlt rfl
  exact List.lt_irrefl _ hlt

lemma eq_of_mem_iff {issues others : List Issue}
    (hi : issues.Pairwise fun a b => Text.bytes a.rule < Text.bytes b.rule)
    (ho : others.Pairwise fun a b => Text.bytes a.rule < Text.bytes b.rule)
    (h : ∀ issue, issue ∈ issues ↔ issue ∈ others) : issues = others := by
  have hp : issues.Perm others :=
    (List.perm_ext_iff_of_nodup (nodup_of_pairwise hi) (nodup_of_pairwise ho)).2 h
  exact hp.eq_of_pairwise (fun a b _ _ hab hba => absurd hba (List.lt_asymm hab)) hi ho

lemma without_check_of_issues (hu : other.ruleSet.helpUrl = linter.ruleSet.helpUrl)
    (h : (other.issues message).filter (·.rule ∉ names) =
      (linter.issues message).filter (·.rule ∉ names)) :
    (other.check message).without names = (linter.check message).without names := by
  have hlevel : ∀ level : Level,
      ((other.issues message).filter (·.level == level)).filter (·.rule ∉ names) =
        ((linter.issues message).filter (·.level == level)).filter (·.rule ∉ names) := by
    intro level
    rw [List.filter_comm, h, List.filter_comm]
  rw [check, check, Report.pushAll_eq, Report.pushAll_eq]
  simp only [Report.without, List.nil_append, hu, hlevel]

namespace AgreesOff

lemma filter_issues (h : AgreesOff names linter other) (message : Message) :
    (other.issues message).filter (·.rule ∉ names) =
      (linter.issues message).filter (·.rule ∉ names) := by
  refine eq_of_mem_iff ((pairwise_issues other message).filter _)
    ((pairwise_issues linter message).filter _) fun issue => ?_
  simp only [List.mem_filter, decide_eq_true_eq]
  refine and_congr_left fun hn => ?_
  rw [mem_issues_iff_issue?, mem_issues_iff_issue?, h.rule? _ hn, issue?_congr h.rules]

lemma without_check (h : AgreesOff names linter other) (message : Message) :
    (other.check message).without names = (linter.check message).without names :=
  without_check_of_issues h.helpUrl (h.filter_issues message)

lemma matches_lint (h : AgreesOff names linter other) {r : Report → Report → Prop} (text : String)
    (hi : r { input := text, ignored := true } { input := text, ignored := true })
    (hc : ∀ message, r (linter.check message) (other.check message)) :
    Matches r (linter.lint text) (other.lint text) := by
  rw [lint, lint, h.ignore]
  split
  · exact .ok hi
  · cases Message.parse? text with
    | none => exact .error _
    | some message => exact .ok (hc message)

end AgreesOff

end Linter

end CommitStyle
