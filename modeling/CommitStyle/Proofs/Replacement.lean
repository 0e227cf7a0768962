import CommitStyle.Proofs.Agreement
import CommitStyle.Proofs.TypeList
import Mathlib.Data.List.Nodup

/-!
# Rules in the place of built-in ones

A rule that is given the name of a built-in one takes its place in every check: messages get the same
issues as if the rule had a name of its own. But the value that it is set to must still be one that
the built-in rule reads.
-/

namespace CommitStyle

def Rule.called (rule : Rule) (name : String) : Rule := { rule with name }

def Issue.renamed (issue : Issue) (old new : String) : Issue :=
  if issue.rule = old then { issue with rule := new } else issue

lemma Issue.renamed_of_ne {issue : Issue} {old : String} (h : issue.rule ≠ old) (new : String) :
    issue.renamed old new = issue :=
  if_neg h

lemma Issue.renamed_renamed {issue : Issue} {old new : String} (h : issue.rule ≠ new) :
    (issue.renamed old new).renamed new old = issue := by
  by_cases ho : issue.rule = old
  · subst ho
    simp [renamed]
  · rw [renamed_of_ne ho, renamed_of_ne h]

@[simp] lemma Issue.level_renamed (issue : Issue) (old new : String) :
    (issue.renamed old new).level = issue.level := by
  rw [renamed]
  split <;> rfl

/-- The reports have the same issues up to the name of one rule, and those of other rules in the same
order. -/
structure Report.RenamedTo (old new : String) (report other : Report) : Prop where
  without : other.without [old, new] = report.without [old, new]
  errors : other.errors.Perm (report.errors.map (·.renamed old new))
  warnings : other.warnings.Perm (report.warnings.map (·.renamed old new))

namespace RuleSet

variable {set : RuleSet} {name : String} {setting : Setting}

lemma rule?_withRule (set : RuleSet) (name : String) (setting : Setting) (other : String) :
    (set.withRule name setting).rule? other =
      if other = name then some setting else set.rule? other :=
  RuleTable.find?_insert set.rules name other setting

lemma resolve_withRule (w : Workspace) (base : Option String) (set : RuleSet) (name : String)
    (setting : Setting) :
    w.resolve base (set.withRule name setting) =
      (w.resolve base set).map (·.withRule name setting) := by
  rw [Workspace.resolve, Workspace.resolve, withRule]
  cases w.layAll [] base {} set.bases with
  | error error => rfl
  | ok below =>
    refine congrArg Except.ok ?_
    simp [merge, withRule, RuleTable.merge_insert]

lemma typeSetting?_withRule (h : name ≠ typeEnum) :
    (set.withRule name setting).typeSetting? = set.typeSetting? := by
  rw [typeSetting?, typeSetting?, rule?_withRule, if_neg h.symm]

lemma validateTypes_withRule (h : name ≠ typeEnum) :
    (set.withRule name setting).validateTypes = set.validateTypes := by
  rw [validateTypes, validateTypes, listedTypes?, listedTypes?, typeSetting?_withRule h]

end RuleSet

lemma Rule.any_called (rule : Rule) (name other : String) :
    (builtins ++ [rule.called name]).any (·.name == other) = (isBuiltin other || name == other) := by
  simp [isBuiltin, builtin?, called, List.isSome_find?]

lemma RuleSet.validateWith_withRule_iff {set : RuleSet} {name : String} {setting : Setting}
    (rule : Rule) (hn : set.rule? name = none) (ht : name ≠ typeEnum) :
    (set.withRule name setting).validateWith
        (fun other => (Rule.builtins ++ [rule.called name]).any (·.name == other)) = .ok () ↔
      set.validate = .ok () ∧ ∀ builtin, Rule.builtin? name = some builtin →
        builtin.validateValue setting.value = .ok () := by
  rw [validate, validateWith_eq_ok_iff, validateWith_eq_ok_iff, validateTypes_withRule ht]
  simp only [validateRule_eq_ok_iff, Rule.any_called, Bool.or_eq_true, beq_iff_eq]
  constructor
  · rintro ⟨hr, htypes, hp⟩
    refine ⟨⟨fun other held ho => ?_, htypes, hp⟩, (hr name setting ?_).2⟩
    · have hne : other ≠ name := by
        rintro rfl
        rw [hn] at ho
        cases ho
      obtain ⟨hk, hv⟩ := hr other held (by rw [rule?_withRule, if_neg hne, ho])
      exact ⟨hk.resolve_right hne.symm, hv⟩
    · rw [rule?_withRule, if_pos rfl]
  · rintro ⟨⟨hr, htypes, hp⟩, hv⟩
    refine ⟨fun other held ho => ?_, htypes, hp⟩
    rw [rule?_withRule] at ho
    split at ho
    next he =>
      subst he
      cases ho
      exact ⟨.inr rfl, hv⟩
    next he => exact (hr other held ho).imp_left .inl

namespace Linter

def holding (base : RuleSet) (ignore : Ignore) (rule : Rule) (setting : Setting) (name : String) :
    Linter :=
  ⟨base.withRule name setting, Rule.builtins ++ [rule.called name], ignore⟩

variable {base : RuleSet} {ignore : Ignore} {rule : Rule} {setting : Setting} {old new : String}
  {message : Message} {issue : Issue}

lemma rule?_holding (name other : String) :
    (holding base ignore rule setting name).rule? other =
      if other = name then some (rule.called name) else Rule.builtin? other := by
  rw [Linter.rule?, holding, Rule.find?_reverse_append, Rule.applicable?]
  by_cases h : other = name
  · subst h
    simp [Rule.called]
  · have hb : (name == other) = false := by simpa using Ne.symm h
    simp [Rule.called, hb, h]

lemma make_withRule_eq_ok_iff {w : Workspace} {set : RuleSet} {linter : Linter} {name : String} :
    make w (set.withRule name setting) [rule.called name] = .ok linter ↔
      ∃ base ignore, w.resolve none set = .ok base ∧
        (base.withRule name setting).validateWith
          (fun other => (Rule.builtins ++ [rule.called name]).any (·.name == other)) = .ok () ∧
        Ignore.ofRuleSet base = .ok ignore ∧ holding base ignore rule setting name = linter := by
  rw [make_eq_ok_iff, RuleSet.resolve_withRule]
  cases w.resolve none set with
  | error error => simp [Except.map]
  | ok base =>
    constructor
    · rintro ⟨_, ignore, hr, hv, hi, rfl⟩
      cases hr
      exact ⟨base, ignore, rfl, hv, hi, rfl⟩
    · rintro ⟨_, ignore, hr, hv, hi, rfl⟩
      cases hr
      exact ⟨base.withRule name setting, ignore, rfl, hv, hi, rfl⟩

lemma issue?_holding {held : Setting} {name demand : String} {level : Level} :
    (holding base ignore rule setting name).issue? message name held = some ⟨name, level, demand⟩ ↔
      held.level ≠ .off ∧ rule.check message held.when held.value = .judged false demand ∧
        held.level = level := by
  simp [issue?_eq_some_iff, rule?_holding, Rule.called]

lemma rule_ne_of_mem_holding (hf : base.rule? new = none) (hne : new ≠ old)
    (h : issue ∈ (holding base ignore rule setting old).issues message) : issue.rule ≠ new := by
  rintro rfl
  obtain ⟨held, hs, -⟩ := mem_issues_iff_issue?.1 h
  rw [holding, RuleSet.rule?_withRule, if_neg hne, hf] at hs
  cases hs

lemma renamed_mem_holding (hf : base.rule? new = none) (hne : new ≠ old)
    (h : issue ∈ (holding base ignore rule setting old).issues message) :
    issue.renamed old new ∈ (holding base ignore rule setting new).issues message := by
  have hnew : issue.rule ≠ new := rule_ne_of_mem_holding hf hne h
  obtain ⟨name, level, demand⟩ := issue
  obtain ⟨held, hs, hi⟩ := mem_issues_iff_issue?.1 h
  rw [holding, RuleSet.rule?_withRule] at hs
  rw [mem_issues_iff_issue?]
  by_cases heq : name = old
  · subst heq
    rw [if_pos rfl] at hs
    refine ⟨held, ?_, ?_⟩
    · simpa [Issue.renamed, holding, RuleSet.rule?_withRule] using hs
    · rw [Issue.renamed, if_pos rfl]
      exact issue?_holding.2 (issue?_holding.1 hi)
  · rw [if_neg heq] at hs
    rw [Issue.renamed_of_ne heq]
    refine ⟨held, ?_, ?_⟩
    · rw [holding, RuleSet.rule?_withRule, if_neg hnew, hs]
    · rw [← hi]
      simp only [issue?, rule?_holding, if_neg heq, if_neg hnew]

section

variable (ho : base.rule? old = none) (hf : base.rule? new = none) (hne : new ≠ old)

include ho hf hne

lemma mem_holding_iff :
    issue ∈ (holding base ignore rule setting new).issues message ↔
      ∃ found ∈ (holding base ignore rule setting old).issues message,
        found.renamed old new = issue := by
  -- The names are free in `base` both, so what is renamed can be renamed back.
  constructor
  · intro h
    exact ⟨issue.renamed new old, renamed_mem_holding ho hne.symm h,
      Issue.renamed_renamed (rule_ne_of_mem_holding ho hne.symm h)⟩
  · rintro ⟨found, h, rfl⟩
    exact renamed_mem_holding hf hne h

lemma perm_holding (level : Level) :
    (((holding base ignore rule setting new).issues message).filter (·.level == level)).Perm
      ((((holding base ignore rule setting old).issues message).filter (·.level == level)).map
        (·.renamed old new)) := by
  have hnodup : ∀ name, (((holding base ignore rule setting name).issues message).filter
      (·.level == level)).Nodup := fun name =>
    (nodup_of_pairwise (pairwise_issues _ message)).sublist List.filter_sublist
  refine (List.perm_ext_iff_of_nodup (hnodup new) ((hnodup old).map_on ?_)).2 fun issue => ?_
  · intro a ha b hb hab
    have ha := rule_ne_of_mem_holding hf hne (List.mem_filter.1 ha).1
    have hb := rule_ne_of_mem_holding hf hne (List.mem_filter.1 hb).1
    rw [← Issue.renamed_renamed ha, hab, Issue.renamed_renamed hb]
  · rw [List.mem_filter, mem_holding_iff ho hf hne, List.mem_map]
    constructor
    · rintro ⟨⟨found, h, rfl⟩, he⟩
      exact ⟨found, List.mem_filter.2 ⟨h, by simpa using he⟩, rfl⟩
    · rintro ⟨found, h, rfl⟩
      obtain ⟨h, he⟩ := List.mem_filter.1 h
      exact ⟨⟨found, h, rfl⟩, by simpa using he⟩

lemma filter_holding :
    ((holding base ignore rule setting new).issues message).filter (·.rule ∉ [old, new]) =
      ((holding base ignore rule setting old).issues message).filter (·.rule ∉ [old, new]) := by
  refine eq_of_mem_iff ((pairwise_issues _ message).filter _) ((pairwise_issues _ message).filter _)
    fun issue => ?_
  simp only [List.mem_filter, decide_eq_true_eq, List.mem_cons, List.not_mem_nil, or_false, not_or]
  refine and_congr_left fun ⟨hold, hnew⟩ => ⟨fun h => ?_, fun h => ?_⟩
  · exact Issue.renamed_of_ne hnew old ▸ renamed_mem_holding ho hne.symm h
  · exact Issue.renamed_of_ne hold new ▸ renamed_mem_holding hf hne h

lemma renamedTo_check (message : Message) :
    ((holding base ignore rule setting old).check message).RenamedTo old new
      ((holding base ignore rule setting new).check message) where
  without := without_check_of_issues rfl (filter_holding ho hf hne)
  errors := by
    rw [errors_check, errors_check]
    exact perm_holding ho hf hne .error
  warnings := by
    rw [warnings_check, warnings_check]
    exact perm_holding ho hf hne .warning

lemma matches_holding (text : String) :
    Matches (Report.RenamedTo old new) ((holding base ignore rule setting old).lint text)
      ((holding base ignore rule setting new).lint text) := by
  rw [lint, lint]
  change Matches _ (if ignore.holds text then _ else _) (if ignore.holds text then _ else _)
  split
  · exact .ok ⟨rfl, .nil, .nil⟩
  · cases Message.parse? text with
    | none => exact .error _
    | some message => exact .ok (renamedTo_check ho hf hne message)

end

lemma exists_make_withRule_iff {w : Workspace} {set : RuleSet} {name : String}
    (hs : ∀ base, w.resolve none set = .ok base → base.rule? name = none)
    (ht : name ≠ RuleSet.typeEnum) :
    (∃ linter, make w (set.withRule name setting) [rule.called name] = .ok linter) ↔
      (∃ base, w.resolve none set = .ok base ∧ base.validate = .ok ()) ∧
        ∀ builtin, Rule.builtin? name = some builtin →
          builtin.validateValue setting.value = .ok () := by
  constructor
  · rintro ⟨linter, h⟩
    obtain ⟨base, ignore, hr, hv, -, -⟩ := make_withRule_eq_ok_iff.1 h
    obtain ⟨hv, hb⟩ := (RuleSet.validateWith_withRule_iff rule (hs base hr) ht).1 hv
    exact ⟨⟨base, hr, hv⟩, hb⟩
  · rintro ⟨⟨base, hr, hv⟩, hb⟩
    obtain ⟨ignore, hi⟩ := RuleSet.exists_ignore_of_validateWith hv
    exact ⟨_, make_withRule_eq_ok_iff.2 ⟨base, ignore, hr,
      (RuleSet.validateWith_withRule_iff rule (hs base hr) ht).2 ⟨hv, hb⟩, hi, rfl⟩⟩

/-- A rule under the name of a built-in one can be used wherever it can be used under a name of its
own, provided that the built-in rule reads the value that it is set to. It then finds the same. -/
theorem make_replacement (w : Workspace) (set : RuleSet) (rule : Rule) (setting : Setting)
    (old new : String) (hb : Rule.isBuiltin old = true) (ht : old ≠ RuleSet.typeEnum)
    (hf : Rule.isBuiltin new = false)
    (hs : ∀ base, w.resolve none set = .ok base → base.rule? old = none ∧ base.rule? new = none) :
    ((∃ linter, make w (set.withRule old setting) [rule.called old] = .ok linter) ↔
      (∃ linter, make w (set.withRule new setting) [rule.called new] = .ok linter) ∧
        ∃ builtin, Rule.builtin? old = some builtin ∧
          builtin.validateValue setting.value = .ok ()) ∧
    ∀ linter other, make w (set.withRule old setting) [rule.called old] = .ok linter →
      make w (set.withRule new setting) [rule.called new] = .ok other →
      ∀ text, Matches (Report.RenamedTo old new) (linter.lint text) (other.lint text) := by
  obtain ⟨builtin, hbuiltin⟩ := Option.isSome_iff_exists.1 hb
  have hnone : Rule.builtin? new = none := by simpa [Rule.isBuiltin] using hf
  have hne : new ≠ old := by
    rintro rfl
    rw [hnone] at hbuiltin
    cases hbuiltin
  have hn : new ≠ RuleSet.typeEnum := by
    rintro rfl
    have : Rule.isBuiltin RuleSet.typeEnum = true := by decide +kernel
    rw [this] at hf
    cases hf
  constructor
  · rw [exists_make_withRule_iff (fun base hr => (hs base hr).1) ht,
      exists_make_withRule_iff (fun base hr => (hs base hr).2) hn]
    simp [hbuiltin, hnone]
  · intro linter other hl ho text
    obtain ⟨base, ignore, hr, -, hi, rfl⟩ := make_withRule_eq_ok_iff.1 hl
    obtain ⟨base', ignore', hr', -, hi', rfl⟩ := make_withRule_eq_ok_iff.1 ho
    cases hr.symm.trans hr'
    cases hi.symm.trans hi'
    exact matches_holding (hs base hr).1 (hs base hr).2 hne text

def mention : Rule where
  name := "mention"
  kind := .text
  check message _ value :=
    let text := (value.bind RuleValue.toText?).getD "OPS-"
    .judged (Text.hasInfix text.toList message.raw.toList) s!"message must mention {text}"

def mentioned (value : RuleValue) : Setting := .withValue .error .always value

lemma resolve_empty : Workspace.resolve {} none {} = .ok {} :=
  Workspace.resolve_of_bases_eq_nil rfl .nil

lemma rule?_resolve_empty :
    ∀ base, Workspace.resolve {} none {} = .ok base →
      base.rule? "header-full-stop" = none ∧ base.rule? "mention" = none := by
  intro base h
  cases resolve_empty.symm.trans h
  exact ⟨rfl, rfl⟩

lemma exists_make_mention (value : RuleValue) :
    ∃ linter, make {} (RuleSet.withRule {} "mention" (mentioned value))
      [mention.called "mention"] = .ok linter := by
  refine (exists_make_withRule_iff (fun base h => (rule?_resolve_empty base h).2) (by decide)).2
    ⟨⟨{}, resolve_empty, rfl⟩, fun builtin h => ?_⟩
  have hn : Rule.builtin? "mention" = none := by rfl
  rw [hn] at h
  cases h

theorem make_replacement_full_stop :
    Rule.isBuiltin "header-full-stop" = true ∧ Rule.isBuiltin "mention" = false ∧
    ∃ linter other,
      make {} (RuleSet.withRule {} "header-full-stop" (mentioned (.text "OPS-")))
        [mention.called "header-full-stop"] = .ok linter ∧
      make {} (RuleSet.withRule {} "mention" (mentioned (.text "OPS-")))
        [mention.called "mention"] = .ok other ∧
      ∀ text, Matches (Report.RenamedTo "header-full-stop" "mention") (linter.lint text)
        (other.lint text) := by
  have hb : Rule.isBuiltin "header-full-stop" = true := by decide +kernel
  have hf : Rule.isBuiltin "mention" = false := by decide +kernel
  obtain ⟨hiff, hlint⟩ := make_replacement {} {} mention (mentioned (.text "OPS-"))
    "header-full-stop" "mention" hb (by decide) hf rule?_resolve_empty
  obtain ⟨other, ho⟩ := exists_make_mention (.text "OPS-")
  obtain ⟨linter, hl⟩ := hiff.2 ⟨⟨other, ho⟩, _, rfl, rfl⟩
  exact ⟨hb, hf, linter, other, hl, ho, hlint linter other hl ho⟩

theorem make_replacement_refused :
    (∃ linter, make {} (RuleSet.withRule {} "mention" (mentioned (.text "OPS-")))
      [mention.called "mention"] = .ok linter) ∧
    make {} (RuleSet.withRule {} "header-max-length" (mentioned (.text "OPS-")))
        [mention.called "header-max-length"] =
      .error (.config (.invalidValue "header-max-length"
        "expected a non-negative number, got a string")) := by
  refine ⟨exists_make_mention _, ?_⟩
  rw [make, RuleSet.resolve_withRule, resolve_empty]
  rfl

end Linter

end CommitStyle
