import CommitStyle.Proofs.Agreement
import CommitStyle.Proofs.LongerLists
import CommitStyle.Proofs.TypeList

/-!
# Revisions become more lenient

A revision resolves to the conventional preset with another list of types and some rules switched
off. From the preset to each revision in turn, nothing new is reported as an error: what differs are
the rules that are switched off and the listed types, to which types are only added.
-/

namespace CommitStyle

/-! ### Resolved revisions -/

namespace Revision

def resolved (revision : Revision) : RuleSet :=
  Preset.conventional.merge { revision.ruleSet with bases := [] }

lemma resolve_ruleSet (w : Workspace) (base : Option String) (revision : Revision) :
    w.resolve base revision.ruleSet = .ok revision.resolved := by
  have hp : Preset.ofName? "@commitlint/config-conventional" = some Preset.conventional := by
    decide +kernel
  have hl : w.layAll [] base {} revision.ruleSet.bases = .ok Preset.conventional := by
    change w.layAll [] base {} ["@commitlint/config-conventional"] = _
    rw [Workspace.layAll_cons,
      Workspace.parentOf_of_refer_preset (Workspace.refer_eq_preset_iff.2 hp)]
    change w.layAll [] base (RuleSet.merge {} Preset.conventional) [] = _
    rw [Workspace.layAll_nil, RuleSet.empty_merge]
    rfl
  rw [Workspace.resolve, hl]
  rfl

lemma validate_conventional : Preset.conventional.validate = .ok () :=
  eq_ok_of_toOption_eq_some (by decide +kernel)

lemma validate_resolved (revision : Revision) : revision.resolved.validate = .ok () := by
  refine eq_ok_of_toOption_eq_some ?_
  cases revision <;> decide +kernel

lemma lookup_map_const (names : List String) (setting : Setting) (name : String) :
    (names.map fun other => (other, setting)).lookup name =
      if name ∈ names then some setting else none := by
  induction names with
  | nil => rfl
  | cons other rest ih =>
    rw [List.map_cons, RuleTable.lookup_cons_eq_ite, ih]
    by_cases hn : name = other <;> simp [hn]

lemma rule?_resolved (revision : Revision) (name : String) :
    revision.resolved.rule? name =
      if name ∈ revision.offRules then some .off
      else if name = RuleSet.typeEnum then
        some (.withValue .error .always (.list revision.types))
      else Preset.conventional.rule? name := by
  have hown : revision.ruleSet.rules.find? name =
      if name ∈ revision.offRules then some .off
      else if name = RuleSet.typeEnum then
        some (.withValue .error .always (.list revision.types))
      else none := by
    rw [ruleSet, RuleTable.find?_ofList, List.reverse_cons, List.lookup_append, ← List.map_reverse,
      lookup_map_const, RuleTable.lookup_cons_eq_ite]
    by_cases hn : name ∈ revision.offRules <;> simp [hn]
  rw [RuleSet.rule?, resolved, RuleSet.merge, RuleTable.find?_merge, hown]
  split
  · rfl
  · split <;> rfl

end Revision

/-! ### Rule sets that demand less -/

/-- The other rule set demands no more. Some rules that raise no warnings are switched off in it or
list more types, and all others are set alike. -/
structure RuleSet.EasedTo (names : List String) (set other : RuleSet) : Prop where
  helpUrl : other.helpUrl = set.helpUrl
  rule? : ∀ name, name ∉ names → other.rule? name = set.rule? name
  level? : ∀ name ∈ names, set.level? name ≠ some .warning
  eased : ∀ name ∈ names, other.rule? name = some .off ∨
    name = typeEnum ∧ ∃ types more, types ≠ [] ∧ types ⊆ more ∧
      set.rule? name = some (.withValue .error .always (.list types)) ∧
      other.rule? name = some (.withValue .error .always (.list more))

/-- The other report exempts the message alike, has the same warnings and no errors of further rules,
and differs at most in the issues of some rules. -/
structure Report.EasedTo (names : List String) (report other : Report) : Prop where
  ignored : other.ignored = report.ignored
  errors : other.errors.map (·.rule) ⊆ report.errors.map (·.rule)
  warnings : other.warnings = report.warnings
  others : other.without names = report.without names

namespace Check

lemma hasListedType_of_subset {message : Message} {types more : List String} {demand : String}
    (hn : types ≠ []) (hs : types ⊆ more)
    (h : hasListedType message .always (some (.list more)) = .judged false demand) :
    ∃ other, hasListedType message .always (some (.list types)) = .judged false other := by
  have hshort : RuleValue.toList? (.list types) = some types := rfl
  have hlong : RuleValue.toList? (.list more) = some more := rfl
  obtain ⟨hmono, -⟩ := widens_hasListedType.valid_of_subset hshort hlong hn hs message
  rw [h] at hmono
  cases ho : hasListedType message .always (some (.list types)) with
  | skipped =>
    rw [ho] at hmono
    cases hmono rfl
  | judged valid other =>
    rw [ho] at hmono
    cases valid with
    | false => exact ⟨other, rfl⟩
    | true => cases hmono rfl

end Check

namespace RuleSet

variable {names : List String} {set other : RuleSet} {message : Message} {issue : Issue}

lemma EasedTo.other_level? (h : set.EasedTo names other) {name : String} (hn : name ∈ names) :
    other.level? name ≠ some .warning := by
  rcases h.eased name hn with ho | ⟨-, types, more, -, -, -, ho⟩
  all_goals
    rw [RuleSet.level?, ho]
    rintro ⟨⟩

lemma EasedTo.exists_raises (h : set.EasedTo names other) (hr : other.Raises [] message issue)
    (he : issue.level = .error) : ∃ demand, set.Raises [] message { issue with message := demand } := by
  by_cases hn : issue.rule ∈ names
  · rcases h.eased _ hn with ho | ⟨ht, types, more, hne, hs, hset, ho⟩
    · have hl := hr.level?
      rw [RuleSet.level?, ho, he] at hl
      cases hl
    · rw [Raises, ht, outcome?_typeEnum, ← ht, ho] at hr
      obtain ⟨hl, hc⟩ := Prod.mk.inj (Option.some.inj hr)
      obtain ⟨demand, hd⟩ := Check.hasListedType_of_subset hne hs hc
      refine ⟨demand, ?_⟩
      rw [Raises, ht, outcome?_typeEnum, ← ht, hset, ← hl]
      exact congrArg (fun outcome => some (Level.error, outcome)) hd
  · refine ⟨issue.message, ?_⟩
    rwa [Raises, outcome?, ← h.rule? _ hn]

end RuleSet

namespace Linter

variable {names : List String} {linter other : Linter}

lemma filter_warnings_check (hl : linter.rules = Rule.builtins ++ [])
    (hw : ∀ name ∈ names, linter.ruleSet.level? name ≠ some .warning) (message : Message) :
    ((linter.check message).without names).warnings = (linter.check message).warnings := by
  refine List.filter_eq_self.2 fun issue hi => ?_
  obtain ⟨hlevel, hr⟩ := ((accounts_check hl message).mem_warnings_iff issue).1 hi
  have hn : issue.rule ∉ names := fun hn => hw _ hn (hlevel ▸ hr.level?)
  simpa using hn

section Eased

variable (hl : linter.rules = Rule.builtins ++ []) (ho : other.rules = Rule.builtins ++ [])
  (hi : other.ignore = linter.ignore) (h : linter.ruleSet.EasedTo names other.ruleSet)

include hl ho hi h

lemma agreesOff_of_easedTo : linter.AgreesOff names other :=
  ⟨ho.trans hl.symm, hi, h.helpUrl, h.rule?⟩

lemma easedTo_check (message : Message) :
    (linter.check message).EasedTo names (other.check message) := by
  have ha := (agreesOff_of_easedTo hl ho hi h).without_check message
  refine ⟨by rw [ignored_check, ignored_check], ?_, ?_, ha⟩
  · intro name hn
    obtain ⟨issue, hm, rfl⟩ := List.mem_map.1 hn
    obtain ⟨he, hr⟩ := ((accounts_check ho message).mem_errors_iff issue).1 hm
    obtain ⟨demand, hd⟩ := h.exists_raises hr he
    refine List.mem_map.2 ⟨{ issue with message := demand }, ?_, rfl⟩
    exact ((accounts_check hl message).mem_errors_iff _).2 ⟨he, hd⟩
  · rw [← filter_warnings_check ho (fun _ => h.other_level?), ha,
      filter_warnings_check hl h.level?]

lemma matches_easedTo_lint (text : String) :
    Matches (Report.EasedTo names) (linter.lint text) (other.lint text) :=
  (agreesOff_of_easedTo hl ho hi h).matches_lint text ⟨rfl, List.Subset.refl _, rfl, rfl⟩
    (easedTo_check hl ho hi h)

end Eased

end Linter

/-! ### The steps from the preset to the latest revision -/

namespace Revision

def linterOf (set : RuleSet) : Linter := ⟨set, Rule.builtins ++ [], ⟨true, []⟩⟩

lemma ofRuleSet_of_validate {w : Workspace} {set resolved : RuleSet}
    (hr : w.resolve none set = .ok resolved) (hv : resolved.validate = .ok ())
    (hd : resolved.defaultIgnores = true) (hi : resolved.ignores = []) :
    Linter.ofRuleSet w set = .ok (linterOf resolved) := by
  have hk : (fun name => (Rule.builtins ++ []).any (·.name == name)) = Rule.isBuiltin :=
    funext Rule.any_builtins_append_nil
  refine Linter.make_eq_ok_iff.2 ⟨resolved, ⟨true, []⟩, hr, hk ▸ hv, ?_, rfl⟩
  rw [Ignore.ofRuleSet, hd, hi]
  rfl

lemma ofRuleSet_conventional (w : Workspace) :
    Linter.ofRuleSet w Preset.conventional = .ok (linterOf Preset.conventional) :=
  ofRuleSet_of_validate (Workspace.resolve_of_bases_eq_nil rfl .nil) validate_conventional rfl rfl

lemma ofRuleSet_ruleSet (w : Workspace) (revision : Revision) :
    Linter.ofRuleSet w revision.ruleSet = .ok (linterOf revision.resolved) :=
  ofRuleSet_of_validate (revision.resolve_ruleSet w none) revision.validate_resolved rfl rfl

lemma matches_linterOf {names : List String} {set other : RuleSet} (h : set.EasedTo names other)
    (text : String) :
    Matches (Report.EasedTo names) ((linterOf set).lint text) ((linterOf other).lint text) :=
  @Linter.matches_easedTo_lint names (linterOf set) (linterOf other) rfl rfl rfl h text

lemma easedTo_initial :
    Preset.conventional.EasedTo ["type-enum", "subject-case", "subject-full-stop"]
      initial.resolved where
  helpUrl := rfl
  rule? name hn := by
    simp only [List.mem_cons, List.not_mem_nil, or_false, not_or] at hn
    simp [rule?_resolved, offRules, RuleSet.typeEnum, hn]
  level? := by decide +kernel
  eased name hn := by
    rcases List.mem_cons.1 hn with rfl | hn
    · exact .inr ⟨rfl, Preset.conventionalTypes, initial.types, by decide,
        List.subset_append_left _ _, rfl, rfl⟩
    · refine .inl ?_
      rw [rule?_resolved]
      exact if_pos hn

lemma easedTo_extended :
    initial.resolved.EasedTo ["type-enum"] extended.resolved where
  helpUrl := rfl
  rule? name hn := by
    rw [List.mem_singleton] at hn
    simp [rule?_resolved, offRules, RuleSet.typeEnum, hn]
  level? := by decide +kernel
  eased name hn := by
    rw [List.mem_singleton] at hn
    subst hn
    exact .inr ⟨rfl, initial.types, extended.types, by decide, List.subset_append_left _ _, rfl, rfl⟩

lemma easedTo_relaxed :
    extended.resolved.EasedTo
      ["header-max-length", "body-max-line-length", "footer-max-line-length"] relaxed.resolved where
  helpUrl := rfl
  rule? name hn := by
    simp only [List.mem_cons, List.not_mem_nil, or_false, not_or] at hn
    simp [rule?_resolved, offRules, droppedLimits, types, hn]
  level? := by decide +kernel
  eased name hn := by
    refine .inl ?_
    rw [rule?_resolved]
    refine if_pos ?_
    revert name
    decide

/-- From the conventional preset to each revision in turn, the linters exempt the same messages, have
the same warnings and raise errors of fewer rules, and their reports differ in the issues of the named
rules only. -/
theorem lint_eased (w : Workspace) :
    ∃ conventional first second third,
      Linter.ofRuleSet w Preset.conventional = .ok conventional ∧
      Linter.ofRuleSet w initial.ruleSet = .ok first ∧
      Linter.ofRuleSet w extended.ruleSet = .ok second ∧
      Linter.ofRuleSet w relaxed.ruleSet = .ok third ∧
      ∀ text,
        Matches (Report.EasedTo ["type-enum", "subject-case", "subject-full-stop"])
          (conventional.lint text) (first.lint text) ∧
        Matches (Report.EasedTo ["type-enum"]) (first.lint text) (second.lint text) ∧
        Matches (Report.EasedTo
            ["header-max-length", "body-max-line-length", "footer-max-line-length"])
          (second.lint text) (third.lint text) := by
  refine ⟨_, _, _, _, ofRuleSet_conventional w, ofRuleSet_ruleSet w initial,
    ofRuleSet_ruleSet w extended, ofRuleSet_ruleSet w relaxed, fun text => ⟨?_, ?_, ?_⟩⟩
  · exact matches_linterOf easedTo_initial text
  · exact matches_linterOf easedTo_extended text
  · exact matches_linterOf easedTo_relaxed text

end Revision

end CommitStyle
