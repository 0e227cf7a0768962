import CommitStyle.Proofs.Agreement

/-!
# The independence of rules

What a linter finds by one rule depends neither on the setting of another rule nor on its presence. A
rule that is off counts as one that is absent. A rule that goes from the level of warnings to the level
of errors takes its issue along, and nothing else in a report changes.
-/

namespace CommitStyle

def RuleSet.enforced? (set : RuleSet) (name : String) : Option Setting :=
  (set.rule? name).filter (·.isEnabled)

/-- What one report has among the warnings of a rule the other one has among its errors, and nothing
else differs. -/
structure Report.RaisedTo (name : String) (report other : Report) : Prop where
  without : other.without [name] = report.without [name]
  errors : report.errors.filter (·.rule == name) = []
  warnings : other.warnings.filter (·.rule == name) = []
  moved : other.errors.filter (·.rule == name) =
    (report.warnings.filter (·.rule == name)).map fun issue => { issue with level := .error }

lemma Ignore.ofRuleSet_congr {set other : RuleSet}
    (hd : other.defaultIgnores = set.defaultIgnores) (hp : other.ignores = set.ignores) :
    ofRuleSet other = ofRuleSet set := by
  rw [ofRuleSet, ofRuleSet, hd, hp]

namespace Linter

variable {linter other : Linter} {message : Message} {issue : Issue} {name : String}

lemma mem_issues_iff_enforced? : issue ∈ linter.issues message ↔
    ∃ setting, linter.ruleSet.enforced? issue.rule = some setting ∧
      linter.issue? message issue.rule setting = some issue := by
  rw [mem_issues_iff_issue?]
  refine exists_congr fun setting => ?_
  rw [RuleSet.enforced?, Option.filter_eq_some_iff, and_assoc]
  refine and_congr_right fun _ => ⟨fun h => ⟨?_, h⟩, fun h => h.2⟩
  have he : setting.level ≠ .off := (issue?_eq_some_iff.1 h).1
  simpa [Setting.isEnabled] using he

lemma check_congr (hr : other.rules = linter.rules)
    (hu : other.ruleSet.helpUrl = linter.ruleSet.helpUrl)
    (h : ∀ name, other.ruleSet.enforced? name = linter.ruleSet.enforced? name)
    (message : Message) : other.check message = linter.check message := by
  have hi : other.issues message = linter.issues message := by
    apply eq_of_mem_iff (pairwise_issues other message) (pairwise_issues linter message)
    intro issue
    rw [mem_issues_iff_enforced?, mem_issues_iff_enforced?, h, issue?_congr hr]
  rw [check, check, hu, hi]

lemma filter_rule_issues (linter : Linter) (message : Message) (name : String) :
    (linter.issues message).filter (·.rule == name) =
      ((linter.ruleSet.rule? name).bind (linter.issue? message name)).toList := by
  apply eq_of_mem_iff ((pairwise_issues linter message).filter _)
  · cases (linter.ruleSet.rule? name).bind (linter.issue? message name) <;> simp
  · intro issue
    rw [List.mem_filter, mem_issues_iff_issue?, Option.mem_toList, Option.bind_eq_some_iff,
      beq_iff_eq]
    constructor
    · rintro ⟨h, rfl⟩
      exact h
    · rintro ⟨setting, hs, hi⟩
      obtain rfl := rule_of_issue? hi
      exact ⟨⟨setting, hs, hi⟩, rfl⟩

lemma filter_rule_of_level {setting : Setting} {level : Level}
    (h : linter.ruleSet.rule? name = some setting) :
    ((linter.issues message).filter (·.level == level)).filter (·.rule == name) =
      if setting.level = level then (linter.issue? message name setting).toList else [] := by
  rw [List.filter_comm, filter_rule_issues, h, Option.bind_some]
  cases hi : linter.issue? message name setting with
  | none => simp
  | some issue =>
    obtain ⟨-, rule, demand, -, -, rfl⟩ := issue?_eq_some_iff.1 hi
    by_cases hl : setting.level = level <;> simp [hl]

lemma issue?_raised (linter : Linter) (message : Message) (name : String) (setting : Setting) :
    linter.issue? message name { setting with level := .error } =
      (linter.issue? message name { setting with level := .warning }).map
        fun issue => { issue with level := .error } := by
  cases hr : linter.rule? name with
  | none => simp [issue?, hr]
  | some rule =>
    by_cases hv : (rule.check message (setting.condition.getD .always) setting.value).valid <;>
      simp [issue?, hr, Setting.isEnabled, Setting.when, hv]

namespace AgreesOff

lemma raisedTo_check (h : AgreesOff [name] linter other) {setting : Setting}
    (hs : linter.ruleSet.rule? name = some { setting with level := .warning })
    (ho : other.ruleSet.rule? name = some { setting with level := .error }) (message : Message) :
    (linter.check message).RaisedTo name (other.check message) where
  without := h.without_check message
  errors := by
    rw [errors_check, filter_rule_of_level hs]
    rfl
  warnings := by
    rw [warnings_check, filter_rule_of_level ho]
    rfl
  moved := by
    rw [errors_check, warnings_check, filter_rule_of_level hs, filter_rule_of_level ho,
      if_pos rfl, if_pos rfl, issue?_congr h.rules, issue?_raised]
    cases linter.issue? message name { setting with level := .warning } <;> rfl

end AgreesOff

/-- Linters whose rule sets exempt the same messages and agree on the help address agree on the issues
of every rule but one if they set every rule but one alike. They agree on everything if they set alike
what they do not switch off. And they move the issue of a rule and nothing else if that rule is a
warning in one of them and an error in the other. -/
theorem lint_independent (w v : Workspace) (set set' a b : RuleSet) (extra : List Rule)
    (linter other : Linter) (hl : make w set extra = .ok linter)
    (ho : make v set' extra = .ok other) (ha : w.resolve none set = .ok a)
    (hb : v.resolve none set' = .ok b) (hd : b.defaultIgnores = a.defaultIgnores)
    (hp : b.ignores = a.ignores) (hu : b.helpUrl = a.helpUrl) :
    (∀ name, (∀ n, n ≠ name → b.rule? n = a.rule? n) → ∀ text,
      Matches (fun report found => found.ignored = report.ignored ∧
        found.without [name] = report.without [name]) (linter.lint text) (other.lint text)) ∧
    ((∀ n, b.enforced? n = a.enforced? n) → ∀ text, other.lint text = linter.lint text) ∧
    ∀ (name : String) (setting : Setting), (∀ n, n ≠ name → b.rule? n = a.rule? n) →
      a.rule? name = some { setting with level := .warning } →
      b.rule? name = some { setting with level := .error } → ∀ text,
        Matches (Report.RaisedTo name) (linter.lint text) (other.lint text) := by
  obtain ⟨a', ignore, ha', -, hi, rfl⟩ := make_eq_ok_iff.1 hl
  obtain ⟨b', ignore', hb', -, hi', rfl⟩ := make_eq_ok_iff.1 ho
  cases ha.symm.trans ha'
  cases hb.symm.trans hb'
  obtain rfl : ignore' = ignore := by
    rw [Ignore.ofRuleSet_congr hd hp, hi] at hi'
    exact (Except.ok.inj hi').symm
  have hoff : ∀ name, (∀ n, n ≠ name → b.rule? n = a.rule? n) →
      AgreesOff [name] ⟨a, Rule.builtins ++ extra, ignore'⟩ ⟨b, Rule.builtins ++ extra, ignore'⟩ :=
    fun name h => ⟨rfl, rfl, hu, fun n hn => h n (by simpa using hn)⟩
  refine ⟨fun name h text => ?_, fun h text => ?_, fun name setting h hs he text => ?_⟩
  · apply (hoff name h).matches_lint text
    · exact ⟨rfl, rfl⟩
    · intro message
      exact ⟨by rw [ignored_check, ignored_check], (hoff name h).without_check message⟩
  · have hc : ∀ message, check ⟨b, Rule.builtins ++ extra, ignore'⟩ message =
        check ⟨a, Rule.builtins ++ extra, ignore'⟩ message := check_congr rfl hu h
    exact (lint_eq_iff hc).2 rfl
  · apply (hoff name h).matches_lint text
    · exact ⟨rfl, rfl, rfl, rfl⟩
    · exact (hoff name h).raisedTo_check hs he

def typedSet (level : Level) (others : List (String × Setting)) : RuleSet where
  rules := .ofList (others ++ [("type-empty", .plain level .never)])

def untrimmed : List (String × Setting) := [("header-trim", .off)]

def typedLinter (level : Level) (others : List (String × Setting)) : Linter :=
  ⟨typedSet level others, Rule.builtins ++ [], ⟨true, []⟩⟩

lemma make_typedSet (level : Level) {others : List (String × Setting)}
    (h : others = [] ∨ others = untrimmed) :
    make {} (typedSet level others) [] = .ok (typedLinter level others) := by
  refine make_eq_ok_iff.2 ⟨_, ⟨true, []⟩, Workspace.resolve_of_bases_eq_nil rfl .nil, ?_, rfl, rfl⟩
  rcases h with rfl | rfl <;> cases level <;> rfl

theorem lint_independent_typed :
    make {} (typedSet .warning []) [] = .ok (typedLinter .warning []) ∧
    make {} (typedSet .error []) [] = .ok (typedLinter .error []) ∧
    make {} (typedSet .error untrimmed) [] = .ok (typedLinter .error untrimmed) ∧
    (∀ text, Matches (Report.RaisedTo "type-empty")
      ((typedLinter .warning []).lint text) ((typedLinter .error []).lint text)) ∧
    ∀ text, (typedLinter .error untrimmed).lint text = (typedLinter .error []).lint text := by
  have hw := make_typedSet .warning (.inl rfl)
  have he := make_typedSet .error (.inl rfl)
  have hu := make_typedSet .error (.inr rfl)
  have hr : ∀ set : RuleSet, set.bases = [] → set.ignores = [] →
      Workspace.resolve {} none set = .ok set := fun set hb hi =>
    Workspace.resolve_of_bases_eq_nil hb (hi ▸ .nil)
  refine ⟨hw, he, hu, ?_, ?_⟩
  · refine (lint_independent {} {} _ _ _ _ [] _ _ hw he (hr _ rfl rfl) (hr _ rfl rfl) rfl rfl
      rfl).2.2 "type-empty" ⟨.warning, some .never, none⟩ ?_ rfl rfl
    intro n hn
    have hn : (n == "type-empty") = false := by simpa using hn
    change List.lookup n [("type-empty", _)] = List.lookup n [("type-empty", _)]
    simp [List.lookup_cons, hn]
  · refine (lint_independent {} {} _ _ _ _ [] _ _ he hu (hr _ rfl rfl) (hr _ rfl rfl) rfl rfl
      rfl).2.1 ?_
    intro n
    change (List.lookup n [("header-trim", Setting.off), ("type-empty", _)]).filter _ =
      (List.lookup n [("type-empty", _)]).filter _
    by_cases h : n = "header-trim"
    · subst h
      rfl
    · have h : (n == "header-trim") = false := by simpa using h
      simp [List.lookup_cons, h]

end Linter

end CommitStyle
