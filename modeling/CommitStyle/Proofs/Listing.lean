import CommitStyle.Proofs.Acceptance
import CommitStyle.Proofs.Loading

/-!
# The listing of commit types

The command that shows the commit types goes by the list of the rule set that the linter is made of.
Under the condition `always` these are the accepted types. Under `never` they are the refused ones.
-/

namespace CommitStyle

namespace Linter

def JudgesType (linter : Linter) (type : String) (accepted : Prop) : Prop :=
  ∀ text message, linter.ignore.holds text = false → Message.parse? text = some message →
    message.type = some type →
      ∃ report, linter.lint text = .ok report ∧
        (report.hasIssue RuleSet.typeEnum = false ↔ accepted)

variable {linter : Linter}

lemma judgesType (hl : linter.rules = Rule.builtins ++ [])
    (hv : linter.ruleSet.validateTypes = .ok ()) (type : String) :
    linter.JudgesType type (linter.ruleSet.allowsType type = true) := by
  intro text message hi hp ht
  refine ⟨_, lint_of_parse? hi hp, ?_⟩
  rw [hasIssue_typeEnum_check hl hv, ht, Option.any_some, Bool.not_eq_false']

lemma not_hasIssue_lint (hl : linter.rules = Rule.builtins ++ [])
    (hv : linter.ruleSet.validateTypes = .ok ())
    (ha : ∀ type, linter.ruleSet.allowsType type = true) {text : String} {report : Report}
    (h : linter.lint text = .ok report) : report.hasIssue RuleSet.typeEnum = false := by
  unfold lint at h
  split at h
  · cases h
    rfl
  · split at h
    next message _ =>
      cases h
      rw [hasIssue_typeEnum_check hl hv]
      simp [ha]
    next => cases h

end Linter

namespace CommandLine

variable {surroundings : Surroundings} {request : Request} {loaded : RuleSet}

/-! ### What is printed -/

lemma runTypes_of_resolvedRuleSet {set : RuleSet}
    (h : resolvedRuleSet surroundings request = .ok set) :
    runTypes surroundings request =
      .ok (.shown surroundings (typesText surroundings set) (.ok ())) :=
  bind_eq_ok_iff.2 ⟨set, h, rfl⟩

lemma head?_apply (colors : Bool) (style : Style) {text : String} {c : Char}
    (ht : text.toList.head? = some c) :
    (Style.apply colors [style] text).toList.head? = some (if colors then '\x1b' else c) := by
  cases colors <;> simp [Style.apply, ht]

lemma exists_head?_typeLines (surroundings : Surroundings) {types : List String} (hn : types ≠ [])
    (hu : ∀ type ∈ types, RuleSet.isUsableType type = true) :
    ∃ c, (String.join (typeLines surroundings types)).toList.head? = some c ∧
      Unicode.isUppercase c = false := by
  obtain ⟨type, rest, rfl⟩ := List.exists_cons_of_ne_nil hn
  have ht := hu type (.head _)
  rw [RuleSet.isUsableType, Bool.and_eq_true, Bool.not_eq_true', Bool.not_eq_true'] at ht
  obtain ⟨c, cs, hc⟩ : ∃ c cs, type.toList = c :: cs := by
    refine List.exists_cons_of_ne_nil fun hnil => ?_
    simp [String.toList_eq_nil_iff.1 hnil] at ht
  have hcu : Unicode.isUppercase c = false := by
    rw [hc, List.any_cons, Bool.or_eq_false_iff] at ht
    exact ht.2.1
  have hp : ∀ width, (padded width type).toList.head? = some c := by
    intro width
    simp [padded, hc]
  refine ⟨if surroundings.colors then '\x1b' else c, ?_, ?_⟩
  · simp [typeLines, head?_apply surroundings.colors .cyan (hp _)]
  · split
    · decide +kernel
    · exact hcu

lemma join_typeLines_ne_anyType {types : List String} (hn : types ≠ [])
    (hu : ∀ type ∈ types, RuleSet.isUsableType type = true) :
    String.join (typeLines surroundings types) ≠ anyType := by
  obtain ⟨c, hc, hcu⟩ := exists_head?_typeLines surroundings hn hu
  intro h
  rw [h] at hc
  have hA : c = 'A' := by
    have ha : anyType.toList.head? = some 'A' := by decide
    exact Option.some.inj (hc.symm.trans ha)
  rw [hA] at hcu
  exact absurd hcu (by decide +kernel)

/-- Where the rule set of a request can be loaded, the command lists the types of the rule set that
the linter of the same request holds, each one once. They are the types that the linter accepts under
`always` and those that it refuses under `never`; and where the command says that any type is accepted
the linter raises no issue about types. -/
theorem runTypes_lists (surroundings : Surroundings) (request : Request) (loaded : RuleSet)
    (h : loadRuleSet surroundings request = .ok loaded) :
    ∃ result linter, runTypes surroundings request = .ok result ∧ result.failure = none ∧
      makeLinter surroundings request = .ok linter ∧
      ((linter.ruleSet.typeSetting? = none ∧ result.output = anyType ∧
          ∀ text report, linter.lint text = .ok report →
            report.hasIssue RuleSet.typeEnum = false) ∨
        ∃ setting types, linter.ruleSet.typeSetting? = some setting ∧ result.output ≠ anyType ∧
          result.output = String.join (typeLines surroundings types) ∧ types.Pairwise (· < ·) ∧
          (setting.when = .always → ∀ type,
            (type ∈ types ↔ linter.ruleSet.allowsType type = true) ∧
              linter.JudgesType type (type ∈ types)) ∧
          (setting.when = .never → ∀ type,
            (type ∈ types ↔ linter.ruleSet.allowsType type = false) ∧
              linter.JudgesType type (type ∉ types))) := by
  obtain ⟨linter, hm, hr⟩ := exists_makeLinter h
  obtain ⟨_, -, ho⟩ := bind_eq_ok_iff.1 hm
  obtain ⟨hl, hv⟩ := Linter.validateTypes_of_ofRuleSet ho
  refine ⟨_, linter, runTypes_of_resolvedRuleSet hr, rfl, hm, ?_⟩
  rw [typesText]
  rcases RuleSet.exists_enforces hv with hn | ⟨setting, listed, he⟩
  · rw [RuleSet.types?_of_typeSetting?_eq_none hn]
    have ha := RuleSet.allowsType_of_typeSetting?_eq_none hn
    exact .inl ⟨hn, rfl, fun text report => Linter.not_hasIssue_lint hl hv ha⟩
  · rw [he.types?]
    refine .inr ⟨setting, RuleSet.sorted listed, he.typeSetting?, ?_, rfl,
      RuleSet.pairwise_sorted listed, fun hw type => ?_, fun hw type => ?_⟩
    · exact join_typeLines_ne_anyType he.sorted_ne_nil fun type => he.usable_of_mem_sorted
    · rw [he.mem_sorted_iff_of_always hw]
      exact ⟨Iff.rfl, Linter.judgesType hl hv type⟩
    · have ha := he.not_mem_sorted_iff_of_never hw type
      rw [← Bool.not_eq_true, ← ha, not_not, propext ha]
      exact ⟨Iff.rfl, Linter.judgesType hl hv type⟩

def banning : Surroundings where
  workspace :=
    { tree := ⟨[(["cmtlint.toml"],
        .file "[rules]\ntype-enum = [1, \"never\", \"wip\"]\n".toUTF8)]⟩ }

lemma read_banning : banning.workspace.read "/cmtlint.toml" = .ok Linter.bannedSet :=
  eq_ok_of_toOption_eq_some (by decide +kernel)

lemma loadRuleSet_banning :
    loadRuleSet banning { command := .types } = .ok Linter.bannedSet := by
  have hf : banning.workspace.findConfig? = some ["cmtlint.toml"] := by decide +kernel
  have hr : banning.workspace.resolve (Path.parent? "/cmtlint.toml") Linter.bannedSet =
      .ok Linter.bannedSet :=
    Workspace.resolve_of_bases_eq_nil rfl .nil
  change banning.workspace.loadDefault = _
  rw [Workspace.loadDefault, hf]
  exact Workspace.load_eq_ok_iff.2 ⟨Linter.bannedSet, read_banning, hr, rfl⟩

theorem runTypes_lists_banning :
    loadRuleSet banning { command := .types } = .ok Linter.bannedSet ∧
    ∃ result linter, runTypes banning { command := .types } = .ok result ∧
      result.failure = none ∧ makeLinter banning { command := .types } = .ok linter ∧
      ((linter.ruleSet.typeSetting? = none ∧ result.output = anyType ∧
          ∀ text report, linter.lint text = .ok report →
            report.hasIssue RuleSet.typeEnum = false) ∨
        ∃ setting types, linter.ruleSet.typeSetting? = some setting ∧ result.output ≠ anyType ∧
          result.output = String.join (typeLines banning types) ∧ types.Pairwise (· < ·) ∧
          (setting.when = .always → ∀ type,
            (type ∈ types ↔ linter.ruleSet.allowsType type = true) ∧
              linter.JudgesType type (type ∈ types)) ∧
          (setting.when = .never → ∀ type,
            (type ∈ types ↔ linter.ruleSet.allowsType type = false) ∧
              linter.JudgesType type (type ∉ types))) :=
  ⟨loadRuleSet_banning, runTypes_lists banning { command := .types } _ loadRuleSet_banning⟩

theorem runTypes_lists_refused :
    ∃ result linter report, runTypes banning { command := .types } = .ok result ∧
      result.output = "wip  \n" ∧ makeLinter banning { command := .types } = .ok linter ∧
      linter.ignore.holds "wip(api): half done" = false ∧
      Message.parse? "wip(api): half done" = some Linter.unfinished ∧
      Linter.unfinished.type = some "wip" ∧
      linter.lint "wip(api): half done" = .ok report ∧
      report.hasIssue RuleSet.typeEnum = true := by
  have hr : resolvedRuleSet banning { command := .types } = .ok Linter.bannedSet :=
    bind_eq_ok_iff.2 ⟨_, loadRuleSet_banning, Workspace.resolve_of_bases_eq_nil rfl .nil⟩
  have hm : makeLinter banning { command := .types } = .ok Linter.bannedLinter :=
    bind_eq_ok_iff.2 ⟨_, loadRuleSet_banning, Linter.ofRuleSet_bannedSet _⟩
  have hi : Linter.bannedLinter.ignore.holds "wip(api): half done" = false := by decide +kernel
  have hp : Message.parse? "wip(api): half done" = some Linter.unfinished := by decide +kernel
  exact ⟨_, Linter.bannedLinter, _, runTypes_of_resolvedRuleSet hr, by decide +kernel, hm, hi, hp,
    by decide +kernel, Linter.lint_of_parse? hi hp, by decide +kernel⟩

end CommandLine

end CommitStyle
