import CommitStyle.CommandLine
import CommitStyle.Proofs.FileTree
import CommitStyle.Proofs.Resolution.Idempotence
import CommitStyle.Proofs.RuleSet.Stated

/-!
# Rule sets printed and read back

A rule set comes back from its print in either notation, with the conditions stated that it is written
with. One that was read, or resolved from such a rule set, comes back as it is, and so does what the
command that shows configurations shows.
-/

namespace CommitStyle

open Document (Tree Notation)

namespace RuleSet

/-! ### The last characters of a print -/

lemma exists_toList_print_json (set : RuleSet) :
    ∃ front, (set.print .json).toList = front ++ ['\x7d'] := by
  obtain ⟨first, rest, hentries⟩ : ∃ first rest, set.toEntries = first :: rest := ⟨_, _, rfl⟩
  rw [print, toTree, hentries, Document.Json.write, Document.Json.print, String.toList_append]
  exact ⟨_, congrArg _ (by simp)⟩

lemma exists_toList_printValue_list (items : List Tree) :
    ∃ front, (Document.Toml.printValue (.list items)).toList = front ++ [']'] := by
  match items with
  | [] => exact ⟨['['], by simp [Document.Toml.printValue]⟩
  | [item] =>
    rw [Document.Toml.printValue, String.toList_append]
    exact ⟨_, congrArg _ (by simp)⟩
  | first :: second :: rest =>
    rw [Document.Toml.printValue, String.toList_append]
    exact ⟨_, congrArg _ (by simp)⟩

lemma filter_isTable_toEntries (set : RuleSet) :
    set.toEntries.filter (Document.Toml.isTable ·.2) = [("rules", rulesTree set.rules)] := by
  cases hi : set.ignores.isEmpty <;> cases hu : set.helpUrl <;>
    simp [Document.Toml.isTable, toEntries, hi, hu, rulesTree, Tree.ofTexts]

lemma exists_toList_printAssignments_concat (entries : List (String × Tree)) (name : String)
    (items : List Tree) :
    ∃ front, (Document.Toml.printAssignments (entries ++ [(name, .list items)])).toList =
      front ++ [']', '\n'] := by
  obtain ⟨front, hf⟩ := exists_toList_printValue_list items
  rw [Document.Toml.toList_printAssignments, List.map_append, List.flatMap_append]
  refine ⟨(entries.map Document.Toml.Line.ofAssignment).flatMap (·.text) ++
    ((Document.Toml.printKey name).toList ++ [' ', '=', ' '] ++ front), ?_⟩
  simp [Document.Toml.Line.ofAssignment, hf]

lemma exists_toList_print_toml (set : RuleSet) :
    ∃ front, (set.print .toml).toList = front ++ [']', '\n'] := by
  obtain ⟨front, hf⟩ : ∃ front, ("\n[" ++ Document.Toml.printKey "rules" ++ "]\n" ++
      Document.Toml.printAssignments ((rulesTree set.rules).toTable?.getD [])).toList =
        front ++ [']', '\n'] := by
    change ∃ front, (_ ++ Document.Toml.printAssignments
      (set.rules.entries.map fun entry => (entry.1, entry.2.toTree))).toList = _
    rcases List.eq_nil_or_concat set.rules.entries with hnil | ⟨entries, ⟨name, setting⟩, hconcat⟩
    · exact ⟨('\n' :: '[' :: (Document.Toml.printKey "rules").toList), by
        simp [hnil, Document.Toml.printAssignments]⟩
    · obtain ⟨front, hf⟩ := exists_toList_printAssignments_concat
        (entries.map fun entry => (entry.1, entry.2.toTree)) name setting.toTrees
      rw [hconcat, List.concat_eq_append, List.map_append, String.toList_append]
      refine ⟨("\n[" ++ Document.Toml.printKey "rules" ++ "]\n").toList ++ front, ?_⟩
      rw [List.append_assoc, ← hf]
      rfl
  rw [print, Document.Toml.write, filter_isTable_toEntries]
  refine ⟨(Document.Toml.printAssignments
    (set.toEntries.filter (!Document.Toml.isTable ·.2))).toList ++ front, ?_⟩
  rw [String.toList_append, List.append_assoc, ← hf]
  simp

/-- The print as a command shows it, which ends in one line feed. -/
def shown (format : Notation) (set : RuleSet) : String :=
  String.ofList (Text.trimEnd (set.print format).toList) ++ "\n"

lemma shown_json (set : RuleSet) : set.shown .json = set.print .json ++ "\n" := by
  obtain ⟨front, hf⟩ := set.exists_toList_print_json
  have htrim : Text.trimEnd (set.print .json).toList = (set.print .json).toList := by
    rw [hf, Text.trimEnd_eq_self_iff]
    intro c hc
    obtain rfl : '\x7d' = c := by simpa using hc
    decide
  rw [shown, htrim, String.ofList_toList]

lemma shown_toml (set : RuleSet) : set.shown .toml = set.print .toml := by
  obtain ⟨front, hf⟩ := set.exists_toList_print_toml
  have htrim : Text.trimEnd (front ++ [']']) = front ++ [']'] := by
    rw [Text.trimEnd_eq_self_iff]
    intro c hc
    obtain rfl : ']' = c := by simpa using hc
    decide
  have hblank : Text.trimEnd (front ++ [']'] ++ ['\n']) = front ++ [']'] :=
    (Text.trimEnd_append (by decide) _).trans htrim
  have hprint : (set.print .toml).toList = front ++ [']'] ++ ['\n'] := by simpa using hf
  refine String.toList_inj.1 ?_
  rw [shown, hprint, hblank, String.toList_append, String.toList_ofList]
  simp

/-! ### Reading back -/

lemma parse_eq_ok {format : Notation} {set : RuleSet} (h : set.IsInRange) {content : String}
    (ht : readTree? format content = some set.toTree) : parse format content = .ok set.explicit := by
  rw [parse, ht, Option.bind_eq_bind, Option.bind_some, ofTree?_toTree format h]

lemma readTree?_print_toml {set : RuleSet} (h : set.IsInRange) :
    readTree? .toml (set.print .toml) = some set.toTree := by
  change Document.Toml.read? (Document.Toml.write set.toEntries) = _
  rw [Document.Toml.read?_write (isDocument_toEntries h), written_toEntries]
  rfl

lemma readTree?_print_json (set : RuleSet) (blanks : List Char)
    (hb : ∀ c ∈ blanks, Document.Json.isSpace c = true) :
    readTree? .json (set.print .json ++ String.ofList blanks) = some set.toTree :=
  Document.Json.read?_write_append set.isJson_toTree hb

lemma parse_print (format : Notation) {set : RuleSet} (h : set.IsInRange) :
    parse format (set.print format) = .ok set.explicit := by
  cases format with
  | toml => exact parse_eq_ok h (readTree?_print_toml h)
  | json => exact parse_eq_ok h (by simpa using readTree?_print_json set [])

lemma parse_shown (format : Notation) {set : RuleSet} (h : set.IsInRange) :
    parse format (set.shown format) = .ok set.explicit := by
  cases format with
  | toml => exact parse_eq_ok h (by rw [shown_toml]; exact readTree?_print_toml h)
  | json =>
    refine parse_eq_ok h ?_
    rw [shown_json]
    exact readTree?_print_json set ['\n'] (List.all_eq_true.1 rfl)

end RuleSet

/-! ### Configurations that commands read and show -/

namespace Workspace

variable {w : Workspace} {set : RuleSet}

lemma isStated_of_load {path : String} (h : w.load path = .ok set) : set.IsStated := by
  obtain ⟨_, hs, hr, -⟩ := load_eq_ok_iff.1 h
  exact isStated_of_resolve (isStated_of_read hs) hr

lemma isStated_of_loadDefault (h : w.loadDefault = .ok set) : set.IsStated := by
  rcases load_or_resolve_of_loadDefault h with ⟨path, hl⟩ | ⟨hr, -⟩
  · exact isStated_of_load hl
  · exact isStated_of_resolve Revision.latest.isStated_ruleSet hr

end Workspace

namespace CommandLine

variable {surroundings : Surroundings} {request : Request} {set : RuleSet}

lemma isStated_of_loadRuleSet (h : loadRuleSet surroundings request = .ok set) : set.IsStated := by
  unfold loadRuleSet at h
  split at h
  next revision _ =>
    cases h
    exact revision.isStated_ruleSet
  next => exact Workspace.isStated_of_load h
  next => exact Workspace.isStated_of_loadDefault h

lemma isStated_of_readRuleSet (h : readRuleSet surroundings request = .ok set) : set.IsStated := by
  unfold readRuleSet at h
  split at h
  next revision _ =>
    cases h
    exact revision.isStated_ruleSet
  next => exact Workspace.isStated_of_read h
  next =>
    cases h
    exact Revision.latest.isStated_ruleSet

lemma isStated_of_resolvedRuleSet (h : resolvedRuleSet surroundings request = .ok set) :
    set.IsStated := by
  obtain ⟨loaded, hl, hr⟩ := bind_eq_ok_iff.1 h
  exact Workspace.isStated_of_resolve (isStated_of_loadRuleSet hl) hr

def printedRuleSet (surroundings : Surroundings) (request : Request) (print : PrintRequest) :
    Except Error RuleSet :=
  if print.resolved then resolvedRuleSet surroundings request else readRuleSet surroundings request

lemma exists_of_runPrintConfig {print : PrintRequest} {result : Result}
    (h : runPrintConfig surroundings request print = .ok result) :
    ∃ set, printedRuleSet surroundings request print = .ok set ∧ set.IsStated ∧
      result.output = set.shown print.format := by
  unfold runPrintConfig at h
  unfold printedRuleSet
  split at h
  next hres =>
    obtain ⟨set, hs, h⟩ := bind_eq_ok_iff.1 h
    obtain ⟨_, -, h⟩ := bind_eq_ok_iff.1 h
    cases h
    exact ⟨set, by rw [if_pos hres, hs], isStated_of_resolvedRuleSet hs, rfl⟩
  next hres =>
    obtain ⟨set, hs, h⟩ := bind_eq_ok_iff.1 h
    cases h
    exact ⟨set, by rw [if_neg hres, hs], isStated_of_readRuleSet hs, rfl⟩

end CommandLine

namespace RuleSet

/-- The same rule set but for conditions: each rule keeps its level, the condition that holds and its
value, and one that has a value and no condition is given the condition `always`. -/
structure IsRestatedAs (set other : RuleSet) : Prop where
  bases : other.bases = set.bases
  defaultIgnores : other.defaultIgnores = set.defaultIgnores
  ignores : other.ignores = set.ignores
  helpUrl : other.helpUrl = set.helpUrl
  rule? : ∀ name, other.rule? name = (set.rule? name).map fun setting =>
    if setting.condition = none ∧ setting.value ≠ none then
      { setting with condition := some .always } else setting
  verdicts : ∀ name, (other.rule? name).map (fun setting => (setting.level, setting.when, setting.value)) =
    (set.rule? name).map fun setting => (setting.level, setting.when, setting.value)

lemma isRestatedAs_explicit (set : RuleSet) : set.IsRestatedAs set.explicit where
  bases := rfl
  defaultIgnores := rfl
  ignores := rfl
  helpUrl := rfl
  rule? name := by
    rw [rule?_explicit]
    congr 1
    funext ⟨level, condition, value⟩
    cases condition <;> cases value <;> simp [Setting.explicit]
  verdicts name := by
    rw [rule?_explicit, Option.map_map]
    congr 1
    funext setting
    exact congrArg (fun condition => (setting.level, condition, setting.value)) setting.when_explicit

/-- Printing and reading are inverse in either notation, but for conditions that are not stated. What
was read, what is resolved from it and what the command that shows configurations shows come back as
they are, from wherever the text is saved under a name of its notation. -/
theorem parse_print_inverse :
    (∀ format (set : RuleSet), set.IsInRange →
      ∃ other, parse format (set.print format) = .ok other ∧ set.IsRestatedAs other) ∧
    (∀ format content set, parse format content = .ok set →
      ∀ other, parse other (set.print other) = .ok set) ∧
    (∀ format content set (w : Workspace) base resolved, parse format content = .ok set →
      w.resolve base set = .ok resolved →
      ∀ other, parse other (resolved.print other) = .ok resolved) ∧
    ∀ surroundings request print result,
      CommandLine.runPrintConfig surroundings request print = .ok result →
      ∃ set, CommandLine.printedRuleSet surroundings request print = .ok set ∧
        parse print.format result.output = .ok set ∧
        ∀ (w : Workspace) location tree path,
          w.tree.write? location result.output.toUTF8 = some tree →
          tree.locate? w.directory path = some location → Notation.ofPath path = print.format →
          { w with tree }.read path = .ok set := by
  have hparse : ∀ format (set : RuleSet), set.IsStated → parse format (set.print format) = .ok set :=
    fun format set h => by rw [parse_print format h.isInRange, h.explicit_eq]
  refine ⟨fun format set h => ⟨set.explicit, parse_print format h, set.isRestatedAs_explicit⟩,
    fun format content set h other => hparse other set (isStated_of_parse h),
    fun format content set w base resolved h hr other =>
      hparse other resolved (Workspace.isStated_of_resolve (isStated_of_parse h) hr), ?_⟩
  intro surroundings request print result h
  obtain ⟨set, hs, hstated, hout⟩ := CommandLine.exists_of_runPrintConfig h
  have hshown : parse print.format result.output = .ok set := by
    rw [hout, parse_shown print.format hstated.isInRange, hstated.explicit_eq]
  refine ⟨set, hs, hshown, fun w location tree path hw hl hn => ?_⟩
  have htext := FileTree.text?_of_write? hw
  rw [Workspace.read, Workspace.locate?, hl]
  change Workspace.readAt { w with tree } (Notation.ofPath path) location = _
  rw [Workspace.readAt, htext, hn, ← hshown]

def unstated : RuleSet :=
  { rules := .ofList [("header-max-length",
      { level := .error, condition := none, value := some (.number 72) })] }

lemma isInRange_unstated : unstated.IsInRange := by
  intro name setting hs
  have hm := RuleTable.exists_mem_of_find?_ofList hs
  cases List.mem_singleton.1 hm
  rintro n ⟨⟩
  decide

theorem parse_print_inverse_unstated :
    unstated.IsInRange ∧
    (∃ other, parse .toml (unstated.print .toml) = .ok other ∧ unstated.IsRestatedAs other) ∧
    parse .json (unstated.print .json) = .ok unstated.explicit ∧
    parse .toml (unstated.explicit.print .toml) = .ok unstated.explicit ∧
    Workspace.resolve {} none unstated.explicit = .ok unstated.explicit ∧
    parse .json (unstated.explicit.print .json) = .ok unstated.explicit ∧
    ∃ result tree,
      CommandLine.runPrintConfig { workspace := {} }
        { command := .printConfig { format := .json }, revision := some .initial }
        { format := .json } = .ok result ∧
      FileTree.write? {} ["rules.json"] result.output.toUTF8 = some tree ∧
      Workspace.read { tree } "/rules.json" = .ok Revision.initial.ruleSet := by
  obtain ⟨hprint, hparsed, hresolved, hshown⟩ := parse_print_inverse
  have hrange := isInRange_unstated
  have hjson : parse .json (unstated.print .json) = .ok unstated.explicit :=
    parse_print .json hrange
  have hresolve : Workspace.resolve {} none unstated.explicit = .ok unstated.explicit :=
    Workspace.resolve_of_bases_eq_nil rfl .nil
  refine ⟨hrange, hprint .toml unstated hrange, hjson, hparsed _ _ _ hjson .toml, hresolve,
    hresolved _ _ _ _ _ _ hjson hresolve .json, _, _, rfl, rfl, ?_⟩
  obtain ⟨set, hset, -, hread⟩ := hshown { workspace := {} }
    { command := .printConfig { format := .json }, revision := some .initial } { format := .json } _ rfl
  cases hset
  exact hread {} ["rules.json"] _ "/rules.json" rfl (by decide) (by decide)

end RuleSet

end CommitStyle
