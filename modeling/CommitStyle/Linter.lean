import CommitStyle.Ignore
import CommitStyle.Report
import CommitStyle.Resolution

/-!
# Linters

A linter holds a resolved and valid rule set and checks messages against it.
-/

namespace CommitStyle

structure Linter where
  ruleSet : RuleSet
  rules : List Rule
  ignore : Ignore

namespace Linter

def make (workspace : Workspace) (set : RuleSet) (extra : List Rule) : Except Error Linter := do
  let set ← workspace.resolve none set
  let rules := Rule.builtins ++ extra
  set.validateWith fun name => rules.any (·.name == name)
  return { ruleSet := set, rules, ignore := ← Ignore.ofRuleSet set }

def ofRuleSet (workspace : Workspace) (set : RuleSet) : Except Error Linter :=
  make workspace set []

/-- The rule of a name. Of several the last one counts. -/
def rule? (linter : Linter) (name : String) : Option Rule :=
  linter.rules.reverse.find? (·.name == name)

def issue? (linter : Linter) (message : Message) (name : String) (setting : Setting) :
    Option Issue := do
  if !setting.isEnabled then none
  let outcome := (← linter.rule? name).check message setting.when setting.value
  if outcome.valid then none
  else some { rule := name, level := setting.level, message := outcome.demand }

def issues (linter : Linter) (message : Message) : List Issue :=
  linter.ruleSet.rules.entries.filterMap fun (name, setting) => linter.issue? message name setting

def check (linter : Linter) (message : Message) : Report :=
  Report.pushAll { input := message.raw, helpUrl := linter.ruleSet.helpUrl } (linter.issues message)

def lint (linter : Linter) (text : String) : Except Error Report :=
  if linter.ignore.holds text then .ok { input := text, ignored := true }
  else
    match Message.parse? text with
    | some message => .ok (linter.check message)
    | none => .error (.commit .emptyMessage)

/-- The report on a recorded commit. An empty message is checked as one without a type or a
subject; any other failure remains one. -/
def lintCommit (linter : Linter) (commit : String × String) : Except Error Report := do
  let report ←
    match linter.lint commit.2 with
    | .error (.commit .emptyMessage) => .ok (linter.check (Message.empty commit.2))
    | result => result
  return { report with commit := some commit.1 }

end Linter

end CommitStyle
