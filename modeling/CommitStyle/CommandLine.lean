import CommitStyle.CommandLine.Arguments
import CommitStyle.Git.History
import CommitStyle.Hook
import CommitStyle.Linter

/-!
# Commands

Every command is a function from its surroundings to what it shows, what it does to the files, and
whether it succeeds.
-/

namespace CommitStyle.CommandLine

structure Build where
  commit : Option String := none
  date : Option String := none

structure Surroundings where
  workspace : Workspace
  /-- The text of the standard input, if it is UTF-8. -/
  input : Option String := some ""
  /-- The path of the running program. -/
  program : String := "cmtlint"
  colors : Bool := false
  build : Build := {}

structure Result where
  output : String := ""
  tree : FileTree
  failure : Option Error := none
  /-- Whether the program breaks off because there is no way to show something. -/
  aborted : Bool := false

namespace Result

def shown (surroundings : Surroundings) (output : String) (verdict : Except Error Unit) : Result :=
  { output
    tree := surroundings.workspace.tree
    failure := match verdict with
      | .ok _ => none
      | .error error => some error }

def shownOrAborted (surroundings : Surroundings) (output : Option String)
    (verdict : Except Error Unit) : Result :=
  match output with
  | some output => shown surroundings output verdict
  | none => { tree := surroundings.workspace.tree, aborted := true }

def orFailure (surroundings : Surroundings) (result : Except Error Result) : Result :=
  match result with
  | .ok result => result
  | .error error => { tree := surroundings.workspace.tree, failure := some error }

end Result

variable (surroundings : Surroundings)

/-! ### Configurations -/

/-- The rule set that a request asks for, resolved unless it is a revision. -/
def loadRuleSet (request : Request) : Except Error RuleSet :=
  match request.revision, request.config with
  | some revision, _ => .ok revision.ruleSet
  | none, some path => surroundings.workspace.load path
  | none, none => surroundings.workspace.loadDefault

/-- The rule set that a request asks for, as it is written. -/
def readRuleSet (request : Request) : Except Error RuleSet :=
  match request.revision, request.config.or (surroundings.workspace.findConfig?.map (·.path)) with
  | some revision, _ => .ok revision.ruleSet
  | none, some path => surroundings.workspace.read path
  | none, none => .ok Revision.latest.ruleSet

def makeLinter (request : Request) : Except Error Linter := do
  Linter.ofRuleSet surroundings.workspace (← loadRuleSet surroundings request)

def resolvedRuleSet (request : Request) : Except Error RuleSet := do
  surroundings.workspace.resolve none (← loadRuleSet surroundings request)

/-! ### Messages and reports -/

def repository : Except Error Repository :=
  Repository.discover surroundings.workspace.tree surroundings.workspace.directory

def readMessageFile (path : String) : Except Error String :=
  match surroundings.workspace.locate? path >>= surroundings.workspace.tree.text? with
  | some text => .ok text
  | none => .error (.commit (.unreadable path "no readable text"))

def readMessage : MessageSource → Except Error String
  | .argument text => .ok text
  | .file path => readMessageFile surroundings path
  | .edited => do
    let repository ← repository surroundings
    readMessageFile surroundings (repository.directory ++ ["COMMIT_EDITMSG"]).path
  | .standardInput =>
    match surroundings.input with
    | some text => .ok text
    | none => .error (.commit (.unreadable "stdin" "no readable text"))

/-- A report as it is shown, on lines of its own, unless the name of its commit cannot be shown. -/
def showReport? (form : ReportForm) (report : Report) : Option String :=
  match form with
  | .json => some (report.renderJson ++ "\n")
  | .text => (report.render? surroundings.colors).map (· ++ "\n")

def showReports? (form : ReportForm) (reports : List Report) : Option String :=
  match form with
  | .json => some (Report.renderJsonList reports ++ "\n")
  | .text => (reports.mapM (showReport? surroundings .text)).map String.join

def lintWith (linter : Linter) (lint : LintRequest) : Except Error Result := do
  let report ← linter.lint (← readMessage surroundings lint.source)
  return .shownOrAborted surroundings (showReport? surroundings lint.form report)
    (Report.verdict [report] lint.strict)

def runLint (request : Request) (lint : LintRequest) : Except Error Result := do
  lintWith surroundings (← makeLinter surroundings request) lint

def checkRange (linter : Linter) (commits : List Repository.Commit) : Except Error (List Report) :=
  commits.mapM fun commit => linter.lintCommit (commit.id.digits, commit.message)

def checkWith (linter : Linter) (check : CheckRequest) : Except Error Result := do
  let repository ← repository surroundings
  if check.isRange then
    let reports ← checkRange linter (← repository.range check.rangeExpression)
    return .shownOrAborted surroundings (showReports? surroundings check.form reports)
      (Report.verdict reports check.strict)
  else
    let commit ← repository.find check.target
    let report ← linter.lintCommit (commit.id.digits, commit.message)
    return .shownOrAborted surroundings (showReport? surroundings check.form report)
      (Report.verdict [report] check.strict)

def runCheck (request : Request) (check : CheckRequest) : Except Error Result := do
  checkWith surroundings (← makeLinter surroundings request) check

/-! ### Showing configurations -/

def runPrintConfig (request : Request) (print : PrintRequest) : Except Error Result := do
  let set ←
    if print.resolved then do
      let set ← resolvedRuleSet surroundings request
      set.validate
      pure set
    else readRuleSet surroundings request
  -- printing a rule set does not fail, or else it would fail in this context
  let text ← (Except.ok (set.print print.format)).mapError (Error.within · "print-config")
  return .shown surroundings (String.ofList (Text.trimEnd text.toList) ++ "\n") (.ok ())

def padded (width : Nat) (text : String) : String :=
  text ++ String.ofList (List.replicate (width - text.length) ' ')

/-- The lines that list commit types and what they are for. The widest type is found by bytes. -/
def typeLines (types : List String) : List String :=
  let width := (types.map (·.utf8ByteSize)).foldl max 0
  types.map fun type =>
    Style.apply surroundings.colors [.cyan] (padded width type) ++ "  " ++
      Style.apply surroundings.colors [.dim] ((Preset.describeType? type).getD "") ++ "\n"

def anyType : String := "Any commit type is accepted (type-enum is disabled)\n"

def typesText (set : RuleSet) : String :=
  match set.types? with
  | some types => String.join (typeLines surroundings types)
  | none => anyType

def runTypes (request : Request) : Except Error Result := do
  let set ← resolvedRuleSet surroundings request
  return .shown surroundings (typesText surroundings set) (.ok ())

/-! ### Changing files -/

def configFile : String := "cmtlint.toml"

def runInit (request : Request) (force : Bool) : Except Error Result := do
  let workspace := surroundings.workspace
  let revision := request.revision.getD Revision.latest
  let location := workspace.directory ++ [configFile]
  if workspace.tree.contains location && !force then (ConfigError.alreadyExists configFile).raise
  match workspace.tree.write? location revision.exampleFile.toUTF8 with
  | some tree =>
    return {
      output := Style.apply surroundings.colors [.green] "✓" ++ " Created " ++ configFile ++
        " (revision: " ++ revision.name ++ ")\n"
      tree }
  | none => throw (.io "the file cannot be written")

def hookDone (done : String) (name : Option String) : String :=
  let which := (name.map (· ++ " hook")).getD "all hooks"
  Style.apply surroundings.colors [.green] "✓" ++ " " ++ done ++ " " ++ which ++ "\n"

def statusLine (status : String × Bool) : String :=
  let icon :=
    if status.2 then Style.apply surroundings.colors [.green] "✓"
    else Style.apply surroundings.colors [.red] "✗"
  icon ++ " " ++ status.1 ++ "\n"

def hookAction (directory : HooksDirectory) : HookRequest → FileAction String
  | .install name force => do
    match name with
    | some name => discard (directory.install name surroundings.program force)
    | none => directory.installAll surroundings.program force
    return hookDone surroundings "Installed" name
  | .uninstall name => do
    match name with
    | some name => directory.uninstall name
    | none => directory.uninstallAll
    return hookDone surroundings "Uninstalled" name
  | .status => do
    return String.join ((directory.status (← get)).map (statusLine surroundings))

def runHooks (hooks : HookRequest) : Except Error Result := do
  let repository ← repository surroundings
  let action : FileAction String := do
    let directory ← HooksDirectory.prepare (repository.directory ++ ["hooks"])
    hookAction surroundings directory hooks
  match action.run.run surroundings.workspace.tree with
  | (.ok output, tree) => return { output, tree }
  | (.error error, tree) => return { tree, failure := some error }

/-! ### The version -/

/-- The version with what the program was built from, unless the name of that commit cannot be shown. -/
def versionText? (build : Build) : Option String :=
  match build.commit with
  | some commit =>
    (Report.shortCommit? commit).map fun short =>
      version ++ " (" ++ short ++ (build.date.map (" " ++ ·)).getD "" ++ ")"
  | none => some version

def versionOutput? (build : Build) : Option String :=
  (versionText? build).map fun text =>
    "cmtlint " ++ text ++ "\n" ++
      (build.commit.map fun commit => "git commit: " ++ commit ++ "\n").getD "" ++
      (build.date.map fun date => "commit date: " ++ date ++ "\n").getD ""

def run (request : Request) : Result :=
  .orFailure surroundings
    (match request.command with
      | .lint lint => runLint surroundings request lint
      | .check check => runCheck surroundings request check
      | .printConfig print => runPrintConfig surroundings request print
      | .types => runTypes surroundings request
      | .init force => runInit surroundings request force
      | .hooks hooks => runHooks surroundings hooks
      | .version =>
        .ok (.shownOrAborted surroundings (versionOutput? surroundings.build) (.ok ())))

end CommitStyle.CommandLine
