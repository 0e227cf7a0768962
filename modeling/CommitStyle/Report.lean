import CommitStyle.Document.JsonPrinter
import CommitStyle.Error
import CommitStyle.Rule.Setting
import CommitStyle.Text

/-!
# Reports

What a check found in a message: its errors and warnings, and the two forms in which they are shown.
-/

namespace CommitStyle

open Document (Tree)

structure Issue where
  rule : String
  level : Level
  message : String
  deriving DecidableEq, Repr

structure Report where
  input : String
  /-- The name of the commit that holds the message. -/
  commit : Option String := none
  /-- Whether the message is exempt and was not checked. -/
  ignored : Bool := false
  errors : List Issue := []
  warnings : List Issue := []
  helpUrl : Option String := none
  deriving DecidableEq, Repr

inductive Style where
  | bold
  | dim
  | red
  | green
  | yellow
  | blue
  | cyan
  deriving DecidableEq, Repr

namespace Style

def code : Style → String
  | bold => "1"
  | dim => "2"
  | red => "31"
  | green => "32"
  | yellow => "33"
  | blue => "34"
  | cyan => "36"

def apply (colors : Bool) (styles : List Style) (text : String) : String :=
  if colors then
    String.join (styles.map fun style => "\x1b[" ++ style.code ++ "m") ++ text ++ "\x1b[0m"
  else text

end Style

namespace Issue

def isError (issue : Issue) : Bool := issue.level == .error

def render (issue : Issue) (colors : Bool) : String :=
  let icon :=
    if issue.isError then Style.apply colors [.red, .bold] "✖"
    else Style.apply colors [.yellow, .bold] "⚠"
  icon ++ "   " ++ issue.message ++ " " ++ Style.apply colors [.dim] ("[" ++ issue.rule ++ "]")

def toTree (issue : Issue) : Tree :=
  .table [
    ("level", .integer issue.level.toNat), ("message", .text issue.message),
    ("rule", .text issue.rule)]

end Issue

namespace Report

def push (report : Report) (issue : Issue) : Report :=
  match issue.level with
  | .error => { report with errors := report.errors ++ [issue] }
  | .warning => { report with warnings := report.warnings ++ [issue] }
  | .off => report

def pushAll (report : Report) (issues : List Issue) : Report := issues.foldl push report

def issues (report : Report) : List Issue := report.errors ++ report.warnings

def isValid (report : Report) : Bool := report.errors.isEmpty

def hasIssue (report : Report) (rule : String) : Bool := report.issues.any (·.rule == rule)

def summary (report : Report) : String :=
  Error.summary report.errors.length report.warnings.length

def header (report : Report) : String := String.ofList (Text.firstLine report.input.toList)

/-- The characters of a text up to `size` bytes, if a character ends there. A shorter text is taken
as a whole. -/
def takeBytes? (size : Nat) : List Char → Option (List Char)
  | [] => some []
  | c :: rest =>
    if size = 0 then some []
    else if size < c.utf8Size then none
    else (takeBytes? (size - c.utf8Size) rest).map (c :: ·)

/-- The name of the commit as it is shown, in its first seven bytes. A name whose seventh byte is
inside a character cannot be shown. -/
def shortCommit? (commit : String) : Option String :=
  (takeBytes? 7 commit.toList).map String.ofList

def commitPart? (commit : Option String) (colors : Bool) : Option String :=
  match commit with
  | some commit => (shortCommit? commit).map fun short => Style.apply colors [.cyan] short ++ " "
  | none => some ""

def inputLine? (report : Report) (colors : Bool) : Option String :=
  (commitPart? report.commit colors).map fun commit =>
    Style.apply colors [.bold] "⧗" ++ "   input: " ++ commit ++ report.header

def summaryLine (report : Report) (colors : Bool) : String :=
  let icon :=
    if report.issues.isEmpty then Style.apply colors [.green, .bold] "✔"
    else if report.isValid then Style.apply colors [.yellow, .bold] "⚠"
    else Style.apply colors [.red, .bold] "✖"
  icon ++ "   " ++ report.summary

def resultLines (report : Report) (colors : Bool) : List String :=
  if report.ignored then [Style.apply colors [.dim] "-" ++ "   ignored"]
  else if report.issues.isEmpty then [report.summaryLine colors]
  else
    report.issues.map (·.render colors) ++ ["", report.summaryLine colors] ++
      (if report.isValid then [] else report.helpUrl.toList.map fun url =>
        Style.apply colors [.blue] "ⓘ" ++ "   Get help: " ++ url)

def render? (report : Report) (colors : Bool) : Option String :=
  (report.inputLine? colors).map fun line =>
    "\n".intercalate (line :: report.resultLines colors)

def toTree (report : Report) : Tree :=
  .table [
    ("commit", (report.commit.map Tree.text).getD .null),
    ("errors", .list (report.errors.map Issue.toTree)),
    ("ignored", .bool report.ignored),
    ("input", .text report.input),
    ("valid", .bool report.isValid),
    ("warnings", .list (report.warnings.map Issue.toTree))]

def renderJson (report : Report) : String := Document.Json.write report.toTree

def renderJsonList (reports : List Report) : String :=
  Document.Json.write (.list (reports.map toTree))

/-- What a list of reports makes of a command: it fails if there are errors, or if it is strict and
there are warnings. -/
def verdict (reports : List Report) (strict : Bool) : Except Error Unit :=
  let errors := (reports.flatMap (·.errors)).length
  let warnings := (reports.flatMap (·.warnings)).length
  if 0 < errors || strict && 0 < warnings then .error (.violations errors warnings) else .ok ()

end Report

end CommitStyle
