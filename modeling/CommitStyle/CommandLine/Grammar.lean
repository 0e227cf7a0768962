import CommitStyle.CommandLine.Request

/-!
# The grammar of command lines

The commands with their options. A command may have commands of its own; the options of the program
itself can be given to every command.
-/

namespace CommitStyle.CommandLine

inductive UsageError where
  | unknownArgument
  | invalidValue
  | tooManyValues
  | argumentConflict
  | invalidSubcommand
  | missingSubcommand
  | nothingGiven
  | helpWanted
  | versionWanted
  deriving DecidableEq, Repr

namespace UsageError

def exitStatus : UsageError → Nat
  | helpWanted | versionWanted => 0
  | _ => 2

end UsageError

inductive Flag where
  | debug
  | config
  | revision
  | noColor
  | edit
  | message
  | strict
  | reportForm
  | sinceTarget
  | printFormat
  | resolved
  | force
  | help
  | version
  deriving DecidableEq, Repr

inductive Arity where
  | none
  | one
  | atMostOne
  deriving DecidableEq, Repr

namespace Flag

def longName : Flag → String
  | debug => "debug"
  | config => "config"
  | revision => "revision"
  | noColor => "no-color"
  | edit => "edit"
  | message => "message"
  | strict => "strict"
  | reportForm | printFormat => "format"
  | sinceTarget => "range"
  | resolved => "resolved"
  | force => "force"
  | help => "help"
  | version => "version"

def shortName? : Flag → Option Char
  | debug => some 'd'
  | config => some 'c'
  | revision => some 'r'
  | edit => some 'e'
  | message => some 'm'
  | force => some 'f'
  | help => some 'h'
  | version => some 'V'
  | _ => none

def arity : Flag → Arity
  | config | revision | message | reportForm | printFormat => .one
  | edit => .atMostOne
  | _ => .none

def reportForm? : String → Option ReportForm
  | "text" => some .text
  | "json" => some .json
  | _ => .none

def printFormat? : String → Option Document.Notation
  | "toml" => some .toml
  | "json" => some .json
  | _ => .none

/-- Whether a value is one that the option takes. Paths may not be empty. -/
def admits (flag : Flag) (value : String) : Bool :=
  match flag with
  | config | edit => !value.isEmpty
  | revision => (Revision.ofName? value).isSome
  | reportForm => (reportForm? value).isSome
  | printFormat => (printFormat? value).isSome
  | _ => true

def common : List Flag := [debug, config, revision, noColor, help, version]

end Flag

inductive CommandName where
  | program
  | lint
  | check
  | printConfig
  | types
  | init
  | hooks
  | install
  | uninstall
  | status
  | version
  deriving DecidableEq, Repr

namespace CommandName

def flags (name : CommandName) : List Flag :=
  Flag.common ++
    match name with
    | lint => [.edit, .message, .strict, .reportForm]
    | check => [.sinceTarget, .strict, .reportForm]
    | printConfig => [.printFormat, .resolved]
    | init | install => [.force]
    | _ => []

/-- The commands inside a command. A command that has any needs one. -/
def inner : CommandName → List (String × CommandName)
  | program => [
    ("lint", lint), ("check", check), ("print-config", printConfig), ("types", types),
    ("init", init), ("hooks", hooks), ("version", version)]
  | hooks => [("install", install), ("uninstall", uninstall), ("status", status)]
  | _ => []

def inner? (name : CommandName) (word : String) : Option CommandName := name.inner.lookup word

def takesWord : CommandName → Bool
  | check | install | uninstall => true
  | _ => false

end CommandName

end CommitStyle.CommandLine
