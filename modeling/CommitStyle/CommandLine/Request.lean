import CommitStyle.Document.Tree
import CommitStyle.Revision
import CommitStyle.Text

/-!
# Requests

What a command line asks for.
-/

namespace CommitStyle.CommandLine

open Document (Notation)

inductive ReportForm where
  | text
  | json
  deriving DecidableEq, Repr, Inhabited

inductive MessageSource where
  | argument (text : String)
  | file (path : String)
  /-- The message that is being edited in the repository. -/
  | edited
  | standardInput
  deriving DecidableEq, Repr

structure LintRequest where
  source : MessageSource := .standardInput
  strict : Bool := false
  form : ReportForm := .text
  deriving DecidableEq, Repr

structure CheckRequest where
  /-- A commit or a range. -/
  target : String := "HEAD"
  /-- Whether the commits after the target are meant. -/
  sinceTarget : Bool := false
  strict : Bool := false
  form : ReportForm := .text
  deriving DecidableEq, Repr

namespace CheckRequest

def targetIsRange (request : CheckRequest) : Bool :=
  Text.hasInfix ['.', '.'] request.target.toList

def isRange (request : CheckRequest) : Bool := request.sinceTarget || request.targetIsRange

def rangeExpression (request : CheckRequest) : String :=
  if request.targetIsRange then request.target else request.target ++ "..HEAD"

end CheckRequest

structure PrintRequest where
  format : Notation := .toml
  resolved : Bool := false
  deriving DecidableEq, Repr

inductive HookRequest where
  /-- Installs the hook of a name, or every hook. -/
  | install (name : Option String) (force : Bool)
  /-- Removes the hook of a name, or every hook. -/
  | uninstall (name : Option String)
  | status
  deriving DecidableEq, Repr

inductive Command where
  | lint (request : LintRequest)
  | check (request : CheckRequest)
  | printConfig (request : PrintRequest)
  | types
  | init (force : Bool)
  | hooks (request : HookRequest)
  | version
  deriving DecidableEq, Repr

structure Request where
  command : Command
  debug : Bool := false
  config : Option String := none
  /-- The revision to be used, whatever the configuration. -/
  revision : Option Revision := none
  noColor : Bool := false
  deriving DecidableEq, Repr

end CommitStyle.CommandLine
