import CommitStyle.FileTree
import CommitStyle.Path.Ancestors
import CommitStyle.RuleSet.Document

/-!
# Workspaces

Where a program runs: the file tree, the current directory, and the directories of the user.
-/

namespace CommitStyle

open Document (Notation)

structure Workspace where
  tree : FileTree := {}
  /-- The current directory. -/
  directory : Location := []
  home : Option Location := none
  configHome : Option Location := none
  deriving Inhabited

def Document.Notation.ofPath (path : String) : Notation :=
  if Path.extension? path == some "json" then .json else .toml

namespace Workspace

def locate? (workspace : Workspace) (path : String) : Option Location :=
  workspace.tree.locate? workspace.directory path

def readAt (workspace : Workspace) (format : Notation) (location : Location) :
    Except Error RuleSet :=
  match workspace.tree.text? location with
  | some content => RuleSet.parse format content
  | none => (ConfigError.malformed "Failed to read config file").raise

def read (workspace : Workspace) (path : String) : Except Error RuleSet :=
  match workspace.locate? path with
  | some location => workspace.readAt (.ofPath path) location
  | none => (ConfigError.notFound path).raise

/-! ### Discovery -/

def isFile (workspace : Workspace) (path : String) : Bool :=
  (workspace.locate? path).any workspace.tree.isFile

/-- The names of the configuration file of a directory, the one that counts most first. -/
def configNames : List String := [
  "cmtlint.toml", ".cmtlint.toml", ".commitlintrc.toml", ".commitlintrc.json",
  ".config/cmtlint.toml"]

def candidatesIn (directory : String) : List String := configNames.map (Path.join directory)

def userCandidates (workspace : Workspace) : List String :=
  workspace.configHome.toList.map fun directory =>
    Path.join (Path.join directory.path "cmtlint") "config.toml"

/-- Where a configuration may be, the path that counts most first: in the directory to start from and
those above it, in the home directory, in the configuration directory of the user. -/
def candidates (workspace : Workspace) (start : String) : List String :=
  (Path.ancestors start).flatMap candidatesIn ++
    workspace.home.toList.flatMap (candidatesIn ·.path) ++ workspace.userCandidates

def configIn? (workspace : Workspace) (directory : String) : Option String :=
  (candidatesIn directory).find? workspace.isFile

def configAbove? (workspace : Workspace) (directory : String) : Option String :=
  match workspace.configIn? directory with
  | some path => some path
  | none =>
    match h : Path.parent? directory with
    | some above =>
      have := Path.length_parent?_lt h
      workspace.configAbove? above
    | none => none
  termination_by directory.length

def findConfigFrom? (workspace : Workspace) (start : String) : Option String :=
  match workspace.configAbove? start with
  | some path => some path
  | none =>
    match workspace.home.bind (workspace.configIn? ·.path) with
    | some path => some path
    | none => workspace.userCandidates.find? workspace.isFile

def findConfig? (workspace : Workspace) : Option Location :=
  workspace.findConfigFrom? workspace.directory.path >>= workspace.locate?

end Workspace

end CommitStyle
