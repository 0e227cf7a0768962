import CommitStyle.Error
import CommitStyle.FileTree
import CommitStyle.Text

/-!
# Hooks

A hook is a script in the hooks directory of a repository that checks a message before the commit is
recorded. Installing it puts a hook of the user aside, and removing it brings that one back.
-/

namespace CommitStyle

def version : String := "1.0.0"

inductive Hook where
  | commitMsg
  deriving DecidableEq, Repr

namespace Hook

def all : List Hook := [commitMsg]

def fileName : Hook → String
  | commitMsg => "commit-msg"

def backupName (hook : Hook) : String := hook.fileName ++ ".backup"

def ofName? : String → Option Hook
  | "commit-msg" | "commit_msg" => some commitMsg
  | _ => none

def marker : String := "Generated by cmtlint"

def script (_ : Hook) (binary : String) : String :=
  "#!/bin/sh\n# " ++ marker ++ " v" ++ version ++
    "\n# Lints the commit message before git records it.\nexec \"" ++ binary ++
    "\" lint --edit \"$1\"\n"

def isOwnScript (content : String) : Bool := Text.hasInfix marker.toList content.toList

end Hook

def HookError.raise {m : Type → Type} {α : Type} [MonadExceptOf Error m] (cause : HookError) : m α :=
  throw (.hook cause)

/-- An operation on a file tree. One that fails leaves behind what it has changed so far. -/
abbrev FileAction := ExceptT Error (StateM FileTree)

def FileAction.change (f : FileTree → Option FileTree) (error : Error) : FileAction Unit := do
  match f (← get) with
  | some tree => set tree
  | none => throw error

structure HooksDirectory where
  location : Location
  deriving DecidableEq

namespace HooksDirectory

def hookAt (directory : HooksDirectory) (hook : Hook) : Location :=
  directory.location ++ [hook.fileName]

def backupAt (directory : HooksDirectory) (hook : Hook) : Location :=
  directory.location ++ [hook.backupName]

/-- The hooks directory at a location. It is made if there is nothing. -/
def prepare (location : Location) : FileAction HooksDirectory := do
  if !(← get).contains location then
    FileAction.change (·.makeDirectories? location)
      (.hook (.installFailed "all" "Failed to create hooks directory"))
  return ⟨location⟩

def isOwn (directory : HooksDirectory) (hook : Hook) (tree : FileTree) : Except Error Bool :=
  match tree.text? (directory.hookAt hook) with
  | some content => .ok (Hook.isOwnScript content)
  | none => (HookError.installFailed (directory.hookAt hook).path "Failed to read hook").raise

def isForeign (directory : HooksDirectory) (hook : Hook) : FileAction Bool := do
  let tree ← get
  if tree.contains (directory.hookAt hook) then
    return !(← MonadExcept.ofExcept (directory.isOwn hook tree))
  else return false

def installHook (directory : HooksDirectory) (hook : Hook) (binary : String) (force : Bool) :
    FileAction Location := do
  let target := directory.hookAt hook
  let failed (reason : String) : Error := .hook (.installFailed hook.fileName reason)
  if ← directory.isForeign hook then
    if !force then (HookError.alreadyExists hook.fileName).raise
    FileAction.change (·.move? target (directory.backupAt hook))
      (failed "Failed to backup existing hook")
  FileAction.change (·.write? target (hook.script binary).toUTF8) (failed "Failed to write hook")
  return target

def named (name : String) : FileAction Hook :=
  match Hook.ofName? name with
  | some hook => pure hook
  | none => (HookError.unsupported name).raise

def install (directory : HooksDirectory) (name binary : String) (force : Bool) :
    FileAction Location := do
  directory.installHook (← named name) binary force

def installAll (directory : HooksDirectory) (binary : String) (force : Bool) : FileAction Unit :=
  Hook.all.forM fun hook => discard (directory.installHook hook binary force)

def uninstallHook (directory : HooksDirectory) (hook : Hook) : FileAction Unit := do
  let target := directory.hookAt hook
  let failed (reason : String) : Error := .hook (.removeFailed hook.fileName reason)
  if !(← get).contains target then return
  if ← directory.isForeign hook then throw (failed "Hook was not installed by cmtlint")
  FileAction.change (·.remove? target) (failed "Failed to remove hook")
  if (← get).contains (directory.backupAt hook) then
    FileAction.change (·.move? (directory.backupAt hook) target) (failed "Failed to restore backup")

def uninstall (directory : HooksDirectory) (name : String) : FileAction Unit := do
  directory.uninstallHook (← named name)

def uninstallAll (directory : HooksDirectory) : FileAction Unit :=
  Hook.all.forM directory.uninstallHook

def status (directory : HooksDirectory) (tree : FileTree) : List (String × Bool) :=
  Hook.all.map fun hook =>
    (hook.fileName, tree.contains (directory.hookAt hook) &&
      ((directory.isOwn hook tree).toOption.getD false))

end HooksDirectory

end CommitStyle
