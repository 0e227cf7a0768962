import CommitStyle.CommandLine
import CommitStyle.CommandLine.Usage

/-!
# The program

The files that a run can need are read into a file tree, the request is run on it, and the files that
have changed are written back.
-/

namespace CommitStyle

def FileTree.fetch (tree : FileTree) (location : Location) : IO FileTree := do
  try
    let path ← IO.FS.realPath location.path
    if ← path.isDir then return tree.put location .directory
    else return tree.put location (.file (← IO.FS.readBinFile path))
  catch _ => return tree

def FileTree.fetchPath (tree : FileTree) (directory : Location) (path : String) : IO FileTree := do
  let start := if Path.isAbsolute path then [] else directory
  let (tree, _) ← (Path.pieces path).foldlM
    (fun ((tree, here) : FileTree × Location) piece => do
      if Path.isIdle piece then return (tree, here)
      else if piece == ".." then return (tree, here.parent)
      else return (← tree.fetch (here ++ [piece]), here ++ [piece]))
    (tree, start)
  return tree

partial def FileTree.fetchAll (tree : FileTree) (location : Location) : IO FileTree := do
  let tree ← tree.fetch location
  if !tree.isDirectory location then return tree
  let names := (← (← IO.FS.realPath location.path).readDir).toList.map (·.fileName)
  names.foldlM (fun tree name => tree.fetchAll (location ++ [name])) tree

namespace Workspace

def ofDisk : IO Workspace := do
  let locationOf (path : String) : Location := (Path.pieces path).filter (!Path.isIdle ·)
  let directory := locationOf (toString (← IO.currentDir))
  let home := (← IO.getEnv "HOME").map locationOf
  let configHome := ((← IO.getEnv "XDG_CONFIG_HOME").filter Path.isAbsolute).map locationOf
  let workspace : Workspace := {
    directory, home, configHome := configHome.or (home.map (· ++ [".config"])) }
  let configs := workspace.candidates directory.path
  let repositories := Repository.candidates directory
  let tree ← (directory.path :: configs).foldlM (·.fetchPath directory ·) {}
  let tree ← repositories.foldlM
    (fun tree location =>
      ["HEAD", "refs", "objects"].foldlM (fun tree name => tree.fetchPath directory
        (location ++ [name]).path) tree) tree
  match repositories.find? (Repository.isRepository tree) with
  | some repository => return { workspace with tree := ← tree.fetchAll repository }
  | none => return { workspace with tree }

/-- Writes to the disk what has changed since. Hooks are made executable. -/
def store (before after : FileTree) : IO Unit := do
  for (location, entry) in before.entries do
    if entry != .directory && !after.contains location then IO.FS.removeFile location.path
  for (location, entry) in after.entries.mergeSort (fun a b => a.1.length ≤ b.1.length) do
    if before.find? location != some entry then
      match entry with
      | .directory => IO.FS.createDirAll location.path
      | .file content =>
        IO.FS.writeBinFile location.path content
        if Hook.all.any (some ·.fileName == location.getLast?) then
          let all : IO.AccessRight := { read := true, write := true, execution := true }
          let others : IO.AccessRight := { read := true, execution := true }
          IO.setAccessRights location.path { user := all, group := others, other := others }

end Workspace

namespace CommandLine

def missing? : Error → Option String
  | .config (.notFound path) | .commit (.unreadable path _) => some path
  | _ => none

/-- Runs a request, and gives the tree that it was run on with the result. A file that is missing is
looked for on the disk, and the request is run again with it. -/
partial def runOnDisk (surroundings : Surroundings) (request : Request) : IO (FileTree × Result) := do
  let result := run surroundings request
  let workspace := surroundings.workspace
  match result.failure >>= missing? with
  | none => return (workspace.tree, result)
  | some path =>
    let tree ← workspace.tree.fetchPath workspace.directory path
    if tree.entries.length == workspace.tree.entries.length then return (tree, result)
    else runOnDisk { surroundings with workspace := { workspace with tree } } request

partial def readAll (input : IO.FS.Stream) (read : ByteArray) : IO ByteArray := do
  let chunk ← input.read 65536
  if chunk.isEmpty then return read else readAll input (read ++ chunk)

def inputOf (request : Request) : IO (Option String) := do
  match request.command with
  | .lint { source := .standardInput, .. } =>
    return String.fromUTF8? (← readAll (← IO.getStdin) .empty)
  | _ => return some ""

def perform (request : Request) : IO UInt32 := do
  let output ← IO.getStdout
  let (tree, result) ← runOnDisk {
    workspace := ← Workspace.ofDisk
    input := ← inputOf request
    program := toString (← IO.appPath)
    colors := !request.noColor && (← output.isTty) } request
  Workspace.store tree result.tree
  output.putStr result.output
  output.flush
  if result.aborted then return 101
  match result.failure with
  | none => return 0
  | some error =>
    IO.eprintln ("Error: " ++ error.message)
    return 1

end CommandLine

end CommitStyle

open CommitStyle in
def main (arguments : List String) : IO UInt32 := do
  match CommandLine.parse (← IO.getEnv "CMTLINT_CONFIG") arguments with
  | .ok request =>
    try CommandLine.perform request
    catch error =>
      IO.eprintln ("Error: " ++ (Error.io (toString error)).message)
      return 1
  | .error usage =>
    let output ← if usage.exitStatus == 0 then IO.getStdout else IO.getStderr
    output.putStr usage.message
    return usage.exitStatus.toUInt32
