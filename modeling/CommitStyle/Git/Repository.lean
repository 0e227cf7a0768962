import CommitStyle.Error
import CommitStyle.FileTree
import CommitStyle.Git.Inflate
import CommitStyle.Git.Object

/-!
# Repositories

A repository is a directory with a head, references and objects. It is found from the current
directory upward, and commits are found in it by name. Every object is in a file of its own: packs of
objects and packed references are not read.
-/

namespace CommitStyle

structure Repository where
  tree : FileTree
  directory : Location

namespace Repository

open Git (Object ObjectId)

def raise {α : Type} (cause : GitError) : Except Error α := .error (.git cause)

/-! ### Discovery -/

def isRepository (tree : FileTree) (directory : Location) : Bool :=
  tree.isFile (directory ++ ["HEAD"]) && tree.isDirectory (directory ++ ["objects"]) &&
    tree.isDirectory (directory ++ ["refs"])

/-- Where the repository of a directory may be: in the directory, or the directory itself, or the
same for those above it. -/
def candidates (start : Location) : List Location :=
  (List.range (start.length + 1)).reverse.flatMap fun n =>
    [start.take n ++ [".git"], start.take n]

def discover (tree : FileTree) (start : Location) : Except Error Repository :=
  match (candidates start).find? (isRepository tree) with
  | some directory => .ok { tree, directory }
  | none => raise .notARepository

/-! ### Objects -/

def objectLocation (repository : Repository) (id : ObjectId) : Location :=
  let digits := id.digits.toList
  repository.directory ++ ["objects", String.ofList (digits.take 2), String.ofList (digits.drop 2)]

def object? (repository : Repository) (id : ObjectId) : Option Object := do
  let bytes ← repository.tree.bytes? (repository.objectLocation id)
  Object.ofBytes? (← Git.inflate? bytes.data.toList)

def idAt? (repository : Repository) (location : Location) : Option ObjectId :=
  match location.drop repository.directory.length with
  | ["objects", first, rest] =>
    if repository.directory.isPrefixOf location then ObjectId.ofChars? (first ++ rest).toList
    else none
  | _ => none

/-- The only object whose hash starts with the given digits, of which four are needed. -/
def abbreviated? (repository : Repository) (digits : List Char) : Option ObjectId :=
  if digits.length < 4 || 40 ≤ digits.length || !Git.isHex digits then none
  else
    let start := digits.map Char.toLower
    let ids := repository.tree.entries.filterMap fun entry => repository.idAt? entry.1
    match ids.filter fun id => start.isPrefixOf id.digits.toList with
    | [id] => some id
    | _ => none

/-! ### References -/

def isNameChar (c : Char) : Bool :=
  0x20 < c.toNat && c.toNat != 0x7F && !"~^:?*[\\".toList.contains c

def isNamePiece (piece : String) : Bool :=
  !piece.isEmpty && !piece.startsWith "." && !piece.endsWith ".lock" &&
    piece.toList.all isNameChar && !Text.hasInfix ['.', '.'] piece.toList &&
    !Text.hasInfix ['@', '\x7B'] piece.toList

def isCapital (piece : String) : Bool := piece.toList.all fun c => c.isUpper || c == '_'

/-- The components of the name of a reference. A name of one component is in capitals, and no longer
name starts with one that is. -/
def namePieces? (name : String) : Option (List String) :=
  let pieces := Path.pieces name
  if pieces.all isNamePiece && !name.endsWith "." &&
      (pieces.length == 1) == (pieces.head?.any isCapital) then some pieces
  else none

/-- The hash that a reference leads to, over a bounded number of other references. -/
def follow? (repository : Repository) : Nat → String → Option ObjectId
  | 0, _ => none
  | depth + 1, name => do
    let pieces ← namePieces? name
    let content ← repository.tree.text? (repository.directory ++ pieces)
    let chars := Text.trimEnd content.toList
    if "ref: ".toList.isPrefixOf chars then
      repository.follow? depth (String.ofList (Text.trim (chars.drop 5)))
    else if (chars[40]?).all Unicode.isBlank then ObjectId.ofChars? (chars.take 40)
    else none

/-- The full names that a short name may stand for, the first one that exists being meant. -/
def fullNames (name : String) : List String :=
  [name, "refs/" ++ name, "refs/tags/" ++ name, "refs/heads/" ++ name, "refs/remotes/" ++ name,
    "refs/remotes/" ++ name ++ "/HEAD"]

def reference? (repository : Repository) (name : String) : Option ObjectId :=
  (fullNames name).findSome? (repository.follow? 6)

def lookup? (repository : Repository) (name : List Char) : Option ObjectId :=
  let full := (ObjectId.ofChars? name).filter fun id => (repository.object? id).isSome
  full.or ((repository.reference? (String.ofList name)).or (repository.abbreviated? name))

/-! ### Commits -/

structure Commit where
  id : ObjectId
  parents : List ObjectId
  message : String

def commitAt? (repository : Repository) (id : ObjectId) : Option Commit :=
  match repository.object? id with
  | some (.commit parents message) => some { id, parents, message }
  | _ => none

/-- The commit of a hash, or the one that a tag with that hash leads to. -/
def peel? (repository : Repository) : Nat → ObjectId → Option Commit
  | 0, _ => none
  | depth + 1, id =>
    match repository.object? id with
    | some (.tag target) => repository.peel? depth target
    | _ => repository.commitAt? id

/-- A number that bounds the length of every chain of objects. -/
def objectBound (repository : Repository) : Nat := repository.tree.entries.length + 1

def commit? (repository : Repository) (id : ObjectId) : Option Commit :=
  repository.peel? repository.objectBound id

inductive Step where
  | ancestor (generations : Nat)
  | parent (number : Nat)

def ancestor? (repository : Repository) : Nat → Commit → Option Commit
  | 0, commit => some commit
  | generations + 1, commit => do
    repository.ancestor? generations (← repository.commit? (← commit.parents.head?))

def stepBack? (repository : Repository) (commit : Commit) : Step → Option Commit
  | .ancestor generations => repository.ancestor? generations commit
  | .parent 0 => some commit
  | .parent (n + 1) => do repository.commit? (← commit.parents[n]?)

def steps? : Nat → List Char → Option (List Step)
  | _, [] => some []
  | fuel + 1, mark :: rest => do
    let digits := rest.takeWhile (·.isDigit)
    let number := if digits.isEmpty then 1 else ofDigits 10 digits
    let step ←
      if mark = '~' then some (Step.ancestor number)
      else if mark = '^' then some (Step.parent number)
      else none
    return step :: (← steps? fuel (rest.dropWhile (·.isDigit)))
  | 0, _ => none

def resolve? (repository : Repository) (expression : String) : Option Commit := do
  let chars := if expression == "@" then "HEAD".toList else expression.toList
  let isMark (c : Char) : Bool := c == '~' || c == '^'
  let name := chars.takeWhile (!isMark ·)
  guard (!name.isEmpty)
  let steps ← steps? chars.length (chars.dropWhile (!isMark ·))
  let start ← repository.commit? (← repository.lookup? name)
  steps.foldlM repository.stepBack? start

def find (repository : Repository) (expression : String) : Except Error Commit :=
  match repository.resolve? expression with
  | some commit => .ok commit
  | none => raise (.invalidReference expression)

end Repository

end CommitStyle
