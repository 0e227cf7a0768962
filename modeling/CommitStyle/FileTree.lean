import CommitStyle.Path

/-!
# File trees

A location is the list of names that leads from the root to a file or directory. A file tree says what
stands at which location; the root is always a directory. There are no links in a file tree, so that
nothing stands at two locations.
-/

namespace CommitStyle

/-- The names on the way from the root. -/
abbrev Location := List String

namespace Location

def path (location : Location) : String := "/" ++ Path.ofPieces location

/-- The location of the directory that holds this one; the root holds itself. -/
def parent (location : Location) : Location := location.dropLast

end Location

inductive Entry where
  | directory
  | file (content : ByteArray)
  deriving Inhabited

instance : DecidableEq Entry
  | .directory, .directory => isTrue rfl
  | .directory, .file _ => isFalse nofun
  | .file _, .directory => isFalse nofun
  | .file content, .file other =>
    match ByteArray.instDecidableEq content other with
    | isTrue h => isTrue (h ▸ rfl)
    | isFalse h => isFalse fun e => h (Entry.file.inj e)

structure FileTree where
  entries : List (Location × Entry) := []
  deriving DecidableEq, Inhabited

namespace FileTree

def find? (tree : FileTree) (location : Location) : Option Entry :=
  if location = [] then some .directory else tree.entries.lookup location

def contains (tree : FileTree) (location : Location) : Bool := (tree.find? location).isSome

def isDirectory (tree : FileTree) (location : Location) : Bool :=
  tree.find? location == some .directory

def bytes? (tree : FileTree) (location : Location) : Option ByteArray :=
  match tree.find? location with
  | some (.file content) => some content
  | _ => none

def isFile (tree : FileTree) (location : Location) : Bool := (tree.bytes? location).isSome

def text? (tree : FileTree) (location : Location) : Option String :=
  tree.bytes? location >>= String.fromUTF8?

/-! ### Changes -/

def erase (tree : FileTree) (location : Location) : FileTree :=
  ⟨tree.entries.filter (·.1 != location)⟩

def put (tree : FileTree) (location : Location) (entry : Entry) : FileTree :=
  ⟨(location, entry) :: (tree.erase location).entries⟩

/-- Writes a file. A directory cannot be overwritten, and a new file needs a directory to be in. -/
def write? (tree : FileTree) (location : Location) (content : ByteArray) : Option FileTree :=
  match tree.find? location with
  | some .directory => none
  | some (.file _) => some (tree.put location (.file content))
  | none =>
    if tree.isDirectory location.parent then some (tree.put location (.file content)) else none

def remove? (tree : FileTree) (location : Location) : Option FileTree :=
  if tree.isFile location then some (tree.erase location) else none

/-- The location that an entry gets when `source` becomes `target`. -/
def relocate (source target location : Location) : Location :=
  if source.isPrefixOf location then target ++ location.drop source.length else location

/-- Gives a file or a directory with its content another location. A file replaces a file there, and
a directory needs the place to be free. -/
def move? (tree : FileTree) (source target : Location) : Option FileTree :=
  match tree.find? source with
  | some (.file content) => (tree.erase source).write? target content
  | some .directory =>
    if !tree.contains target && tree.isDirectory target.parent && !source.isPrefixOf target then
      some ⟨tree.entries.map fun (location, entry) => (relocate source target location, entry)⟩
    else none
  | none => none

def makeDirectories? (tree : FileTree) (location : Location) : Option FileTree :=
  (List.range (location.length + 1)).foldlM
    (fun tree n =>
      let above := location.take n
      match tree.find? above with
      | some .directory => some tree
      | some (.file _) => none
      | none => some (tree.put above .directory))
    tree

/-! ### Following paths -/

def step? (tree : FileTree) (here : Location) (piece : String) : Option Location :=
  if !tree.isDirectory here then none
  else if Path.isIdle piece then some here
  else if piece = ".." then some here.parent
  else if tree.contains (here ++ [piece]) then some (here ++ [piece])
  else none

def locate? (tree : FileTree) (directory : Location) (path : String) : Option Location :=
  if path.isEmpty then none
  else (Path.pieces path).foldlM tree.step? (if Path.isAbsolute path then [] else directory)

end FileTree

end CommitStyle
