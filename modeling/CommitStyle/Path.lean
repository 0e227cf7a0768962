import CommitStyle.Text

/-!
# Paths

A path is a text of components between slashes. It is absolute if it starts with a slash. Empty
components, and components of a single dot except at the start of a relative path, say nothing.
-/

namespace CommitStyle.Path

def pieces (path : String) : List String :=
  (Text.splitBy (· == '/') path.toList).map String.ofList

def ofPieces (pieces : List String) : String := "/".intercalate pieces

def isAbsolute (path : String) : Bool := path.toList.head? == some '/'

def isIdle (piece : String) : Bool := piece == "" || piece == "."

/-- Components without those at the end that say nothing. -/
def dropIdle (pieces : List String) : List String := (pieces.reverse.dropWhile isIdle).reverse

/-- A path taken from a directory; an absolute one stays as it is. -/
def join (directory path : String) : String :=
  if isAbsolute path then path
  else if directory.isEmpty || directory.toList.getLast? == some '/' then directory ++ path
  else directory ++ "/" ++ path

def parent? (path : String) : Option String :=
  match pieces path with
  | [] => none
  | first :: rest =>
    match dropIdle rest with
    | [] => if isAbsolute path || first.isEmpty then none else some ""
    | rest =>
      match dropIdle rest.dropLast with
      | [] => if isAbsolute path then some "/" else some first
      | above => some (ofPieces (first :: above))

def fileName? (path : String) : Option String :=
  match pieces path with
  | [] => none
  | first :: rest =>
    let last := (dropIdle rest).getLast?.getD first
    if isIdle last || last == ".." then none else some last

/-- What follows the last dot of the file name, unless the name starts with that dot. -/
def extension? (path : String) : Option String := do
  let name := (← fileName? path).toList.reverse
  match name.dropWhile (· != '.') with
  | [] | [_] => none
  | _ :: _ :: _ => return String.ofList (name.takeWhile (· != '.')).reverse

end CommitStyle.Path
