import CommitStyle.Document.Tree

/-!
# TOML tables

A document is a list of statements. A table that a header opens or a dotted key creates can be added
to later, within limits: it can be opened by a header once, and a dotted key adds only to tables that
dotted keys created.
-/

namespace CommitStyle.Document.Toml

inductive Origin where
  /-- A dotted key goes through it. -/
  | dotted
  /-- A header below it was opened first. -/
  | implied
  /-- Its own header was opened, or it is the document. -/
  | opened
  deriving DecidableEq, Repr

inductive Node where
  | leaf (tree : Tree)
  | table (origin : Origin) (entries : List (String × Node))
  | tables (members : List (List (String × Node)))

abbrev Entries := List (String × Node)

namespace Entries

def find? (name : String) (entries : Entries) : Option Node := entries.lookup name

/-- The entries with the value of a key replaced, or put at the end if the key is new. -/
def put (name : String) (node : Node) : Entries → Entries
  | [] => [(name, node)]
  | (key, old) :: rest => if key = name then (name, node) :: rest else (key, old) :: put name node rest

end Entries

mutual

def Node.toTree : Node → Tree
  | .leaf tree => tree
  | .table _ entries => .table (treesOfEntries entries)
  | .tables members => .list (treesOfMembers members)

def treesOfEntries : List (String × Node) → List (String × Tree)
  | [] => []
  | (name, node) :: rest => (name, node.toTree) :: treesOfEntries rest

def treesOfMembers : List (List (String × Node)) → List Tree
  | [] => []
  | entries :: rest => .table (treesOfEntries entries) :: treesOfMembers rest

end

/-- A change of the table at hand, if it is allowed. -/
abbrev Change := Origin → Entries → Option Entries

/-- The change that makes `change` below a path. Tables that are missing on the way are created as
`create`; in an array of tables the way goes through the last one. -/
def below (create : Origin) : List String → Change → Change
  | [], change => change
  | name :: path, change => fun _ entries =>
    match entries.find? name with
    | none => do
      let inner ← below create path change create []
      some (entries.put name (.table create inner))
    | some (.table origin inner) => do
      if create == .dotted && origin == .opened then none
      else
        let inner ← below create path change origin inner
        some (entries.put name (.table origin inner))
    | some (.tables members) =>
      match members.getLast? with
      | none => none
      | some last => do
        let last ← below create path change .opened last
        some (entries.put name (.tables (members.dropLast ++ [last])))
    | some (.leaf _) => none

/-- Gives a new key a value, in a table that dotted keys created exactly if the key is dotted. -/
def assign (isDotted : Bool) (name : String) (tree : Tree) : Change := fun origin entries =>
  if (origin == .dotted) != isDotted then none
  else if (entries.find? name).isSome then none
  else some (entries.put name (.leaf tree))

def assignPath (path : List String) (name : String) (tree : Tree) : Change :=
  below .dotted path (assign (!path.isEmpty) name tree)

def openTable (name : String) : Change := fun _ entries =>
  match entries.find? name with
  | none => some (entries.put name (.table .opened []))
  | some (.table .implied inner) => some (entries.put name (.table .opened inner))
  | some _ => none

def openMember (name : String) : Change := fun _ entries =>
  match entries.find? name with
  | none => some (entries.put name (.tables [[]]))
  | some (.tables members) => some (entries.put name (.tables (members ++ [[]])))
  | some _ => none

def inlineTable? (pairs : List (List String × Tree)) : Option Tree := do
  let add (entries : Entries) (pair : List String × Tree) : Option Entries := do
    assignPath pair.1.dropLast (← pair.1.getLast?) pair.2 .opened entries
  some (.table (treesOfEntries (← pairs.foldlM add [])))

inductive Statement where
  | assignment (key : List String) (tree : Tree)
  | header (path : List String)
  | memberHeader (path : List String)

/-- The document so far, and the path of the table that assignments go to. -/
structure Assembly where
  entries : Entries
  path : List String

def Assembly.add (assembly : Assembly) : Statement → Option Assembly
  | .assignment key tree => do
    let change := below .implied assembly.path (assignPath key.dropLast (← key.getLast?) tree)
    some { assembly with entries := ← change .opened assembly.entries }
  | .header path => do
    let change := below .implied path.dropLast (openTable (← path.getLast?))
    some { entries := ← change .opened assembly.entries, path }
  | .memberHeader path => do
    let change := below .implied path.dropLast (openMember (← path.getLast?))
    some { entries := ← change .opened assembly.entries, path }

def assemble? (statements : List Statement) : Option Tree := do
  let assembly ← statements.foldlM Assembly.add { entries := [], path := [] }
  some (.table (treesOfEntries assembly.entries))

end CommitStyle.Document.Toml
