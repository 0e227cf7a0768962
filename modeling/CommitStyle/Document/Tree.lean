/-!
# Document trees

The values that a configuration document writes down, whichever notation it is written in. Reals,
dates and malformed texts, which no setting takes, are kept as `other`.
-/

namespace CommitStyle.Document

/-- A value of a document. The entries of a table are in the order in which they are written. -/
inductive Tree where
  | null
  | bool (value : Bool)
  | integer (value : Int)
  | text (value : String)
  | list (items : List Tree)
  | table (entries : List (String × Tree))
  | other
  deriving Repr, Inhabited

namespace Tree

def toBool? : Tree → Option Bool
  | bool value => some value
  | _ => none

def toInteger? : Tree → Option Int
  | integer value => some value
  | _ => none

def toText? : Tree → Option String
  | text value => some value
  | _ => none

def toList? : Tree → Option (List Tree)
  | list items => some items
  | _ => none

def toTable? : Tree → Option (List (String × Tree))
  | table entries => some entries
  | _ => none

def toTexts? (tree : Tree) : Option (List String) := tree.toList? >>= (·.mapM toText?)

def ofTexts (items : List String) : Tree := list (items.map text)

end Tree

def isInRange (n : Int) : Bool := Int64.minValue.toInt ≤ n && n ≤ Int64.maxValue.toInt

inductive Notation where
  | toml
  | json
  deriving DecidableEq, Repr

end CommitStyle.Document
