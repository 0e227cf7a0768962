import CommitStyle.Document.Tree

/-!
# Printing JSON

Arrays and objects that hold anything put each item on a line of its own, two blanks further in.
Control characters, quotes and backslashes are escaped, and nothing else is.
-/

namespace CommitStyle.Document.Json

def hexDigit (n : Nat) : Char :=
  if n < 10 then Char.ofNat ('0'.toNat + n) else Char.ofNat ('a'.toNat + (n - 10))

def escapeChar (c : Char) : List Char :=
  if c = '"' then ['\\', '"']
  else if c = '\\' then ['\\', '\\']
  else if c = '\n' then ['\\', 'n']
  else if c = '\r' then ['\\', 'r']
  else if c = '\t' then ['\\', 't']
  else if c = '\x08' then ['\\', 'b']
  else if c = '\x0c' then ['\\', 'f']
  else if c.toNat < 0x20 then
    ['\\', 'u', '0', '0', hexDigit (c.toNat / 16), hexDigit (c.toNat % 16)]
  else [c]

def quote (text : String) : String :=
  String.ofList ('"' :: text.toList.flatMap escapeChar ++ ['"'])

def newLine (depth : Nat) : String := String.ofList ('\n' :: List.replicate (2 * depth) ' ')

mutual

/-- A value, `depth` levels in. A value that JSON cannot write is printed as `null`. -/
def print (depth : Nat) : Tree → String
  | .null | .other => "null"
  | .bool value => if value then "true" else "false"
  | .integer value => toString value
  | .text value => quote value
  | .list [] => "[]"
  | .list (item :: items) =>
    "[" ++ newLine (depth + 1) ++ print (depth + 1) item ++ printItems (depth + 1) items ++
      newLine depth ++ "]"
  | .table [] => "\x7b\x7d"
  | .table ((key, tree) :: entries) =>
    "\x7b" ++ newLine (depth + 1) ++ quote key ++ ": " ++ print (depth + 1) tree ++
      printEntries (depth + 1) entries ++ newLine depth ++ "\x7d"

/-- The items after the first one. -/
def printItems (depth : Nat) : List Tree → String
  | [] => ""
  | item :: items => "," ++ newLine depth ++ print depth item ++ printItems depth items

def printEntries (depth : Nat) : List (String × Tree) → String
  | [] => ""
  | (key, tree) :: entries =>
    "," ++ newLine depth ++ quote key ++ ": " ++ print depth tree ++ printEntries depth entries

end

def write (tree : Tree) : String := print 0 tree

end CommitStyle.Document.Json
