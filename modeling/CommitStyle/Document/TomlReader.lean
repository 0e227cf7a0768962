import CommitStyle.Document.TomlNumber
import CommitStyle.Document.TomlTable
import CommitStyle.Document.TomlText

/-!
# Reading TOML

Version 1.0 of the notation, with a limit on how deep values nest.
-/

namespace CommitStyle.Document.Toml

open Reader

def comment : Reader Unit := do
  expect ['#']
  require ((← takeWhile (· != '\n')).all isPlain)

def skipFiller : Nat → Reader Unit
  | 0 => failure
  | fuel + 1 => do
    skipWhile fun c => isSpace c || c == '\n'
    if (← peek?) == some '#' then
      comment
      skipFiller fuel

mutual

/-- A value, with `depth` levels left to nest. -/
def value : Nat → Nat → Reader Tree
  | 0, _ => failure
  | fuel + 1, depth => do
    match ← peek? with
    | some '"' | some '\'' => return .text (← string fuel)
    | some '[' => do
      require (1 < depth)
      expect ['[']
      return .list (← items fuel (depth - 1))
    | some '{' => do
      require (1 < depth)
      expect ['{']
      skipSpace
      if ← accept ['}'] then return .table []
      let pairs ← pairs fuel (depth - 1)
      match inlineTable? pairs with
      | some tree => return tree
      | none => failure
    | _ => scalar

def items : Nat → Nat → Reader (List Tree)
  | 0, _ => failure
  | fuel + 1, depth => do
    skipFiller fuel
    if ← accept [']'] then return []
    let item ← value fuel depth
    skipFiller fuel
    match ← next with
    | ']' => return [item]
    | ',' => return item :: (← items fuel depth)
    | _ => failure

def pairs : Nat → Nat → Reader (List (List String × Tree))
  | 0, _ => failure
  | fuel + 1, depth => do
    let name ← key fuel
    expect ['=']
    skipSpace
    let tree ← value fuel depth
    skipSpace
    match ← next with
    | '}' => return [(name, tree)]
    | ',' => return (name, tree) :: (← pairs fuel depth)
    | _ => failure

end

def lineEnd : Reader Unit := do
  skipSpace
  if (← peek?) == some '#' then comment
  match ← peek? with
  | none => return ()
  | _ => expect ['\n']

def statement (fuel : Nat) : Reader Statement := do
  if ← accept ['[', '['] then
    let path ← key fuel
    expect [']', ']']
    return .memberHeader path
  else if ← accept ['['] then
    let path ← key fuel
    expect [']']
    return .header path
  else
    let name ← key fuel
    expect ['=']
    skipSpace
    return .assignment name (← value fuel depthLimit)

def statements : Nat → Reader (List Statement)
  | 0 => failure
  | fuel + 1 => do
    skipFiller fuel
    match ← peek? with
    | none => return []
    | some _ =>
      let first ← statement fuel
      lineEnd
      return first :: (← statements fuel)

def unifyLineEnds : List Char → List Char
  | '\r' :: '\n' :: rest => '\n' :: unifyLineEnds rest
  | c :: rest => c :: unifyLineEnds rest
  | [] => []

/-- A byte order mark may stand before a document. -/
def dropMark : List Char → List Char
  | '\ufeff' :: rest => rest
  | text => text

/-- The tree that a TOML document writes down. Of two steps in a row one reads a character, so that
the length of the document bounds their number. -/
def read? (text : String) : Option Tree := do
  let statements ← readAll? (statements (2 * (text.length + 1)))
    (unifyLineEnds (dropMark text.toList))
  assemble? statements

end CommitStyle.Document.Toml
