import CommitStyle.Document.TomlText
import CommitStyle.Document.Tree

/-!
# Printing TOML

A text is written in the plainest of the four kinds of string that can hold it without escapes, and
with escapes where none can. Arrays of more than one item put each item on a line of its own.
-/

namespace CommitStyle.Document.Toml

/-- The length of the longest run of `quote` in a text, after `run` more of them. -/
def longestRun (quote : Char) (run : Nat) : List Char → Nat
  | [] => run
  | c :: rest => if c = quote then longestRun quote (run + 1) rest else max run (longestRun quote 0 rest)

/-- Whether a character can stand in no string without an escape; a line feed and a backslash can in
some. -/
def isControl (c : Char) : Bool := !isPlain c && c != '\n'

inductive StringKind where
  | basic
  | literal
  | multiBasic
  | multiLiteral
  deriving DecidableEq, Repr

namespace StringKind

def holds (text : List Char) : StringKind → Bool
  | basic => text.all fun c => isPlain c && c != '"' && c != '\\'
  | literal => text.all fun c => isPlain c && c != '\''
  | multiBasic => text.all (fun c => !isControl c && c != '\\') && longestRun '"' 0 text ≤ 2
  | multiLiteral => text.all (!isControl ·) && longestRun '\'' 0 text ≤ 2

def ofValue (text : List Char) : StringKind :=
  match [basic, literal, multiBasic, multiLiteral].find? (·.holds text) with
  | some kind => kind
  | none => if text.contains '\n' then multiBasic else basic

def ofKey (text : List Char) : StringKind :=
  match [basic, literal].find? (·.holds text) with
  | some kind => kind
  | none => basic

def delimiter : StringKind → List Char
  | basic => ['"']
  | literal => ['\'']
  | multiBasic => ['"', '"', '"']
  | multiLiteral => ['\'', '\'', '\'']

end StringKind

def upperHexDigit (n : Nat) : Char :=
  if n < 10 then Char.ofNat ('0'.toNat + n) else Char.ofNat ('A'.toNat + (n - 10))

def escapeChar (c : Char) : List Char :=
  if c = '\x08' then ['\\', 'b']
  else if c = '\t' then ['\\', 't']
  else if c = '\n' then ['\\', 'n']
  else if c = '\x0c' then ['\\', 'f']
  else if c = '\r' then ['\\', 'r']
  else if c = '"' then ['\\', '"']
  else if c = '\\' then ['\\', '\\']
  else if isPlain c then [c]
  else ['\\', 'u', '0', '0', upperHexDigit (c.toNat / 16), upperHexDigit (c.toNat % 16)]

/-- The characters of a multi-line basic string, after `run` quotes. Line feeds are not escaped, and
of quotes every third one in a row is. -/
def escapeMultiLine (run : Nat) : List Char → List Char
  | [] => []
  | '\n' :: rest => '\n' :: escapeMultiLine 0 rest
  | '"' :: rest =>
    if run < 2 then '"' :: escapeMultiLine (run + 1) rest
    else escapeChar '"' ++ escapeMultiLine 0 rest
  | c :: rest => escapeChar c ++ escapeMultiLine 0 rest

/-- A string of the given kind. A multi-line string that holds a line feed begins on a new line. -/
def quoteAs (kind : StringKind) (text : List Char) : List Char :=
  let opening :=
    match kind with
    | .multiBasic | .multiLiteral => if text.contains '\n' then ['\n'] else []
    | _ => []
  let content :=
    match kind with
    | .basic => text.flatMap escapeChar
    | .multiBasic => escapeMultiLine 0 text
    | .literal | .multiLiteral => text
  kind.delimiter ++ opening ++ content ++ kind.delimiter

def printText (text : String) : String :=
  String.ofList (quoteAs (.ofValue text.toList) text.toList)

def printKey (name : String) : String :=
  if !name.isEmpty && name.toList.all isBareKeyChar then name
  else String.ofList (quoteAs (.ofKey name.toList) name.toList)

mutual

/-- A value. One that TOML cannot write is printed as an empty text. -/
def printValue : Tree → String
  | .null | .other => "\"\""
  | .bool value => if value then "true" else "false"
  | .integer value => toString value
  | .text value => printText value
  | .list [] => "[]"
  | .list [item] => "[" ++ printValue item ++ "]"
  | .list (first :: second :: rest) =>
    "[\n    " ++ printValue first ++ ",\n    " ++ printValue second ++ ",\n" ++ printItems rest ++ "]"
  | .table entries => "\x7b" ++ printInline entries ++ " \x7d"

def printItems : List Tree → String
  | [] => ""
  | item :: rest => "    " ++ printValue item ++ ",\n" ++ printItems rest

def printInline : List (String × Tree) → String
  | [] => ""
  | (key, tree) :: [] => " " ++ printKey key ++ " = " ++ printValue tree
  | (key, tree) :: rest => " " ++ printKey key ++ " = " ++ printValue tree ++ "," ++ printInline rest

end

def printAssignments (entries : List (String × Tree)) : String :=
  String.join (entries.map fun (key, tree) => printKey key ++ " = " ++ printValue tree ++ "\n")

def isTable : Tree → Bool
  | .table _ => true
  | _ => false

/-- A document: its own values first, then each table under a header. -/
def write (entries : List (String × Tree)) : String :=
  printAssignments (entries.filter (!isTable ·.2)) ++
    String.join ((entries.filter (isTable ·.2)).map fun (key, tree) =>
      "\n[" ++ printKey key ++ "]\n" ++ printAssignments (tree.toTable?.getD []))

end CommitStyle.Document.Toml
