import CommitStyle.Reader

/-!
# TOML strings and keys

The four kinds of string, and keys of bare or quoted parts. Line ends are single line feeds here.
-/

namespace CommitStyle.Document.Toml

open Reader

def isSpace (c : Char) : Bool := c == ' ' || c == '\t'

def skipSpace : Reader Unit := skipWhile isSpace

/-- Whether a character may stand in a document, within a line, as itself. -/
def isPlain (c : Char) : Bool := c == '\t' || 0x20 ≤ c.toNat && c.toNat != 0x7F

def codePoint (n : Nat) : Reader Char := do
  let digits ← takeExactly n
  require (digits.all (isDigitIn 16))
  match charOf? (ofDigits 16 digits) with
  | some c => return c
  | none => failure

def escape : Reader Char := do
  match ← next with
  | 'b' => return '\x08'
  | 't' => return '\t'
  | 'n' => return '\n'
  | 'f' => return '\x0c'
  | 'r' => return '\r'
  | '"' => return '"'
  | '\\' => return '\\'
  | 'u' => codePoint 4
  | 'U' => codePoint 8
  | _ => failure

def basicChars : Nat → Reader (List Char)
  | 0 => failure
  | fuel + 1 => do
    match ← next with
    | '"' => return []
    | '\\' => do
      let c ← escape
      return c :: (← basicChars fuel)
    | c => do
      require (isPlain c)
      return c :: (← basicChars fuel)

/-- The quotes that a run of them closes a multi-line string with: three close it, and up to two in
front of these belong to it. A shorter run belongs to the string as a whole. -/
def closing? (quotes : List Char) : Reader (Option (List Char)) := do
  require (quotes.length ≤ 5)
  if quotes.length < 3 then return none else return some (quotes.drop 3)

/-- Skips a line end and all blank space around it, if a backslash is followed by one. -/
def skipLineEnd : Reader Bool := do
  match (← get).dropWhile isSpace with
  | '\n' :: _ =>
    skipWhile fun c => isSpace c || c == '\n'
    return true
  | _ => return false

def multiBasicChars : Nat → Reader (List Char)
  | 0 => failure
  | fuel + 1 => do
    let quotes ← takeWhile (· == '"')
    match ← closing? quotes with
    | some kept => return kept
    | none =>
      match ← next with
      | '\\' =>
        if ← skipLineEnd then return quotes ++ (← multiBasicChars fuel)
        let c ← escape
        return quotes ++ c :: (← multiBasicChars fuel)
      | c => do
        require (isPlain c || c == '\n')
        return quotes ++ c :: (← multiBasicChars fuel)

def multiLiteralChars : Nat → Reader (List Char)
  | 0 => failure
  | fuel + 1 => do
    let quotes ← takeWhile (· == '\'')
    match ← closing? quotes with
    | some kept => return kept
    | none =>
      let c ← next
      require (isPlain c || c == '\n')
      return quotes ++ c :: (← multiLiteralChars fuel)

def literalChars : Reader (List Char) := do
  let text ← takeWhile (· != '\'')
  require (text.all isPlain)
  expect ['\'']
  return text

/-- A string of any kind. A line end right after the opening of a multi-line string is no part of
it. -/
def string (fuel : Nat) : Reader String := do
  if ← accept "\"\"\"".toList then
    discard (accept ['\n'])
    return String.ofList (← multiBasicChars fuel)
  else if ← accept "'''".toList then
    discard (accept ['\n'])
    return String.ofList (← multiLiteralChars fuel)
  else if ← accept ['"'] then
    return String.ofList (← basicChars fuel)
  else
    expect ['\'']
    return String.ofList (← literalChars)

def isBareKeyChar (c : Char) : Bool := c.isAlphanum || c == '-' || c == '_'

def keyPart (fuel : Nat) : Reader String := do
  if ← accept ['"'] then
    return String.ofList (← basicChars fuel)
  else if ← accept ['\''] then
    return String.ofList (← literalChars)
  else
    let name ← takeWhile isBareKeyChar
    require !name.isEmpty
    return String.ofList name

def keyParts : Nat → Reader (List String)
  | 0 => failure
  | fuel + 1 => do
    skipSpace
    let part ← keyPart fuel
    skipSpace
    if ← accept ['.'] then return part :: (← keyParts fuel) else return [part]

def depthLimit : Nat := 80

def key (fuel : Nat) : Reader (List String) := do
  let parts ← keyParts fuel
  require (parts.length < depthLimit)
  return parts

end CommitStyle.Document.Toml
