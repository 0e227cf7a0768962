import CommitStyle.Reader
import CommitStyle.Document.Tree

/-!
# Reading JSON

Every text of the JSON grammar is read. A string may escape half of a surrogate pair; such a string
names no text, and neither it nor an object with such a key has any value but `other`.
-/

namespace CommitStyle.Document.Json

open Reader

def isSpace (c : Char) : Bool := c == ' ' || c == '\t' || c == '\n' || c == '\r'

def skipSpace : Reader Unit := skipWhile isSpace

def escapedUnit : Reader Nat := do
  let digits ← takeExactly 4
  require (digits.all (isDigitIn 16))
  return ofDigits 16 digits

def escape : Reader Nat := do
  match ← next with
  | '"' => return '"'.toNat
  | '\\' => return '\\'.toNat
  | '/' => return '/'.toNat
  | 'b' => return 8
  | 'f' => return 12
  | 'n' => return 10
  | 'r' => return 13
  | 't' => return 9
  | 'u' => escapedUnit
  | _ => failure

/-- The rest of a string, up to its closing quote, as code points and escaped code units. -/
def stringUnits : Nat → Reader (List Nat)
  | 0 => failure
  | fuel + 1 => do
    match ← next with
    | '"' => return []
    | '\\' => do
      let unit ← escape
      return unit :: (← stringUnits fuel)
    | c => do
      require (0x20 ≤ c.toNat)
      return c.toNat :: (← stringUnits fuel)

def isHighSurrogate (n : Nat) : Bool := 0xD800 ≤ n && n < 0xDC00

def isLowSurrogate (n : Nat) : Bool := 0xDC00 ≤ n && n < 0xE000

/-- The text of code units, unless half of a surrogate pair stands alone. -/
def textOf? : List Nat → Option (List Char)
  | [] => some []
  | [unit] => (charOf? unit).map ([·])
  | high :: low :: rest =>
    if isHighSurrogate high && isLowSurrogate low then
      return Char.ofNat (0x10000 + (high - 0xD800) * 0x400 + (low - 0xDC00)) :: (← textOf? rest)
    else
      return (← charOf? high) :: (← textOf? (low :: rest))

def string (fuel : Nat) : Reader (Option String) := do
  expect ['"']
  return (textOf? (← stringUnits fuel)).map String.ofList

def digits1 : Reader (List Char) := do
  let digits ← takeWhile (·.isDigit)
  require !digits.isEmpty
  return digits

/-- A number. One with a fraction or an exponent is no integer, nor is a negative zero. -/
def number : Reader Tree := do
  let negative ← accept ['-']
  let digits ← digits1
  require (digits.length == 1 || digits.head? != some '0')
  let fraction ← accept ['.']
  if fraction then discard digits1
  let lowerExponent ← accept ['e']
  let exponent ← if lowerExponent then pure true else accept ['E']
  if exponent then
    let plus ← accept ['+']
    if !plus then discard (accept ['-'])
    discard digits1
  let n := ofDigits 10 digits
  if fraction || exponent || negative && n == 0 then return .other
  else return .integer (if negative then -n else n)

def ofEntries (entries : List (Option String × Tree)) : Tree :=
  match entries.mapM fun ((key?, tree) : Option String × Tree) => key?.map fun key => (key, tree) with
  | some named => .table named
  | none => .other

mutual

def value : Nat → Reader Tree
  | 0 => failure
  | fuel + 1 => do
    match ← peek? with
    | some '{' => do
      expect ['{']
      skipSpace
      if ← accept ['}'] then return .table []
      return ofEntries (← entries fuel)
    | some '[' => do
      expect ['[']
      skipSpace
      if ← accept [']'] then return .list []
      return .list (← items fuel)
    | some '"' => return ((← string fuel).map Tree.text).getD .other
    | some 't' => expect "true".toList; return .bool true
    | some 'f' => expect "false".toList; return .bool false
    | some 'n' => expect "null".toList; return .null
    | _ => number

/-- The rest of an array, after its bracket or a comma. -/
def items : Nat → Reader (List Tree)
  | 0 => failure
  | fuel + 1 => do
    skipSpace
    let item ← value fuel
    skipSpace
    match ← next with
    | ']' => return [item]
    | ',' => return item :: (← items fuel)
    | _ => failure

def entries : Nat → Reader (List (Option String × Tree))
  | 0 => failure
  | fuel + 1 => do
    skipSpace
    let key ← string fuel
    skipSpace
    expect [':']
    skipSpace
    let tree ← value fuel
    skipSpace
    match ← next with
    | '}' => return [(key, tree)]
    | ',' => return (key, tree) :: (← entries fuel)
    | _ => failure

end

def document (fuel : Nat) : Reader Tree := do
  skipSpace
  let tree ← value fuel
  skipSpace
  return tree

/-- The value that a JSON text writes down. Of two steps in a row one reads a character, so that the
length of the text bounds their number. -/
def read? (text : String) : Option Tree :=
  readAll? (document (2 * (text.length + 1))) text.toList

end CommitStyle.Document.Json
