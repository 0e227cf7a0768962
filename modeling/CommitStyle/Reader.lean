/-!
# Readers

A reader takes characters from the front of a text; it fails as a whole or leaves the rest of the
text.
-/

namespace CommitStyle

abbrev Reader := StateT (List Char) Option

namespace Reader

def peek? : Reader (Option Char) := do return (← get).head?

def next : Reader Char := do
  match ← get with
  | [] => failure
  | c :: rest => set rest; return c

def expect (token : List Char) : Reader Unit := do
  if token.isPrefixOf (← get) then modify (·.drop token.length) else failure

def accept (token : List Char) : Reader Bool := do
  if token.isPrefixOf (← get) then
    modify (·.drop token.length)
    return true
  else return false

def takeWhile (p : Char → Bool) : Reader (List Char) := do
  let text ← get
  set (text.dropWhile p)
  return text.takeWhile p

def skipWhile (p : Char → Bool) : Reader Unit := modify (·.dropWhile p)

def require (condition : Bool) : Reader Unit := if condition then return () else failure

def takeExactly (n : Nat) : Reader (List Char) := do
  let taken := (← get).take n
  require (taken.length == n)
  modify (·.drop n)
  return taken

def readAll? {α : Type} (reader : Reader α) (text : List Char) : Option α :=
  match reader.run text with
  | some (value, []) => some value
  | _ => none

end Reader

def digitValue? (c : Char) : Option Nat :=
  if c.isDigit then some (c.toNat - '0'.toNat)
  else if 'a' ≤ c && c ≤ 'z' then some (c.toNat - 'a'.toNat + 10)
  else if 'A' ≤ c && c ≤ 'Z' then some (c.toNat - 'A'.toNat + 10)
  else none

def isDigitIn (base : Nat) (c : Char) : Bool := (digitValue? c).any (· < base)

def ofDigits (base : Nat) (digits : List Char) : Nat :=
  digits.foldl (fun n c => n * base + (digitValue? c).getD 0) 0

def charOf? (n : Nat) : Option Char := if n.isValidChar then some (Char.ofNat n) else none

end CommitStyle
