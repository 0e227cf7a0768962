import CommitStyle.Unicode.Letter

/-!
# Conditions on places

A place of a text lies between two characters, or at one of its ends. What a pattern may ask of a
place is told by the character before it and the character after it.
-/

namespace CommitStyle

open Unicode (isWord)

inductive WordSide where
  | boundary
  | noBoundary
  | start
  | finish
  | noneBefore
  | noneAfter
  deriving DecidableEq, Repr

/-- A condition on a place. Lines may end in a carriage return too, and words may be of ASCII letters
alone. -/
inductive Look where
  | textStart
  | textEnd
  | lineStart (returns : Bool)
  | lineEnd (returns : Bool)
  | word (side : WordSide) (asciiOnly : Bool)
  deriving DecidableEq, Repr

namespace Look

def isWordChar (asciiOnly : Bool) (c : Char) : Bool := isWord c && (!asciiOnly || c.toNat < 0x80)

/-- Whether the condition holds between two characters, missing at the ends of a text. -/
def holds (look : Look) (before after : Option Char) : Bool :=
  match look with
  | textStart => before.isNone
  | textEnd => after.isNone
  | lineStart false => before.isNone || before == some '\n'
  | lineStart true =>
    before.isNone || before == some '\n' || before == some '\r' && after != some '\n'
  | lineEnd false => after.isNone || after == some '\n'
  | lineEnd true =>
    after.isNone || after == some '\r' || after == some '\n' && before != some '\r'
  | word side asciiOnly =>
    let left := before.any (isWordChar asciiOnly)
    let right := after.any (isWordChar asciiOnly)
    match side with
    | .boundary => left != right
    | .noBoundary => left == right
    | .start => !left && right
    | .finish => left && !right
    | .noneBefore => !left
    | .noneAfter => !right

end Look

end CommitStyle
