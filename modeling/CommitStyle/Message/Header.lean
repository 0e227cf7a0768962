import CommitStyle.Text

/-!
# Conventional headers

The first line of a conventional message, `type(scope)!: subject`. The type and the parenthesised
scope may be empty or absent; the colon and the blank after it may not.
-/

namespace CommitStyle

open Unicode (isWord)

structure Header where
  type : List Char
  scope : Option (List Char)
  bang : Bool
  subject : List Char
  deriving DecidableEq, Repr

namespace Header

/-- Reads an optional scope. A parenthesis that opens must close before another one opens. -/
def readScope : List Char → Option (Option (List Char) × List Char)
  | '(' :: rest =>
    let inside (c : Char) := c != '(' && c != ')'
    match rest.dropWhile inside with
    | ')' :: after => some (some (rest.takeWhile inside), after)
    | _ => none
  | text => some (none, text)

def readBang : List Char → Bool × List Char
  | '!' :: rest => (true, rest)
  | text => (false, text)

def readSubject : List Char → Option (List Char)
  | ':' :: ' ' :: subject => some subject
  | _ => none

def parse? (line : List Char) : Option Header := do
  let (scope, afterScope) ← readScope (line.dropWhile isWord)
  let (bang, afterBang) := readBang afterScope
  let subject ← readSubject afterBang
  return { type := line.takeWhile isWord, scope, bang, subject }

def render (header : Header) : List Char :=
  header.type ++
    (match header.scope with
      | some scope => '(' :: scope ++ [')']
      | none => []) ++
    (if header.bang then ['!'] else []) ++ ':' :: ' ' :: header.subject

end Header

end CommitStyle
