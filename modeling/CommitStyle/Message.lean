import CommitStyle.Message.Header
import CommitStyle.Message.Trailer

/-!
# Commit messages

A message is cleaned as git cleans it, then divided into header, body and footer. The lines below the
header are kept apart from it, so that a message always has a header line.
-/

namespace CommitStyle

open Text

structure Message where
  /-- The message as given. -/
  raw : String
  /-- The first line that is left after cleaning. -/
  header : String
  below : List String
  type : Option String
  scope : Option String
  subject : Option String
  body : Option String
  footer : Option String
  /-- The index of the first footer line, the header being line 0. -/
  footerStart : Option Nat
  breaking : Bool
  deriving DecidableEq, Repr

namespace Message

/-- The line under which git keeps text that is no part of the message. -/
def scissors : List Char := "# ------------------------ >8 ------------------------".toList

def isComment (line : List Char) : Bool := line.head? == some '#'

/-- The lines above the scissors, without comments and final carriage returns. -/
def keep (ls : List (List Char)) : List (List Char) :=
  ((ls.takeWhile (!scissors.isPrefixOf ·)).filter (!isComment ·)).map (dropEndWhile (· == '\r'))

def dropOuterBlank (ls : List (List Char)) : List (List Char) :=
  ((ls.dropWhile isBlankLine).reverse.dropWhile isBlankLine).reverse

def keptLines (raw : List Char) : List (List Char) := keep (lines raw)

def cleanLines (raw : List Char) : List (List Char) := dropOuterBlank (keptLines raw)

def block? (ls : List (List Char)) : Option (List Char) :=
  let text := trim (joinLines ls)
  if text.isEmpty then none else some text

def linesAboveFooter? (below : List (List Char)) : Option Nat :=
  let paragraph := Trailer.lastParagraph below
  if Trailer.isBlock paragraph then some (below.length - paragraph.length) else none

def nonempty? (text : List Char) : Option (List Char) := if text.isEmpty then none else some text

def nonblank? (text : List Char) : Option (List Char) := if isBlankLine text then none else some text

def ofLines (raw : String) (first : List Char) (below : List (List Char)) : Message :=
  let header := Header.parse? (trimEnd first)
  let above := linesAboveFooter? below
  let footer := above.bind fun n => block? (below.drop n)
  { raw
    header := String.ofList first
    below := below.map String.ofList
    type := (header.bind (nonempty? ·.type)).map String.ofList
    scope := (header.bind fun h => h.scope.bind nonempty?).map String.ofList
    subject := (header.bind (nonblank? ·.subject)).map String.ofList
    body := (block? (below.take (above.getD below.length))).map String.ofList
    footer := footer.map String.ofList
    footerStart := above.map (· + 1)
    breaking := header.any (·.bang) || footer.any fun text => (lines text).any Trailer.isBreaking }

/-- Reads a message; there is none when cleaning leaves no line. -/
def parse? (raw : String) : Option Message :=
  match cleanLines raw.toList with
  | [] => none
  | first :: below => some (ofLines raw first below)

/-- The message of a commit that was recorded without one. -/
def empty (raw : String) : Message :=
  { raw, header := "", below := [], type := none, scope := none, subject := none, body := none,
    footer := none, footerStart := none, breaking := false }

def lines (message : Message) : List String := message.header :: message.below

end Message

end CommitStyle
