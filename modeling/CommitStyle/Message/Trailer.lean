import CommitStyle.Text

/-!
# Trailers

A trailer is a line such as `Refs: #12` or `Closes #12`: a token, a separator and a value. The last
paragraph below a header is the footer when its first line is a trailer and every further line is a
trailer or an indented continuation.
-/

namespace CommitStyle.Trailer

open Unicode (isWord isBlank)
open Text (isBlankLine)

def hasValue : List Char → Bool
  | ':' :: ' ' :: c :: _ => !isBlank c
  | ' ' :: '#' :: c :: _ => !isBlank c
  | _ => false

/-- Whether the line starts with a token of word characters and hyphens, led by a letter. -/
def hasToken : List Char → Bool
  | c :: rest => c.isAlpha && hasValue (rest.dropWhile fun d => isWord d || d == '-')
  | [] => false

/-- The one token that holds a blank. -/
def breakingChange : List Char := "BREAKING CHANGE".toList

def isTrailer (line : List Char) : Bool :=
  hasToken line ||
    breakingChange.isPrefixOf line && hasValue (line.drop breakingChange.length)

def isIndented : List Char → Bool
  | c :: _ => c == ' ' || c == '\t'
  | [] => false

def isBlock : List (List Char) → Bool
  | [] => false
  | first :: rest => isTrailer first && rest.all fun line => isTrailer line || isIndented line

def isBreaking (line : List Char) : Bool :=
  "BREAKING CHANGE:".toList.isPrefixOf line || "BREAKING-CHANGE:".toList.isPrefixOf line

def lastParagraph (lines : List (List Char)) : List (List Char) :=
  (lines.reverse.takeWhile (!isBlankLine ·)).reverse

end CommitStyle.Trailer
