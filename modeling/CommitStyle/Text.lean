import CommitStyle.Unicode.Letter

/-!
# Lines and blanks

Text is taken apart as a list of characters. A blank is a character of the white space property, and
a line is blank when it holds nothing else.
-/

namespace CommitStyle.Text

open Unicode (isBlank)

/-- The pieces of a text between the characters that satisfy `p`, empty pieces included. -/
def splitBy (p : Char → Bool) : List Char → List (List Char)
  | [] => [[]]
  | c :: rest =>
    if p c then [] :: splitBy p rest
    else match splitBy p rest with
      | [] => [[c]]
      | piece :: pieces => (c :: piece) :: pieces

/-- A line that ends in a line feed loses one carriage return before it. -/
def dropReturn (line : List Char) : List Char :=
  if line.getLast? = some '\r' then line.dropLast else line

/-- The lines of a text that has been split at its line feeds: what follows the last line feed is a
line only if it is not empty, and ends in no line feed. -/
def endLines : List (List Char) → List (List Char)
  | [] => []
  | [last] => if last.isEmpty then [] else [last]
  | line :: rest => dropReturn line :: endLines rest

def lines (text : List Char) : List (List Char) := endLines (splitBy (· == '\n') text)

def joinLines (ls : List (List Char)) : List Char := ['\n'].intercalate ls

def trimStart (text : List Char) : List Char := text.dropWhile isBlank

def dropEndWhile (p : Char → Bool) (text : List Char) : List Char :=
  (text.reverse.dropWhile p).reverse

def trimEnd (text : List Char) : List Char := dropEndWhile isBlank text

def trim (text : List Char) : List Char := trimEnd (trimStart text)

def isBlankLine (line : List Char) : Bool := line.all isBlank

def hasInfix (part : List Char) : List Char → Bool
  | [] => part.isEmpty
  | c :: rest => part.isPrefixOf (c :: rest) || hasInfix part rest

/-- The first line of a trimmed text, empty for a blank text. -/
def firstLine (text : List Char) : List Char := (lines (trim text)).headD []

end CommitStyle.Text
