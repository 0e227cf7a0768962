import CommitStyle.Casing.Quoted
import CommitStyle.Unicode.CaseMapping

/-!
# Letter case shapes

Eight ways to spell a text. A text without letters outside quoted spans has every shape.
-/

namespace CommitStyle

open Unicode

inductive Casing where
  | lower
  | upper
  | camel
  | kebab
  | pascal
  | sentence
  | snake
  | start
  deriving DecidableEq, Repr

namespace Casing

def all : List Casing := [lower, upper, camel, kebab, pascal, sentence, snake, start]

def name : Casing → String
  | lower => "lower-case"
  | upper => "upper-case"
  | camel => "camel-case"
  | kebab => "kebab-case"
  | pascal => "pascal-case"
  | sentence => "sentence-case"
  | snake => "snake-case"
  | start => "start-case"

def foldName (name : List Char) : List Char := Unicode.lower (name.filter (· != '-'))

/-- The shape with the given name. Hyphens and letter case in a name are of no account. -/
def ofName? (name : String) : Option Casing :=
  all.find? fun casing => foldName casing.name.toList == foldName name.toList

def headIs (p : Char → Bool) : List Char → Bool
  | [] => false
  | c :: _ => p c

/-- Whether a word, if it begins with a letter, begins with an uppercase one. -/
def startsUpper : List Char → Bool
  | [] => true
  | c :: _ => !isAlphabetic c || isUppercase c

def isWordBreak (c : Char) : Bool := isBlank c || c == '-' || c == '_'

/-- The words of a text, which blanks, hyphens and low lines divide. -/
def words (text : List Char) : List (List Char) :=
  (Text.splitBy isWordBreak text).filter (!·.isEmpty)

def shapes (casing : Casing) (text : List Char) : Bool :=
  match casing with
  | lower => text == Unicode.lower text
  | upper => text == Unicode.upper text
  | camel => headIs isLowercase text && text.all isAlphanumeric
  | pascal => headIs isUppercase text && text.all isAlphanumeric
  | kebab => text.all fun c => c == '-' || isNumeric c || isLowercase c
  | snake => text.all fun c => c == '_' || isNumeric c || isLowercase c
  | sentence => startsUpper text
  | start => (words text).all startsUpper

def fits (casing : Casing) (text : List Char) : Bool :=
  let bare := stripQuoted text
  !bare.any isAlphabetic || casing.shapes bare

end Casing

end CommitStyle
