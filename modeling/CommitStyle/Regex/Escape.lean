import CommitStyle.Reader
import CommitStyle.Regex.Options

/-!
# Escapes and single characters of a pattern
-/

namespace CommitStyle.Regex

open Unicode (Property isBlank isAlphabetic isAlphanumeric)
open Reader (peek? next expect accept takeWhile require)

structure Context where
  options : Options := {}
  /-- The names given to groups so far. -/
  names : List (List Char) := []

abbrev PatternReader := StateT Context Reader

def dropComments (inComment : Bool) : List Char → List Char
  | [] => []
  | c :: rest =>
    if inComment then dropComments (c != '\n') rest
    else if isBlank c then dropComments false rest
    else if c == '#' then dropComments true rest
    else c :: rest

def dropSpace (options : Options) (text : List Char) : List Char :=
  if options.spaced then dropComments false text else text

def options : PatternReader Options := do return (← get).options

def skipSpace : PatternReader Unit := do
  let options ← options
  (modify (dropSpace options) : Reader Unit)

def nextSpaced : PatternReader Char := do
  let c ← next
  skipSpace
  return c

def orFail {α : Type} (value? : Option α) : PatternReader α := value?.elim failure pure

inductive Atom where
  | char (c : Char)
  | set (set : CharSet)
  | look (look : Look)

def isMeta (c : Char) : Bool := "\\.+*?()|[]{}^$#&-~".toList.contains c

def isEscapable (c : Char) : Bool :=
  isMeta c || c.toNat < 0x80 && !c.isAlphanum && c != '<' && c != '>'

def hexDigits : Nat → PatternReader (List Char)
  | 0 => return []
  | count + 1 => do
    let digit ← nextSpaced
    require (isDigitIn 16 digit)
    return digit :: (← hexDigits count)

def untilBrace : Nat → PatternReader (List Char)
  | 0 => failure
  | fuel + 1 => do
    match ← next with
    | '}' => return []
    | c => do
      skipSpace
      return c :: (← untilBrace fuel)

def braced : PatternReader (List Char) := do
  discard nextSpaced
  untilBrace ((← (get : Reader (List Char))).length)

/-- A character given by its number, in braces or with a fixed count of digits. Two digits name a
byte where the Unicode option is off, which is a character only if it is ASCII. -/
def hexEscape (count : Nat) : PatternReader Atom := do
  skipSpace
  if (← peek?) == some '{' then
    let digits ← braced
    require (!digits.isEmpty && digits.all (isDigitIn 16))
    let c ← orFail (charOf? (ofDigits 16 digits))
    skipSpace
    return .char c
  else
    let c ← orFail (charOf? (ofDigits 16 (← hexDigits count)))
    require ((← options).unicode || count != 2 || c.toNat < 0x80)
    return .char c

def property? (query : List Char) : Option Property :=
  let name := query.takeWhile fun c => c != ':' && c != '='
  match query.dropWhile fun c => c != ':' && c != '=' with
  | [] => Property.ofName? query
  | mark :: value =>
    if mark == '=' && name.getLast? == some '!' then Property.ofNameAndValue? name.dropLast value
    else Property.ofNameAndValue? name value

def propertyEscape (negated : Bool) : PatternReader Atom := do
  skipSpace
  let query ← match ← peek? with
    | some '{' => braced
    | _ => do
      let letter ← nextSpaced
      require (letter != '\\')
      pure [letter]
  let options ← options
  require options.unicode
  return .set (← orFail (options.close? negated (.property (← orFail (property? query)))))

def wordSideOfName? : List Char → Option WordSide
  | ['s', 't', 'a', 'r', 't'] => some .start
  | ['e', 'n', 'd'] => some .finish
  | ['s', 't', 'a', 'r', 't', '-', 'h', 'a', 'l', 'f'] => some .noneBefore
  | ['e', 'n', 'd', '-', 'h', 'a', 'l', 'f'] => some .noneAfter
  | _ => none

/-- Which side of a word a boundary is on. A brace with a letter in it names the side; any other
brace is a repetition and is left where it is. -/
def wordSide : PatternReader WordSide := do
  let text ← (get : Reader (List Char))
  match text with
  | '{' :: rest =>
    match dropSpace (← options) rest with
    | [] => failure
    | c :: _ =>
      if c.isAlpha || c == '-' then
        return ← orFail (wordSideOfName? (← braced))
      else return .boundary
  | _ => return .boundary

def escape : PatternReader Atom := do
  let c ← next
  let options ← options
  match c with
  | 'x' => hexEscape 2
  | 'u' => hexEscape 4
  | 'U' => hexEscape 8
  | 'p' => propertyEscape false
  | 'P' => propertyEscape true
  | 'a' => return .char '\x07'
  | 'f' => return .char '\x0C'
  | 't' => return .char '\t'
  | 'n' => return .char '\n'
  | 'r' => return .char '\r'
  | 'v' => return .char '\x0B'
  | 'A' => return .look .textStart
  | 'z' => return .look .textEnd
  | 'b' => return .look (options.word (← wordSide))
  | 'B' => return .look (options.word .noBoundary)
  | '<' => return .look (options.word .start)
  | '>' => return .look (options.word .finish)
  | c =>
    if isEscapable c then return .char c
    else return .set (← orFail (options.letterClass? c))

end CommitStyle.Regex
