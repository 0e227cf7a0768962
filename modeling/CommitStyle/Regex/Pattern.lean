import CommitStyle.Regex.Bracket

/-!
# Patterns

A pattern is the written form of a regular expression. `Regex.parse?` reads it, and refuses patterns
that are malformed, that nest too deeply or that would grow too large.
-/

namespace CommitStyle.Regex

open Unicode (isBlank isAlphabetic isAlphanumeric)
open Reader (peek? next expect accept takeWhile require)

structure Setting where
  name : OptionName
  value : Bool

/-- The settings that a list of option letters writes, letters after a hyphen switching off. No letter
stands twice, there is one hyphen at most, and something follows it. -/
def settings? (letters : List Char) : Option (List Setting) := do
  let names (chars : List Char) : Option (List OptionName) := chars.mapM OptionName.ofLetter?
  let on ← names (letters.takeWhile (· != '-'))
  let off ← names ((letters.dropWhile (· != '-')).drop 1)
  guard ((on ++ off).Nodup ∧ (letters.contains '-' → off ≠ []))
  return on.map (Setting.mk · true) ++ off.map (Setting.mk · false)

def applySettings (settings : List Setting) (options : Options) : Options :=
  settings.foldl (fun options s => options.assign s.name s.value) options

def setOptions (options : Options) : PatternReader Unit :=
  modify fun context => { context with options := options }

/-- The name of a group, up to its closing angle bracket. No two groups share a name. -/
def groupName : PatternReader Unit := do
  let name ← takeWhile (· != '>')
  discard next
  let startsWell := name.head?.any fun c => c == '_' || isAlphabetic c
  let goesOnWell := (name.drop 1).all fun c =>
    c == '_' || c == '.' || c == '[' || c == ']' || isAlphanumeric c
  require (startsWell && goesOnWell)
  let names := (← get).names
  require (!names.contains name)
  modify fun context => { context with names := name :: names }

inductive Opening where
  | directive (settings : List Setting)
  | group (captures : Bool) (settings : List Setting)

def opening : PatternReader Opening := do
  let ahead ← (get : Reader (List Char))
  let isLookAround := ["?=", "?!", "?<=", "?<!"].any fun mark => mark.toList.isPrefixOf ahead
  require !isLookAround
  if (← accept "?P<".toList) || (← accept "?<".toList) then
    groupName
    return .group true []
  else if ← accept ['?'] then
    let letters ← takeWhile fun c => c != ':' && c != ')'
    let settings ← orFail (settings? letters)
    if (← next) == ')' then
      require (!settings.isEmpty)
      return .directive settings
    else return .group false settings
  else return .group true []

def primitive : PatternReader Piece := do
  let options ← options
  match ← next with
  | '.' => return .ofSet (← orFail options.dot?) 0
  | '^' => return .ofLook options.lineStart
  | '$' => return .ofLook options.lineEnd
  | '\\' =>
    match ← escape with
    | .char c => return .ofSet (options.fold (.single c)) 0
    | .set set => return .ofSet set 0
    | .look look => return .ofLook look
  | c => return .ofSet (options.fold (.single c)) 0

def count? : Nat → PatternReader (List Char)
  | 0 => return []
  | fuel + 1 => do
    match ← peek? with
    | some c =>
      if c.isDigit then
        discard nextSpaced
        return c :: (← count? fuel)
      else return []
    | none => return []

def skipBlanks : PatternReader Unit := do
  (Reader.skipWhile isBlank : Reader Unit)

/-- A count below 2^32, if there is one. -/
def count : PatternReader (Option Nat) := do
  skipBlanks
  let digits ← count? ((← (get : Reader (List Char))).length)
  if !digits.isEmpty then skipSpace
  skipBlanks
  if digits.isEmpty then return none
  let n := ofDigits 10 digits
  require (n < UInt32.size)
  return some n

def bounds : PatternReader (Nat × Option Nat) := do
  discard nextSpaced
  let least ← orFail (← count)
  if (← peek?) == some ',' then
    discard nextSpaced
    if ← accept ['}'] then return (least, none)
    let most ← orFail (← count)
    expect ['}']
    require (least ≤ most)
    return (least, some most)
  else
    expect ['}']
    return (least, some least)

/-- A question mark that asks for the shortest match; whether a text matches does not hang on it. -/
def laziness : PatternReader Unit := do discard (accept ['?'])

def repeatLast (least : Nat) (most : Option Nat) (pieces : List Piece) :
    PatternReader (List Piece) :=
  match pieces with
  | last :: earlier => do
    require (!last.isDirective)
    return last.repeated least most :: earlier
  | [] => failure

mutual

def branches : Nat → PatternReader (List Piece)
  | 0 => failure
  | fuel + 1 => do
    let branch := Piece.concat (← pieces fuel []).reverse
    if ← accept ['|'] then return branch :: (← branches fuel)
    else return [branch]

/-- The rest of a branch, given the pieces before it, the last one first. -/
def pieces : Nat → List Piece → PatternReader (List Piece)
  | 0, _ => failure
  | fuel + 1, before => do
    skipSpace
    match ← peek? with
    | none | some '|' | some ')' => return before
    | some '(' => do
      let piece ← group fuel
      pieces fuel (piece :: before)
    | some '[' => do
      let nested ← bracketed ((← (get : Reader (List Char))).length + 1)
      pieces fuel (.ofSet nested.set nested.depth :: before)
    | some '?' => do
      discard next
      laziness
      pieces fuel (← repeatLast 0 (some 1) before)
    | some '*' => do
      discard next
      laziness
      pieces fuel (← repeatLast 0 none before)
    | some '+' => do
      discard next
      laziness
      pieces fuel (← repeatLast 1 none before)
    | some '\x7B' => do
      let (least, most) ← bounds
      skipSpace
      laziness
      pieces fuel (← repeatLast least most before)
    | some _ => do
      let piece ← primitive
      pieces fuel (piece :: before)

/-- A group, or a change of options. Options changed inside a group hold up to its end. -/
def group : Nat → PatternReader Piece
  | 0 => failure
  | fuel + 1 => do
    discard nextSpaced
    let outer ← options
    match ← opening with
    | .directive settings => do
      setOptions (applySettings settings outer)
      return .directive
    | .group captures settings => do
      setOptions (applySettings settings outer)
      let content := Piece.alternate (← branches fuel)
      expect [')']
      setOptions outer
      return content.group captures

end

/-- A whole pattern. Of three steps in a row one reads a character, so that the length of the text
bounds their number. -/
def whole : PatternReader Piece := do
  let length := (← (get : Reader (List Char))).length
  return .alternate (← branches (3 * (length + 1)))

def parse? (pattern : String) : Option Regex := do
  let piece ← Reader.readAll? (whole.run' {}) pattern.toList
  let size := piece.size.whole
  guard (piece.depth ≤ maxDepth ∧ size.forward ≤ maxSize ∧ size.backward ≤ maxSize)
  return piece.regex

end CommitStyle.Regex
