import CommitStyle.Regex.Piece

/-!
# Options of a pattern

Options are switched on and off inside a pattern. They decide what the parts that follow stand for.
-/

namespace CommitStyle.Regex

open Unicode (Property)

structure Options where
  ignoreCase : Bool := false
  multiLine : Bool := false
  dotAll : Bool := false
  lazy : Bool := false
  unicode : Bool := true
  returns : Bool := false
  /-- Blanks and comments may stand between the parts. -/
  spaced : Bool := false
  deriving DecidableEq, Repr

inductive OptionName where
  | ignoreCase
  | multiLine
  | dotAll
  | lazy
  | unicode
  | returns
  | spaced
  deriving DecidableEq, Repr

namespace OptionName

def ofLetter? : Char → Option OptionName
  | 'i' => some ignoreCase
  | 'm' => some multiLine
  | 's' => some dotAll
  | 'U' => some lazy
  | 'u' => some unicode
  | 'R' => some returns
  | 'x' => some spaced
  | _ => none

end OptionName

namespace Options

def assign (options : Options) (name : OptionName) (value : Bool) : Options :=
  match name with
  | .ignoreCase => { options with ignoreCase := value }
  | .multiLine => { options with multiLine := value }
  | .dotAll => { options with dotAll := value }
  | .lazy => { options with lazy := value }
  | .unicode => { options with unicode := value }
  | .returns => { options with returns := value }
  | .spaced => { options with spaced := value }

/-- The set as it is when case may not count. Without the Unicode option only ASCII letters fold. -/
def fold (options : Options) (set : CharSet) : CharSet :=
  if !options.ignoreCase then set
  else if options.unicode then .foldCase set
  else .union set (.inter (.foldCase set) .ascii)

/-- A set, or its complement, as a class stands for it. Case is folded first. Without the Unicode
option characters are bytes, and a complement would hold bytes that are part of a character. -/
def close? (options : Options) (negated : Bool) (set : CharSet) : Option CharSet :=
  if !negated then some (options.fold set)
  else if options.unicode then some (.compl (options.fold set))
  else none

def letterClass? (options : Options) (letter : Char) : Option CharSet :=
  let restrict (p : Property) : CharSet :=
    if options.unicode then .property p else .inter (.property p) .ascii
  let either (set : CharSet) (negated : Bool) : Option CharSet :=
    if !negated then some set else if options.unicode then some (.compl set) else none
  match letter with
  | 'd' => either (restrict .decimal) false
  | 'D' => either (restrict .decimal) true
  | 's' => either (restrict .whiteSpace) false
  | 'S' => either (restrict .whiteSpace) true
  | 'w' => either (restrict .word) false
  | 'W' => either (restrict .word) true
  | _ => none

def dot? (options : Options) : Option CharSet :=
  if !options.unicode then none
  else if options.dotAll then some .all
  else if options.returns then some (.compl (.ofList ['\r', '\n']))
  else some (.compl (.single '\n'))

def lineStart (options : Options) : Look :=
  if options.multiLine then .lineStart options.returns else .textStart

def lineEnd (options : Options) : Look :=
  if options.multiLine then .lineEnd options.returns else .textEnd

def word (options : Options) (side : WordSide) : Look := .word side (!options.unicode)

end Options

end CommitStyle.Regex
