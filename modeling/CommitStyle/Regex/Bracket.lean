import CommitStyle.Regex.Escape

/-!
# Bracketed classes
-/

namespace CommitStyle.Regex

open Unicode (isBlank)
open Reader (peek? next expect accept takeWhile require)

structure Nested where
  set : CharSet
  depth : Nat := 0

inductive SetOperator where
  | inter
  | diff
  | symmDiff

def SetOperator.apply : SetOperator → CharSet → CharSet → CharSet
  | inter => .inter
  | diff => .diff
  | symmDiff => .symmDiff

def namedClass? (name : List Char) : Option CharSet :=
  let spans (list : List (Char × Char)) : CharSet :=
    CharSet.unionAll (list.map fun (first, last) => .span first last)
  match String.ofList name with
  | "alnum" => spans [('0', '9'), ('A', 'Z'), ('a', 'z')]
  | "alpha" => spans [('A', 'Z'), ('a', 'z')]
  | "ascii" => spans [('\x00', '\x7F')]
  | "blank" => spans [('\t', '\t'), (' ', ' ')]
  | "cntrl" => spans [('\x00', '\x1F'), ('\x7F', '\x7F')]
  | "digit" => spans [('0', '9')]
  | "graph" => spans [('!', '~')]
  | "lower" => spans [('a', 'z')]
  | "print" => spans [(' ', '~')]
  | "punct" => spans [('!', '/'), (':', '@'), ('[', '\x60'), ('\x7B', '~')]
  | "space" => spans [('\t', '\r'), (' ', ' ')]
  | "upper" => spans [('A', 'Z')]
  | "word" => spans [('0', '9'), ('A', 'Z'), ('_', '_'), ('a', 'z')]
  | "xdigit" => spans [('0', '9'), ('A', 'F'), ('a', 'f')]
  | _ => none

/-- A named class at the front of a text: whether it is negated, the class, and the text behind it. -/
def namedClassAt? : List Char → Option (Bool × CharSet × List Char)
  | '[' :: ':' :: text =>
    let negated := text.head? == some '^'
    let text := if negated then text.drop 1 else text
    match text.dropWhile (· != ':') with
    | ':' :: ']' :: rest => (namedClass? (text.takeWhile (· != ':'))).map (negated, ·, rest)
    | _ => none
  | _ => none

def classAtom : PatternReader Atom := do
  match ← next with
  | '\\' => escape
  | c => return .char c

/-- The set of one character. Without the Unicode option it has to be ASCII. -/
def charSet (options : Options) (c : Char) : PatternReader CharSet := do
  require (options.unicode || c.toNat < 0x80)
  return .single c

def atomSet (options : Options) : Atom → PatternReader CharSet
  | .char c => charSet options c
  | .set set => return set
  | .look _ => failure

/-- The next character but one, spaces and the mark of a comment left out. -/
def peekSecond (options : Options) : List Char → Option Char
  | [] => none
  | _ :: rest =>
    if options.spaced then
      let ahead := rest.dropWhile isBlank
      if ahead.head? == some '#' then ((ahead.drop 1).dropWhile isBlank).head? else ahead.head?
    else rest.head?

def rangeOrAtom : PatternReader CharSet := do
  let options ← options
  let first ← classAtom
  skipSpace
  let ahead ← (get : Reader (List Char))
  let second := peekSecond options ahead
  require !ahead.isEmpty
  if ahead.head? != some '-' || second == some ']' || second == some '-' then
    atomSet options first
  else
    discard nextSpaced
    match first, ← classAtom with
    | .char first, .char last => do
      discard (charSet options first)
      discard (charSet options last)
      require (first ≤ last)
      return .span first last
    | _, _ => failure

def unionOf (items : List Nested) : Nested :=
  let deepest := items.foldl (fun n item => max n item.depth) 0
  { set := CharSet.unionAll (items.map (·.set))
    depth := if items.length ≤ 1 then deepest else deepest + 1 }

/-- An operand put to the right of what stands before it. -/
def applyPending (options : Options) (pending : Option (SetOperator × Nested)) (right : Nested) :
    Nested :=
  match pending with
  | none => right
  | some (operator, left) =>
    { set := operator.apply (options.fold left.set) (options.fold right.set)
      depth := max left.depth right.depth + 1 }

def operator? : List Char → Option SetOperator
  | '&' :: '&' :: _ => some .inter
  | '-' :: '-' :: _ => some .diff
  | '~' :: '~' :: _ => some .symmDiff
  | _ => none

/-- The hyphens that open a class stand for themselves. -/
def openingHyphens : Nat → PatternReader (List Nested)
  | 0 => return []
  | fuel + 1 => do
    if (← peek?) == some '-' then
      discard nextSpaced
      return { set := .single '-' } :: (← openingHyphens fuel)
    else return []

/-- The items that open a class. A bracket that would close an empty class stands for itself. -/
def openingItems : PatternReader (List Nested) := do
  let hyphens ← openingHyphens ((← (get : Reader (List Char))).length)
  if hyphens.isEmpty && (← peek?) == some ']' then
    discard nextSpaced
    return [{ set := .single ']' }]
  else return hyphens

mutual

def bracketed : Nat → PatternReader Nested
  | 0 => failure
  | fuel + 1 => do
    let options ← options
    discard nextSpaced
    let negated := (← peek?) == some '^'
    if negated then discard nextSpaced
    let contents ← classItems fuel none (← openingItems)
    return {
      set := ← orFail (options.close? negated contents.set)
      depth := contents.depth + 1 }

/-- The rest of a class, given what stands before the last operator and the items after it. -/
def classItems : Nat → Option (SetOperator × Nested) → List Nested → PatternReader Nested
  | 0, _, _ => failure
  | fuel + 1, pending, items => do
    skipSpace
    let options ← options
    let ahead ← (get : Reader (List Char))
    match namedClassAt? ahead with
    | some (negated, members, rest) => do
      (set rest : Reader Unit)
      let named ← orFail (options.close? negated members)
      classItems fuel pending (items ++ [{ set := named }])
    | none =>
      match operator? ahead with
      | some operator => do
        discard next
        discard next
        classItems fuel (some (operator, applyPending options pending (unionOf items))) []
      | none =>
        match ← peek? with
        | some '[' => do
          let inner ← bracketed fuel
          classItems fuel pending (items ++ [inner])
        | some ']' => do
          discard next
          return applyPending options pending (unionOf items)
        | _ => do
          let item ← rangeOrAtom
          classItems fuel pending (items ++ [{ set := item }])

end

end CommitStyle.Regex
