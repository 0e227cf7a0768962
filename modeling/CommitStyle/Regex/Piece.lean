import CommitStyle.Regex
import CommitStyle.Regex.Size

/-!
# Pieces of a pattern

While a pattern is read, each part of it is kept with how deeply it nests and how large its automata are,
since patterns that nest or grow too much are refused.
-/

namespace CommitStyle.Regex

def maxDepth : Nat := 250

/-- The size in bytes that a pattern may grow to. -/
def maxSize : Nat := 10 * 1024 * 1024

structure Piece where
  regex : Regex
  depth : Nat
  size : Size
  /-- Whether it sets options only, so that it cannot be repeated. -/
  isDirective : Bool := false
  /-- Whether it is left out of what is compiled. -/
  isNothing : Bool := false
  /-- Whether it matches no character. -/
  isEmpty : Bool := false
  canBeEmpty : Bool := false
  /-- The set that it is, if it is compiled as a set. -/
  chars : Option CharSet := none

namespace Piece

def empty : Piece :=
  { regex := .empty, depth := 0, size := .states 1, isNothing := true, isEmpty := true
    canBeEmpty := true }

def directive : Piece := { empty with isDirective := true }

def ofSet (set : CharSet) (depth : Nat) : Piece :=
  { regex := .chars set, depth, size := .ofSet set, chars := some set }

def ofLook (look : Look) : Piece :=
  { regex := .place look, depth := 0, size := .states 1, isEmpty := true, canBeEmpty := true }

def maxOf (f : Piece → Nat) (pieces : List Piece) : Nat := pieces.foldl (fun n p => max n (f p)) 0

/-- One piece after the other, which nests them only if there are several. -/
def concat : List Piece → Piece
  | [] => empty
  | [piece] => { piece with isDirective := false }
  | pieces =>
    let compiled := pieces.filter (!·.isNothing)
    { regex := Expr.seqAll (pieces.map regex)
      depth := maxOf depth pieces + 1
      size := if compiled.isEmpty then .states 1 else .sum (compiled.map size)
      isNothing := compiled.isEmpty
      isEmpty := pieces.all isEmpty
      canBeEmpty := pieces.all canBeEmpty }

/-- One piece or the other. Sets of characters are put together. -/
def alternate : List Piece → Piece
  | [] => empty
  | [piece] => { piece with isDirective := false }
  | pieces =>
    let chars := (pieces.mapM chars).map CharSet.unionAll
    { regex := Expr.altAll (pieces.map regex)
      depth := maxOf depth pieces + 1
      size := (chars.map Size.ofSet).getD (.alternatives (pieces.map size))
      isEmpty := pieces.all isEmpty
      canBeEmpty := pieces.any canBeEmpty
      chars }

def group (piece : Piece) (captures : Bool) : Piece :=
  { piece with
    depth := piece.depth + 1
    size := if captures then piece.size.captured else piece.size
    isDirective := false
    isNothing := piece.isNothing && !captures
    chars := if captures then none else piece.chars }

/-- A repetition with its bounds, the upper one missing if there is none. What matches no character
is compiled once at most. -/
def repeated (piece : Piece) (least : Nat) (most : Option Nat) : Piece :=
  let required : Regex := .times least piece.regex
  let (fewest, greatest) :=
    if piece.isEmpty then (min least 1, some (min (most.getD 1) 1)) else (least, most)
  let isNothing := piece.isNothing && fewest = 1 || greatest = some 0
  { regex := match most with
      | some n => .seq required (.upTo (n - least) piece.regex)
      | none => .seq required (.star piece.regex)
    depth := piece.depth + 1
    size := if isNothing then .states 1
      else piece.size.repeated fewest greatest piece.canBeEmpty
    isNothing
    isEmpty := piece.isEmpty || greatest = some 0
    canBeEmpty := piece.canBeEmpty || fewest = 0 }

end Piece

end CommitStyle.Regex
