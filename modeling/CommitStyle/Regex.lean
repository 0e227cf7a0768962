import CommitStyle.Regex.CharSet
import CommitStyle.Regex.Look

/-!
# Regular expressions

An expression is matched from all places of a text at once. A set of places is a number, whose bit
`i` stands for the place before character `i`; `advance` takes the set of places where a match may
begin to the set of places where it may end.
-/

namespace CommitStyle

/-- An expression over sets `σ` of characters and conditions `κ` on places. -/
inductive Expr (σ κ : Type) where
  | empty
  | chars (set : σ)
  | place (condition : κ)
  | seq (first second : Expr σ κ)
  | alt (left right : Expr σ κ)
  | star (inner : Expr σ κ)
  | times (count : Nat) (inner : Expr σ κ)
  | upTo (count : Nat) (inner : Expr σ κ)
  deriving DecidableEq, Repr

namespace Expr

variable {σ κ τ μ : Type}

def map (f : σ → τ) (g : κ → μ) : Expr σ κ → Expr τ μ
  | empty => empty
  | chars set => chars (f set)
  | place condition => place (g condition)
  | seq first second => seq (first.map f g) (second.map f g)
  | alt left right => alt (left.map f g) (right.map f g)
  | star inner => star (inner.map f g)
  | times count inner => times count (inner.map f g)
  | upTo count inner => upTo count (inner.map f g)

def seqAll : List (Expr σ κ) → Expr σ κ
  | [] => empty
  | [part] => part
  | part :: rest => seq part (seqAll rest)

/-- One expression or the other; without any there is only the empty one. -/
def altAll : List (Expr σ κ) → Expr σ κ
  | [] => empty
  | [branch] => branch
  | branch :: rest => alt branch (altAll rest)

def opt (inner : Expr σ κ) : Expr σ κ := upTo 1 inner

/-- Repeats a step on sets of places, up to `count` times or until the set stays the same. -/
def iterate (step : Nat → Nat) : Nat → Nat → Nat
  | 0, places => places
  | count + 1, places =>
    let ahead := step places
    if ahead = places then places else iterate step count ahead

/-- The places where a match may end that begins at one of the given places. The sets and conditions
of the expression are given by the places before the characters in a set, and those where a condition
holds; `bound` is the number of places. -/
def advance (bound : Nat) : Expr Nat Nat → Nat → Nat
  | empty, places => places
  | chars set, places => (places &&& set) <<< 1
  | place condition, places => places &&& condition
  | seq first second, places => second.advance bound (first.advance bound places)
  | alt left right, places => left.advance bound places ||| right.advance bound places
  | star inner, places => iterate (fun p => p ||| inner.advance bound p) bound places
  | times count inner, places => iterate (inner.advance bound) count places
  | upTo count inner, places => iterate (fun p => p ||| inner.advance bound p) count places

end Expr

abbrev Regex := Expr CharSet Look

namespace Regex

def placesOf (answers : List Bool) : Nat :=
  answers.foldr (fun accepted places => 2 * places + accepted.toNat) 0

def placesBefore (text : List Char) (set : CharSet) : Nat := placesOf (text.map set.contains)

def placesWhere (text : List Char) (look : Look) : Nat :=
  placesOf (List.zipWith look.holds (none :: text.map some) (text.map some ++ [none]))

/-- Whether some part of the text matches. -/
def isMatch (regex : Regex) (text : List Char) : Bool :=
  let located := regex.map (placesBefore text) (placesWhere text)
  let bound := text.length + 1
  located.advance bound (1 <<< bound - 1) != 0

def literal (text : String) : Regex := Expr.seqAll (text.toList.map fun c => .chars (.single c))

end Regex

end CommitStyle
