/-!
# Sets of code points

A set of code points is written as a list of inclusive spans, as the tables of the standard do. What
differs from one code point to the next is written by the places where it changes.
-/

namespace CommitStyle.Unicode

abbrev Spans := List (Nat × Nat)

namespace Spans

def contains (spans : Spans) (n : Nat) : Bool :=
  spans.any fun (first, last) => first ≤ n && n ≤ last

theorem contains_iff (spans : Spans) (n : Nat) :
    spans.contains n = true ↔ ∃ span ∈ spans, span.1 ≤ n ∧ n ≤ span.2 := by
  simp [contains]

end Spans

/-- Values with the first code point of each run, in ascending order. -/
abbrev Runs (α : Type) := List (Nat × α)

/-- The value of the last run that begins at or before `n`. -/
def Runs.find {α : Type} (n : Nat) (found : α) : Runs α → α
  | [] => found
  | (first, value) :: rest => if n < first then found else Runs.find n value rest

end CommitStyle.Unicode
