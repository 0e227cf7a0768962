import CommitStyle.Unicode.Folding
import CommitStyle.Unicode.Property

/-!
# Sets of characters

The classes of a pattern, as an expression over spans and properties. `contains` reads the expression
for one character; a set that ignores case holds every character of which some case variant is in the
set below it.
-/

namespace CommitStyle

open Unicode (Property caseVariants)

inductive CharSet where
  | span (first last : Char)
  | property (p : Property)
  | union (left right : CharSet)
  | inter (left right : CharSet)
  | compl (set : CharSet)
  | foldCase (set : CharSet)
  deriving DecidableEq, Repr

namespace CharSet

def contains : CharSet → Char → Bool
  | span first last, c => first ≤ c && c ≤ last
  | property p, c => p.holds c
  | union left right, c => left.contains c || right.contains c
  | inter left right, c => left.contains c && right.contains c
  | compl set, c => !set.contains c
  | foldCase set, c => (caseVariants c).any set.contains

def single (c : Char) : CharSet := span c c

def all : CharSet := property .any

def none : CharSet := compl all

def ascii : CharSet := property .ascii

def diff (left right : CharSet) : CharSet := inter left (compl right)

def symmDiff (left right : CharSet) : CharSet := union (diff left right) (diff right left)

def unionAll : List CharSet → CharSet
  | [] => none
  | [set] => set
  | set :: rest => union set (unionAll rest)

def ofList (chars : List Char) : CharSet := unionAll (chars.map single)

@[simp] theorem contains_single (c d : Char) : (single c).contains d = true ↔ c = d := by
  simp only [single, contains, Bool.and_eq_true, decide_eq_true_eq]
  exact ⟨fun ⟨h, k⟩ => Char.le_antisymm h k, fun h => h ▸ ⟨Char.le_refl c, Char.le_refl c⟩⟩

end CharSet

end CommitStyle
