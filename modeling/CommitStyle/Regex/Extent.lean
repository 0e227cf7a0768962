import CommitStyle.Regex.CharSet

/-!
# Code points of a set

What a set of characters holds changes only where one of its spans or of the tables behind its properties
begins or ends. Between two such places it is enough to ask for one character, and so the spans of code
points that the set holds are found.
-/

namespace CommitStyle

namespace Unicode

def Spans.cuts (spans : Spans) : List Nat := spans.flatMap fun (first, last) => [first, last + 1]

def Runs.cuts {α : Type} (runs : Runs α) : List Nat := runs.map (·.1)

namespace Shift

def sources (shift : Shift) : List Nat :=
  (List.range ((shift.last - shift.first) / shift.step + 1)).map (shift.first + shift.step * ·)

def cuts (shift : Shift) : List Nat := shift.sources.flatMap fun n => [n, n + 1]

def imageCuts (shift : Shift) : List Nat :=
  shift.sources.flatMap fun n =>
    let image := (shift.apply (Char.ofNat n)).toNat
    [image, image + 1]

end Shift

def insertCut (cut : Nat) : List Nat → List Nat
  | next :: rest =>
    if cut < next then cut :: next :: rest
    else if cut = next then next :: rest
    else next :: insertCut cut rest
  | [] => [cut]

def sortCuts (cuts : List Nat) : List Nat := cuts.foldr insertCut []

def foldCuts : List Nat :=
  sortCuts (foldShifts.flatMap fun shift => shift.cuts ++ shift.imageCuts)

def caseCuts : List Nat := Category.runs.cuts ++ otherUppercase.cuts ++ otherLowercase.cuts

def alphabeticCuts : List Nat := caseCuts ++ otherAlphabetic.cuts

namespace Property

def cuts : Property → List Nat
  | any => []
  | ascii => [0x80]
  | categories _ => Category.runs.cuts
  | script _ => Script.runs.cuts
  | scriptExtension _ =>
    Script.runs.cuts ++ Script.extensions.flatMap fun (first, last, _) => [first, last + 1]
  | age _ => Age.runs.cuts
  | uppercase | lowercase | cased => caseCuts
  | alphabetic => alphabeticCuts
  | caseIgnorable => Category.runs.cuts ++ wordPunctuation.cuts
  | changesWhenLowercased => 0x130 :: 0x131 :: lowerShifts.flatMap Shift.cuts
  | changesWhenUppercased =>
    upperShifts.flatMap Shift.cuts ++ upperExpansions.flatMap fun (n, _) => [n, n + 1]
  | whiteSpace => Unicode.whiteSpace.cuts
  | word => alphabeticCuts ++ [0x200C, 0x200E]
  | spans members => members.cuts
  | either left right | without left right => left.cuts ++ right.cuts

end Property

end Unicode

open Unicode (Spans foldCuts sortCuts)

namespace CharSet

def cuts : CharSet → List Nat
  | span first last => [first.toNat, last.toNat + 1]
  | property p => p.cuts
  | union left right | inter left right => left.cuts ++ right.cuts
  | compl set => set.cuts
  | foldCase set => set.cuts ++ foldCuts

/-- Puts a span in front of others, as one with the first of them if there is no gap. -/
def addSpan (span : Nat × Nat) : Spans → Spans
  | next :: rest => if span.2 + 1 = next.1 then (span.1, next.2) :: rest else span :: next :: rest
  | [] => [span]

/-- The code points from one cut up to the next, if the set holds them. -/
def pieces (set : CharSet) : List Nat → Spans
  | first :: next :: rest =>
    let others := pieces set (next :: rest)
    if first.isValidChar && set.contains (Char.ofNat first) then
      addSpan (first, next - 1) others
    else others
  | _ => []

def spans (set : CharSet) : Spans :=
  set.pieces (sortCuts (0 :: 0xD800 :: 0xE000 :: 0x110000 :: set.cuts))

end CharSet

end CommitStyle
