import CommitStyle.Regex.Extent

/-!
# Sizes of compiled patterns

A pattern is compiled to two automata over the bytes of a text, one that reads them from the front and
one that reads them from the back, and it is refused if one of them takes more memory than there may be.
What is counted is the states, the transitions of a state that has several of them, and the branches of
a choice. Alternatives are counted one by one, also where some of them begin alike or are choices
themselves, in which case the compiled automata may be smaller.
-/

namespace CommitStyle

/-! ### Encodings -/

/-- A row of spans of bytes, for all code points whose bytes lie in them. -/
abbrev ByteRow := List (Nat × Nat)

namespace ByteRow

/-- The rows for the numbers from one to another that are written in so many digits of six bits behind
a lead digit. -/
def digits : Nat → Nat → Nat → List ByteRow
  | 0, first, last => [[(first, last)]]
  | count + 1, first, last =>
    let unit := 64 ^ (count + 1)
    let low := first / unit
    let high := last / unit
    if low = high then
      (digits count (first % unit) (last % unit)).map ((low, low) :: ·)
    else
      let startsWhole := first % unit = 0
      let endsWhole := last % unit = unit - 1
      let second := if startsWhole then low else low + 1
      let beforeLast := if endsWhole then high else high - 1
      (if startsWhole then []
        else (digits count (first % unit) (unit - 1)).map ((low, low) :: ·)) ++
        (if second ≤ beforeLast then
          [(second, beforeLast) :: List.replicate (count + 1) (0, 63)] else []) ++
        (if endsWhole then [] else (digits count 0 (last % unit)).map ((high, high) :: ·))

def leads : List (Nat × Nat × Nat) :=
  [(0, 0, 0x7F), (0xC0, 0x80, 0x7FF), (0xE0, 0x800, 0xFFFF), (0xF0, 0x10000, 0x10FFFF)]

def lead (mark : Nat) : ByteRow → ByteRow
  | (first, last) :: rest => (mark + first, mark + last) :: rest
  | [] => []

def ofSpan (span : Nat × Nat) : List ByteRow :=
  leads.zipIdx.flatMap fun ((mark, least, most), count) =>
    let first := max span.1 least
    let last := min span.2 most
    if first ≤ last then (digits count first last).map (lead mark) else []

end ByteRow

/-! ### Sizes -/

/-- The bytes that a part takes in the automata of the two directions. -/
structure Size where
  forward : Nat
  backward : Nat
  deriving DecidableEq, Repr

namespace Size

instance : Add Size := ⟨fun s t => ⟨s.forward + t.forward, s.backward + t.backward⟩⟩

def both (n : Nat) : Size := ⟨n, n⟩

def scale (n : Nat) (size : Size) : Size := ⟨n * size.forward, n * size.backward⟩

def sum (sizes : List Size) : Size := sizes.foldl (· + ·) (both 0)

def states (count : Nat) : Size := both (32 * count)

def choice (branches : Nat) : Size := both (32 + 4 * branches)

/-- A state with so many transitions. One transition is part of its state. -/
def switch (transitions : Nat) : Nat := 32 + if transitions ≤ 1 then 0 else 8 * transitions

/-- The rows put together that begin with the same span, without it. -/
def branchesOf : List ByteRow → List ((Nat × Nat) × List ByteRow)
  | (head :: tail) :: rows =>
    match branchesOf rows with
    | (label, others) :: rest =>
      if label = head then (label, tail :: others) :: rest else (head, [tail]) :: (label, others) :: rest
    | [] => [(head, [tail])]
  | _ => []

/-- The rows that are left at each place of the tree that the rows make, down to a depth. -/
def places : Nat → List ByteRow → List (List ByteRow)
  | 0, _ => []
  | depth + 1, rows =>
    match branchesOf rows with
    | [] => []
    | branches => rows :: branches.flatMap fun (_, below) => places depth below

/-- The size of a set from the front: there is one state for all places with the same rows left. -/
def forwardOf (rows : List ByteRow) : Nat :=
  (places 4 rows).eraseDups.foldl (fun size left => size + switch (branchesOf left).length) 32

/-- The size of a set from the back: a branch for each row, and a state for each beginning of rows. -/
def backwardOf (rows : List ByteRow) : Nat :=
  let beginnings := [1, 2, 3, 4].flatMap fun n => ((rows.filter (n ≤ ·.length)).map (·.take n)).eraseReps
  64 + 4 * rows.length + 32 * beginnings.length

/-- The size of a set of characters. A single character takes a state for each of its bytes. -/
def ofSet (set : CharSet) : Size :=
  match set.spans with
  | [] => states 2
  | [(first, last)] =>
    if first = last then states (Char.ofNat first).utf8Size else ofSpans [(first, last)]
  | spans => ofSpans spans
where
  ofSpans (spans : Unicode.Spans) : Size :=
    if spans.all (·.2 < 0x80) then states 1 + both (switch spans.length)
    else
      let rows := spans.flatMap ByteRow.ofSpan
      ⟨forwardOf rows, backwardOf rows⟩

/-- The part in a group whose match is kept, which is done from the front alone. -/
def captured (size : Size) : Size := { size with forward := size.forward + 64 }

def alternatives (sizes : List Size) : Size := sum sizes + states 1 + choice sizes.length

/-- A part repeated, a choice being made after the least number of times, or before each of them where
it can match nothing. -/
def repeated (size : Size) (least : Nat) (most : Option Nat) (canBeEmpty : Bool) : Size :=
  match least, most with
  | 0, some 1 => size + states 1 + choice 2
  | 0, none => size + choice 2 + if canBeEmpty then choice 2 + states 1 else both 0
  | least, none => size.scale least + choice 2
  | least, some most =>
    if least = most then size.scale least
    else
      (if least = 0 then states 1 else size.scale least) + states 1 +
        (size + choice 2).scale (most - least)

/-- The whole pattern as a captured group, with the end of a match and with what leads to a match that
begins later, even if there can be none. -/
def whole (size : Size) : Size := size.captured + states 1 + (states 2 + choice 2)

end Size

end CommitStyle
