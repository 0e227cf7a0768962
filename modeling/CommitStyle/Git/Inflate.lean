/-!
# Compressed streams

A compressed stream is a row of blocks between two bytes that announce it and a checksum. A block holds
its bytes as they are, or as words of two codes: one for single bytes and for how much is repeated, the
other one for how far back the repeated bytes stand. The codes are fixed, or the block begins with them.
-/

namespace CommitStyle.Git

/-! ### Bits -/

abbrev BitReader := StateT (List Bool) Option

namespace BitReader

variable {α β : Type}

def Keeps (reader : BitReader α) : Prop :=
  ∀ ⦃bits a rest⦄, reader bits = some (a, rest) → rest.length ≤ bits.length

def Shortens (reader : BitReader α) : Prop :=
  ∀ ⦃bits a rest⦄, reader bits = some (a, rest) → rest.length < bits.length

variable {reader : BitReader α} {next : α → BitReader β}

theorem Shortens.keeps (h : Shortens reader) : Keeps reader := fun _ _ _ hr => Nat.le_of_lt (h hr)

theorem keeps_pure (a : α) : Keeps (pure a) := fun _ _ _ h => by
  cases h
  exact Nat.le_refl _

theorem keeps_failure : Keeps (failure : BitReader α) := nofun

theorem keeps_guard (p : Prop) [Decidable p] : Keeps (guard p) := by
  unfold guard
  split
  · exact keeps_pure ()
  · exact keeps_failure

theorem keeps_lift (value : Option α) : Keeps (liftM value) := fun bits a rest h => by
  cases value with
  | none => cases h
  | some b =>
    cases h
    exact Nat.le_refl _

theorem exists_of_bind {bits rest : List Bool} {b : β} (h : (reader >>= next) bits = some (b, rest)) :
    ∃ a between, reader bits = some (a, between) ∧ next a between = some (b, rest) := by
  obtain ⟨⟨a, between⟩, ha, hb⟩ := Option.bind_eq_some_iff.1 h
  exact ⟨a, between, ha, hb⟩

theorem Keeps.bind (h : Keeps reader) (hn : ∀ a, Keeps (next a)) : Keeps (reader >>= next) :=
  fun _ _ _ hr => by
    obtain ⟨a, _, ha, hb⟩ := exists_of_bind hr
    exact Nat.le_trans (hn a hb) (h ha)

theorem Shortens.bind (h : Shortens reader) (hn : ∀ a, Keeps (next a)) : Shortens (reader >>= next) :=
  fun _ _ _ hr => by
    obtain ⟨a, _, ha, hb⟩ := exists_of_bind hr
    exact Nat.lt_of_le_of_lt (hn a hb) (h ha)

end BitReader

open BitReader

/-- The bits of bytes, the lowest bit of each byte first. -/
def bitsOf (bytes : List UInt8) : List Bool :=
  bytes.flatMap fun byte => (List.range 8).map byte.toNat.testBit

def number : Nat → BitReader Nat
  | 0, bits => some (0, bits)
  | _ + 1, [] => none
  | width + 1, bit :: bits => (number width bits).map fun (n, rest) => (2 * n + bit.toNat, rest)

def numbers (width : Nat) : Nat → BitReader (List Nat)
  | 0 => return []
  | count + 1 => return (← number width) :: (← numbers width count)

def skipToByte : BitReader Unit := modify fun bits => bits.drop (bits.length % 8)

theorem keeps_number (width : Nat) : Keeps (number width) := by
  induction width with
  | zero => exact keeps_pure 0
  | succ width ih =>
    intro bits n rest h
    cases bits with
    | nil => cases h
    | cons bit bits =>
      obtain ⟨⟨m, rest⟩, hm, h⟩ := Option.map_eq_some_iff.1 h
      cases h
      exact Nat.le_succ_of_le (ih hm)

theorem shortens_number (width : Nat) : Shortens (number (width + 1)) := by
  intro bits n rest h
  cases bits with
  | nil => cases h
  | cons bit bits =>
    obtain ⟨⟨m, rest⟩, hm, h⟩ := Option.map_eq_some_iff.1 h
    cases h
    exact Nat.lt_succ_of_le (keeps_number width hm)

theorem keeps_numbers (width count : Nat) : Keeps (numbers width count) := by
  induction count with
  | zero => exact keeps_pure []
  | succ count ih => exact (keeps_number width).bind fun _ => ih.bind fun _ => keeps_pure _

theorem keeps_skipToByte : Keeps skipToByte := fun bits a rest h => by
  cases h
  simp

/-! ### Codes -/

/-- A code: the symbols whose words have one bit, those whose words have two, and so on. Words are
consecutive numbers, if the shorter ones are filled up to the length of the longer ones. -/
abbrev Code := List (List Nat)

namespace Code

/-- The code whose symbols have words of these lengths; a symbol of length zero has none. -/
def ofLengths (lengths : List Nat) : Code :=
  (List.range 15).map fun n => (lengths.zipIdx.filter (·.1 == n + 1)).map (·.2)

/-- How many words of the greatest length are left, unless there are more symbols than words. -/
def spare? (code : Code) : Option Nat :=
  code.foldlM
    (fun free level => if level.length ≤ 2 * free then some (2 * free - level.length) else none) 1

/-- Whether the code leaves no word over. It may do so if it has but one word of one bit, or none. -/
def isUsable (code : Code) : Bool :=
  code.spare? == some 0 || code.spare?.isSome && (code.drop 1).all List.isEmpty

/-- Reads a symbol, given how far the bits before are above the words of their length. -/
def symbol : Code → Nat → BitReader Nat
  | level :: deeper, above, bit :: bits =>
    match level[2 * above + bit.toNat]? with
    | some symbol => some (symbol, bits)
    | none => symbol deeper (2 * above + bit.toNat - level.length) bits
  | _, _, _ => none

theorem shortens_symbol (code : Code) (above : Nat) : Shortens (code.symbol above) := by
  induction code generalizing above with
  | nil =>
    intro bits a rest h
    cases h
  | cons level deeper ih =>
    intro bits a rest h
    cases bits with
    | nil => cases h
    | cons bit bits =>
      unfold symbol at h
      split at h
      · cases h
        exact Nat.lt_succ_self _
      · exact Nat.lt_succ_of_lt (ih _ h)

end Code

/-! ### What a block says -/

inductive Token where
  | byte (value : UInt8)
  | copy (length distance : Nat)
  | finish

/-- The least of the lengths that a symbol stands for, and how many bits tell it from the others. -/
def lengthCodes : List (Nat × Nat) := [
  (3, 0), (4, 0), (5, 0), (6, 0), (7, 0), (8, 0), (9, 0), (10, 0), (11, 1), (13, 1), (15, 1), (17, 1),
  (19, 2), (23, 2), (27, 2), (31, 2), (35, 3), (43, 3), (51, 3), (59, 3), (67, 4), (83, 4), (99, 4),
  (115, 4), (131, 5), (163, 5), (195, 5), (227, 5), (258, 0)]

def distanceCodes : List (Nat × Nat) := [
  (1, 0), (2, 0), (3, 0), (4, 0), (5, 1), (7, 1), (9, 2), (13, 2), (17, 3), (25, 3), (33, 4), (49, 4),
  (65, 5), (97, 5), (129, 6), (193, 6), (257, 7), (385, 7), (513, 8), (769, 8), (1025, 9), (1537, 9),
  (2049, 10), (3073, 10), (4097, 11), (6145, 11), (8193, 12), (12289, 12), (16385, 13), (24577, 13)]

def extended (codes : List (Nat × Nat)) (symbol : Nat) : BitReader Nat := do
  let (least, width) ← codes[symbol]?
  return least + (← number width)

def token (literals distances : Code) : BitReader Token := do
  let symbol ← literals.symbol 0
  if symbol < 256 then return .byte symbol.toUInt8
  else if symbol = 256 then return .finish
  else
    let length ← extended lengthCodes (symbol - 257)
    return .copy length (← extended distanceCodes (← distances.symbol 0))

/-- Repeats bytes from so far back. The last byte comes first. -/
def copy? (distance : Nat) : Nat → List UInt8 → Option (List UInt8)
  | 0, out => some out
  | length + 1, out => do copy? distance length ((← out[distance - 1]?) :: out)

theorem keeps_extended (codes : List (Nat × Nat)) (symbol : Nat) : Keeps (extended codes symbol) :=
  (keeps_lift _).bind fun _ => (keeps_number _).bind fun _ => keeps_pure _

theorem shortens_token (literals distances : Code) : Shortens (token literals distances) := by
  refine (literals.shortens_symbol 0).bind fun symbol => ?_
  split
  · exact keeps_pure _
  · split
    · exact keeps_pure _
    · exact (keeps_extended _ _).bind fun _ =>
        (distances.shortens_symbol 0).keeps.bind fun _ => (keeps_extended _ _).bind fun _ =>
          keeps_pure _

/-- The bytes before a block and those of the block, the last one first. -/
def compressed (literals distances : Code) (out : List UInt8) : BitReader (List UInt8) := fun bits =>
  match _h : token literals distances bits with
  | some (.byte value, rest) => compressed literals distances (value :: out) rest
  | some (.copy length distance, rest) =>
    match copy? distance length out with
    | some out => compressed literals distances out rest
    | none => none
  | some (.finish, rest) => some (out, rest)
  | none => none
  termination_by bits => bits.length
  decreasing_by all_goals exact shortens_token literals distances ‹_›

theorem keeps_compressed (literals distances : Code) (out : List UInt8) :
    Keeps (compressed literals distances out) := by
  intro bits found rest h
  fun_induction compressed literals distances out bits with
  | case1 out bits value next ht ih =>
    have := shortens_token literals distances ht
    exact Nat.le_trans (ih h) (Nat.le_of_lt this)
  | case2 out bits length distance next ht longer hc ih =>
    have := shortens_token literals distances ht
    exact Nat.le_trans (ih h) (Nat.le_of_lt this)
  | case3 => cases h
  | case4 out bits next ht =>
    cases h
    exact Nat.le_of_lt (shortens_token literals distances ht)
  | case5 => cases h

def stored (out : List UInt8) : BitReader (List UInt8) := do
  skipToByte
  let length ← number 16
  let complement ← number 16
  guard (length + complement = 0xFFFF)
  return (← numbers 8 length).reverse.map Nat.toUInt8 ++ out

theorem keeps_stored (out : List UInt8) : Keeps (stored out) :=
  keeps_skipToByte.bind fun _ => (keeps_number _).bind fun _ => (keeps_number _).bind fun _ =>
    (keeps_guard _).bind fun _ => (keeps_numbers _ _).bind fun _ => keeps_pure _

/-! ### Codes of a block of its own -/

/-- The symbols of the code that lengths are written in, in the order in which its own are. -/
def lengthOrder : List Nat := [16, 17, 18, 0, 8, 7, 9, 6, 10, 5, 11, 4, 12, 3, 13, 2, 14, 1, 15]

def someLengths (code : Code) (before : List Nat) : BitReader (List Nat) := do
  match ← code.symbol 0 with
  | 16 => return List.replicate (3 + (← number 2)) (← before.head?)
  | 17 => return List.replicate (3 + (← number 3)) 0
  | 18 => return List.replicate (11 + (← number 7)) 0
  | length => return [length]

theorem shortens_someLengths (code : Code) (before : List Nat) :
    Shortens (someLengths code before) := by
  refine (code.shortens_symbol 0).bind fun symbol => ?_
  split
  · exact (keeps_number _).bind fun _ => (keeps_lift _).bind fun _ => keeps_pure _
  · exact (keeps_number _).bind fun _ => keeps_pure _
  · exact (keeps_number _).bind fun _ => keeps_pure _
  · exact keeps_pure _

/-- So many lengths, given those before them, the last one first. -/
def codeLengths (code : Code) (count : Nat) (before : List Nat) : BitReader (List Nat) := fun bits =>
  if count = 0 then some (before.reverse, bits)
  else
    match _h : someLengths code before bits with
    | some (lengths, rest) =>
      if lengths.length ≤ count then
        codeLengths code (count - lengths.length) (lengths ++ before) rest
      else none
    | none => none
  termination_by bits => bits.length
  decreasing_by exact shortens_someLengths code before ‹_›

theorem keeps_codeLengths (code : Code) (count : Nat) (before : List Nat) :
    Keeps (codeLengths code count before) := by
  intro bits found rest h
  fun_induction codeLengths code count before bits with
  | case1 =>
    cases h
    exact Nat.le_refl _
  | case2 count before bits hc lengths next hs hl ih =>
    exact Nat.le_trans (ih h) (Nat.le_of_lt (shortens_someLengths code before hs))
  | case3 => cases h
  | case4 => cases h

def ownCodes : BitReader (Code × Code) := do
  let literals := 257 + (← number 5)
  let distances := 1 + (← number 5)
  let count := 4 + (← number 4)
  guard (literals ≤ 286 ∧ distances ≤ 30)
  let written := lengthOrder.zip (← numbers 3 count)
  let code := Code.ofLengths ((List.range 19).map fun symbol => (written.lookup symbol).getD 0)
  guard (code.spare? = some 0)
  let lengths ← codeLengths code (literals + distances) []
  let literalCode := Code.ofLengths (lengths.take literals)
  let distanceCode := Code.ofLengths (lengths.drop literals)
  guard (lengths[256]? ≠ some 0 ∧ literalCode.isUsable ∧ distanceCode.isUsable)
  return (literalCode, distanceCode)

theorem keeps_ownCodes : Keeps ownCodes :=
  (keeps_number _).bind fun _ => (keeps_number _).bind fun _ => (keeps_number _).bind fun _ =>
    (keeps_guard _).bind fun _ => (keeps_numbers _ _).bind fun _ => (keeps_guard _).bind fun _ =>
      (keeps_codeLengths _ _ _).bind fun _ => (keeps_guard _).bind fun _ => keeps_pure _

/-! ### Streams -/

def fixedLiterals : Code :=
  .ofLengths (List.replicate 144 8 ++ List.replicate 112 9 ++ List.replicate 24 7 ++ List.replicate 8 8)

def fixedDistances : Code := .ofLengths (List.replicate 30 5)

def block (out : List UInt8) : BitReader (Bool × List UInt8) := do
  let last ← number 1
  match ← number 2 with
  | 0 => return (last = 1, ← stored out)
  | 1 => return (last = 1, ← compressed fixedLiterals fixedDistances out)
  | 2 =>
    let (literals, distances) ← ownCodes
    return (last = 1, ← compressed literals distances out)
  | _ => failure

theorem shortens_block (out : List UInt8) : Shortens (block out) := by
  refine (shortens_number 0).bind fun last => (keeps_number 2).bind fun kind => ?_
  split
  · exact (keeps_stored _).bind fun _ => keeps_pure _
  · exact (keeps_compressed _ _ _).bind fun _ => keeps_pure _
  · exact keeps_ownCodes.bind fun _ => (keeps_compressed _ _ _).bind fun _ => keeps_pure _
  · exact keeps_failure

def blocks (out : List UInt8) : BitReader (List UInt8) := fun bits =>
  match _h : block out bits with
  | some ((last, out), rest) => if last then some (out.reverse, rest) else blocks out rest
  | none => none
  termination_by bits => bits.length
  decreasing_by exact shortens_block _ ‹_›

def checksum (bytes : List UInt8) : Nat :=
  let (sum, sums) := bytes.foldl
    (fun (sum, sums) byte =>
      let sum := (sum + byte.toNat) % 65521
      (sum, (sums + sum) % 65521))
    (1, 0)
  sums * 65536 + sum

def stream : BitReader (List UInt8) := do
  let method ← number 8
  let flags ← number 8
  guard (method % 16 = 8 ∧ method < 128 ∧ (method * 256 + flags) % 31 = 0 ∧ flags / 32 % 2 = 0)
  let bytes ← blocks []
  skipToByte
  let written := (← numbers 8 4).foldl (fun n byte => n * 256 + byte) 0
  guard (written = checksum bytes)
  return bytes

def inflate? (bytes : List UInt8) : Option (List UInt8) := (stream (bitsOf bytes)).map (·.1)

end CommitStyle.Git
