import CommitStyle.Proofs.Casing.Quoted
import CommitStyle.Proofs.Guarded.Access
import CommitStyle.Rule.Check

/-!
# Scanning for quoted spans

A scan reads a text from left to right and jumps over each quoted span to the byte after its closing
quote. Every cut is made where a character ends, and every round leaves less to read, so that a scan ends
after no more rounds than there are characters. A quote that is kept has no partner in what follows it:
nothing is left to strip the second time, and what a span holds is never looked at.
-/

namespace CommitStyle.Casing

open Guarded
open Text (trim)

/-- What a scan has kept of a text, and what it has still to read. -/
structure Scan where
  kept : List Char
  rest : List Char

namespace Scan

def round? (scan : Scan) (c : Char) : Option Scan := do
  let after ← fromByte? c.utf8Size scan.rest
  match if isQuote c then offset? c after else none with
  | some offset => return { scan with rest := ← fromByte? (offset + c.utf8Size) after }
  | none => return { kept := scan.kept ++ [c], rest := after }

variable {scan next : Scan} {c quote : Char} {rest inside : List Char}

lemma round?_kept (h : isQuote c = true → c ∉ rest) (kept : List Char) :
    (Scan.mk kept (c :: rest)).round? c = some ⟨kept ++ [c], rest⟩ := by
  have ho : (if isQuote c then offset? c rest else none) = none := by
    split
    next hq => exact offset?_eq_none (h hq)
    next => rfl
  simp only [round?, fromByte?_cons, Option.bind_eq_bind, Option.bind_some, ho]
  rfl

lemma round?_span (hq : isQuote quote = true) (hi : quote ∉ inside) (kept after : List Char) :
    (Scan.mk kept (quote :: (inside ++ quote :: after))).round? quote = some ⟨kept, after⟩ := by
  have hs : byteSize (inside ++ [quote]) = byteSize inside + quote.utf8Size := by
    rw [byteSize_append, byteSize_cons]
    rfl
  have hf : fromByte? (byteSize inside + quote.utf8Size) (inside ++ quote :: after) = some after := by
    have ha := fromByte?_append (inside ++ [quote]) after
    rwa [hs, List.append_assoc] at ha
  simp only [round?, fromByte?_cons, Option.bind_eq_bind, Option.bind_some, if_pos hq,
    offset?_append_cons hi, hf]
  rfl

lemma length_round?_lt (h : scan.round? c = some next) : next.rest.length < scan.rest.length := by
  obtain ⟨after, ha, h⟩ := Option.bind_eq_some_iff.1 h
  have hlt := length_fromByte?_lt ha c.utf8Size_pos
  split at h
  next offset _ =>
    obtain ⟨rest, hr, h⟩ := Option.bind_eq_some_iff.1 h
    cases h
    exact (length_fromByte?_le hr).trans_lt hlt
  next =>
    cases h
    exact hlt

/-- What has been kept when nothing is left to read. There is no result if a text would have to be cut
inside a character. -/
def run? (scan : Scan) : Option (List Char) :=
  match scan.rest.head? with
  | none => some scan.kept
  | some c =>
    match h : scan.round? c with
    | some next =>
      have := length_round?_lt h
      next.run?
    | none => none
  termination_by scan.rest.length

inductive EndsAfter : Scan → Nat → List Char → Prop
  | done (kept : List Char) : EndsAfter ⟨kept, []⟩ 0 kept
  | round {scan next : Scan} {c : Char} {n : Nat} {kept : List Char}
      (hc : scan.rest.head? = some c) (hr : scan.round? c = some next) (h : EndsAfter next n kept) :
      EndsAfter scan (n + 1) kept

lemma EndsAfter.run?_eq {n : Nat} {kept : List Char} (h : EndsAfter scan n kept) :
    scan.run? = some kept := by
  induction h with
  | done kept =>
    rw [run?]
    rfl
  | round hc hr _ ih =>
    rw [run?]
    simp only [hc]
    split
    next other ho =>
      rw [hr] at ho
      cases ho
      exact ih
    next ho =>
      rw [hr] at ho
      cases ho

/-- The induction is on what is left to read: each round takes a character or a quoted span off it. -/
lemma exists_endsAfter (kept text : List Char) :
    ∃ n ≤ text.length, EndsAfter ⟨kept, text⟩ n (kept ++ dropQuoted text) := by
  induction text using quoted_induction generalizing kept with
  | nil =>
    rw [dropQuoted_nil, List.append_nil]
    exact ⟨0, Nat.zero_le _, .done kept⟩
  | kept c rest h ih =>
    obtain ⟨n, hn, he⟩ := ih (kept ++ [c])
    rw [List.append_assoc, List.singleton_append] at he
    rw [dropQuoted_kept h]
    exact ⟨n + 1, Nat.succ_le_succ hn, .round rfl (round?_kept h kept) he⟩
  | span quote inside after hq hi ih =>
    obtain ⟨n, hn, he⟩ := ih kept
    rw [dropQuoted_span hq hi]
    refine ⟨n + 1, ?_, .round rfl (round?_span hq hi kept after) he⟩
    simp only [List.length_cons, List.length_append]
    omega

lemma run?_eq (text : List Char) : (Scan.mk [] text).run? = some (dropQuoted text) := by
  obtain ⟨n, -, he⟩ := exists_endsAfter [] text
  exact he.run?_eq

end Scan

variable {quote : Char} {text before inside : List Char}

lemma dropQuoted_append (h : ∀ c ∈ before, isQuote c = false) (rest : List Char) :
    dropQuoted (before ++ rest) = before ++ dropQuoted rest := by
  induction before with
  | nil => rfl
  | cons c before ih =>
    obtain ⟨hc, hb⟩ := List.forall_mem_cons.1 h
    rw [List.cons_append, dropQuoted_kept (by simp [hc]), ih hb, List.cons_append]

lemma count_stripQuoted_le_one (hq : isQuote quote = true) (text : List Char) :
    (stripQuoted text).count quote ≤ 1 := by
  rw [stripQuoted, count_trim hq]
  exact count_dropQuoted_le_one hq text

lemma stripQuoted_stripQuoted (text : List Char) : stripQuoted (stripQuoted text) = stripQuoted text := by
  have ht : stripQuoted (stripQuoted text) = trim (stripQuoted text) :=
    stripQuoted_eq_trim_iff.2 fun _ hq => count_stripQuoted_le_one hq text
  rw [ht, stripQuoted, Text.trim_trim]

lemma stripQuoted_span (hb : ∀ c ∈ before, isQuote c = false) (hq : isQuote quote = true)
    (hi : quote ∉ inside) (after : List Char) :
    stripQuoted (before ++ quote :: (inside ++ quote :: after)) = trim (before ++ dropQuoted after) := by
  rw [stripQuoted, dropQuoted_append hb, dropQuoted_span hq hi]

lemma fits_congr {other : List Char} (h : stripQuoted text = stripQuoted other) (casing : Casing) :
    casing.fits text = casing.fits other := by
  rw [fits, fits, h]

lemma hasCasing_congr {field : Field} {one two : Message} {text other : String}
    (h : stripQuoted text.toList = stripQuoted other.toList) (ho : field.of one = some text)
    (ht : field.of two = some other) : Check.hasCasing field one = Check.hasCasing field two := by
  funext condition value
  rw [Check.hasCasing, Check.hasCasing, ho, ht]
  cases Check.items? value with
  | none => rfl
  | some names => simp only [fits_congr h]

/-- Stripping a text comes to an end, leaves no two quotes of a kind, and does nothing the second time,
so that a text has the shapes of what is left of it. What stands in the first quoted span of a text has
no part in what is left, in the shapes of the text, or in what a rule on letter case says of it. -/
theorem stripping_settles :
    (∀ text, (∃ n kept, n ≤ text.length ∧ (Scan.mk [] text).EndsAfter n kept ∧
        trim kept = stripQuoted text) ∧
      (∀ quote, isQuote quote = true → (stripQuoted text).count quote ≤ 1) ∧
      stripQuoted (stripQuoted text) = stripQuoted text ∧
      ∀ casing : Casing, casing.fits (stripQuoted text) = casing.fits text) ∧
    ∀ before quote inside other after, (∀ c ∈ before, isQuote c = false) → isQuote quote = true →
      quote ∉ inside → quote ∉ other →
      let text := before ++ quote :: (inside ++ quote :: after)
      let varied := before ++ quote :: (other ++ quote :: after)
      stripQuoted text = trim (before ++ dropQuoted after) ∧
        stripQuoted text = stripQuoted varied ∧
        (∀ casing : Casing, casing.fits text = casing.fits varied) ∧
        ∀ (field : Field) (one two : Message), field.of one = some (String.ofList text) →
          field.of two = some (String.ofList varied) →
          Check.hasCasing field one = Check.hasCasing field two := by
  constructor
  · intro text
    obtain ⟨n, hn, he⟩ := Scan.exists_endsAfter [] text
    exact ⟨⟨n, _, hn, he, rfl⟩, fun _ hq => count_stripQuoted_le_one hq text, stripQuoted_stripQuoted text,
      fits_congr (stripQuoted_stripQuoted text)⟩
  · intro before quote inside other after hb hq hi ho text varied
    have hleft : stripQuoted text = trim (before ++ dropQuoted after) := stripQuoted_span hb hq hi after
    have hvaried : stripQuoted text = stripQuoted varied :=
      hleft.trans (stripQuoted_span hb hq ho after).symm
    refine ⟨hleft, hvaried, fits_congr hvaried, fun field one two h₁ h₂ => ?_⟩
    exact hasCasing_congr (by rwa [String.toList_ofList, String.toList_ofList]) h₁ h₂

/-- The apostrophe pairs with a quote inside the double quotes, so that one of these is kept. -/
theorem stripping_settles_crossed :
    stripQuoted "it's \"a 'b\" c'".toList = "itb\" c'".toList ∧
    stripQuoted "itb\" c'".toList = "itb\" c'".toList ∧
    (∀ c ∈ "use ".toList, isQuote c = false) ∧ '`' ∉ "Foo 'Bar".toList ∧
    stripQuoted ("use ".toList ++ '`' :: ("Foo 'Bar".toList ++ '`' :: " it's".toList)) =
      trim ("use ".toList ++ dropQuoted " it's".toList) ∧
    ∀ casing : Casing,
      casing.fits ("use ".toList ++ '`' :: ("Foo 'Bar".toList ++ '`' :: " it's".toList)) =
        casing.fits ("use ".toList ++ '`' :: ([] ++ '`' :: " it's".toList)) := by
  obtain ⟨hany, hspan⟩ := stripping_settles
  obtain ⟨-, -, htwice, -⟩ := hany "it's \"a 'b\" c'".toList
  have hcrossed : stripQuoted "it's \"a 'b\" c'".toList = "itb\" c'".toList := by decide +kernel
  have hall : "use ".toList.all (!isQuote ·) = true := by decide
  have hb : ∀ c ∈ "use ".toList, isQuote c = false := fun c hc => by
    simpa using List.all_eq_true.1 hall c hc
  have hi : '`' ∉ "Foo 'Bar".toList := by decide
  obtain ⟨hleft, -, hfits, -⟩ :=
    hspan "use ".toList '`' "Foo 'Bar".toList [] " it's".toList hb rfl hi List.not_mem_nil
  exact ⟨hcrossed, hcrossed ▸ htwice, hb, hi, hleft, hfits⟩

end CommitStyle.Casing
