import CommitStyle.Message
import CommitStyle.Proofs.Lines
import Mathlib.Data.List.TakeWhile

/-!
# The parts of a message

A header that is written can be read again. A trailer begins with a letter. The last paragraph of
lines is found behind the last blank one.
-/

namespace CommitStyle

open Unicode (isWord isBlank)
open Text (isBlankLine)

lemma not_isBlank_of_isAlpha {c : Char} (h : c.isAlpha = true) : isBlank c = false := by
  have hc : (65 ≤ c.toNat ∧ c.toNat ≤ 90) ∨ (97 ≤ c.toNat ∧ c.toNat ≤ 122) := by
    change (decide ('A'.val ≤ c.val ∧ c.val ≤ 'Z'.val) ||
      (decide ('a'.val ≤ c.val) && decide (c.val ≤ 'z'.val))) = true at h
    simpa [UInt32.le_iff_toNat_le] using h
  simp only [isBlank, Unicode.Spans.contains, Unicode.whiteSpace, List.any_cons, List.any_nil,
    Bool.or_false, Bool.or_eq_false_iff, Bool.and_eq_false_iff, decide_eq_false_iff_not]
  omega

lemma not_isBlank_of_isWord {c : Char} (h : isWord c = true) : isBlank c = false := by
  rw [Bool.eq_false_iff]
  intro hb
  have hw : isWord c = false := Text.eq_false_of_isBlank (by decide +kernel) hb
  rw [h] at hw
  cases hw

namespace Header

lemma readScope_of_head? {rest : List Char} (h : rest.head? ≠ some '(') :
    readScope rest = some (none, rest) := by
  unfold readScope
  split
  · exact absurd rfl h
  · rfl

lemma readScope_parenthesised {scope : List Char} (h : '(' ∉ scope ∧ ')' ∉ scope)
    (rest : List Char) : readScope ('(' :: scope ++ ')' :: rest) = some (some scope, rest) := by
  have hx : ∀ c ∈ scope, (c != '(' && c != ')') = true := by
    intro c hc
    have hl : c ≠ '(' := ne_of_mem_of_not_mem hc h.1
    have hr : c ≠ ')' := ne_of_mem_of_not_mem hc h.2
    simp [hl, hr]
  have hy : ∀ c, (')' :: rest).head? = some c → (c != '(' && c != ')') = false := by
    rintro c ⟨⟩
    rfl
  rw [List.cons_append, readScope, Text.dropWhile_append_eq hx hy, Text.takeWhile_append_eq hx hy]
  rfl

def afterScope (bang : Bool) (subject : List Char) : List Char :=
  (if bang then ['!'] else []) ++ ':' :: ' ' :: subject

lemma head?_afterScope (bang : Bool) (subject : List Char) :
    (afterScope bang subject).head? = some '!' ∨ (afterScope bang subject).head? = some ':' := by
  cases bang
  · exact .inr rfl
  · exact .inl rfl

lemma readBang_afterScope (bang : Bool) (subject : List Char) :
    readBang (afterScope bang subject) = (bang, ':' :: ' ' :: subject) := by
  cases bang <;> rfl

def afterType (scope : Option (List Char)) (bang : Bool) (subject : List Char) : List Char :=
  match scope with
  | some scope => '(' :: scope ++ ')' :: afterScope bang subject
  | none => afterScope bang subject

lemma render_eq_append (header : Header) :
    header.render = header.type ++ afterType header.scope header.bang header.subject := by
  obtain ⟨type, scope, bang, subject⟩ := header
  cases scope <;> simp [render, afterType, afterScope]

lemma isSuffix_blank_subject_render (header : Header) :
    ' ' :: header.subject <:+ header.render := by
  obtain ⟨type, scope, bang, subject⟩ := header
  have hb : ' ' :: subject <:+ afterScope bang subject :=
    List.IsSuffix.trans ⟨[':'], rfl⟩ (List.suffix_append _ _)
  rw [render_eq_append]
  refine List.IsSuffix.trans ?_ (List.suffix_append _ _)
  cases scope with
  | none => exact hb
  | some scope => exact hb.trans ((List.suffix_cons _ _).trans (List.suffix_append _ _))

lemma isSuffix_subject_render (header : Header) : header.subject <:+ header.render :=
  (List.suffix_cons _ _).trans header.isSuffix_blank_subject_render

lemma isPrefix_type_render (header : Header) : header.type <+: header.render := by
  rw [render_eq_append]
  exact List.prefix_append _ _

lemma isInfix_scope_render {header : Header} {scope : List Char} (h : header.scope = some scope) :
    scope <:+: header.render := by
  rw [render_eq_append, h]
  exact ⟨header.type ++ ['('], ')' :: afterScope header.bang header.subject, by simp [afterType]⟩

lemma newline_not_mem_render {header : Header} (ht : ∀ c ∈ header.type, isWord c = true)
    (hs : ∀ scope, header.scope = some scope → '\n' ∉ scope) (hj : '\n' ∉ header.subject) :
    '\n' ∉ header.render := by
  have hw : isWord '\n' = false := by decide +kernel
  have hn : '\n' ∉ header.type := by
    intro hm
    rw [ht _ hm] at hw
    cases hw
  obtain ⟨type, scope, bang, subject⟩ := header
  cases scope with
  | none => cases bang <;> simp_all [render]
  | some scope => cases bang <;> simp_all [render]

lemma not_isBlankLine_render (header : Header) : isBlankLine header.render = false := by
  rw [isBlankLine, List.all_eq_false]
  exact ⟨':', by simp [render], by decide⟩

lemma head?_render_ne {header : Header} (hn : header.type ≠ [])
    (ht : ∀ c ∈ header.type, isWord c = true) : header.render.head? ≠ some '#' := by
  intro hc
  have hw : isWord '#' = false := by decide +kernel
  rw [render_eq_append] at hc
  cases hl : header.type with
  | nil => exact hn hl
  | cons c rest =>
    rw [hl] at hc
    cases hc
    rw [ht '#' (hl ▸ .head _)] at hw
    cases hw

lemma not_isWord_of_head?_afterType {scope : Option (List Char)} {bang : Bool}
    {subject : List Char} {c : Char} (h : (afterType scope bang subject).head? = some c) :
    isWord c = false := by
  have hw : isWord '(' = false ∧ isWord '!' = false ∧ isWord ':' = false := by decide +kernel
  cases scope with
  | some scope =>
    cases h
    exact hw.1
  | none =>
    rcases head?_afterScope bang subject with hb | hb
    · cases h.symm.trans hb
      exact hw.2.1
    · cases h.symm.trans hb
      exact hw.2.2

lemma readScope_afterType {scope : Option (List Char)} (bang : Bool) (subject : List Char)
    (hs : ∀ text, scope = some text → '(' ∉ text ∧ ')' ∉ text) :
    readScope (afterType scope bang subject) = some (scope, afterScope bang subject) := by
  cases scope with
  | some scope => exact readScope_parenthesised (hs scope rfl) _
  | none =>
    refine readScope_of_head? fun h => ?_
    rcases head?_afterScope bang subject with hb | hb
    · cases h.symm.trans hb
    · cases h.symm.trans hb

lemma parse?_render {header : Header} (ht : ∀ c ∈ header.type, isWord c = true)
    (hs : ∀ scope, header.scope = some scope → '(' ∉ scope ∧ ')' ∉ scope) :
    parse? header.render = some header := by
  have hw : ∀ c, (afterType header.scope header.bang header.subject).head? = some c →
      isWord c = false := fun _ => not_isWord_of_head?_afterType
  rw [parse?, render_eq_append, Text.dropWhile_append_eq ht hw, Text.takeWhile_append_eq ht hw,
    readScope_afterType _ _ hs]
  simp only [Option.bind_eq_bind, Option.bind_some, readBang_afterScope]
  rfl

lemma readScope_eq_some {text rest : List Char} {scope : Option (List Char)}
    (h : readScope text = some (scope, rest)) :
    (scope.map fun inside => '(' :: inside ++ [')']).getD [] ++ rest = text ∧
      ∀ inside, scope = some inside → '(' ∉ inside ∧ ')' ∉ inside := by
  unfold readScope at h
  split at h
  next text =>
    dsimp only at h
    split at h
    next after hd =>
      cases h
      refine ⟨?_, ?_⟩
      · conv_rhs => rw [← List.takeWhile_append_dropWhile (p := fun c => c != '(' && c != ')')
          (l := text), hd]
        simp
      · rintro _ ⟨⟩
        exact ⟨fun hm => by simpa using List.mem_takeWhile_imp hm,
          fun hm => by simpa using List.mem_takeWhile_imp hm⟩
    next => cases h
  next =>
    cases h
    exact ⟨rfl, nofun⟩

lemma readBang_append (text : List Char) :
    (if (readBang text).1 then ['!'] else []) ++ (readBang text).2 = text := by
  unfold readBang
  split <;> rfl

lemma readSubject_eq_some {text subject : List Char} (h : readSubject text = some subject) :
    ':' :: ' ' :: subject = text := by
  unfold readSubject at h
  split at h
  · exact congrArg (':' :: ' ' :: ·) (Option.some.inj h).symm
  · cases h

lemma parse?_eq_some_iff {line : List Char} {header : Header} :
    parse? line = some header ↔ header.render = line ∧ (∀ c ∈ header.type, isWord c = true) ∧
      ∀ scope, header.scope = some scope → '(' ∉ scope ∧ ')' ∉ scope := by
  constructor
  · intro h
    obtain ⟨⟨scope, rest⟩, hs, h⟩ := Option.bind_eq_some_iff.1 h
    obtain ⟨subject, hj, h⟩ := Option.bind_eq_some_iff.1 h
    obtain ⟨hscope, hinside⟩ := readScope_eq_some hs
    obtain rfl := Option.some.inj h
    have hrest : afterScope (readBang rest).1 subject = rest := by
      rw [afterScope, readSubject_eq_some hj]
      exact readBang_append rest
    refine ⟨?_, fun c => List.mem_takeWhile_imp, hinside⟩
    rw [render_eq_append]
    change line.takeWhile isWord ++ afterType scope (readBang rest).1 subject = line
    have htype : afterType scope (readBang rest).1 subject = line.dropWhile isWord := by
      rw [← hscope]
      cases scope with
      | none => exact hrest
      | some scope => simp [afterType, hrest]
    rw [htype, List.takeWhile_append_dropWhile]
  · rintro ⟨rfl, ht, hs⟩
    exact parse?_render ht hs

end Header

namespace Trailer

lemma isAlpha_of_isTrailer {line : List Char} (h : isTrailer line = true) :
    ∃ c rest, line = c :: rest ∧ c.isAlpha = true := by
  have hb : breakingChange = 'B' :: "REAKING CHANGE".toList := by decide
  rw [isTrailer, Bool.or_eq_true, Bool.and_eq_true, List.isPrefixOf_iff_prefix, hb] at h
  cases h with
  | inl h =>
    cases line with
    | nil => cases h
    | cons c rest =>
      rw [hasToken, Bool.and_eq_true] at h
      exact ⟨c, rest, rfl, h.1⟩
  | inr h =>
    obtain ⟨rest, hr⟩ := h.1
    exact ⟨'B', _, hr.symm, by decide⟩

lemma isBlock_iff {block : List (List Char)} :
    isBlock block = true ↔ ∃ first rest, block = first :: rest ∧ isTrailer first = true ∧
      ∀ line ∈ rest, isTrailer line = true ∨ line.head? = some ' ' ∨ line.head? = some '\t' := by
  have hi : ∀ line, isIndented line = true ↔ line.head? = some ' ' ∨ line.head? = some '\t' := by
    intro line
    cases line with
    | nil => simp [isIndented]
    | cons c rest => simp [isIndented]
  cases block with
  | nil => simp [isBlock]
  | cons first rest => simp [isBlock, hi]

lemma isSuffix_lastParagraph (ls : List (List Char)) : lastParagraph ls <:+ ls := by
  rw [lastParagraph, ← List.reverse_prefix, List.reverse_reverse]
  exact List.takeWhile_prefix _

lemma exists_append_lastParagraph (ls : List (List Char)) :
    ∃ above, above ++ lastParagraph ls = ls ∧
      ∀ line, above.getLast? = some line → isBlankLine line = true := by
  refine ⟨(ls.reverse.dropWhile (!isBlankLine ·)).reverse, ?_, fun line hl => ?_⟩
  · rw [lastParagraph, ← List.reverse_append, List.takeWhile_append_dropWhile, List.reverse_reverse]
  · rw [List.getLast?_reverse] at hl
    simpa using Text.head?_dropWhile hl

lemma not_isBlankLine_of_mem_lastParagraph {ls : List (List Char)} {line : List Char}
    (h : line ∈ lastParagraph ls) : isBlankLine line = false := by
  have hp := List.mem_takeWhile_imp (List.mem_reverse.1 h)
  rwa [Bool.not_eq_true'] at hp

lemma lastParagraph_eq_self {ls : List (List Char)} (h : ∀ line ∈ ls, isBlankLine line = false) :
    lastParagraph ls = ls := by
  have hr : ∀ line ∈ ls.reverse, (!isBlankLine line) = true := by simpa using h
  rw [lastParagraph, List.takeWhile_eq_self_iff.2 hr, List.reverse_reverse]

lemma lastParagraph_append_cons {blank : List Char} (hb : isBlankLine blank = true)
    (above ls : List (List Char)) :
    lastParagraph (above ++ blank :: ls) = lastParagraph ls := by
  rw [lastParagraph, lastParagraph, List.reverse_append, List.reverse_cons, List.append_assoc,
    List.takeWhile_append]
  split
  next hl =>
    -- No line of the second part is blank, and the blank line ends the paragraph.
    have hs : ls.reverse.takeWhile (!isBlankLine ·) = ls.reverse :=
      (List.takeWhile_prefix _).eq_of_length hl
    simp [hb, hs]
  next => rfl

end Trailer

end CommitStyle
