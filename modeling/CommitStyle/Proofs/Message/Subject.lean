import CommitStyle.Proofs.Message.Division
import CommitStyle.Rule

/-!
# Messages without a subject

The header of a message is trimmed before it is read, and the blank behind the colon goes with the
rest. A header that has nothing else behind its colon is therefore not conventional, and neither its
type nor its scope is read.
-/

namespace CommitStyle

open Unicode (isWord isBlank)
open Text

namespace Header

/-- A header that can be all of a message, whatever stands behind the colon. -/
structure IsLine (header : Header) : Prop where
  type_ne_nil : header.type ≠ []
  type_word : ∀ c ∈ header.type, isWord c = true
  scope_ne_nil : ∀ scope, header.scope = some scope → scope ≠ []
  scope_inside : ∀ scope, header.scope = some scope → '(' ∉ scope ∧ ')' ∉ scope ∧ '\n' ∉ scope
  subject_newline : '\n' ∉ header.subject
  subject_carriage : header.subject.getLast? ≠ some '\r'

variable {header : Header} {line : List Char}

lemma not_isBlankLine_subject (h : parse? (trimEnd line) = some header) :
    isBlankLine header.subject = false := by
  obtain ⟨hr, -⟩ := parse?_eq_some_iff.1 h
  obtain ⟨front, hf⟩ := header.isSuffix_blank_subject_render
  have hlast : (trimEnd line).getLast? =
      some ((' ' :: header.subject).getLast (List.cons_ne_nil _ _)) := by
    rw [← hr, ← hf, List.getLast?_append, List.getLast?_eq_some_getLast (List.cons_ne_nil _ _)]
    rfl
  have hnb : isBlankLine (' ' :: header.subject) = false :=
    not_isBlankLine_of_getLast? (List.getLast?_eq_some_getLast (List.cons_ne_nil _ _))
      (getLast?_dropEndWhile hlast)
  exact hnb

namespace IsLine

lemma isCleanLine_render (h : header.IsLine) : Message.IsCleanLine header.render := by
  refine ⟨?_, head?_render_ne h.type_ne_nil h.type_word, fun hr => ?_⟩
  · exact newline_not_mem_render h.type_word (fun scope hs => (h.scope_inside scope hs).2.2)
      h.subject_newline
  · obtain ⟨front, hf⟩ := header.isSuffix_blank_subject_render
    rw [← hf, List.getLast?_append, List.getLast?_cons] at hr
    cases hs : header.subject.getLast? with
    | none => simp [hs] at hr
    | some c =>
      rw [hs] at hr
      exact h.subject_carriage (hs.trans hr)

lemma parse?_render (h : header.IsLine) : parse? header.render = some header :=
  Header.parse?_render h.type_word fun scope hs =>
    ⟨(h.scope_inside scope hs).1, (h.scope_inside scope hs).2.1⟩

lemma parse?_trimEnd_render_of_blank (h : header.IsLine)
    (hb : isBlankLine header.subject = true) : parse? (trimEnd header.render) = none := by
  cases hp : parse? (trimEnd header.render) with
  | none => rfl
  | some other =>
    -- With the blanks put back, the other header would be this one, and its subject is not blank.
    obtain ⟨hr, ht, hs⟩ := parse?_eq_some_iff.1 hp
    obtain ⟨blanks, hblanks⟩ := isPrefix_trimEnd header.render
    have hother :
        parse? header.render = some { other with subject := other.subject ++ blanks } := by
      refine parse?_eq_some_iff.2 ⟨?_, ht, hs⟩
      rw [← hblanks, ← hr]
      simp [render]
    have hsubject : header.subject = other.subject ++ blanks :=
      congrArg subject (Option.some.inj (h.parse?_render.symm.trans hother))
    rw [hsubject, isBlankLine_append, not_isBlankLine_subject hp, Bool.false_and] at hb
    cases hb

lemma parse?_trimEnd_render_of_not_blank (h : header.IsLine)
    (hb : isBlankLine header.subject = false) :
    parse? (trimEnd header.render) = some { header with subject := trimEnd header.subject } := by
  refine parse?_eq_some_iff.2 ⟨?_, h.type_word, fun scope hs => ?_⟩
  · have hr : ∀ subject, { header with subject }.render =
        ({ header with subject := [] } : Header).render ++ subject := by
      intro subject
      simp [render]
    rw [hr, ← trimEnd_append_of_not_blank hb, ← hr]
  · exact ⟨(h.scope_inside scope hs).1, (h.scope_inside scope hs).2.1⟩

end IsLine

end Header

namespace Message

/-- The rule of this name finds fault with the message where it is set to `never`. -/
def IsFaultedBy (message : Message) (name : String) : Prop :=
  ∃ rule, Rule.builtin? name = some rule ∧
    ∀ value, (rule.check message .never value).valid = false

lemma isFaultedBy_iff {message : Message} (field : Field) {name : String}
    (hr : Rule.builtin? name = some ⟨name, .none, Check.isEmpty field⟩) :
    message.IsFaultedBy name ↔ field.of message = none := by
  have hv : ∀ value, (Check.isEmpty field message .never value).valid = !(field.of message).isNone :=
    fun _ => rfl
  constructor
  · rintro ⟨rule, hrule, h⟩
    cases hr.symm.trans hrule
    have hn := h none
    rw [hv, Bool.not_eq_false'] at hn
    exact Option.isNone_iff_eq_none.1 hn
  · intro hn
    refine ⟨_, hr, fun value => ?_⟩
    rw [hv, hn]
    rfl

section OfLines

variable (raw : String) {first : List Char} (below : List (List Char))

lemma parts_of_parse?_eq_none (h : Header.parse? (trimEnd first) = none) :
    (ofLines raw first below).type = none ∧ (ofLines raw first below).scope = none ∧
      (ofLines raw first below).subject = none := by
  rw [ofLines, h]
  exact ⟨rfl, rfl, rfl⟩

lemma parse?_eq_none_of_subject (h : (ofLines raw first below).subject = none) :
    Header.parse? (trimEnd first) = none := by
  cases hp : Header.parse? (trimEnd first) with
  | none => rfl
  | some header =>
    have hs : (ofLines raw first below).subject = some (String.ofList header.subject) := by
      change ((Header.parse? (trimEnd first)).bind _).map _ = _
      rw [hp, Option.bind_some, nonblank?_eq_some (Header.not_isBlankLine_subject hp)]
      rfl
    rw [hs] at h
    cases h

end OfLines

/-- A message without a subject has no type and no scope either, and the rule on empty types finds
fault with it. -/
theorem type_eq_none_of_subject_eq_none {raw : String} {message : Message}
    (h : parse? raw = some message) (hs : message.subject = none) :
    message.type = none ∧ message.scope = none ∧ message.IsFaultedBy "type-empty" := by
  obtain ⟨first, below, -, rfl⟩ := parse?_eq_some_iff.1 h
  obtain ⟨ht, hscope, -⟩ := parts_of_parse?_eq_none raw below (parse?_eq_none_of_subject raw below hs)
  exact ⟨ht, hscope, (isFaultedBy_iff .type rfl).2 ht⟩

lemma cleanLines_render {header : Header} (h : header.IsLine) :
    cleanLines header.render = [header.render] := by
  have hc := cleanLines_joinLines (List.cons_ne_nil header.render [])
    (by simpa using h.isCleanLine_render) (by simpa using header.not_isBlankLine_render)
    (by simpa using header.not_isBlankLine_render)
  rwa [joinLines_singleton] at hc

/-- A header that is all of the message is read just in case something stands behind its colon.
Otherwise the rule on empty types finds fault with it as well as that on empty subjects. -/
theorem isFaultedBy_iff_subject_blank (header : Header) (h : header.IsLine) :
    ∃ message, parse? (String.ofList header.render) = some message ∧
      (message.IsFaultedBy "subject-empty" ↔ isBlankLine header.subject = true) ∧
      (message.IsFaultedBy "type-empty" ↔ isBlankLine header.subject = true) ∧
      (isBlankLine header.subject = true →
        message.type = none ∧ message.scope = none ∧ message.subject = none) ∧
      (isBlankLine header.subject = false →
        message.type = some (String.ofList header.type) ∧
          message.scope = header.scope.map String.ofList ∧
          message.subject = some (String.ofList (trimEnd header.subject))) := by
  have hp : parse? (String.ofList header.render) =
      some (ofLines (String.ofList header.render) header.render []) :=
    parse?_eq_some_iff.2 ⟨_, _, by rw [String.toList_ofList, cleanLines_render h], rfl⟩
  refine ⟨_, hp, ?_⟩
  rw [isFaultedBy_iff .subject rfl, isFaultedBy_iff .type rfl]
  cases hb : isBlankLine header.subject with
  | true =>
    have hparts := parts_of_parse?_eq_none (String.ofList header.render) []
      (h.parse?_trimEnd_render_of_blank hb)
    exact ⟨iff_of_true hparts.2.2 rfl, iff_of_true hparts.1 rfl, fun _ => hparts, nofun⟩
  | false =>
    obtain ⟨ht, hscope, hs⟩ := parts_of_parse?_eq_some (String.ofList header.render) []
      (h.parse?_trimEnd_render_of_not_blank hb) h.type_ne_nil h.scope_ne_nil (by simpa using hb)
    refine ⟨iff_of_false ?_ nofun, iff_of_false ?_ nofun, nofun, fun _ => ⟨ht, hscope, hs⟩⟩
    · exact fun hn => Option.some_ne_none _ (hs.symm.trans hn)
    · exact fun hn => Option.some_ne_none _ (ht.symm.trans hn)

def unsaid : Header := ⟨"feat".toList, some "api".toList, true, "\t ".toList⟩

lemma isLine_unsaid : unsaid.IsLine where
  type_ne_nil := by decide
  type_word := List.all_eq_true.1 (by decide +kernel)
  scope_ne_nil := by
    rintro scope ⟨⟩
    decide
  scope_inside := by
    rintro scope ⟨⟩
    decide
  subject_newline := by decide
  subject_carriage := by decide

theorem isFaultedBy_iff_subject_blank_unsaid :
    unsaid.IsLine ∧ isBlankLine unsaid.subject = true ∧
    ∃ message, parse? "feat(api)!: \t " = some message ∧ message.IsFaultedBy "subject-empty" ∧
      message.IsFaultedBy "type-empty" ∧ message.type = none ∧ message.scope = none ∧
      message.subject = none := by
  have hb : isBlankLine unsaid.subject = true := by decide +kernel
  obtain ⟨message, hp, hs, ht, hparts, -⟩ := isFaultedBy_iff_subject_blank unsaid isLine_unsaid
  exact ⟨isLine_unsaid, hb, message, hp, hs.2 hb, ht.2 hb, hparts hb⟩

/-- The type of a header that goes on with one space is not read, and the rule on empty types finds
fault with it. -/
theorem parse?_unsaid_type :
    Header.IsLine ⟨"feat".toList, none, false, []⟩ ∧
    String.ofList (Header.render ⟨"feat".toList, none, false, []⟩) = "feat: " ∧
    (∃ message, parse? "feat: " = some message ∧ message.IsFaultedBy "type-empty") ∧
    ¬ ∃ message, parse? "feat: " = some message ∧ message.type = some "feat" := by
  have hp : parse? "feat: " = some (.ofLines "feat: " "feat: ".toList []) := by decide +kernel
  have ht : (ofLines "feat: " "feat: ".toList []).type = none := by decide +kernel
  refine ⟨⟨by decide, List.all_eq_true.1 (by decide +kernel), nofun, nofun, nofun, nofun⟩,
    by decide, ⟨_, hp, (isFaultedBy_iff .type rfl).2 ht⟩, ?_⟩
  rintro ⟨message, hm, hfeat⟩
  cases hp.symm.trans hm
  rw [ht] at hfeat
  cases hfeat

end Message

end CommitStyle
