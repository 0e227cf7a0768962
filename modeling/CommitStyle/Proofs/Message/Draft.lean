import CommitStyle.Proofs.Message.Cleaning
import CommitStyle.Proofs.Message.Parts

/-!
# Writing a message and reading it

A message is written as its header, its body and its footer, with a blank line between them. What is
read from it are the same parts, unless the end of the body would pass for a footer.
-/

namespace CommitStyle

open Unicode (isWord isBlank)
open Text

structure Trailer.IsFooter (block : List (List Char)) : Prop where
  trailers : ∃ first rest, block = first :: rest ∧ isTrailer first = true ∧
    ∀ line ∈ rest, isTrailer line = true ∨ line.head? = some ' ' ∨ line.head? = some '\t'
  nonblank : ∀ line ∈ block, isBlankLine line = false
  newline : ∀ line ∈ block, '\n' ∉ line
  carriage : ∀ line ∈ block, line.getLast? ≠ some '\r'
  trimmed : trim (joinLines block) = joinLines block

structure Draft where
  header : Header
  body : Option (List Char)
  footer : Option (List (List Char))

namespace Draft

def text (draft : Draft) : List Char :=
  draft.header.render ++
    (draft.body.map fun body => '\n' :: '\n' :: body).getD [] ++
    (draft.footer.map fun block => '\n' :: '\n' :: joinLines block).getD []

/-- What a draft has to keep to, so that its parts can be told from the message. -/
structure IsProper (draft : Draft) : Prop where
  type_ne_nil : draft.header.type ≠ []
  type_word : ∀ c ∈ draft.header.type, isWord c = true
  scope_ne_nil : ∀ scope, draft.header.scope = some scope → scope ≠ []
  scope_inside : ∀ scope, draft.header.scope = some scope →
    '(' ∉ scope ∧ ')' ∉ scope ∧ '\n' ∉ scope
  subject_nonblank : isBlankLine draft.header.subject = false
  subject_newline : '\n' ∉ draft.header.subject
  subject_trimmed : trimEnd draft.header.subject = draft.header.subject
  body_ne_nil : ∀ body, draft.body = some body → body ≠ []
  body_trimmed : ∀ body, draft.body = some body → trim body = body
  body_lines : ∀ body, draft.body = some body → ∀ line ∈ rawLines body,
    line.head? ≠ some '#' ∧ line.getLast? ≠ some '\r'
  footer : ∀ block, draft.footer = some block → Trailer.IsFooter block
  body_end : draft.footer = none → ∀ body, draft.body = some body →
    ¬ Trailer.IsFooter (Trailer.lastParagraph (rawLines body))

/-- The lines between the header and the footer, a blank line before the footer apart. -/
def bodyLines (draft : Draft) : List (List Char) :=
  (draft.body.map fun body => [] :: rawLines body).getD []

def below (draft : Draft) : List (List Char) :=
  draft.bodyLines ++ (draft.footer.map ([] :: ·)).getD []

end Draft

structure Message.Says (message : Message) (draft : Draft) : Prop where
  type : message.type = some (String.ofList draft.header.type)
  scope : message.scope = draft.header.scope.map String.ofList
  subject : message.subject = some (String.ofList draft.header.subject)
  body : message.body = draft.body.map String.ofList
  footer : message.footer = draft.footer.map fun block => String.ofList (joinLines block)
  footerStart_eq_none : draft.footer = none → message.footerStart = none
  footerStart : ∀ block, draft.footer = some block →
    ∃ start, message.footerStart = some start ∧
      message.lines.drop start = block.map String.ofList

namespace Trailer

variable {block : List (List Char)}

lemma IsFooter.ne_nil (h : IsFooter block) : block ≠ [] := by
  obtain ⟨first, rest, rfl, -⟩ := h.trailers
  exact List.cons_ne_nil _ _

lemma IsFooter.isCleanLine (h : IsFooter block) {line : List Char} (hl : line ∈ block) :
    Message.IsCleanLine line := by
  refine ⟨h.newline line hl, ?_, h.carriage line hl⟩
  have ht : ∀ line, isTrailer line = true → line.head? ≠ some '#' := by
    intro line ht
    obtain ⟨c, rest, rfl, hc⟩ := isAlpha_of_isTrailer ht
    rintro ⟨⟩
    exact absurd hc (by decide)
  obtain ⟨first, rest, rfl, hf, hr⟩ := h.trailers
  rcases List.mem_cons.1 hl with rfl | hl
  · exact ht line hf
  · rcases hr line hl with hr | hr | hr
    · exact ht line hr
    · rw [hr]
      decide
    · rw [hr]
      decide

end Trailer

namespace Message

lemma block?_of_trimmed {ls : List (List Char)} {text : List Char} (before after : List Char)
    (h : joinLines ls = before ++ text ++ after) (hb : isBlankLine before = true)
    (ht : trim text = text) (ha : isBlankLine after = true) (hn : text ≠ []) :
    block? ls = some text := by
  have hi : text.isEmpty = false := List.isEmpty_eq_false_iff.2 hn
  rw [block?, h, trim_append_append hb ht ha hn, hi]
  rfl

end Message

namespace Draft

variable {draft : Draft}

/-! ### The lines of a draft -/

lemma bodyLines_of_some {body : List Char} (h : draft.body = some body) :
    draft.bodyLines = [] :: rawLines body := by
  rw [bodyLines, h]
  rfl

lemma bodyLines_of_none (h : draft.body = none) : draft.bodyLines = [] := by
  rw [bodyLines, h]
  rfl

lemma below_of_some {block : List (List Char)} (h : draft.footer = some block) :
    draft.below = draft.bodyLines ++ [] :: block := by
  rw [below, h]
  rfl

lemma below_of_none (h : draft.footer = none) : draft.below = draft.bodyLines := by
  rw [below, h]
  exact List.append_nil _

lemma joinLines_bodyLines (first : List Char) :
    joinLines (first :: draft.bodyLines) =
      first ++ (draft.body.map fun body => '\n' :: '\n' :: body).getD [] := by
  cases hb : draft.body with
  | none =>
    rw [bodyLines_of_none hb, joinLines_singleton]
    exact (List.append_nil _).symm
  | some body =>
    rw [bodyLines_of_some hb, joinLines_cons _ (List.cons_ne_nil _ _),
      joinLines_cons _ (rawLines_ne_nil body), joinLines_rawLines]
    rfl

lemma text_eq_joinLines (h : ∀ block, draft.footer = some block → block ≠ []) :
    draft.text = joinLines (draft.header.render :: draft.below) := by
  rw [text, ← joinLines_bodyLines]
  cases hf : draft.footer with
  | none =>
    rw [below_of_none hf]
    exact List.append_nil _
  | some block =>
    rw [below_of_some hf, ← List.cons_append, joinLines_append (List.cons_ne_nil _ _)
      (List.cons_ne_nil _ _), joinLines_cons [] (h block hf)]
    rfl

namespace IsProper

lemma subject_ne_nil (h : draft.IsProper) : draft.header.subject ≠ [] :=
  Message.ne_nil_of_not_isBlankLine h.subject_nonblank

lemma getLast?_render (h : draft.IsProper) :
    draft.header.render.getLast? = draft.header.subject.getLast? := by
  obtain ⟨front, hf⟩ := Header.isSuffix_subject_render draft.header
  rw [← hf, List.getLast?_append, List.getLast?_eq_some_getLast h.subject_ne_nil]
  rfl

lemma trimEnd_render (h : draft.IsProper) : trimEnd draft.header.render = draft.header.render := by
  rw [trimEnd_eq_self_iff, h.getLast?_render]
  exact trimEnd_eq_self_iff.1 h.subject_trimmed

lemma isCleanLine_render (h : draft.IsProper) : Message.IsCleanLine draft.header.render := by
  refine ⟨?_, Header.head?_render_ne h.type_ne_nil h.type_word, fun hr => ?_⟩
  · exact Header.newline_not_mem_render h.type_word
      (fun scope hs => (h.scope_inside scope hs).2.2) h.subject_newline
  · rw [h.getLast?_render] at hr
    exact absurd (trimEnd_eq_self_iff.1 h.subject_trimmed _ hr) (by decide)

lemma isCleanLine_of_mem_bodyLines (h : draft.IsProper) {line : List Char}
    (hl : line ∈ draft.bodyLines) : Message.IsCleanLine line := by
  cases hb : draft.body with
  | none =>
    rw [bodyLines_of_none hb] at hl
    cases hl
  | some body =>
    rw [bodyLines_of_some hb] at hl
    rcases List.mem_cons.1 hl with rfl | hl
    · exact ⟨by simp, by simp, by simp⟩
    · obtain ⟨hc, hr⟩ := h.body_lines body hb line hl
      exact ⟨newline_not_mem_of_mem_rawLines hl, hc, hr⟩

lemma isCleanLine_of_mem_below (h : draft.IsProper) {line : List Char}
    (hl : line ∈ draft.below) : Message.IsCleanLine line := by
  cases hf : draft.footer with
  | none =>
    rw [below_of_none hf] at hl
    exact h.isCleanLine_of_mem_bodyLines hl
  | some block =>
    rw [below_of_some hf] at hl
    rcases List.mem_append.1 hl with hl | hl
    · exact h.isCleanLine_of_mem_bodyLines hl
    · rcases List.mem_cons.1 hl with rfl | hl
      · exact ⟨by simp, by simp, by simp⟩
      · exact (h.footer block hf).isCleanLine hl

lemma not_isBlankLine_getLast? (h : draft.IsProper) {line : List Char}
    (hl : (draft.header.render :: draft.below).getLast? = some line) :
    isBlankLine line = false := by
  cases hf : draft.footer with
  | some block =>
    have hn := (h.footer block hf).ne_nil
    rw [below_of_some hf, List.getLast?_cons, List.getLast?_append, List.getLast?_cons,
      List.getLast?_eq_some_getLast hn] at hl
    cases hl
    exact (h.footer block hf).nonblank _ (List.getLast_mem hn)
  | none =>
    rw [below_of_none hf] at hl
    cases hb : draft.body with
    | none =>
      rw [bodyLines_of_none hb] at hl
      cases hl
      exact draft.header.not_isBlankLine_render
    | some body =>
      rw [bodyLines_of_some hb, List.getLast?_cons, List.getLast?_cons,
        List.getLast?_eq_some_getLast (rawLines_ne_nil body)] at hl
      have ht := (trim_eq_self_iff.1 (h.body_trimmed body hb)).2
      refine not_isBlankLine_of_getLast?_rawLines ht (h.body_ne_nil body hb) ?_
      rw [List.getLast?_eq_some_getLast (rawLines_ne_nil body)]
      exact hl

lemma cleanLines_text (h : draft.IsProper) :
    Message.cleanLines draft.text = draft.header.render :: draft.below := by
  rw [text_eq_joinLines fun block hf => (h.footer block hf).ne_nil]
  refine Message.cleanLines_joinLines (List.cons_ne_nil _ _) ?_ ?_ ?_
  · intro line hl
    rcases List.mem_cons.1 hl with rfl | hl
    · exact h.isCleanLine_render
    · exact h.isCleanLine_of_mem_below hl
  · rintro line ⟨⟩
    exact draft.header.not_isBlankLine_render
  · exact fun line => h.not_isBlankLine_getLast?

lemma parse?_header (h : draft.IsProper) :
    Header.parse? (trimEnd draft.header.render) = some draft.header := by
  rw [h.trimEnd_render]
  refine Header.parse?_render h.type_word fun scope hs => ?_
  obtain ⟨hl, hr, -⟩ := h.scope_inside scope hs
  exact ⟨hl, hr⟩

/-! ### What is read from a draft -/

lemma linesAboveFooter?_of_some (h : draft.IsProper) {block : List (List Char)}
    (hf : draft.footer = some block) :
    Message.linesAboveFooter? draft.below = some (draft.bodyLines.length + 1) := by
  have hblock := h.footer block hf
  have hp : Trailer.lastParagraph draft.below = block := by
    rw [below_of_some hf, Trailer.lastParagraph_append_cons rfl,
      Trailer.lastParagraph_eq_self hblock.nonblank]
  have hlen : draft.below.length - block.length = draft.bodyLines.length + 1 := by
    rw [below_of_some hf, List.length_append, List.length_cons]
    omega
  rw [Message.linesAboveFooter?, hp, if_pos (Trailer.isBlock_iff.2 hblock.trailers), hlen]

lemma isFooter_of_isBlock (h : draft.IsProper) {body : List Char} (hb : draft.body = some body)
    (hi : Trailer.isBlock (Trailer.lastParagraph (rawLines body)) = true) :
    Trailer.IsFooter (Trailer.lastParagraph (rawLines body)) := by
  have hs := Trailer.isSuffix_lastParagraph (rawLines body)
  obtain ⟨first, rest, hp, ht, hr⟩ := Trailer.isBlock_iff.1 hi
  obtain ⟨c, cs, rfl, hc⟩ := Trailer.isAlpha_of_isTrailer ht
  -- The paragraph begins with the letter of a trailer and ends where the body ends.
  have hhead : (joinLines (Trailer.lastParagraph (rawLines body))).head? = some c := by
    rw [hp, head?_joinLines (List.cons_ne_nil _ _)]
    rfl
  have hlast : (joinLines (Trailer.lastParagraph (rawLines body))).getLast? = body.getLast? := by
    have hn : joinLines (Trailer.lastParagraph (rawLines body)) ≠ [] := by
      intro hn
      rw [hn] at hhead
      cases hhead
    rw [← getLast?_joinLines_of_suffix hs hn, joinLines_rawLines]
  refine ⟨⟨_, rest, hp, ht, hr⟩, fun _ => Trailer.not_isBlankLine_of_mem_lastParagraph,
    fun _ hl => newline_not_mem_of_mem_rawLines (hs.subset hl),
    fun line hl => (h.body_lines body hb line (hs.subset hl)).2, trim_eq_self_iff.2 ⟨?_, ?_⟩⟩
  · rw [trimStart_eq_self_iff, hhead]
    rintro _ ⟨⟩
    exact not_isBlank_of_isAlpha hc
  · rw [trimEnd_eq_self_iff, hlast]
    exact trimEnd_eq_self_iff.1 (trim_eq_self_iff.1 (h.body_trimmed body hb)).2

lemma linesAboveFooter?_of_none (h : draft.IsProper) (hf : draft.footer = none) :
    Message.linesAboveFooter? draft.below = none := by
  refine if_neg fun hi => ?_
  rw [below_of_none hf] at hi
  cases hb : draft.body with
  | none =>
    rw [bodyLines_of_none hb] at hi
    cases hi
  | some body =>
    rw [bodyLines_of_some hb, ← List.nil_append ([] :: rawLines body),
      Trailer.lastParagraph_append_cons rfl] at hi
    exact h.body_end hf body hb (h.isFooter_of_isBlock hb hi)

lemma block?_bodyLines (h : draft.IsProper) {rest : List (List Char)} (hr : rest = [] ∨ rest = [[]]) :
    Message.block? (draft.bodyLines ++ rest) = draft.body := by
  cases hb : draft.body with
  | none =>
    rw [bodyLines_of_none hb]
    rcases hr with rfl | rfl <;> rfl
  | some body =>
    rw [bodyLines_of_some hb]
    have hj : joinLines ([] :: rawLines body) = '\n' :: body := by
      rw [joinLines_cons _ (rawLines_ne_nil body), joinLines_rawLines]
      rfl
    rcases hr with rfl | rfl
    · rw [List.append_nil]
      exact Message.block?_of_trimmed ['\n'] [] (by simpa using hj) rfl
        (h.body_trimmed body hb) rfl (h.body_ne_nil body hb)
    · refine Message.block?_of_trimmed ['\n'] ['\n'] ?_ rfl
        (h.body_trimmed body hb) rfl (h.body_ne_nil body hb)
      rw [joinLines_append (List.cons_ne_nil _ _) (List.cons_ne_nil _ _), hj]
      rfl

lemma block?_footer (h : draft.IsProper) {block : List (List Char)}
    (hf : draft.footer = some block) : Message.block? block = some (joinLines block) := by
  obtain ⟨first, rest, hb, ht, -⟩ := (h.footer block hf).trailers
  obtain ⟨c, cs, rfl, -⟩ := Trailer.isAlpha_of_isTrailer ht
  refine Message.block?_of_trimmed [] [] (List.append_nil _).symm rfl
    (h.footer block hf).trimmed rfl fun hn => ?_
  have hhead := head?_joinLines (List.cons_ne_nil c cs) rest
  rw [← hb, hn] at hhead
  cases hhead

lemma body_ofLines (h : draft.IsProper) (raw : String) :
    (Message.ofLines raw draft.header.render draft.below).body =
      draft.body.map String.ofList := by
  change (Message.block? (draft.below.take
    ((Message.linesAboveFooter? draft.below).getD draft.below.length))).map _ = _
  cases hf : draft.footer with
  | none =>
    have hr := h.block?_bodyLines (.inl rfl)
    rw [List.append_nil] at hr
    rw [h.linesAboveFooter?_of_none hf, Option.getD_none, List.take_length, below_of_none hf, hr]
  | some block =>
    have ht : draft.below.take (draft.bodyLines.length + 1) = draft.bodyLines ++ [[]] := by
      rw [below_of_some hf, List.take_length_add_append]
      rfl
    rw [h.linesAboveFooter?_of_some hf, Option.getD_some, ht, h.block?_bodyLines (.inr rfl)]

lemma footer_ofLines (h : draft.IsProper) (raw : String) :
    (Message.ofLines raw draft.header.render draft.below).footer =
      draft.footer.map fun block => String.ofList (joinLines block) := by
  change ((Message.linesAboveFooter? draft.below).bind
    fun n => Message.block? (draft.below.drop n)).map _ = _
  cases hf : draft.footer with
  | none =>
    rw [h.linesAboveFooter?_of_none hf]
    rfl
  | some block =>
    have hd : draft.below.drop (draft.bodyLines.length + 1) = block := by
      rw [below_of_some hf, List.drop_length_add_append]
      rfl
    rw [h.linesAboveFooter?_of_some hf, Option.bind_some, hd, h.block?_footer hf]
    rfl

lemma headerParts_ofLines (h : draft.IsProper) (raw : String) :
    (Message.ofLines raw draft.header.render draft.below).type =
        some (String.ofList draft.header.type) ∧
      (Message.ofLines raw draft.header.render draft.below).scope =
        draft.header.scope.map String.ofList ∧
      (Message.ofLines raw draft.header.render draft.below).subject =
        some (String.ofList draft.header.subject) :=
  Message.parts_of_parse?_eq_some raw draft.below h.parse?_header h.type_ne_nil h.scope_ne_nil
    h.subject_nonblank

lemma says_ofLines (h : draft.IsProper) (raw : String) :
    (Message.ofLines raw draft.header.render draft.below).Says draft where
  type := (h.headerParts_ofLines raw).1
  scope := (h.headerParts_ofLines raw).2.1
  subject := (h.headerParts_ofLines raw).2.2
  body := h.body_ofLines raw
  footer := h.footer_ofLines raw
  footerStart_eq_none hf := by
    change (Message.linesAboveFooter? draft.below).map _ = _
    rw [h.linesAboveFooter?_of_none hf]
    rfl
  footerStart block hf := by
    refine ⟨draft.bodyLines.length + 2, ?_, ?_⟩
    · change (Message.linesAboveFooter? draft.below).map _ = _
      rw [h.linesAboveFooter?_of_some hf]
      rfl
    · change (draft.below.map String.ofList).drop (draft.bodyLines.length + 1) = _
      rw [← List.map_drop, below_of_some hf, List.drop_length_add_append]
      rfl

end IsProper

/-- Reading what is written from a draft gives its parts back. -/
theorem parse?_text (draft : Draft) (h : draft.IsProper) :
    ∃ message, Message.parse? (String.ofList draft.text) = some message ∧ message.Says draft := by
  refine ⟨_, ?_, h.says_ofLines (String.ofList draft.text)⟩
  rw [Message.parse?, String.toList_ofList, h.cleanLines_text]

def release : Draft where
  header := ⟨"feat".toList, some "api, cli".toList, true, " drop (v1): now".toList⟩
  body := some "The first version is gone.\n\nRefs: #7\nto the guide.".toList
  footer := some ["BREAKING CHANGE: use v2".toList, "\tfor all calls".toList, "Closes #12".toList]

lemma isProper_release : release.IsProper where
  type_ne_nil := by decide
  type_word := List.all_eq_true.1 (by decide +kernel)
  scope_ne_nil := by
    rintro scope ⟨⟩
    decide
  scope_inside := by
    rintro scope ⟨⟩
    decide
  subject_nonblank := by decide +kernel
  subject_newline := by decide
  subject_trimmed := by decide +kernel
  body_ne_nil := by
    rintro body ⟨⟩
    decide
  body_trimmed := by
    rintro body ⟨⟩
    decide +kernel
  body_lines := by
    rintro body ⟨⟩
    decide +kernel
  footer := by
    rintro block ⟨⟩
    exact ⟨⟨_, _, rfl, by decide +kernel, by decide +kernel⟩, by decide +kernel, by decide +kernel,
      by decide +kernel, by decide +kernel⟩
  body_end := by rintro ⟨⟩

theorem parse?_text_release : release.IsProper ∧
    ∃ message, Message.parse? (String.ofList release.text) = some message ∧
      message.Says release :=
  ⟨isProper_release, parse?_text release isProper_release⟩

end Draft

end CommitStyle
