import CommitStyle.Proofs.Lines
import CommitStyle.Proofs.Regex.Matching

/-!
# Expressions and the first line

Some expressions stop where they like: what they match begins with a stem that a line holds whole.
Others go on to the end of the text and cross no line end but those right before it, so that a trimmed
text that begins with what they match has one line. In either way the first line of a trimmed text
begins with such a part if the text does.
-/

namespace CommitStyle

open Unicode (isBlank)
open Text

namespace PartProperty

variable {P Q : PartProperty}

/-- Such a part lies in a line, and has the property wherever it stands. -/
def IsWithinLine (P : PartProperty) : Prop :=
  ∀ before part after, P before part after → '\n' ∉ part ∧ ∀ before after, P before part after

/-- Such a part begins with a stem that a line holds whole, and the stem has the property wherever it
stands. -/
def HasStem (P : PartProperty) : Prop :=
  ∀ before part after, P before part after →
    ∃ stem, stem <+: part ∧ IsHeld stem ∧ ∀ before after, P before stem after

def IsOptional (P : PartProperty) : Prop := ∀ before after, P before [] after

/-- Such a part is all that is left of a text, a line and blanks. -/
def FillsText (P : PartProperty) : Prop :=
  ∀ before part after, P before part after →
    after = [] ∧ ∃ line ends, line ++ ends = part ∧ '\n' ∉ line ∧ isBlankLine ends = true

/-- Where a trimmed text begins with such a part, its first line does so too. -/
def JudgesFirstLine (P : PartProperty) : Prop :=
  ∀ text part after, trim text = text → part ++ after = text → P [] part after →
    ∃ part after, part ++ after = firstLine text ∧ P [] part after

lemma isWithinLine_nothing : Nothing.IsWithinLine := by
  rintro before _ after rfl
  exact ⟨by simp, fun _ _ => rfl⟩

lemma IsWithinLine.andThen (hp : P.IsWithinLine) (hq : Q.IsWithinLine) :
    (Then P Q).IsWithinLine := by
  rintro before _ after ⟨left, right, rfl, hl, hr⟩
  obtain ⟨hnl, hl⟩ := hp _ _ _ hl
  obtain ⟨hnr, hr⟩ := hq _ _ _ hr
  refine ⟨fun hn => (List.mem_append.1 hn).elim hnl hnr, fun _ _ => ?_⟩
  exact ⟨left, right, rfl, hl _ _, hr _ _⟩

lemma IsWithinLine.or (hp : P.IsWithinLine) (hq : Q.IsWithinLine) : (Either P Q).IsWithinLine := by
  rintro before part after (h | h)
  · obtain ⟨hn, h⟩ := hp _ _ _ h
    exact ⟨hn, fun _ _ => .inl (h _ _)⟩
  · obtain ⟨hn, h⟩ := hq _ _ _ h
    exact ⟨hn, fun _ _ => .inr (h _ _)⟩

lemma IsWithinLine.repeated (hp : P.IsWithinLine) (n : Nat) : (P.Repeated n).IsWithinLine := by
  induction n with
  | zero => exact isWithinLine_nothing
  | succ n ih => exact hp.andThen ih

lemma IsOptional.andThen (hp : P.IsOptional) (hq : Q.IsOptional) : (Then P Q).IsOptional :=
  fun _ _ => ⟨[], [], rfl, hp _ _, hq _ _⟩

lemma IsOptional.repeated (hp : P.IsOptional) (n : Nat) : (P.Repeated n).IsOptional := by
  induction n with
  | zero => exact fun _ _ => rfl
  | succ n ih => exact hp.andThen ih

lemma IsOptional.hasStem (hp : P.IsOptional) : P.HasStem :=
  fun _ _ _ _ => ⟨[], List.nil_prefix, ⟨by simp, by simp⟩, hp⟩

lemma HasStem.andThen_optional (hp : P.HasStem) (hq : Q.IsOptional) : (Then P Q).HasStem := by
  rintro before _ after ⟨left, right, rfl, hl, -⟩
  obtain ⟨stem, hs, hh, hl⟩ := hp _ _ _ hl
  refine ⟨stem, hs.trans (List.prefix_append _ _), hh, fun _ _ => ?_⟩
  exact ⟨stem, [], List.append_nil _, hl _ _, hq _ _⟩

lemma HasStem.andThen (hp : P.HasStem) (hw : P.IsWithinLine) (hq : Q.HasStem) :
    (Then P Q).HasStem := by
  rintro before _ after ⟨left, right, rfl, hl, hr⟩
  obtain ⟨stem, hs, ⟨hn, hc⟩, hr⟩ := hq _ _ _ hr
  cases stem with
  | nil =>
    -- The first stem is enough, and the part before it may end in a carriage return.
    obtain ⟨stem, hs, hh, hl⟩ := hp _ _ _ hl
    refine ⟨stem, hs.trans (List.prefix_append _ _), hh, fun _ _ => ?_⟩
    exact ⟨stem, [], List.append_nil _, hl _ _, hr _ _⟩
  | cons c others =>
    obtain ⟨hnl, hl⟩ := hw _ _ _ hl
    refine ⟨left ++ c :: others, (List.prefix_append_right_inj _).2 hs, ⟨?_, ?_⟩, fun _ _ => ?_⟩
    · exact fun hm => (List.mem_append.1 hm).elim hnl hn
    · rwa [List.getLast?_append_cons]
    · exact ⟨left, c :: others, rfl, hl _ _, hr _ _⟩

lemma HasStem.or (hp : P.HasStem) (hq : Q.HasStem) : (Either P Q).HasStem := by
  rintro before part after (h | h)
  · obtain ⟨stem, hs, hh, h⟩ := hp _ _ _ h
    exact ⟨stem, hs, hh, fun _ _ => .inl (h _ _)⟩
  · obtain ⟨stem, hs, hh, h⟩ := hq _ _ _ h
    exact ⟨stem, hs, hh, fun _ _ => .inr (h _ _)⟩

lemma FillsText.andThen (hp : P.IsWithinLine) (hq : Q.FillsText) : (Then P Q).FillsText := by
  rintro before _ after ⟨left, right, rfl, hl, hr⟩
  obtain ⟨hn, -⟩ := hp _ _ _ hl
  obtain ⟨rfl, line, ends, rfl, hline, hends⟩ := hq _ _ _ hr
  refine ⟨rfl, left ++ line, ends, List.append_assoc .., fun hm => ?_, hends⟩
  exact (List.mem_append.1 hm).elim hn hline

lemma HasStem.judgesFirstLine (hp : P.HasStem) : P.JudgesFirstLine := by
  rintro _ part after ht rfl h
  obtain ⟨stem, hs, hh, h⟩ := hp _ _ _ h
  obtain ⟨below, hb⟩ := hh.isPrefix_firstLine ht (hs.trans (List.prefix_append _ _))
  exact ⟨stem, below, hb, h _ _⟩

lemma FillsText.judgesFirstLine (hp : P.FillsText) : P.JudgesFirstLine := by
  rintro _ part after ht rfl h
  obtain ⟨rfl, line, ends, rfl, hline, hends⟩ := hp _ _ _ h
  rw [List.append_nil] at ht ⊢
  -- A trimmed text has no blanks at its end.
  have he : ends = [] := by
    have hlast := (trim_eq_self_iff.1 ht).2
    rw [trimEnd_append hends] at hlast
    have hle := (isPrefix_trimEnd line).length_le
    rw [hlast, List.length_append] at hle
    exact List.length_eq_zero_iff.1 (by omega)
  subst he
  rw [List.append_nil] at ht h ⊢
  exact ⟨line, [], by rw [List.append_nil, firstLine_eq_self ht hline], h⟩

lemma JudgesFirstLine.or (hp : P.JudgesFirstLine) (hq : Q.JudgesFirstLine) :
    (Either P Q).JudgesFirstLine := by
  rintro text part after ht ha (h | h)
  · obtain ⟨part, after, ha, h⟩ := hp text part after ht ha h
    exact ⟨part, after, ha, .inl h⟩
  · obtain ⟨part, after, ha, h⟩ := hq text part after ht ha h
    exact ⟨part, after, ha, .inr h⟩

end PartProperty

namespace Expr

open PartProperty

/-- Whether no character of a match can be a line feed and no place is looked at. -/
def staysInLine : Regex → Bool
  | empty => true
  | chars set => !set.contains '\n'
  | place _ => false
  | seq left right | alt left right => left.staysInLine && right.staysInLine
  | star inner | times _ inner | upTo _ inner => inner.staysInLine

def isOptional : Regex → Bool
  | empty | star _ | upTo _ _ => true
  | chars _ | place _ => false
  | seq first second => first.isOptional && second.isOptional
  | alt left right => left.isOptional || right.isOptional
  | times _ inner => inner.isOptional

/-- Whether every match begins with one that a line holds whole, as far as the expression tells. -/
def hasStem : Regex → Bool
  | empty | star _ | upTo _ _ => true
  | chars set => !set.contains '\n' && !set.contains '\r'
  | place _ => false
  | seq first second =>
    first.hasStem && (second.isOptional || first.staysInLine && second.hasStem)
  | alt left right => left.hasStem && right.hasStem
  | times _ inner => inner.isOptional

lemma isWithinLine_of_staysInLine {regex : Regex} (h : regex.staysInLine = true) :
    regex.Matches.IsWithinLine := by
  induction regex with
  | empty => exact isWithinLine_nothing
  | chars set =>
    rintro before _ after ⟨c, hc, rfl⟩
    refine ⟨fun hn => ?_, fun _ _ => ⟨c, hc, rfl⟩⟩
    rw [List.mem_singleton] at hn
    rw [staysInLine, hn, hc] at h
    cases h
  | place look => cases h
  | seq first second hf hs =>
    rw [staysInLine, Bool.and_eq_true] at h
    exact (hf h.1).andThen (hs h.2)
  | alt left right hl hr =>
    rw [staysInLine, Bool.and_eq_true] at h
    exact (hl h.1).or (hr h.2)
  | star inner ih =>
    rintro before part after ⟨n, hn⟩
    obtain ⟨hl, hn⟩ := (ih h).repeated n before part after hn
    exact ⟨hl, fun _ _ => ⟨n, hn _ _⟩⟩
  | times count inner ih => exact (ih h).repeated count
  | upTo count inner ih =>
    rintro before part after ⟨n, hc, hn⟩
    obtain ⟨hl, hn⟩ := (ih h).repeated n before part after hn
    exact ⟨hl, fun _ _ => ⟨n, hc, hn _ _⟩⟩

lemma isOptional_matches {regex : Regex} (h : regex.isOptional = true) :
    regex.Matches.IsOptional := by
  induction regex with
  | empty => exact fun _ _ => rfl
  | chars set => cases h
  | place look => cases h
  | seq first second hf hs =>
    rw [isOptional, Bool.and_eq_true] at h
    exact (hf h.1).andThen (hs h.2)
  | alt left right hl hr =>
    rw [isOptional, Bool.or_eq_true] at h
    exact fun _ _ => h.imp (hl · _ _) (hr · _ _)
  | star inner => exact fun _ _ => ⟨0, rfl⟩
  | times count inner ih => exact (ih h).repeated count
  | upTo count inner => exact fun _ _ => ⟨0, Nat.zero_le _, rfl⟩

lemma hasStem_matches {regex : Regex} (h : regex.hasStem = true) : regex.Matches.HasStem := by
  induction regex with
  | empty => exact (isOptional_matches rfl).hasStem
  | chars set =>
    rw [hasStem, Bool.and_eq_true, Bool.not_eq_true', Bool.not_eq_true'] at h
    rintro before _ after ⟨c, hc, rfl⟩
    refine ⟨[c], List.prefix_rfl, ⟨fun hn => ?_, fun hr => ?_⟩, fun _ _ => ⟨c, hc, rfl⟩⟩
    · rw [← List.mem_singleton.1 hn, h.1] at hc
      cases hc
    · obtain rfl : c = '\r' := by simpa using hr
      rw [h.2] at hc
      cases hc
  | place look => cases h
  | seq first second hf hs =>
    rw [hasStem, Bool.and_eq_true, Bool.or_eq_true, Bool.and_eq_true] at h
    obtain ⟨h, ho | ⟨hw, hr⟩⟩ := h
    · exact (hf h).andThen_optional (isOptional_matches ho)
    · exact (hf h).andThen (isWithinLine_of_staysInLine hw) (hs hr)
  | alt left right hl hr =>
    rw [hasStem, Bool.and_eq_true] at h
    exact (hl h.1).or (hr h.2)
  | star inner => exact (isOptional_matches rfl).hasStem
  | times count inner ih => exact ((isOptional_matches h).repeated count).hasStem
  | upTo count inner => exact (isOptional_matches rfl).hasStem

end Expr

end CommitStyle
