import CommitStyle.Ignore
import CommitStyle.Proofs.Regex.FirstLine

/-!
# Default patterns

Each default pattern is tied to the start of a text. Of a trimmed message it matches the first line if
it matches the whole, so that what is below the first line exempts no message by default and keeps none
from being exempt.
-/

namespace CommitStyle.Ignore

open Unicode (isBlank)
open CommitStyle.Expr PartProperty Text
open Regex (literal isMatch_iff)

variable {regex body : Regex} {text : List Char}

lemma fillsText_lineEnds : lineEnds.Matches.FillsText := by
  have hone : ∀ c, isBlank c = true → ∀ before part after,
      (chars (CharSet.single c)).Matches before part after → part.all isBlank = true := by
    rintro c hb before _ after ⟨d, hd, rfl⟩
    obtain rfl := (CharSet.contains_single c d).1 hd
    simpa using hb
  rintro before _ after ⟨ends, _, rfl, ⟨n, hn⟩, hl, rfl⟩
  refine ⟨by simpa [Look.holds] using hl, [], ends, by simp, by simp, hn.all ?_⟩
  rintro before _ after ⟨_, _, rfl, ⟨m, -, hm⟩, hr⟩
  rw [List.all_append, hm.all (hone '\r' (by decide)), hone '\n' (by decide) _ _ _ hr]
  rfl

lemma isMatch_start_seq :
    Regex.isMatch (seq start body) text = true ↔
      ∃ part after, part ++ after = text ∧ body.Matches [] part after := by
  rw [isMatch_iff]
  constructor
  · rintro ⟨before, _, after, rfl, _, part, rfl, ⟨hl, rfl⟩, hb⟩
    have hn : before = [] := by simpa [Look.holds] using hl
    subst hn
    exact ⟨part, after, rfl, hb⟩
  · rintro ⟨part, after, rfl, hb⟩
    exact ⟨[], part, after, rfl, [], part, rfl, ⟨rfl, rfl⟩, hb⟩

lemma judgesFirstLine_of_hasStem (h : body.hasStem = true) : body.Matches.JudgesFirstLine :=
  (hasStem_matches h).judgesFirstLine

lemma fillsText_seq (regex : Regex) (h : regex.staysInLine = true) (hb : body.Matches.FillsText) :
    (seq regex body).Matches.FillsText :=
  FillsText.andThen (isWithinLine_of_staysInLine h) hb

lemma exists_body_of_mem_defaults (h : regex ∈ defaults) :
    ∃ body : Regex, regex = .seq start body ∧ body.Matches.JudgesFirstLine := by
  simp only [defaults, List.mem_cons, List.not_mem_nil, or_false] at h
  rcases h with rfl | rfl | h
  · have hends := fillsText_seq (altAll [
      seqAll [literal "Merge ", rest, literal " into ", rest],
      .seq (literal "Merge branch ") rest]) (by decide) fillsText_lineEnds
    have hrequest : (literal "Merge pull request").Matches.JudgesFirstLine :=
      judgesFirstLine_of_hasStem (by decide)
    exact ⟨_, rfl, hrequest.or hends.judgesFirstLine⟩
  · have hends := fillsText_seq rest (by decide) fillsText_lineEnds
    exact ⟨_, rfl, (fillsText_seq (literal "Merge tag ") (by decide) hends).judgesFirstLine⟩
  · rcases h with rfl | rfl | rfl | rfl | rfl | rfl
    all_goals exact ⟨_, rfl, judgesFirstLine_of_hasStem (by decide)⟩

lemma isMatch_firstLine (h : regex ∈ defaults) (ht : trim text = text)
    (hm : regex.isMatch text = true) : regex.isMatch (firstLine text) = true := by
  obtain ⟨body, rfl, hj⟩ := exists_body_of_mem_defaults h
  obtain ⟨part, after, ha, hb⟩ := isMatch_start_seq.1 hm
  exact isMatch_start_seq.2 (hj text part after ht ha hb)

lemma byDefault_iff : byDefault text = true ↔ ∃ regex ∈ defaults, regex.isMatch text = true :=
  List.any_eq_true

lemma byDefault_firstLine (h : byDefault (trim text) = true) :
    byDefault (firstLine text) = true := by
  obtain ⟨regex, hd, hm⟩ := byDefault_iff.1 h
  have hf := isMatch_firstLine hd (trim_trim text) hm
  rw [firstLine_trim] at hf
  exact byDefault_iff.2 ⟨regex, hd, hf⟩

lemma holds_eq (ignore : Ignore) (message : String) :
    ignore.holds message = (ignore.useDefaults && byDefault (firstLine message.toList) ||
      ignore.patterns.any (·.isMatch (trim message.toList))) := by
  have hd : (byDefault (firstLine message.toList) || byDefault (trim message.toList)) =
      byDefault (firstLine message.toList) := by
    cases h : byDefault (trim message.toList) with
    | false => exact Bool.or_false _
    | true => rw [byDefault_firstLine h, Bool.or_true]
  rw [holds, firstLine_trim, hd]

def standard : Ignore where
  useDefaults := true
  patterns := []

lemma standard_holds (message : String) :
    standard.holds message = byDefault (firstLine message.toList) := by
  rw [holds_eq]
  exact (Bool.or_false _).trans (Bool.true_and _)

/-- A default pattern matches a message or its first line if and only if a default pattern matches the
first line. So messages with the same first line are exempt alike, and a line is exempt just as it is
with anything below it, whichever way it ends. -/
theorem judges_first_line (message : String) :
    ((∃ regex ∈ defaults, regex.isMatch (trim message.toList) = true ∨
        regex.isMatch (firstLine message.toList) = true) ↔
      ∃ regex ∈ defaults, regex.isMatch (firstLine message.toList) = true) ∧
    (∀ other : String, firstLine other.toList = firstLine message.toList →
      standard.holds other = standard.holds message) ∧
    (trim message.toList = message.toList → message.toList ≠ [] → '\n' ∉ message.toList →
      ∀ below : String, standard.holds (message ++ "\n" ++ below) = standard.holds message ∧
        standard.holds (message ++ "\r\n" ++ below) = standard.holds message) := by
  refine ⟨⟨?_, fun ⟨regex, hd, hm⟩ => ⟨regex, hd, .inr hm⟩⟩, fun other ho => ?_, ?_⟩
  · rintro ⟨regex, hd, hm | hm⟩
    · have hf := byDefault_firstLine (byDefault_iff.2 ⟨regex, hd, hm⟩)
      exact byDefault_iff.1 hf
    · exact ⟨regex, hd, hm⟩
  · rw [standard_holds, standard_holds, ho]
  · intro ht hn hl below
    have hnewline : firstLine (message ++ "\n" ++ below).toList = firstLine message.toList := by
      have hf := firstLine_append_newline ht hn hl below.toList
      rw [firstLine_eq_self ht hl]
      simpa using hf
    have hreturn : firstLine (message ++ "\r\n" ++ below).toList = firstLine message.toList := by
      have hf := firstLine_append_return ht hn hl below.toList
      rw [firstLine_eq_self ht hl]
      simpa using hf
    simp only [standard_holds, hnewline, hreturn, and_self]

theorem judges_first_line_merge :
    firstLine "\nMerge tag 'v2'\n\nfixup! squash! amend!".toList = firstLine "Merge tag 'v2'".toList ∧
    trim "Merge tag 'v2'".toList = "Merge tag 'v2'".toList ∧ '\n' ∉ "Merge tag 'v2'".toList ∧
    byDefault "Merge tag 'v2'\n\nfixup! squash! amend!".toList = false ∧
    standard.holds "\nMerge tag 'v2'\n\nfixup! squash! amend!" = standard.holds "Merge tag 'v2'" ∧
    standard.holds ("Merge tag 'v2'" ++ "\r\n" ++ "into") = standard.holds "Merge tag 'v2'" ∧
    standard.holds "Merge tag 'v2'" = true := by
  have hf : firstLine "\nMerge tag 'v2'\n\nfixup! squash! amend!".toList =
      firstLine "Merge tag 'v2'".toList := by decide +kernel
  have ht : trim "Merge tag 'v2'".toList = "Merge tag 'v2'".toList := by decide +kernel
  have hl : '\n' ∉ "Merge tag 'v2'".toList := by decide +kernel
  obtain ⟨-, hother, hbelow⟩ := judges_first_line "Merge tag 'v2'"
  exact ⟨hf, ht, hl, by decide +kernel, hother _ hf, (hbelow ht (by decide) hl "into").2,
    by decide +kernel⟩

end CommitStyle.Ignore
