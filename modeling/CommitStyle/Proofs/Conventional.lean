import CommitStyle.Proofs.DefaultPatterns
import CommitStyle.Proofs.Linter
import CommitStyle.Proofs.Message.FirstLine
import CommitStyle.Proofs.Message.Parts
import CommitStyle.Proofs.Regex.Opening

/-!
# Conventional messages are not exempt by default

Whatever a default pattern matches begins with a word, and a character comes behind it that no
conventional header has behind its type. The one exception is the pattern of messages that ask for a
later squash: its words are types that announce a breaking change.
-/

namespace CommitStyle

open Unicode (isWord isBlank)
open Text

section Words

variable {p : Char → Bool} {word rest text : List Char} {c : Char}

lemma takeWhile_of_isPrefix (hw : ∀ d ∈ word, p d = true) (hc : p c = false)
    (h : word ++ c :: rest <+: text) :
    text.takeWhile p = word ∧ (text.dropWhile p).head? = some c := by
  obtain ⟨more, rfl⟩ := h
  have hhead : ∀ d, (c :: (rest ++ more)).head? = some d → p d = false := by
    rintro d ⟨⟩
    exact hc
  rw [List.append_assoc, List.cons_append, takeWhile_append_eq hw hhead, dropWhile_append_eq hw hhead]
  exact ⟨rfl, rfl⟩

end Words

namespace Ignore

def squashTypes : List String := ["amend", "fixup", "squash"]

/-- The text begins with a word, and behind it stands a character that stands behind no type, or else
the word is a type that asks for a later squash and stands before an exclamation mark. -/
def isOdd (text : List Char) : Bool :=
  let word := text.takeWhile isWord
  !word.isEmpty && (text.dropWhile isWord).head?.any fun c =>
    c != '(' && c != ':' && (c != '!' || squashTypes.contains (String.ofList word))

variable {text opening : List Char}

lemma isOdd_of_isPrefix (h : isOdd opening = true) (hp : opening <+: text) : isOdd text = true := by
  cases hd : opening.dropWhile isWord with
  | nil =>
    rw [isOdd, hd, List.head?_nil, Option.any_none, Bool.and_false] at h
    cases h
  | cons c rest =>
    have hw : ∀ d ∈ opening.takeWhile isWord, isWord d = true := fun _ => List.mem_takeWhile_imp
    have hc : isWord c = false := head?_dropWhile (congrArg List.head? hd)
    rw [← List.takeWhile_append_dropWhile (p := isWord) (l := opening), hd] at hp
    obtain ⟨htake, hhead⟩ := takeWhile_of_isPrefix hw hc hp
    rw [isOdd, htake, hhead]
    rwa [isOdd, hd] at h

lemma isOdd_of_byDefault (h : byDefault text = true) : isOdd text = true := by
  have hall : ∀ regex ∈ defaults, ∀ opening ∈ regex.openings, isOdd opening = true := by
    decide +kernel
  obtain ⟨regex, hd, hm⟩ := byDefault_iff.1 h
  obtain ⟨body, rfl, -⟩ := exists_body_of_mem_defaults hd
  obtain ⟨part, after, rfl, hb⟩ := isMatch_start_seq.1 hm
  have hmatch : (Expr.seq start body).Matches [] part after := ⟨[], part, rfl, ⟨rfl, rfl⟩, hb⟩
  obtain ⟨opening, ho, hp⟩ := Expr.exists_opening hmatch
  exact isOdd_of_isPrefix (hall _ hd opening ho) (hp.trans (List.prefix_append _ _))

lemma not_isOdd_of_comment (h : ['#'] <+: text) : isOdd text = false := by
  obtain ⟨rest, rfl⟩ := h
  have hw : isWord '#' = false := by decide +kernel
  rw [isOdd, List.singleton_append, List.takeWhile_cons_of_neg (by simp [hw])]
  rfl

lemma squashes_of_isOdd {header : Header} (hw : ∀ c ∈ header.type, isWord c = true)
    (hp : header.render <+: text) (h : isOdd text = true) :
    String.ofList header.type ∈ squashTypes ∧ header.scope = none ∧ header.bang = true := by
  obtain ⟨type, scope, bang, subject⟩ := header
  obtain ⟨c, rest, hc⟩ : ∃ c rest, Header.afterType scope bang subject = c :: rest := by
    cases scope <;> cases bang <;> exact ⟨_, _, rfl⟩
  have hword : isWord c = false :=
    Header.not_isWord_of_head?_afterType (congrArg List.head? hc)
  rw [Header.render_eq_append, hc] at hp
  obtain ⟨htake, hhead⟩ := takeWhile_of_isPrefix hw hword hp
  rw [isOdd, htake, hhead] at h
  -- A parenthesis or a colon behind the type is ruled out, so there is an exclamation mark.
  cases scope with
  | some scope =>
    cases hc
    simp at h
  | none =>
    cases bang with
    | false =>
      cases hc
      simp at h
    | true =>
      cases hc
      rw [Bool.and_eq_true] at h
      exact ⟨by simpa using h.2, rfl, rfl⟩

end Ignore

namespace Message

open Ignore

variable {raw : String} {message : Message} {type : String}

lemma exists_header_of_type (hp : parse? raw = some message) (ht : message.type = some type) :
    ∃ header : Header, header.type = type.toList ∧ (∀ c ∈ header.type, isWord c = true) ∧
      header.render <+: message.header.toList ∧
      message.scope = (header.scope.bind nonempty?).map String.ofList ∧
      (['#'] <+: firstLine raw.toList ∨ header.render <+: firstLine raw.toList) := by
  obtain ⟨first, below, hclean, rfl⟩ := parse?_eq_some_iff.1 hp
  obtain ⟨header, hh, htype, hn⟩ := header_of_type ht
  obtain ⟨hr, hw, -⟩ := Header.parse?_eq_some_iff.1 hh
  have hprefix : header.render <+: first := hr ▸ isPrefix_trimEnd first
  refine ⟨header, htype, hw, ?_, ?_, ?_⟩
  · rwa [ofLines, String.toList_ofList]
  · change ((Header.parse? (trimEnd first)).bind _).map _ = _
    rw [hh, Option.bind_some]
  · -- The type stands at the start of its line, since no blank is a word character.
    have hstart : trimStart first = first := by
      rw [trimStart_eq_self_iff]
      intro c hc
      obtain ⟨d, rest, hd⟩ := List.exists_cons_of_ne_nil (htype ▸ hn)
      obtain ⟨more, rfl⟩ := hprefix
      rw [Header.render_eq_append, hd] at hc
      cases hc
      exact not_isBlank_of_isWord (hw c (hd ▸ .head _))
    rw [hr, ← hstart]
    exact isPrefix_firstLine_of_cleanLines hclean

/-- Of the messages with a type the default patterns match only those with one of three types, and
no scope but an exclamation mark right behind it. So any other one is checked by every linter, unless
it has a pattern of its own that matches the message. -/
theorem lint_of_type (raw : String) (message : Message) (type : String)
    (hp : parse? raw = some message) (ht : message.type = some type) :
    (standard.holds raw = true →
      type ∈ ["amend", "fixup", "squash"] ∧ message.scope = none ∧
        type.toList ++ ['!'] <+: message.header.toList) ∧
    (type ∉ ["amend", "fixup", "squash"] → ∀ linter : Linter,
      (∀ pattern ∈ linter.ignore.patterns, pattern.isMatch (trim raw.toList) = false) →
        linter.lint raw = .ok (linter.check message) ∧
          (linter.check message).ignored = false) := by
  obtain ⟨header, htype, hw, hrender, hscope, hfirst⟩ := exists_header_of_type hp ht
  have hsquash : byDefault (firstLine raw.toList) = true →
      type ∈ squashTypes ∧ header.scope = none ∧ header.bang = true := by
    intro h
    have hodd := isOdd_of_byDefault h
    rcases hfirst with hc | hr
    · rw [not_isOdd_of_comment hc] at hodd
      cases hodd
    · have hs := squashes_of_isOdd hw hr hodd
      rwa [htype, String.ofList_toList] at hs
  refine ⟨fun h => ?_, fun hn linter hpatterns => ?_⟩
  · rw [standard_holds] at h
    obtain ⟨hs, hnone, hbang⟩ := hsquash h
    refine ⟨hs, by rw [hscope, hnone]; rfl, List.IsPrefix.trans ?_ hrender⟩
    rw [Header.render_eq_append, htype, hnone, hbang]
    exact (List.prefix_append_right_inj _).2 ⟨_, rfl⟩
  · have hdefault : byDefault (firstLine raw.toList) = false :=
      Bool.eq_false_iff.2 fun h => hn (hsquash h).1
    have hholds : linter.ignore.holds raw = false := by
      rw [holds_eq, hdefault, Bool.and_false, Bool.false_or, List.any_eq_false]
      simpa using hpatterns
    exact ⟨Linter.lint_of_parse? hholds hp, Linter.ignored_check message⟩

def draftIgnoring : Linter := ⟨{}, Rule.builtins, ⟨true, [Regex.literal "WIP"]⟩⟩

theorem lint_of_type_merge :
    (∃ message, parse? "\n \nfixup!: add login\n" = some message ∧
      message.type = some "fixup" ∧ standard.holds "\n \nfixup!: add login\n" = true ∧
      "fixup" ∈ ["amend", "fixup", "squash"] ∧ message.scope = none ∧
      "fixup".toList ++ ['!'] <+: message.header.toList) ∧
    ∃ message, parse? "\n# revert that\nMerge(api)!: tag into main" = some message ∧
      message.type = some "Merge" ∧ "Merge" ∉ ["amend", "fixup", "squash"] ∧
      (∀ pattern ∈ draftIgnoring.ignore.patterns,
        pattern.isMatch (trim "\n# revert that\nMerge(api)!: tag into main".toList) = false) ∧
      draftIgnoring.lint "\n# revert that\nMerge(api)!: tag into main" =
        .ok (draftIgnoring.check message) ∧
      (draftIgnoring.check message).ignored = false := by
  constructor
  · have hp : parse? "\n \nfixup!: add login\n" = some
        (.ofLines "\n \nfixup!: add login\n" "fixup!: add login".toList []) := by decide +kernel
    have ht : (ofLines "\n \nfixup!: add login\n" "fixup!: add login".toList []).type =
        some "fixup" := by decide +kernel
    have hh : standard.holds "\n \nfixup!: add login\n" = true := by decide +kernel
    exact ⟨_, hp, ht, hh, (lint_of_type _ _ "fixup" hp ht).1 hh⟩
  · have hp : parse? "\n# revert that\nMerge(api)!: tag into main" = some
        (.ofLines "\n# revert that\nMerge(api)!: tag into main"
          "Merge(api)!: tag into main".toList []) := by decide +kernel
    have ht : (ofLines "\n# revert that\nMerge(api)!: tag into main"
        "Merge(api)!: tag into main".toList []).type = some "Merge" := by decide +kernel
    have hpatterns : ∀ pattern ∈ draftIgnoring.ignore.patterns,
        pattern.isMatch (trim "\n# revert that\nMerge(api)!: tag into main".toList) = false := by
      decide +kernel
    have hn : "Merge" ∉ ["amend", "fixup", "squash"] := by decide
    exact ⟨_, hp, ht, hn, hpatterns, (lint_of_type _ _ "Merge" hp ht).2 hn draftIgnoring hpatterns⟩

end Message

end CommitStyle
