import CommitStyle.Proofs.Message.Draft
import CommitStyle.Proofs.TypeList

/-!
# Types that messages can have

The type of a message consists of word characters, and every such type can be written. A valid rule
set may list other types as well, which no message has.
-/

namespace CommitStyle

open Unicode (isWord)
open Text

namespace Message

lemma isWord_of_mem_type {text type : String} {message : Message} (hp : parse? text = some message)
    (ht : message.type = some type) : ∀ c ∈ type.toList, isWord c = true := by
  obtain ⟨first, below, -, rfl⟩ := parse?_eq_some_iff.1 hp
  obtain ⟨header, hh, htype, -⟩ := header_of_type ht
  rw [← htype]
  exact (Header.parse?_eq_some_iff.1 hh).2.1

end Message

namespace Draft

def brief (type subject : String) : Draft :=
  ⟨⟨type.toList, none, false, subject.toList⟩, none, none⟩

variable {type subject : String}

lemma ofList_text_brief : String.ofList (brief type subject).text = type ++ ": " ++ subject := by
  refine String.toList_inj.1 ?_
  simp [brief, text, Header.render]

lemma isProper_brief (hn : type ≠ "") (hw : ∀ c ∈ type.toList, isWord c = true)
    (hb : isBlankLine subject.toList = false) (hs : '\n' ∉ subject.toList)
    (ht : trimEnd subject.toList = subject.toList) : (brief type subject).IsProper where
  type_ne_nil := fun h => hn (String.toList_eq_nil_iff.1 h)
  type_word := hw
  scope_ne_nil := nofun
  scope_inside := nofun
  subject_nonblank := hb
  subject_newline := hs
  subject_trimmed := ht
  body_ne_nil := nofun
  body_trimmed := nofun
  body_lines := nofun
  footer := nofun
  body_end := nofun

lemma exists_parse?_brief (h : (brief type subject).IsProper) :
    ∃ message, Message.parse? (type ++ ": " ++ subject) = some message ∧
      message.type = some type ∧ message.subject = some subject := by
  have hs := h.says_ofLines (type ++ ": " ++ subject)
  refine ⟨_, ?_, hs.type.trans ?_, hs.subject.trans ?_⟩
  · rw [Message.parse?, ← ofList_text_brief, String.toList_ofList, h.cleanLines_text]
  · exact congrArg some String.ofList_toList
  · exact congrArg some String.ofList_toList

end Draft

namespace RuleSet

/-- Just the listed types that consist of word characters can be used. Each of them is the type of
the messages that are written with it, and no message has another type. -/
theorem parse?_listed_iff (set : RuleSet) (types : List String) (type : String)
    (hv : set.validate = .ok ()) (hl : set.listedTypes? = some types) (ht : type ∈ types) :
    (∀ subject : String, isBlankLine subject.toList = false → '\n' ∉ subject.toList →
      trimEnd subject.toList = subject.toList →
        ((∃ message, Message.parse? (type ++ ": " ++ subject) = some message ∧
            message.type = some type ∧ message.subject = some subject) ↔
          ∀ c ∈ type.toList, isWord c = true)) ∧
    ((∃ text message, Message.parse? text = some message ∧ message.type = some type) ↔
      ∀ c ∈ type.toList, isWord c = true) := by
  have hn : type ≠ "" := by
    rintro rfl
    cases isUsableType_of_mem (validateTypes_of_validateWith hv) hl ht
  have hw : (∀ c ∈ type.toList, isWord c = true) → ∀ subject : String,
      isBlankLine subject.toList = false → '\n' ∉ subject.toList →
      trimEnd subject.toList = subject.toList →
        ∃ message, Message.parse? (type ++ ": " ++ subject) = some message ∧
          message.type = some type ∧ message.subject = some subject :=
    fun hw subject hb hs he => Draft.exists_parse?_brief (Draft.isProper_brief hn hw hb hs he)
  refine ⟨fun subject hb hs he => ⟨?_, fun h => hw h subject hb hs he⟩, ?_, fun h => ?_⟩
  · rintro ⟨message, hp, htype, -⟩
    exact Message.isWord_of_mem_type hp htype
  · rintro ⟨text, message, hp, htype⟩
    exact Message.isWord_of_mem_type hp htype
  · obtain ⟨message, hp, htype, -⟩ := hw h "x" (by decide +kernel) (by decide) (by decide +kernel)
    exact ⟨_, message, hp, htype⟩

def stagingSet : RuleSet where
  rules := .ofList [("type-empty", .plain .error .never),
    (typeEnum, .withValue .error .always (.list ["feat", "pre-release"]))]

theorem parse?_listed_iff_staging :
    stagingSet.validate = .ok () ∧
    stagingSet.listedTypes? = some ["feat", "pre-release"] ∧ "feat" ∈ ["feat", "pre-release"] ∧
    (∀ subject : String, isBlankLine subject.toList = false → '\n' ∉ subject.toList →
      trimEnd subject.toList = subject.toList →
        ((∃ message, Message.parse? ("feat" ++ ": " ++ subject) = some message ∧
            message.type = some "feat" ∧ message.subject = some subject) ↔
          ∀ c ∈ "feat".toList, isWord c = true)) ∧
    ((∃ text message, Message.parse? text = some message ∧ message.type = some "feat") ↔
      ∀ c ∈ "feat".toList, isWord c = true) := by
  have hl : stagingSet.listedTypes? = some ["feat", "pre-release"] := by decide +kernel
  exact ⟨rfl, hl, by decide,
    parse?_listed_iff stagingSet ["feat", "pre-release"] "feat" rfl hl (by decide)⟩

theorem parse?_listed_none :
    stagingSet.validate = .ok () ∧
    stagingSet.typeSetting?.map (·.when) = some .always ∧
    stagingSet.listedTypes? = some ["feat", "pre-release"] ∧
    isBlankLine "cut 1.2".toList = false ∧ '\n' ∉ "cut 1.2".toList ∧
    trimEnd "cut 1.2".toList = "cut 1.2".toList ∧
    ¬ ∃ message, Message.parse? ("pre-release" ++ ": " ++ "cut 1.2") = some message ∧
      message.type = some "pre-release" ∧ message.subject = some "cut 1.2" := by
  refine ⟨rfl, by decide +kernel, by decide +kernel, by decide +kernel, by decide,
    by decide +kernel, ?_⟩
  have hp : Message.parse? ("pre-release" ++ ": " ++ "cut 1.2") =
      some (.ofLines "pre-release: cut 1.2" "pre-release: cut 1.2".toList []) := by
    decide +kernel
  rintro ⟨message, hm, ht, -⟩
  cases hp.symm.trans hm
  exact absurd ht (by decide +kernel)

end RuleSet

end CommitStyle
