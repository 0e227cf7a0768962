import CommitStyle.Proofs.Outcome
import CommitStyle.Proofs.Verdict

/-!
# Lists of commit types

A valid rule set that enforces a list of commit types lists at least one, and every listed type is
usable. The rule that holds the list then answers whether the type of a message is listed.
-/

namespace CommitStyle

namespace RuleSet

structure Enforces (set : RuleSet) (setting : Setting) (types : List String) : Prop where
  rule? : set.rule? typeEnum = some setting
  enabled : setting.level ≠ .off
  value : setting.value.bind RuleValue.toList? = some types
  ne_nil : types ≠ []
  usable : ∀ type ∈ types, isUsableType type = true

variable {set : RuleSet} {setting : Setting} {types : List String}

lemma typeSetting?_eq_some_iff :
    set.typeSetting? = some setting ↔ set.rule? typeEnum = some setting ∧ setting.level ≠ .off := by
  simp [typeSetting?, Option.filter_eq_some_iff, Setting.isEnabled]

namespace Enforces

variable (h : set.Enforces setting types)

include h

lemma typeSetting? : set.typeSetting? = some setting :=
  typeSetting?_eq_some_iff.2 ⟨h.rule?, h.enabled⟩

lemma listedTypes? : set.listedTypes? = some types := by
  rw [RuleSet.listedTypes?, h.typeSetting?]
  exact h.value

lemma allowsType (type : String) :
    set.allowsType type = setting.when.accepts (types.contains type) := by
  rw [RuleSet.allowsType, h.typeSetting?, h.listedTypes?]

lemma items? : Check.items? setting.value = some types :=
  Check.items?_eq_some h.value h.ne_nil

end Enforces

lemma allowsType_of_typeSetting?_eq_none (h : set.typeSetting? = none) (type : String) :
    set.allowsType type = true := by
  rw [allowsType, h]

lemma exists_enforces (h : set.validateTypes = .ok ()) :
    set.typeSetting? = none ∨ ∃ setting types, set.Enforces setting types := by
  cases hs : set.typeSetting? with
  | none => exact .inl rfl
  | some setting =>
    obtain ⟨hr, he⟩ := typeSetting?_eq_some_iff.1 hs
    have hl : set.listedTypes? = setting.value.bind RuleValue.toList? := by
      rw [listedTypes?, hs]
      rfl
    rw [validateTypes, hs, hl] at h
    cases hv : setting.value.bind RuleValue.toList? with
    | none =>
      rw [hv] at h
      cases h
    | some types =>
      rw [hv] at h
      cases types with
      | nil => cases h
      | cons type rest =>
        refine .inr ⟨setting, type :: rest, hr, he, hv, List.cons_ne_nil _ _, fun t ht => ?_⟩
        cases hf : (type :: rest).find? (!isUsableType ·) with
        | none => simpa using List.find?_eq_none.1 hf t ht
        | some bad =>
          simp only [Option.getD_some, hf] at h
          cases h

lemma isUsableType_of_mem (hv : set.validateTypes = .ok ()) (hl : set.listedTypes? = some types)
    {type : String} (ht : type ∈ types) : isUsableType type = true := by
  rcases exists_enforces hv with hn | ⟨setting, listed, he⟩
  · rw [listedTypes?, hn] at hl
    cases hl
  · cases he.listedTypes?.symm.trans hl
    exact he.usable type ht

/-! ### The list in ascending order -/

lemma foldr_ascending {texts : List String} (h : texts.Pairwise (· ≤ ·)) :
    (texts.foldr (fun text kept => if kept.head? = some text then kept else text :: kept)
      []).Pairwise (· < ·) ∧
    ∀ text, text ∈ texts.foldr
      (fun text kept => if kept.head? = some text then kept else text :: kept) [] ↔
        text ∈ texts := by
  induction texts with
  | nil => simp
  | cons text rest ih =>
    obtain ⟨hle, hr⟩ := List.pairwise_cons.1 h
    obtain ⟨hp, hm⟩ := ih hr
    rw [List.foldr_cons]
    generalize rest.foldr _ [] = kept at hp hm ⊢
    split
    next hk =>
      have ht : text ∈ rest := (hm text).1 (List.mem_of_head? hk)
      refine ⟨hp, fun other => ?_⟩
      rw [hm, List.mem_cons]
      constructor
      · exact .inr
      · rintro (rfl | ho)
        · exact ht
        · exact ho
    next hk =>
      refine ⟨List.pairwise_cons.2 ⟨fun other ho => ?_, hp⟩, fun other => by simp [hm]⟩
      have hlt : text ≤ other := hle other ((hm other).1 ho)
      refine Std.lt_of_le_of_ne hlt ?_
      rintro rfl
      -- The text is kept already, and what is kept above it is smaller.
      cases kept with
      | nil => cases ho
      | cons first others =>
        rcases List.mem_cons.1 ho with rfl | ho
        · exact hk rfl
        · have hfirst : text ≤ first := hle first ((hm first).1 (.head _))
          exact String.not_lt.2 hfirst ((List.pairwise_cons.1 hp).1 text ho)

lemma pairwise_le_mergeSort (texts : List String) :
    (texts.mergeSort (· ≤ ·)).Pairwise (· ≤ ·) := by
  have ht : ∀ a b c : String, decide (a ≤ b) = true → decide (b ≤ c) = true →
      decide (a ≤ c) = true := by
    simp only [decide_eq_true_eq]
    exact fun a b c => String.le_trans
  have hd : ∀ a b : String, (decide (a ≤ b) || decide (b ≤ a)) = true := by
    simp only [Bool.or_eq_true, decide_eq_true_eq]
    exact String.le_total
  exact (List.pairwise_mergeSort ht hd texts).imp of_decide_eq_true

lemma pairwise_sorted (texts : List String) : (sorted texts).Pairwise (· < ·) :=
  (foldr_ascending (pairwise_le_mergeSort texts)).1

lemma mem_sorted (texts : List String) (text : String) : text ∈ sorted texts ↔ text ∈ texts := by
  rw [sorted, (foldr_ascending (pairwise_le_mergeSort texts)).2, List.mem_mergeSort]

lemma types?_of_typeSetting?_eq_none (h : set.typeSetting? = none) : set.types? = none := by
  rw [types?, listedTypes?, h]
  rfl

namespace Enforces

variable (h : set.Enforces setting types)

include h

lemma types? : set.types? = some (sorted types) := by
  rw [RuleSet.types?, h.listedTypes?]
  rfl

lemma sorted_ne_nil : sorted types ≠ [] := by
  obtain ⟨type, rest, hc⟩ := List.exists_cons_of_ne_nil h.ne_nil
  exact List.ne_nil_of_mem ((mem_sorted types type).2 (hc ▸ .head _))

lemma usable_of_mem_sorted {type : String} (ht : type ∈ sorted types) : isUsableType type = true :=
  h.usable type ((mem_sorted types type).1 ht)

lemma mem_sorted_iff_of_always (hw : setting.when = .always) (type : String) :
    type ∈ sorted types ↔ set.allowsType type = true := by
  simp [mem_sorted, h.allowsType, hw, Condition.accepts]

lemma not_mem_sorted_iff_of_never (hw : setting.when = .never) (type : String) :
    type ∉ sorted types ↔ set.allowsType type = true := by
  simp [mem_sorted, h.allowsType, hw, Condition.accepts]

end Enforces

end RuleSet

namespace Check

variable {message : Message} {value : Option RuleValue} {types : List String}

lemma hasListedType_of_none (ht : message.type = none) (condition : Condition) :
    hasListedType message condition value = .skipped := by
  rw [hasListedType, ht]

lemma hasListedType_of_some {type : String} (ht : message.type = some type)
    (hi : items? value = some types) (condition : Condition) :
    hasListedType message condition value =
      .judged (condition.accepts (types.contains type))
        s!"type {condition.verb} be one of [{commaSeparated types}]" := by
  rw [hasListedType, ht, hi]
  rfl

end Check

lemma RuleSet.outcome?_typeEnum (set : RuleSet) (message : Message) :
    set.outcome? [] message typeEnum = (set.rule? typeEnum).map fun setting =>
      (setting.level, Check.hasListedType message setting.when setting.value) := by
  have ha : Rule.applicable? [] typeEnum = some ⟨typeEnum, .list, Check.hasListedType⟩ := rfl
  rw [outcome?, ha]
  cases set.rule? typeEnum <;> rfl

end CommitStyle
