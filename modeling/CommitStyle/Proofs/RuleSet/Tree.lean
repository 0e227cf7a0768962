import CommitStyle.Proofs.Document.Json
import CommitStyle.Proofs.Document.TomlDocument
import CommitStyle.Proofs.Merge
import CommitStyle.RuleSet.Document

/-!
# Rule sets and their trees

The tree of a rule set is read back as the rule set in which every condition that a value is written
with is stated. It has a form that both notations write without loss.
-/

namespace CommitStyle

open Document (Tree Notation)

/-! ### Settings -/

namespace Setting

/-- The setting with the condition that it is written with: `always` in front of a value. -/
def explicit (setting : Setting) : Setting :=
  { setting with condition := setting.condition.or (setting.value.map fun _ => .always) }

def IsInRange (setting : Setting) : Prop :=
  ∀ n, setting.value = some (.number n) → Document.isInRange n = true

lemma explicit_eq_self_iff {setting : Setting} :
    setting.explicit = setting ↔ (setting.value.isSome = true → setting.condition.isSome = true) := by
  obtain ⟨level, condition, value⟩ := setting
  cases condition <;> cases value <;> simp [explicit]

@[simp] lemma when_explicit (setting : Setting) : setting.explicit.when = setting.when := by
  obtain ⟨level, condition, value⟩ := setting
  cases condition <;> cases value <;> rfl

end Setting

lemma Level.ofTree?_toTree (level : Level) : ofTree? level.toTree = some level := by
  cases level <;> rfl

lemma Condition.ofTree?_toTree (format : Notation) (condition : Condition) :
    ofTree? format condition.toTree = some condition :=
  ofName?_name condition

lemma Document.Tree.toTexts?_ofTexts (items : List String) :
    (Tree.ofTexts items).toTexts? = some items := by
  change (items.map Tree.text).mapM Tree.toText? = some items
  have hall : (items.map Tree.text).mapM Tree.toText? = some (items.map id) :=
    mapM_map_eq_some fun _ _ => rfl
  rw [hall, List.map_id]

lemma RuleValue.ofTree?_toTree {value : RuleValue}
    (h : ∀ n, value = .number n → Document.isInRange n = true) :
    ofTree? value.toTree = some value := by
  cases value with
  | flag b => rfl
  | number n => exact if_pos (h n rfl)
  | text text => rfl
  | list items =>
    change (Tree.toTexts? (Tree.ofTexts items)).map list = _
    rw [Document.Tree.toTexts?_ofTexts]
    rfl

namespace Setting

lemma ofTree?_toTree (format : Notation) {setting : Setting} (h : setting.IsInRange) :
    ofTree? format setting.toTree = some setting.explicit := by
  obtain ⟨level, condition, value⟩ := setting
  cases value with
  | none =>
    cases condition with
    | none => simp [toTree, toTrees, ofTree?, Level.ofTree?_toTree, explicit]
    | some condition =>
      simp [toTree, toTrees, ofTree?, Level.ofTree?_toTree, Condition.ofTree?_toTree, explicit]
  | some value =>
    have hvalue : RuleValue.ofTree? value.toTree = some value :=
      RuleValue.ofTree?_toTree fun n hn => h n (congrArg some hn)
    cases condition <;>
      simp [toTree, toTrees, ofTree?, Level.ofTree?_toTree, Condition.ofTree?_toTree, hvalue,
        explicit, when]

end Setting

/-! ### Tables of settings -/

namespace RuleTable

def mapSettings (f : Setting → Setting) (table : RuleTable) : RuleTable where
  entries := table.entries.map fun entry => (entry.1, f entry.2)
  ascending := by
    rw [Ascending, List.pairwise_map]
    exact table.ascending

lemma find?_mapSettings (f : Setting → Setting) (table : RuleTable) (name : String) :
    (table.mapSettings f).find? name = (table.find? name).map f := by
  change (table.entries.map fun entry => (entry.1, f entry.2)).lookup name =
    (table.entries.lookup name).map f
  induction table.entries with
  | nil => rfl
  | cons entry entries ih =>
    obtain ⟨other, setting⟩ := entry
    rw [List.map_cons, lookup_cons_eq_ite, lookup_cons_eq_ite, ih]
    split <;> rfl

lemma ofList_entries (table : RuleTable) : ofList table.entries = table :=
  empty_merge table

end RuleTable

namespace RuleSet

/-- The rule set with the conditions that its values are written with. -/
def explicit (set : RuleSet) : RuleSet := { set with rules := set.rules.mapSettings Setting.explicit }

def IsInRange (set : RuleSet) : Prop :=
  ∀ name setting, set.rule? name = some setting → setting.IsInRange

lemma IsInRange.of_mem {set : RuleSet} (h : set.IsInRange) {entry : String × Setting}
    (he : entry ∈ set.rules.entries) : entry.2.IsInRange :=
  h entry.1 entry.2 (mem_entries_iff.1 he)

lemma rule?_explicit (set : RuleSet) (name : String) :
    set.explicit.rule? name = (set.rule? name).map Setting.explicit :=
  RuleTable.find?_mapSettings Setting.explicit set.rules name

lemma rulesOfTree?_rulesTree (format : Notation) {set : RuleSet} (h : set.IsInRange) :
    rulesOfTree? format (rulesTree set.rules) = some set.explicit.rules := by
  have hall : (set.rules.entries.map fun entry => (entry.1, entry.2.toTree)).mapM
      (fun entry => (Setting.ofTree? format entry.2).map fun setting => (entry.1, setting)) =
      some (set.rules.entries.map fun entry => (entry.1, entry.2.explicit)) :=
    mapM_map_eq_some fun entry he =>
      congrArg (Option.map fun setting => (entry.1, setting))
        (Setting.ofTree?_toTree format (h.of_mem he))
  change (List.mapM _ _ >>= fun settings => some (RuleTable.ofList settings)) = _
  rw [hall]
  exact congrArg some (RuleTable.ofList_entries set.explicit.rules)

/-! ### Parts -/

lemma partsOfTable?_toEntries (set : RuleSet) :
    partsOfTable? set.toEntries = some {
      bases := some (.ofTexts set.bases)
      defaultIgnores := some (.bool set.defaultIgnores)
      ignores := if set.ignores.isEmpty then none else some (.ofTexts set.ignores)
      helpUrl := set.helpUrl.map .text
      rules := some (rulesTree set.rules) } := by
  cases hi : set.ignores.isEmpty <;> cases hu : set.helpUrl <;>
    simp [partsOfTable?, part?, toEntries, hi, hu]

lemma ofTree?_toTree (format : Notation) {set : RuleSet} (h : set.IsInRange) :
    ofTree? format set.toTree = some set.explicit := by
  have hbases : readPart? oneOrMany? [] (some (.ofTexts set.bases)) = some set.bases :=
    Document.Tree.toTexts?_ofTexts set.bases
  have hdefault : readPart? Tree.toBool? true (some (.bool set.defaultIgnores)) =
      some set.defaultIgnores := rfl
  have hignores : readPart? Tree.toTexts? []
      (if set.ignores.isEmpty then none else some (.ofTexts set.ignores)) = some set.ignores := by
    cases hi : set.ignores with
    | nil => rfl
    | cons pattern patterns => exact Document.Tree.toTexts?_ofTexts (pattern :: patterns)
  have hurl : readPart? textOrNull? none (set.helpUrl.map .text) = some set.helpUrl := by
    cases set.helpUrl <;> rfl
  have hrules : readPart? (rulesOfTree? format) .empty (some (rulesTree set.rules)) =
      some set.explicit.rules := rulesOfTree?_rulesTree format h
  rw [ofTree?, toTree, parts?, partsOfTable?_toEntries]
  simp only [Option.bind_eq_bind, Option.bind_some, hbases, hdefault, hignores, hurl, hrules]
  rfl

end RuleSet

/-! ### Notations -/

namespace Document.Tree

lemma isJson_ofTexts (items : List String) : (ofTexts items).IsJson :=
  .list fun item hi => by
    obtain ⟨text, -, rfl⟩ := List.mem_map.1 hi
    exact .text text

lemma isPlain_ofTexts (items : List String) : (ofTexts items).IsPlain 1 :=
  .list fun item hi => by
    obtain ⟨text, -, rfl⟩ := List.mem_map.1 hi
    exact .text 0 text

end Document.Tree

namespace RuleValue

lemma isJson_toTree (value : RuleValue) : value.toTree.IsJson := by
  cases value with
  | flag b => exact .bool b
  | number n => exact .integer n
  | text text => exact .text text
  | list items => exact Tree.isJson_ofTexts items

lemma isPlain_toTree {value : RuleValue}
    (h : ∀ n, value = .number n → Document.isInRange n = true) : value.toTree.IsPlain 1 := by
  cases value with
  | flag b => exact .bool 1 b
  | number n => exact .integer 1 (h n rfl)
  | text text => exact .text 1 text
  | list items => exact Tree.isPlain_ofTexts items

end RuleValue

namespace Setting

lemma mem_toTrees {setting : Setting} {tree : Tree} (h : tree ∈ setting.toTrees) :
    tree = setting.level.toTree ∨ (∃ name, tree = .text name) ∨
      ∃ value, setting.value = some value ∧ tree = value.toTree := by
  obtain ⟨level, condition, value⟩ := setting
  cases value with
  | none =>
    cases condition with
    | none => simp_all [toTrees]
    | some condition =>
      simp only [toTrees, List.mem_cons, List.not_mem_nil, or_false] at h
      exact h.imp_right fun hc => .inl ⟨_, hc⟩
  | some value =>
    simp only [toTrees, List.mem_cons, List.not_mem_nil, or_false] at h
    exact h.imp_right fun h => h.imp (fun hc => ⟨_, hc⟩) fun hv => ⟨value, rfl, hv⟩

lemma isJson_toTree (setting : Setting) : setting.toTree.IsJson :=
  .list fun tree ht => by
    rcases mem_toTrees ht with rfl | ⟨name, rfl⟩ | ⟨value, -, rfl⟩
    · exact .integer _
    · exact .text name
    · exact value.isJson_toTree

lemma isPlain_toTree {setting : Setting} (h : setting.IsInRange) : setting.toTree.IsPlain 2 :=
  .list fun tree ht => by
    rcases mem_toTrees ht with rfl | ⟨name, rfl⟩ | ⟨value, hv, rfl⟩
    · refine .integer 1 ?_
      cases setting.level <;> decide
    · exact .text 1 name
    · exact RuleValue.isPlain_toTree fun n hn => h n (hv.trans (congrArg some hn))

end Setting

namespace RuleSet

lemma mem_toEntries {set : RuleSet} {entry : String × Tree} (h : entry ∈ set.toEntries) :
    (∃ items, entry.2 = .ofTexts items) ∨ (∃ b, entry.2 = .bool b) ∨ (∃ text, entry.2 = .text text) ∨
      entry.2 = rulesTree set.rules := by
  simp only [toEntries, List.mem_append, List.mem_cons, List.not_mem_nil, or_false] at h
  rcases h with (((rfl | rfl) | hi) | hu) | rfl
  · exact .inl ⟨_, rfl⟩
  · exact .inr (.inl ⟨_, rfl⟩)
  · split at hi
    · cases hi
    · rw [List.mem_singleton.1 hi]
      exact .inl ⟨_, rfl⟩
  · obtain ⟨url, -, rfl⟩ := List.mem_map.1 hu
    exact .inr (.inr (.inl ⟨url, rfl⟩))
  · exact .inr (.inr (.inr rfl))

lemma isJson_toTree (set : RuleSet) : set.toTree.IsJson :=
  .table fun entry he => by
    rcases mem_toEntries he with ⟨items, h⟩ | ⟨b, h⟩ | ⟨text, h⟩ | h
    · exact h ▸ Tree.isJson_ofTexts items
    · exact h ▸ .bool b
    · exact h ▸ .text text
    · rw [h]
      refine .table fun rule hr => ?_
      obtain ⟨⟨name, setting⟩, -, rfl⟩ := List.mem_map.1 hr
      exact setting.isJson_toTree

lemma nodup_keys_toEntries (set : RuleSet) : (set.toEntries.map (·.1)).Nodup := by
  cases hi : set.ignores.isEmpty <;> cases hu : set.helpUrl <;> simp [toEntries, hi, hu]

lemma nodup_names (rules : RuleTable) : (rules.entries.map (·.1)).Nodup := by
  refine List.pairwise_map.2 (rules.ascending.imp ?_)
  rintro e e' hlt heq
  exact String.lt_irrefl _ (heq ▸ hlt)

lemma isDocument_toEntries {set : RuleSet} (h : set.IsInRange) :
    Document.Toml.IsDocument set.toEntries where
  nodup := nodup_keys_toEntries set
  plain entry he ht := by
    rcases mem_toEntries he with ⟨items, h⟩ | ⟨b, h⟩ | ⟨text, h⟩ | h
    · exact ⟨1, by decide, h ▸ Tree.isPlain_ofTexts items⟩
    · exact ⟨0, by decide, h ▸ .bool 0 b⟩
    · exact ⟨0, by decide, h ▸ .text 0 text⟩
    · simp [h, rulesTree, Document.Toml.isTable] at ht
  isSection entry he inner hinner := by
    rcases mem_toEntries he with ⟨items, he⟩ | ⟨b, he⟩ | ⟨text, he⟩ | he
    · simp [Tree.ofTexts, he] at hinner
    · simp [he] at hinner
    · simp [he] at hinner
    · rw [he, rulesTree, Tree.table.injEq] at hinner
      subst hinner
      constructor
      · rw [List.map_map]
        exact nodup_names set.rules
      · intro rule hr
        obtain ⟨⟨name, setting⟩, hs, rfl⟩ := List.mem_map.1 hr
        exact ⟨2, by decide, Setting.isPlain_toTree (h.of_mem hs)⟩

lemma written_toEntries (set : RuleSet) : Document.Toml.written set.toEntries = set.toEntries := by
  cases hi : set.ignores.isEmpty <;> cases hu : set.helpUrl <;>
    simp [Document.Toml.written, Document.Toml.isTable, toEntries, hi, hu, rulesTree, Tree.ofTexts]

end RuleSet

end CommitStyle
