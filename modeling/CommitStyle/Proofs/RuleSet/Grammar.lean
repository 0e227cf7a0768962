import CommitStyle.Proofs.RuleSet.Tree

/-!
# The grammar of settings

What writes a level, a condition and a value, told without the reader. A tree is read as a setting if
and only if it is a list of one to three of these in their order, and the setting that is read is
written as the same list, in which the condition is spelled as its name.
-/

namespace CommitStyle

open Document (Tree Notation)

/-! ### Levels -/

namespace Level

def IsWritten (tree : Tree) : Prop := tree = .integer 0 ∨ tree = .integer 1 ∨ tree = .integer 2

variable {tree : Tree} {level : Level}

lemma isWritten_iff : IsWritten tree ↔ ∃ level : Level, level.toTree = tree := by
  constructor
  · rintro (rfl | rfl | rfl)
    exacts [⟨off, rfl⟩, ⟨warning, rfl⟩, ⟨error, rfl⟩]
  · rintro ⟨_ | _ | _, rfl⟩
    exacts [.inl rfl, .inr (.inl rfl), .inr (.inr rfl)]

lemma ofTree?_eq_some_iff : ofTree? tree = some level ↔ level.toTree = tree := by
  constructor
  · intro h
    obtain ⟨n, hn, h⟩ := Option.bind_eq_some_iff.1 h
    obtain ⟨hpos, hl⟩ := Option.ite_none_right_eq_some.1 h
    cases tree with
    | integer m =>
      cases hn
      rw [toTree, toNat_of_ofNat? hl, Int.toNat_of_nonneg hpos]
    | _ => cases hn
  · rintro rfl
    exact ofTree?_toTree level

end Level

/-! ### Conditions -/

namespace Condition

/-- What stands beside a name that is written as a table and has no content. -/
inductive IsNothing : Notation → Tree → Prop
  | null : IsNothing .json .null
  | table : IsNothing .toml (.table [])
  | list : IsNothing .toml (.list [])

inductive IsWritten (format : Notation) : Tree → Prop
  | named {name : String} (hn : name = "always" ∨ name = "never") : IsWritten format (.text name)
  | tagged {name : String} {content : Tree} (hn : name = "always" ∨ name = "never")
      (hc : IsNothing format content) : IsWritten format (.table [(name, content)])

/-- A tree with a name that is written as a table spelled as the name. -/
def plain : Tree → Tree
  | .table [(name, _)] => .text name
  | tree => tree

variable {format : Notation} {tree : Tree} {condition : Condition}

lemma isUnit_eq_true_iff : isUnit format tree = true ↔ IsNothing format tree := by
  constructor
  · intro h
    unfold isUnit at h
    split at h
    exacts [.null, .table, .list, nomatch h]
  · rintro (_ | _ | _) <;> rfl

lemma ofName?_eq_some_iff {name : String} : ofName? name = some condition ↔ condition.name = name := by
  constructor
  · intro h
    rw [ofName?] at h
    simpa using List.find?_some h
  · rintro rfl
    exact ofName?_name condition

lemma exists_name_iff {name : String} :
    name = "always" ∨ name = "never" ↔ ∃ condition : Condition, condition.name = name := by
  constructor
  · rintro (rfl | rfl)
    exacts [⟨always, rfl⟩, ⟨never, rfl⟩]
  · rintro ⟨_ | _, rfl⟩
    exacts [.inl rfl, .inr rfl]

lemma ofTree?_eq_some_iff : ofTree? format tree = some condition ↔
    IsWritten format tree ∧ condition.toTree = plain tree := by
  constructor
  · intro h
    unfold ofTree? at h
    split at h
    next name =>
      have hn := ofName?_eq_some_iff.1 h
      exact ⟨.named (exists_name_iff.2 ⟨condition, hn⟩), congrArg Tree.text hn⟩
    next name content =>
      obtain ⟨hu, h⟩ := Option.ite_none_right_eq_some.1 h
      have hn := ofName?_eq_some_iff.1 h
      exact ⟨.tagged (exists_name_iff.2 ⟨condition, hn⟩) (isUnit_eq_true_iff.1 hu),
        congrArg Tree.text hn⟩
    next => cases h
  · rintro ⟨hw, ht⟩
    cases hw with
    | named => exact ofName?_eq_some_iff.2 (Tree.text.inj ht)
    | tagged _ hc =>
      rw [ofTree?, if_pos (isUnit_eq_true_iff.2 hc)]
      exact ofName?_eq_some_iff.2 (Tree.text.inj ht)

lemma IsWritten.exists_toTree (h : IsWritten format tree) :
    ∃ condition : Condition, condition.toTree = plain tree := by
  cases h with
  | named hn | tagged hn =>
    obtain ⟨condition, rfl⟩ := exists_name_iff.1 hn
    exact ⟨condition, rfl⟩

end Condition

/-! ### Values -/

namespace RuleValue

inductive IsWritten : Tree → Prop
  | flag (value : Bool) : IsWritten (.bool value)
  | number {n : Int} (hl : -0x8000000000000000 ≤ n) (hr : n < 0x8000000000000000) :
      IsWritten (.integer n)
  | text (value : String) : IsWritten (.text value)
  | list (items : List String) : IsWritten (.list (items.map .text))

variable {tree : Tree} {value : RuleValue}

lemma isInRange_iff {n : Int} :
    Document.isInRange n = true ↔ -0x8000000000000000 ≤ n ∧ n < 0x8000000000000000 := by
  have hmin : Int64.minValue.toInt = -0x8000000000000000 := by decide
  have hmax : Int64.maxValue.toInt = 0x8000000000000000 - 1 := by decide
  rw [Document.isInRange, Bool.and_eq_true, decide_eq_true_eq, decide_eq_true_eq, hmin, hmax]
  omega

lemma eq_map_text_of_mapM {trees : List Tree} {items : List String}
    (h : trees.mapM Tree.toText? = some items) : trees = items.map .text := by
  induction trees generalizing items with
  | nil =>
    cases h
    rfl
  | cons tree rest ih =>
    rw [List.mapM_cons] at h
    obtain ⟨item, hi, h⟩ := Option.bind_eq_some_iff.1 h
    obtain ⟨others, ho, h⟩ := Option.bind_eq_some_iff.1 h
    cases h
    cases tree with
    | text text =>
      cases hi
      rw [ih ho, List.map_cons]
    | _ => cases hi

lemma ofTree?_eq_some_iff : ofTree? tree = some value ↔ IsWritten tree ∧ value.toTree = tree := by
  constructor
  · intro h
    unfold ofTree? at h
    split at h
    next b =>
      cases h
      exact ⟨.flag b, rfl⟩
    next n =>
      obtain ⟨hr, h⟩ := Option.ite_none_right_eq_some.1 h
      cases h
      obtain ⟨hmin, hmax⟩ := isInRange_iff.1 hr
      exact ⟨.number hmin hmax, rfl⟩
    next text =>
      cases h
      exact ⟨.text text, rfl⟩
    next trees =>
      obtain ⟨items, hi, h⟩ := Option.map_eq_some_iff.1 h
      cases h
      rw [eq_map_text_of_mapM hi]
      exact ⟨.list items, rfl⟩
    next => cases h
  · rintro ⟨hw, rfl⟩
    refine ofTree?_toTree fun n hn => ?_
    subst hn
    cases hw with
    | number hl hr => exact isInRange_iff.2 ⟨hl, hr⟩

lemma IsWritten.exists_toTree (h : IsWritten tree) : ∃ value : RuleValue, value.toTree = tree := by
  cases h with
  | flag b => exact ⟨.flag b, rfl⟩
  | number => exact ⟨.number _, rfl⟩
  | text text => exact ⟨.text text, rfl⟩
  | list items => exact ⟨.list items, rfl⟩

end RuleValue

/-! ### Settings -/

namespace Setting

/-- The items that write a setting: a level, then perhaps a condition, then perhaps a value. -/
structure AreItems (format : Notation) (items : List Tree) : Prop where
  size : 1 ≤ items.length ∧ items.length ≤ 3
  level : ∀ tree, items[0]? = some tree → Level.IsWritten tree
  condition : ∀ tree, items[1]? = some tree → Condition.IsWritten format tree
  value : ∀ tree, items[2]? = some tree → RuleValue.IsWritten tree

variable {format : Notation} {tree : Tree} {setting : Setting} {items : List Tree}

lemma areItems_singleton_iff {l : Tree} : AreItems format [l] ↔ Level.IsWritten l :=
  ⟨fun h => h.level l rfl, fun hl => ⟨by simp, by simpa using hl, by simp, by simp⟩⟩

lemma areItems_pair_iff {l c : Tree} :
    AreItems format [l, c] ↔ Level.IsWritten l ∧ Condition.IsWritten format c :=
  ⟨fun h => ⟨h.level l rfl, h.condition c rfl⟩,
    fun ⟨hl, hc⟩ => ⟨by simp, by simpa using hl, by simpa using hc, by simp⟩⟩

lemma areItems_triple_iff {l c v : Tree} : AreItems format [l, c, v] ↔
    Level.IsWritten l ∧ Condition.IsWritten format c ∧ RuleValue.IsWritten v :=
  ⟨fun h => ⟨h.level l rfl, h.condition c rfl, h.value v rfl⟩,
    fun ⟨hl, hc, hv⟩ => ⟨by simp, by simpa using hl, by simpa using hc, by simpa using hv⟩⟩

lemma areItems_of_ofTree? (h : ofTree? format tree = some setting) :
    ∃ items, tree = .list items ∧ AreItems format items ∧
      setting.toTrees = items.modify 1 Condition.plain := by
  unfold ofTree? at h
  split at h
  next l =>
    obtain ⟨level, hl, h⟩ := Option.bind_eq_some_iff.1 h
    cases h
    have hl := Level.ofTree?_eq_some_iff.1 hl
    refine ⟨_, rfl, areItems_singleton_iff.2 (Level.isWritten_iff.2 ⟨level, hl⟩), ?_⟩
    change [level.toTree] = [l]
    rw [hl]
  next l c =>
    obtain ⟨level, hl, h⟩ := Option.bind_eq_some_iff.1 h
    obtain ⟨condition, hc, h⟩ := Option.bind_eq_some_iff.1 h
    cases h
    have hl := Level.ofTree?_eq_some_iff.1 hl
    obtain ⟨hcw, hc⟩ := Condition.ofTree?_eq_some_iff.1 hc
    refine ⟨_, rfl, areItems_pair_iff.2 ⟨Level.isWritten_iff.2 ⟨level, hl⟩, hcw⟩, ?_⟩
    change [level.toTree, condition.toTree] = [l, Condition.plain c]
    rw [hl, hc]
  next l c v =>
    obtain ⟨level, hl, h⟩ := Option.bind_eq_some_iff.1 h
    obtain ⟨condition, hc, h⟩ := Option.bind_eq_some_iff.1 h
    obtain ⟨value, hv, h⟩ := Option.bind_eq_some_iff.1 h
    cases h
    have hl := Level.ofTree?_eq_some_iff.1 hl
    obtain ⟨hcw, hc⟩ := Condition.ofTree?_eq_some_iff.1 hc
    obtain ⟨hvw, hv⟩ := RuleValue.ofTree?_eq_some_iff.1 hv
    refine ⟨_, rfl, areItems_triple_iff.2 ⟨Level.isWritten_iff.2 ⟨level, hl⟩, hcw, hvw⟩, ?_⟩
    change [level.toTree, condition.toTree, value.toTree] = [l, Condition.plain c, v]
    rw [hl, hc, hv]
  next => cases h

lemma AreItems.exists_ofTree? (h : AreItems format items) :
    ∃ setting, ofTree? format (.list items) = some setting := by
  match items, h with
  | [], h => exact absurd h.size.1 (by simp)
  | [l], h =>
    obtain ⟨level, hl⟩ := Level.isWritten_iff.1 (areItems_singleton_iff.1 h)
    rw [ofTree?, Level.ofTree?_eq_some_iff.2 hl]
    exact ⟨_, rfl⟩
  | [l, c], h =>
    obtain ⟨hlw, hcw⟩ := areItems_pair_iff.1 h
    obtain ⟨level, hl⟩ := Level.isWritten_iff.1 hlw
    obtain ⟨condition, hc⟩ := hcw.exists_toTree
    rw [ofTree?, Level.ofTree?_eq_some_iff.2 hl, Condition.ofTree?_eq_some_iff.2 ⟨hcw, hc⟩]
    exact ⟨_, rfl⟩
  | [l, c, v], h =>
    obtain ⟨hlw, hcw, hvw⟩ := areItems_triple_iff.1 h
    obtain ⟨level, hl⟩ := Level.isWritten_iff.1 hlw
    obtain ⟨condition, hc⟩ := hcw.exists_toTree
    obtain ⟨value, hv⟩ := hvw.exists_toTree
    rw [ofTree?, Level.ofTree?_eq_some_iff.2 hl, Condition.ofTree?_eq_some_iff.2 ⟨hcw, hc⟩,
      RuleValue.ofTree?_eq_some_iff.2 ⟨hvw, hv⟩]
    exact ⟨_, rfl⟩
  | _ :: _ :: _ :: _ :: _, h => exact absurd h.size.2 (by simp)

/-- A tree is read as a setting exactly when it is a list of items that write one, and the setting is
written as the same items again, with the condition spelled as its name. -/
theorem ofTree?_exact (format : Notation) (tree : Tree) :
    ((∃ setting, ofTree? format tree = some setting) ↔
      ∃ items, tree = .list items ∧ AreItems format items) ∧
    ∀ items setting, tree = .list items → ofTree? format tree = some setting →
      setting.toTree = .list (items.modify 1 Condition.plain) ∧
        setting.toTrees.length = items.length := by
  refine ⟨⟨?_, ?_⟩, ?_⟩
  · rintro ⟨setting, h⟩
    obtain ⟨items, ht, hi, -⟩ := areItems_of_ofTree? h
    exact ⟨items, ht, hi⟩
  · rintro ⟨items, rfl, hi⟩
    exact hi.exists_ofTree?
  · rintro items setting rfl h
    obtain ⟨_, ⟨⟩, -, ht⟩ := areItems_of_ofTree? h
    exact ⟨congrArg Tree.list ht, by rw [ht, List.length_modify]⟩

def taggedItems : List Tree :=
  [.integer 1, .table [("never", .null)], .list [.text "wip", .text "tmp"]]

theorem ofTree?_exact_tagged :
    AreItems .json taggedItems ∧
    (∃ setting, ofTree? .json (.list taggedItems) = some setting) ∧
    ofTree? .json (.list taggedItems) = some (withValue .warning .never (.list ["wip", "tmp"])) ∧
    (withValue .warning .never (.list ["wip", "tmp"])).toTree =
      .list [.integer 1, .text "never", .list [.text "wip", .text "tmp"]] := by
  obtain ⟨hread, hwritten⟩ := ofTree?_exact .json (.list taggedItems)
  have hitems : AreItems .json taggedItems := {
    size := by decide
    level := by
      rintro _ ⟨⟩
      exact .inr (.inl rfl)
    condition := by
      rintro _ ⟨⟩
      exact .tagged (.inr rfl) .null
    value := by
      rintro _ ⟨⟩
      exact .list ["wip", "tmp"] }
  have hset : ofTree? .json (.list taggedItems) =
      some (withValue .warning .never (.list ["wip", "tmp"])) := rfl
  exact ⟨hitems, hread.2 ⟨_, rfl, hitems⟩, hset, (hwritten _ _ rfl hset).1⟩

end Setting

end CommitStyle
