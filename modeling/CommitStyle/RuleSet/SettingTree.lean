import CommitStyle.Document.Tree
import CommitStyle.Rule.Setting

/-!
# Settings as document trees

A setting is written as a list of its level, its condition and its value, the last two left out where
they are not needed.
-/

namespace CommitStyle

open Document (Tree Notation)

namespace Level

def toTree (level : Level) : Tree := .integer level.toNat

def ofTree? (tree : Tree) : Option Level := do
  let n ← tree.toInteger?
  if 0 ≤ n then ofNat? n.toNat else none

end Level

namespace Condition

def toTree (condition : Condition) : Tree := .text condition.name

/-- What may stand beside the name of a condition that is written as a table. -/
def isUnit : Notation → Tree → Bool
  | .json, .null => true
  | .toml, .table [] | .toml, .list [] => true
  | _, _ => false

/-- A condition is written as its name, or as a table with its name as the only key and no content. -/
def ofTree? (format : Notation) : Tree → Option Condition
  | .text name => ofName? name
  | .table [(name, content)] => if isUnit format content then ofName? name else none
  | _ => none

end Condition

namespace RuleValue

def toTree : RuleValue → Tree
  | flag value => .bool value
  | number value => .integer value
  | text value => .text value
  | list items => .ofTexts items

def ofTree? : Tree → Option RuleValue
  | .bool value => some (flag value)
  | .integer value => if Document.isInRange value then some (number value) else none
  | .text value => some (text value)
  | .list items => (Tree.toTexts? (.list items)).map list
  | _ => none

end RuleValue

namespace Setting

/-- The items that write a setting. A value is always preceded by a condition. -/
def toTrees (setting : Setting) : List Tree :=
  match setting.condition, setting.value with
  | _, some value => [setting.level.toTree, setting.when.toTree, value.toTree]
  | some condition, none => [setting.level.toTree, condition.toTree]
  | none, none => [setting.level.toTree]

def toTree (setting : Setting) : Tree := .list setting.toTrees

def ofTree? (format : Notation) : Tree → Option Setting
  | .list [level] => do
    return { level := ← Level.ofTree? level, condition := none, value := none }
  | .list [level, condition] => do
    return {
      level := ← Level.ofTree? level
      condition := ← Condition.ofTree? format condition
      value := none }
  | .list [level, condition, value] => do
    return {
      level := ← Level.ofTree? level
      condition := ← Condition.ofTree? format condition
      value := ← RuleValue.ofTree? value }
  | _ => none

end Setting

end CommitStyle
