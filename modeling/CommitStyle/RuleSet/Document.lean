import CommitStyle.Document.JsonPrinter
import CommitStyle.Document.JsonReader
import CommitStyle.Document.TomlPrinter
import CommitStyle.Document.TomlReader
import CommitStyle.Error
import CommitStyle.RuleSet
import CommitStyle.RuleSet.SettingTree

/-!
# Rule sets as documents

A rule set is written as a table, or in JSON as a list of what the table would hold. What is left out
is as in the empty rule set, and keys that name nothing are passed over.
-/

namespace CommitStyle

open Document (Tree Notation)

namespace RuleSet

/-! ### Writing -/

def rulesTree (rules : RuleTable) : Tree :=
  .table (rules.entries.map fun (name, setting) => (name, setting.toTree))

def toEntries (set : RuleSet) : List (String × Tree) :=
  [("extends", .ofTexts set.bases), ("default_ignores", .bool set.defaultIgnores)] ++
    (if set.ignores.isEmpty then [] else [("ignores", .ofTexts set.ignores)]) ++
    (set.helpUrl.toList.map fun url => ("help_url", .text url)) ++
    [("rules", rulesTree set.rules)]

def toTree (set : RuleSet) : Tree := .table set.toEntries

def print (format : Notation) (set : RuleSet) : String :=
  match format with
  | .toml => Document.Toml.write set.toEntries
  | .json => Document.Json.write set.toTree

/-! ### Reading -/

structure Parts where
  bases : Option Tree
  defaultIgnores : Option Tree
  ignores : Option Tree
  helpUrl : Option Tree
  rules : Option Tree

/-- The part that stands under one of the given keys, of which only one may be there. -/
def part? (keys : List String) (entries : List (String × Tree)) : Option (Option Tree) :=
  match entries.filter (keys.contains ·.1) with
  | [] => some none
  | [(_, tree)] => some (some tree)
  | _ => none

def partsOfTable? (entries : List (String × Tree)) : Option Parts := do
  return {
    bases := ← part? ["extends"] entries
    defaultIgnores := ← part? ["default_ignores", "defaultIgnores"] entries
    ignores := ← part? ["ignores"] entries
    helpUrl := ← part? ["help_url", "helpUrl"] entries
    rules := ← part? ["rules"] entries }

def partsOfList? (items : List Tree) : Option Parts :=
  if items.length ≤ 5 then
    some {
      bases := items[0]?, defaultIgnores := items[1]?, ignores := items[2]?, helpUrl := items[3]?
      rules := items[4]? }
  else none

def parts? : Tree → Option Parts
  | .table entries => partsOfTable? entries
  | .list items => partsOfList? items
  | _ => none

def oneOrMany? : Tree → Option (List String)
  | .text entry => some [entry]
  | tree => tree.toTexts?

def textOrNull? : Tree → Option (Option String)
  | .null => some none
  | tree => tree.toText?.map some

/-- The settings that a table gives. Of several settings of one rule the last one counts. -/
def rulesOfTree? (format : Notation) (tree : Tree) : Option RuleTable := do
  let settings ← (← tree.toTable?).mapM fun ((name, tree) : String × Tree) =>
    (Setting.ofTree? format tree).map fun setting => (name, setting)
  return .ofList settings

/-- The value of a part, if it can be read, or the value that holds where it is left out. -/
def readPart? {α : Type} (read? : Tree → Option α) (default : α) : Option Tree → Option α
  | some tree => read? tree
  | none => some default

def ofTree? (format : Notation) (tree : Tree) : Option RuleSet := do
  let parts ← parts? tree
  return {
    bases := ← readPart? oneOrMany? [] parts.bases
    defaultIgnores := ← readPart? Tree.toBool? true parts.defaultIgnores
    ignores := ← readPart? Tree.toTexts? [] parts.ignores
    helpUrl := ← readPart? textOrNull? none parts.helpUrl
    rules := ← readPart? (rulesOfTree? format) .empty parts.rules }

def readTree? : Notation → String → Option Tree
  | .toml => Document.Toml.read?
  | .json => Document.Json.read?

def formatName : Notation → String
  | .toml => "TOML"
  | .json => "JSON"

def parse (format : Notation) (content : String) : Except Error RuleSet :=
  match readTree? format content >>= ofTree? format with
  | some set => .ok set
  | none => (ConfigError.malformed s!"Failed to parse {formatName format}").raise

end RuleSet

end CommitStyle
