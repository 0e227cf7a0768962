import CommitStyle.RuleSet.RuleTable

/-!
# Rule sets

What a configuration says: the configurations that it extends, the rules that it sets, and which
messages are exempt.
-/

namespace CommitStyle

structure RuleSet where
  /-- Presets and files whose content comes before this one. -/
  bases : List String := []
  /-- Whether generated messages are exempt. -/
  defaultIgnores : Bool := true
  /-- Patterns of exempt messages. -/
  ignores : List String := []
  /-- Where a failed check sends its reader. -/
  helpUrl : Option String := none
  rules : RuleTable := ∅
  deriving DecidableEq, Inhabited

namespace RuleSet

def typeEnum : String := "type-enum"

def withRule (set : RuleSet) (name : String) (setting : Setting) : RuleSet :=
  { set with rules := set.rules.insert name setting }

def rule? (set : RuleSet) (name : String) : Option Setting := set.rules.find? name

def level? (set : RuleSet) (name : String) : Option Level := (set.rule? name).map (·.level)

def addPatterns (patterns more : List String) : List String :=
  more.foldl (fun all p => if p ∈ all then all else all ++ [p]) patterns

/-- One rule set laid over another. Rules are replaced as a whole, patterns add up. -/
def merge (base overlay : RuleSet) : RuleSet :=
  { bases := overlay.bases
    defaultIgnores := overlay.defaultIgnores
    ignores := addPatterns base.ignores overlay.ignores
    helpUrl := overlay.helpUrl.or base.helpUrl
    rules := base.rules.merge overlay.rules }

def typeSetting? (set : RuleSet) : Option Setting :=
  (set.rule? typeEnum).filter (·.isEnabled)

def listedTypes? (set : RuleSet) : Option (List String) :=
  set.typeSetting? >>= (·.value) >>= RuleValue.toList?

/-- Texts in ascending order, each one once. -/
def sorted (texts : List String) : List String :=
  ((texts.mergeSort (· ≤ ·)).foldr
    (fun text kept => if kept.head? = some text then kept else text :: kept) [])

def types? (set : RuleSet) : Option (List String) := set.listedTypes?.map sorted

/-- Whether a commit type is accepted. Where no list is enforced every type is. -/
def allowsType (set : RuleSet) (type : String) : Bool :=
  match set.typeSetting?, set.listedTypes? with
  | some setting, some types => setting.when.accepts (types.contains type)
  | _, _ => true

end RuleSet

end CommitStyle
