import CommitStyle.Error
import CommitStyle.Regex.Pattern
import CommitStyle.Rule
import CommitStyle.RuleSet

/-!
# Validity of rule sets

A rule set is valid if its rules exist, their values are of the kind that the rules read, the commit
types are usable, and the patterns can be read.
-/

namespace CommitStyle

open Unicode (isUppercase)

def ValueKind.admits : ValueKind → RuleValue → Bool
  | none, _ => true
  | limit, .number n => 0 ≤ n
  | text, .text _ => true
  | list, .list _ | list, .text _ => true
  | casings, .list _ | casings, .text _ => true
  | _, _ => false

def ValueKind.strangeName? : ValueKind → RuleValue → Option String
  | casings, value => (value.toList?.getD []).find? fun name => (Casing.ofName? name).isNone
  | _, _ => .none

namespace Rule

def validateValue (rule : Rule) (value : Option RuleValue) : Except Error Unit :=
  match value with
  | none => .ok ()
  | some value =>
    match rule.kind.strangeName? value with
    | some name => (ConfigError.invalidValue rule.name s!"unknown case '{name}'").raise
    | none =>
      if rule.kind.admits value then .ok ()
      else
        (ConfigError.invalidValue rule.name
          s!"expected {rule.kind.describe}, got {value.kindName}").raise

end Rule

namespace RuleSet

def validateRule (isKnown : String → Bool) (entry : String × Setting) : Except Error Unit := do
  if !isKnown entry.1 then (ConfigError.unknownRule entry.1).raise
  match Rule.builtin? entry.1 with
  | some rule => rule.validateValue entry.2.value
  | none => return ()

def isUsableType (type : String) : Bool := !type.isEmpty && !type.toList.any isUppercase

def validateTypes (set : RuleSet) : Except Error Unit :=
  match set.typeSetting? with
  | none => .ok ()
  | some _ =>
    match set.listedTypes?.getD [] with
    | [] => (ConfigError.invalidValue typeEnum "accepted types must not be empty").raise
    | types =>
      match types.find? (!isUsableType ·) with
      | some bad =>
        (ConfigError.invalidValue typeEnum
          s!"type '{bad}' must be a non-empty lowercase token").raise
      | none => .ok ()

def readPattern (pattern : String) : Except Error Regex :=
  match Regex.parse? pattern with
  | some regex => .ok regex
  | none => (ConfigError.invalidValue "ignores" s!"invalid pattern '{pattern}'").raise

def validateWith (set : RuleSet) (isKnown : String → Bool) : Except Error Unit := do
  set.rules.entries.forM (validateRule isKnown)
  set.validateTypes
  set.ignores.forM fun pattern => discard (readPattern pattern)

def validate (set : RuleSet) : Except Error Unit := set.validateWith Rule.isBuiltin

end RuleSet

end CommitStyle
