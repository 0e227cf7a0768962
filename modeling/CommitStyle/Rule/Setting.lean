/-!
# Rule settings

How a rule set configures a rule: how much a violation matters, whether the rule's question must be
answered yes or no, and the value that the question depends on.
-/

namespace CommitStyle

inductive Level where
  | off
  | warning
  | error
  deriving DecidableEq, Repr

namespace Level

def name : Level → String
  | off => "off"
  | warning => "warning"
  | error => "error"

@[simp] theorem name_inj {level other : Level} : level.name = other.name ↔ level = other := by
  cases level <;> cases other <;> decide

def toNat : Level → Nat
  | off => 0
  | warning => 1
  | error => 2

def outOfRange (n : Nat) : String := s!"rule level must be 0, 1 or 2, got {n}"

def ofNumber : Nat → Except String Level
  | 0 => .ok off
  | 1 => .ok warning
  | 2 => .ok error
  | n => .error (outOfRange n)

def ofNat? (n : Nat) : Option Level := (ofNumber n).toOption

@[simp] theorem ofNat?_toNat (level : Level) : ofNat? level.toNat = some level := by
  cases level <;> rfl

theorem toNat_of_ofNat? {n : Nat} {level : Level} (h : ofNat? n = some level) :
    level.toNat = n := by
  match n, h with
  | 0, h | 1, h | 2, h => cases h; rfl

end Level

/-- Whether a rule's question must be answered yes or no. -/
inductive Condition where
  | always
  | never
  deriving DecidableEq, Repr

namespace Condition

def name : Condition → String
  | always => "always"
  | never => "never"

def ofName? (name : String) : Option Condition := [always, never].find? (·.name == name)

@[simp] theorem ofName?_name (condition : Condition) : ofName? condition.name = some condition := by
  cases condition <;> decide

def accepts (condition : Condition) (answer : Bool) : Bool :=
  match condition with
  | always => answer
  | never => !answer

def verb : Condition → String
  | always => "must"
  | never => "may not"

end Condition

inductive RuleValue where
  | flag (value : Bool)
  | number (value : Int)
  | text (value : String)
  | list (items : List String)
  deriving DecidableEq, Repr

namespace RuleValue

/-- The value as a list of texts; a single text is a list of one. -/
def toList? : RuleValue → Option (List String)
  | list items => some items
  | text value => some [value]
  | _ => none

def toNumber? : RuleValue → Option Int
  | number value => some value
  | _ => none

def toText? : RuleValue → Option String
  | text value => some value
  | _ => none

def kindName : RuleValue → String
  | flag _ => "a boolean"
  | number _ => "a number"
  | text _ => "a string"
  | list _ => "a list"

end RuleValue

structure Setting where
  level : Level
  condition : Option Condition
  value : Option RuleValue
  deriving DecidableEq, Repr

namespace Setting

def off : Setting := { level := .off, condition := none, value := none }

def plain (level : Level) (condition : Condition) : Setting :=
  { level, condition := some condition, value := none }

def withValue (level : Level) (condition : Condition) (value : RuleValue) : Setting :=
  { level, condition := some condition, value := some value }

/-- The condition that holds: `always` where none is given. -/
def when (setting : Setting) : Condition := setting.condition.getD .always

def isEnabled (setting : Setting) : Bool := setting.level != .off

end Setting

end CommitStyle
