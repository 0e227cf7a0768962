import CommitStyle.Casing
import CommitStyle.Message
import CommitStyle.Rule.Setting

/-!
# Built-in checks

Every built-in rule asks one question about a message. The condition of its setting decides which
answer is the right one; limits have one right answer whatever the condition.
-/

namespace CommitStyle

/-- What a rule says of a message: nothing, if it does not apply, or a verdict and the demand that a
violation is reported with. -/
inductive Outcome where
  | skipped
  | judged (valid : Bool) (demand : String)
  deriving DecidableEq, Repr

namespace Outcome

def valid : Outcome → Bool
  | skipped => true
  | judged valid _ => valid

def demand : Outcome → String
  | skipped => ""
  | judged _ demand => demand

end Outcome

inductive ValueKind where
  | none
  | limit
  | text
  | list
  | casings
  deriving DecidableEq, Repr

def ValueKind.describe : ValueKind → String
  | none => "no value"
  | limit => "a non-negative number"
  | text => "a string"
  | list => "a list of strings"
  | casings => "a case name or list of case names"

abbrev Check := Message → Condition → Option RuleValue → Outcome

inductive Field where
  | type
  | scope
  | subject
  | header
  | body
  | footer
  deriving DecidableEq, Repr

namespace Field

def name : Field → String
  | type => "type"
  | scope => "scope"
  | subject => "subject"
  | header => "header"
  | body => "body"
  | footer => "footer"

def of (message : Message) : Field → Option String
  | type => message.type
  | scope => message.scope
  | subject => message.subject
  | header => some message.header
  | body => message.body
  | footer => message.footer

end Field

namespace Check

open Text

def ask (answer : Bool) (condition : Condition) (demand : String → String) : Outcome :=
  .judged (condition.accepts answer) (demand condition.verb)

/-- The limit that a value sets; zero sets none. -/
def limit? (value : Option RuleValue) : Option Nat :=
  match value.bind RuleValue.toNumber? with
  | some n => if 0 < n then some n.toNat else none
  | none => none

def items? (value : Option RuleValue) : Option (List String) :=
  match value.bind RuleValue.toList? with
  | some [] | none => none
  | some items => some items

def commaSeparated (items : List String) : String := ", ".intercalate items

def isEmpty (field : Field) : Check := fun message condition _ =>
  ask (field.of message).isNone condition fun verb => s!"{field.name} {verb} be empty"

/-- Whether the field has one of the listed shapes. Names of no shape are passed over. -/
def hasCasing (field : Field) : Check := fun message condition value =>
  match field.of message, items? value with
  | some text, some names =>
    ask ((names.filterMap Casing.ofName?).any (·.fits text.toList)) condition fun verb =>
      s!"{field.name} {verb} be {commaSeparated names}"
  | _, _ => .skipped

def endsInStop (field : Field) : Check := fun message condition value =>
  match field.of message with
  | some text =>
    let stop := (value.bind RuleValue.toText?).getD "."
    ask (stop.toList.isSuffixOf (trimEnd text.toList)) condition fun verb =>
      s!"{field.name} {verb} end with full stop"
  | none => .skipped

def hasMaxLength (field : Field) : Check := fun message _ value =>
  match field.of message, limit? value with
  | some text, some limit =>
    .judged (text.length ≤ limit)
      s!"{field.name} must not be longer than {limit} characters, current length is {text.length}"
  | _, _ => .skipped

def hasMinLength (field : Field) : Check := fun message _ value =>
  match field.of message, limit? value with
  | some text, some limit =>
    .judged (limit ≤ text.length)
      s!"{field.name} must not be shorter than {limit} characters, current length is {text.length}"
  | _, _ => .skipped

def hasMaxLineLength (field : Field) : Check := fun message _ value =>
  match field.of message, limit? value with
  | some text, some limit =>
    .judged ((lines text.toList).all (·.length ≤ limit))
      s!"{field.name}'s lines must not be longer than {limit} characters"
  | _, _ => .skipped

def hasListedType : Check := fun message condition value =>
  match message.type, items? value with
  | some type, some allowed =>
    ask (allowed.contains type) condition fun verb =>
      s!"type {verb} be one of [{commaSeparated allowed}]"
  | _, _ => .skipped

/-- The scopes that a scope names: commas and slashes divide them. -/
def scopesIn (scope : String) : List String :=
  (((splitBy (fun c => c == ',' || c == '/' || c == '\\') scope.toList).map trim).filter
    (!·.isEmpty)).map String.ofList

/-- Under `always` every scope must be listed, under `never` none may be. -/
def hasListedScopes : Check := fun message condition value =>
  match message.scope, items? value with
  | some scope, some allowed =>
    let scopes := scopesIn scope
    .judged
      (match condition with
        | .always => scopes.all allowed.contains
        | .never => !scopes.any allowed.contains)
      s!"scope {condition.verb} be one of [{commaSeparated allowed}]"
  | _, _ => .skipped

def isTrimmed : Check := fun message _ _ =>
  .judged (message.header.toList == trim message.header.toList)
    "header must not be surrounded by whitespace"

def hasBlankBeforeBody : Check := fun message condition _ =>
  if message.body.isNone then .skipped
  else
    ask (message.below.head?.any (isBlankLine ·.toList)) condition fun verb =>
      s!"body {verb} have leading blank line"

def hasBlankBeforeFooter : Check := fun message condition _ =>
  match message.footerStart with
  | some start =>
    ask (1 < start && message.lines[start - 1]?.any (isBlankLine ·.toList)) condition fun verb =>
      s!"footer {verb} have leading blank line"
  | none => .skipped

def isSigned : Check := fun message condition value =>
  let marker := (value.bind RuleValue.toText?).getD "Signed-off-by:"
  ask (message.lines.getLast?.any (marker.toList.isPrefixOf ·.toList)) condition fun verb =>
    s!"message {verb} be signed off"

end Check

end CommitStyle
