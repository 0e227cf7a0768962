import CommitStyle.Error
import CommitStyle.RuleSet.Validity

/-!
# Exempt messages

Messages that tools write are exempt by default: those of merges and reverts, and those that ask for
a later squash. A rule set can add patterns of its own.
-/

namespace CommitStyle

structure Ignore where
  useDefaults : Bool
  patterns : List Regex

namespace Ignore

open CommitStyle.Expr (seqAll altAll)
open Regex (literal)

/-! ### The default patterns -/

def rest : Regex := .star (.chars (.compl (.single '\n')))

def start : Regex := .place .textStart

def lineEnds : Regex :=
  .seq (.star (.seq (.opt (.chars (.single '\r'))) (.chars (.single '\n')))) (.place .textEnd)

def merge : Regex :=
  .seq start (altAll [
    literal "Merge pull request",
    .seq
      (altAll [
        seqAll [literal "Merge ", rest, literal " into ", rest],
        .seq (literal "Merge branch ") rest])
      lineEnds])

def mergeTag : Regex := seqAll [start, literal "Merge tag ", rest, lineEnds]

def revert : Regex := seqAll [start, altAll [literal "R", literal "r"], literal "evert ", rest]

def squash : Regex :=
  seqAll [start, altAll [literal "amend", literal "fixup", literal "squash"], literal "!"]

def merged : Regex :=
  .seq start (altAll [
    seqAll [literal "Merged ", rest, altAll [literal "in", literal "into"], literal " ", rest],
    seqAll [literal "Merged PR ", rest, literal ": ", rest]])

def mergeRemote : Regex :=
  seqAll [start, literal "Merge remote-tracking branch", .star (.chars (.property .whiteSpace)), rest]

def automatic : Regex := seqAll [start, literal "Automatic merge", rest]

def autoMerged : Regex := seqAll [start, literal "Auto-merged ", rest, literal " into ", rest]

def defaults : List Regex :=
  [merge, mergeTag, revert, squash, merged, mergeRemote, automatic, autoMerged]

/-! ### Matching -/

def byDefault (text : List Char) : Bool := defaults.any (·.isMatch text)

def ofRuleSet (set : RuleSet) : Except Error Ignore := do
  return { useDefaults := set.defaultIgnores, patterns := ← set.ignores.mapM RuleSet.readPattern }

/-- Whether a message is exempt. Blanks around it do not count, and the default patterns look at its
first line too. -/
def holds (ignore : Ignore) (message : String) : Bool :=
  let text := Text.trim message.toList
  ignore.useDefaults && (byDefault (Text.firstLine text) || byDefault text) ||
    ignore.patterns.any (·.isMatch text)

end Ignore

end CommitStyle
