import CommitStyle.Preset

/-!
# Revisions

The commit rules went through three revisions. Each extends the conventional preset, accepts more
commit types, and switches off checks.
-/

namespace CommitStyle

inductive Revision where
  /-- Conventional types and `release`; neither the case nor the full stop of the subject counts. -/
  | initial
  /-- Adds the types `config` and `infra`. -/
  | extended
  /-- Drops the limits on the length of header, body and footer. -/
  | relaxed
  deriving DecidableEq, Repr

namespace Revision

def all : List Revision := [initial, extended, relaxed]

def latest : Revision := relaxed

def name : Revision → String
  | initial => "initial"
  | extended => "extended"
  | relaxed => "relaxed"

def ofName? (name : String) : Option Revision := all.find? (·.name == name)

def types (revision : Revision) : List String :=
  let first := Preset.conventionalTypes ++ ["release"]
  if revision = initial then first else first ++ ["config", "infra"]

def droppedLimits : List String :=
  ["header-max-length", "footer-max-line-length", "body-max-line-length"]

def offRules (revision : Revision) : List String :=
  ["subject-case", "subject-full-stop"] ++ if revision = relaxed then droppedLimits else []

def ruleSet (revision : Revision) : RuleSet :=
  { bases := ["@commitlint/config-conventional"]
    rules := .ofList
      ((RuleSet.typeEnum, .withValue .error .always (.list revision.types)) ::
        revision.offRules.map fun name => (name, .off)) }

def exampleFile (revision : Revision) : String :=
  "# cmtlint configuration\n" ++
  "extends = [\"@commitlint/config-conventional\"]\n\n[rules]\n" ++
  "type-enum = [2, \"always\", [\n" ++
  String.join (revision.types.map fun type => "    \"" ++ type ++ "\",\n") ++
  "]]\n" ++
  "# Allow Sentence case and other subject shapes\nsubject-case = [0]\n" ++
  "# Allow a trailing period on the subject\nsubject-full-stop = [0]\n" ++
  (if revision = relaxed then
    "# No length limits\n" ++ String.join (droppedLimits.map (· ++ " = [0]\n"))
  else "")

end Revision

end CommitStyle
