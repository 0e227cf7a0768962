import CommitStyle.RuleSet

/-!
# Presets

Rule sets that others can extend by name.
-/

namespace CommitStyle.Preset

def names : List String :=
  ["@commitlint/config-conventional", "config-conventional", "conventional"]

def conventionalTypes : List String :=
  ["build", "chore", "ci", "docs", "feat", "fix", "perf", "refactor", "revert", "style", "test"]

def conventional : RuleSet :=
  { rules := .ofList [
    ("body-leading-blank", .plain .warning .always),
    ("body-max-line-length", .withValue .error .always (.number 100)),
    ("footer-leading-blank", .plain .warning .always),
    ("footer-max-line-length", .withValue .error .always (.number 100)),
    ("header-max-length", .withValue .error .always (.number 100)),
    ("header-trim", .plain .error .always),
    ("subject-case", .withValue .error .never
      (.list ["sentence-case", "start-case", "pascal-case", "upper-case"])),
    ("subject-empty", .plain .error .never),
    ("subject-full-stop", .withValue .error .never (.text ".")),
    ("type-case", .withValue .error .always (.text "lower-case")),
    ("type-empty", .plain .error .never),
    ("type-enum", .withValue .error .always (.list conventionalTypes))] }

def ofName? (name : String) : Option RuleSet := if name ∈ names then some conventional else none

def describeType? : String → Option String
  | "build" => some "Build system or dependency changes"
  | "chore" => some "Maintenance that touches neither src nor tests"
  | "ci" => some "CI configuration changes"
  | "config" => some "Configuration changes"
  | "docs" => some "Documentation only changes"
  | "feat" => some "A new feature"
  | "fix" => some "A bug fix"
  | "infra" => some "Infrastructure and deployment changes"
  | "perf" => some "Performance improvements"
  | "refactor" => some "Code refactoring (no feature/fix)"
  | "release" => some "Release preparation"
  | "revert" => some "Reverting a previous commit"
  | "style" => some "Code style changes (formatting, whitespace)"
  | "test" => some "Adding or updating tests"
  | _ => none

end CommitStyle.Preset
