import CommitStyle.Rule.Check

/-!
# The rule registry

A rule is a name, the kind of value it reads, and its check. The registry lists the built-in rules in
the order of their names.
-/

namespace CommitStyle

structure Rule where
  name : String
  kind : ValueKind
  check : Check

namespace Rule

def builtins : List Rule := [
  ⟨"body-empty", .none, Check.isEmpty .body⟩,
  ⟨"body-leading-blank", .none, Check.hasBlankBeforeBody⟩,
  ⟨"body-max-length", .limit, Check.hasMaxLength .body⟩,
  ⟨"body-max-line-length", .limit, Check.hasMaxLineLength .body⟩,
  ⟨"body-min-length", .limit, Check.hasMinLength .body⟩,
  ⟨"footer-empty", .none, Check.isEmpty .footer⟩,
  ⟨"footer-leading-blank", .none, Check.hasBlankBeforeFooter⟩,
  ⟨"footer-max-length", .limit, Check.hasMaxLength .footer⟩,
  ⟨"footer-max-line-length", .limit, Check.hasMaxLineLength .footer⟩,
  ⟨"header-case", .casings, Check.hasCasing .header⟩,
  ⟨"header-full-stop", .text, Check.endsInStop .header⟩,
  ⟨"header-max-length", .limit, Check.hasMaxLength .header⟩,
  ⟨"header-min-length", .limit, Check.hasMinLength .header⟩,
  ⟨"header-trim", .none, Check.isTrimmed⟩,
  ⟨"scope-case", .casings, Check.hasCasing .scope⟩,
  ⟨"scope-empty", .none, Check.isEmpty .scope⟩,
  ⟨"scope-enum", .list, Check.hasListedScopes⟩,
  ⟨"scope-max-length", .limit, Check.hasMaxLength .scope⟩,
  ⟨"signed-off-by", .text, Check.isSigned⟩,
  ⟨"subject-case", .casings, Check.hasCasing .subject⟩,
  ⟨"subject-empty", .none, Check.isEmpty .subject⟩,
  ⟨"subject-full-stop", .text, Check.endsInStop .subject⟩,
  ⟨"subject-max-length", .limit, Check.hasMaxLength .subject⟩,
  ⟨"subject-min-length", .limit, Check.hasMinLength .subject⟩,
  ⟨"type-case", .casings, Check.hasCasing .type⟩,
  ⟨"type-empty", .none, Check.isEmpty .type⟩,
  ⟨"type-enum", .list, Check.hasListedType⟩,
  ⟨"type-max-length", .limit, Check.hasMaxLength .type⟩,
  ⟨"type-min-length", .limit, Check.hasMinLength .type⟩]

def builtin? (name : String) : Option Rule := builtins.find? (·.name == name)

def isBuiltin (name : String) : Bool := (builtin? name).isSome

end Rule

end CommitStyle
