import CommitStyle.CommandLine.Grammar
import CommitStyle.Hook

/-!
# Usage

What is said about a command line that is no request.
-/

namespace CommitStyle.CommandLine

def usage : String :=
  "Usage: cmtlint [OPTIONS] <COMMAND>\n\nCommands:\n" ++
    String.join (CommandName.program.inner.map fun (name, _) => "  " ++ name ++ "\n")

namespace UsageError

def reason? : UsageError → Option String
  | unknownArgument => some "unexpected argument found"
  | invalidValue => some "invalid value for an argument"
  | tooManyValues => some "unexpected value for an argument"
  | argumentConflict => some "an argument cannot be used with another one, or twice"
  | invalidSubcommand => some "unrecognized subcommand"
  | missingSubcommand => some "a subcommand is required but was not given"
  | nothingGiven | helpWanted | versionWanted => none

def message (error : UsageError) : String :=
  if error = versionWanted then "cmtlint " ++ CommitStyle.version ++ "\n"
  else (error.reason?.map fun reason => "error: " ++ reason ++ "\n\n").getD "" ++ usage

end UsageError

end CommitStyle.CommandLine
