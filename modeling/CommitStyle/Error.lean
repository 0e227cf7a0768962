/-!
# Errors

Each cause of failure is a constructor; `Error.message` gives the text in which it is reported.
-/

namespace CommitStyle

inductive ConfigError where
  | notFound (path : String)
  | malformed (reason : String)
  | invalidValue (key reason : String)
  | unknownRule (name : String)
  | unknownPreset (name : String)
  | circularExtends (path : String)
  | alreadyExists (path : String)
  deriving DecidableEq, Repr

inductive CommitError where
  | emptyMessage
  | unreadable (source reason : String)
  deriving DecidableEq, Repr

inductive GitError where
  | notARepository
  | openFailed (reason : String)
  | invalidReference (reference : String)
  | commandFailed (command reason : String)
  deriving DecidableEq, Repr

inductive HookError where
  | installFailed (hook reason : String)
  | alreadyExists (hook : String)
  | unsupported (hook : String)
  | removeFailed (hook reason : String)
  | renderFailed (hook reason : String)
  deriving DecidableEq, Repr

inductive Error where
  | config (cause : ConfigError)
  | commit (cause : CommitError)
  | git (cause : GitError)
  | hook (cause : HookError)
  | violations (errors warnings : Nat)
  | io (reason : String)
  | interface (reason : String)
  | inContext (context reason : String)
  deriving DecidableEq, Repr

def ConfigError.message : ConfigError → String
  | notFound path => s!"Configuration file not found: {path}"
  | malformed reason => s!"Failed to parse configuration: {reason}"
  | invalidValue key reason => s!"Invalid configuration value for '{key}': {reason}"
  | unknownRule name => s!"Unknown rule: '{name}'"
  | unknownPreset name => s!"Unknown preset in extends: '{name}'"
  | circularExtends path => s!"Circular extends chain through {path}"
  | alreadyExists path =>
    s!"Configuration file already exists: {path} (use --force to overwrite)"

def CommitError.message : CommitError → String
  | emptyMessage => "Empty commit message"
  | unreadable source reason => s!"Failed to read commit message from {source}: {reason}"

def GitError.message : GitError → String
  | notARepository => "Not a git repository"
  | openFailed reason => s!"Failed to open repository: {reason}"
  | invalidReference reference => s!"Invalid commit reference: {reference}"
  | commandFailed command reason => s!"Git command failed: {command} - {reason}"

def HookError.message : HookError → String
  | installFailed hook reason => s!"Failed to install hook '{hook}': {reason}"
  | alreadyExists hook => s!"Hook already exists: {hook} (use --force to replace it)"
  | unsupported hook => s!"Unsupported hook: {hook}"
  | removeFailed hook reason => s!"Failed to remove hook '{hook}': {reason}"
  | renderFailed hook reason => s!"Failed to render hook '{hook}': {reason}"

namespace Error

def summary (errors warnings : Nat) : String := s!"found {errors} problems, {warnings} warnings"

def message : Error → String
  | config cause => s!"Configuration error: {cause.message}"
  | commit cause => s!"Commit error: {cause.message}"
  | git cause => s!"Git error: {cause.message}"
  | hook cause => s!"Hook error: {cause.message}"
  | violations errors warnings => s!"Validation error: {summary errors warnings}"
  | io reason => s!"IO error: {reason}"
  | interface reason => s!"UI error: {reason}"
  | inContext context reason => s!"{context}: {reason}"

def within (error : Error) (context : String) : Error := inContext context error.message

end Error

def ConfigError.raise {α : Type} (cause : ConfigError) : Except Error α := .error (.config cause)

end CommitStyle
