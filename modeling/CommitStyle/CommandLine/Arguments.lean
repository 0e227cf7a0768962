import CommitStyle.CommandLine.Grammar

/-!
# Reading arguments

Arguments are read from left to right. An option that is given separately from its value stays open
until its value has come; it is settled when something else begins or the arguments end, so that a
fault of its value is found only then.
-/

namespace CommitStyle.CommandLine

structure Given where
  flag : Flag
  value : Option String
  deriving DecidableEq, Repr

structure Reading where
  given : List Given := []
  /-- The option that is not settled yet. -/
  pending : Option Given := none
  word : Option String := none
  /-- Whether only words can follow. -/
  wordsOnly : Bool := false
  deriving DecidableEq, Repr

structure Level where
  name : CommandName
  given : List Given
  word : Option String
  deriving DecidableEq, Repr

namespace Reading

def has (reading : Reading) (flag : Flag) : Bool := reading.given.any (·.flag == flag)

def value? (reading : Reading) (flag : Flag) : Option String :=
  (reading.given.find? (·.flag == flag)).bind (·.value)

/-- Whether the next argument may be the value of an option. -/
def awaitsValue (reading : Reading) : Bool :=
  reading.pending.any fun given => given.value.isNone && given.flag.arity != .none

/-- Adds an option. An option has its value, is given once, and takes the value. -/
def add (reading : Reading) (given : Given) : Except UsageError Reading :=
  if given.flag.arity = .one && given.value.isNone then .error .invalidValue
  else if given.flag = .help then .error .helpWanted
  else if given.flag = .version then .error .versionWanted
  else if reading.has given.flag then .error .argumentConflict
  else if given.value.all given.flag.admits then
    .ok { reading with given := reading.given ++ [given] }
  else .error .invalidValue

def settle (reading : Reading) : Except UsageError Reading :=
  match reading.pending with
  | none => .ok reading
  | some given => add { reading with pending := none } given

def take (reading : Reading) (flag : Flag) (attached : Option String) :
    Except UsageError Reading := do
  let reading ← reading.settle
  if flag.arity = .none || attached.isSome then reading.add ⟨flag, attached⟩
  else return { reading with pending := some ⟨flag, none⟩ }

def takeLong (name : CommandName) (reading : Reading) (text : List Char) :
    Except UsageError Reading :=
  let word := String.ofList (text.takeWhile (· != '='))
  let attached :=
    match text.dropWhile (· != '=') with
    | [] => none
    | _ :: value => some (String.ofList value)
  match name.flags.find? (·.longName == word) with
  | none => .error .unknownArgument
  | some flag =>
    if flag.arity = .none && attached.isSome then .error .tooManyValues
    else reading.take flag attached

/-- Takes the letters behind a single hyphen. The first option that takes a value takes the rest. -/
def takeShort (name : CommandName) (reading : Reading) : List Char → Except UsageError Reading
  | [] => .ok reading
  | c :: rest =>
    match name.flags.find? (·.shortName? == some c) with
    | none => .error .unknownArgument
    | some flag =>
      if flag.arity = .none then do takeShort name (← reading.take flag none) rest
      else
        match rest with
        | [] => reading.take flag none
        | '=' :: value => reading.take flag (some (String.ofList value))
        | value => reading.take flag (some (String.ofList value))

def refuse (name : CommandName) (reading : Reading) (word : String) : UsageError :=
  let isInner := (name.inner? word).isSome || word == "help"
  if name.inner.isEmpty || reading.wordsOnly && isInner then .unknownArgument
  else .invalidSubcommand

def takeWord (name : CommandName) (reading : Reading) (word : String) :
    Except UsageError Reading := do
  if name.takesWord && reading.word.isNone then
    return { ← reading.settle with word := some word }
  else .error (refuse name reading word)

def takeArgument (name : CommandName) (reading : Reading) (argument : String) :
    Except UsageError Reading :=
  if reading.wordsOnly then takeWord name reading argument
  else
    match argument.toList with
    | ['-', '-'] => .ok { reading with wordsOnly := true }
    | '-' :: '-' :: text => takeLong name reading text
    | '-' :: c :: rest => takeShort name reading (c :: rest)
    | _ =>
      match reading.pending with
      | some given =>
        if reading.awaitsValue then
          .ok { reading with pending := some { given with value := some argument } }
        else takeWord name reading argument
      | none => takeWord name reading argument

/-- The reading of a command when its arguments have ended. `environment` is the configuration that
the environment names, and `isComplete` tells whether a command inside this one was given. -/
def close (name : CommandName) (environment : Option String) (isComplete : Bool)
    (reading : Reading) : Except UsageError Level := do
  let reading ← reading.settle
  if !reading.has .config && !environment.all (Flag.admits .config) then throw .invalidValue
  if !name.inner.isEmpty && !isComplete then
    if reading.given.isEmpty && environment.isNone then throw .nothingGiven
    else throw .missingSubcommand
  if reading.has .edit && reading.has .message then throw .argumentConflict
  return { name, given := reading.given, word := reading.word }

end Reading

def help (name : CommandName) : List String → UsageError
  | [] => .helpWanted
  | word :: rest =>
    match name.inner? word with
    | some inner => help inner rest
    | none =>
      if word == "help" && !name.inner.isEmpty && rest.isEmpty then .helpWanted
      else .invalidSubcommand

/-- Reads the arguments of a command: the command and those inside it, from the outside in. -/
def readLevels (environment : Option String) (name : CommandName) (reading : Reading) :
    List String → Except UsageError (List Level)
  | [] => do return [← reading.close name environment false]
  | argument :: rest =>
    let mayBeCommand := !reading.wordsOnly && !reading.awaitsValue
    match if mayBeCommand then name.inner? argument else none with
    | some inner => do
      let levels ← readLevels environment inner {} rest
      return (← reading.close name environment true) :: levels
    | none =>
      if mayBeCommand && !name.inner.isEmpty && argument == "help" then .error (help name rest)
      else do readLevels environment name (← reading.takeArgument name argument) rest

/-! ### From arguments to requests -/

namespace Level

def has (level : Level) (flag : Flag) : Bool := level.given.any (·.flag == flag)

def value? (level : Level) (flag : Flag) : Option String :=
  (level.given.find? (·.flag == flag)).bind (·.value)

def messageSource (level : Level) : MessageSource :=
  match level.value? .message with
  | some text => .argument text
  | none =>
    match level.value? .edit with
    | some path => .file path
    | none => if level.has .edit then .edited else .standardInput

def reportForm (level : Level) : ReportForm :=
  ((level.value? .reportForm).bind Flag.reportForm?).getD .text

/-- The command that the innermost level stands for, unless it needs one inside it. -/
def command? (level : Level) : Option Command :=
  match level.name with
  | .lint => some (.lint {
      source := level.messageSource, strict := level.has .strict, form := level.reportForm })
  | .check => some (.check {
      target := level.word.getD "HEAD", sinceTarget := level.has .sinceTarget
      strict := level.has .strict, form := level.reportForm })
  | .printConfig => some (.printConfig {
      format := ((level.value? .printFormat).bind Flag.printFormat?).getD .toml
      resolved := level.has .resolved })
  | .types => some .types
  | .init => some (.init (level.has .force))
  | .install => some (.hooks (.install level.word (level.has .force)))
  | .uninstall => some (.hooks (.uninstall level.word))
  | .status => some (.hooks .status)
  | .version => some .version
  | .program | .hooks => none

def innermost? (levels : List Level) (flag : Flag) : Option String :=
  levels.reverse.findSome? (·.value? flag)

end Level

/-- The request that arguments make. The environment may name a configuration, which an option
overrides. -/
def parse (environment : Option String) (arguments : List String) : Except UsageError Request := do
  let levels ← readLevels environment .program {} arguments
  match levels.getLast? >>= Level.command? with
  | some command =>
    return {
      command
      debug := levels.any (·.has .debug)
      config := (Level.innermost? levels .config).or environment
      revision := (Level.innermost? levels .revision).bind Revision.ofName?
      noColor := levels.any (·.has .noColor) }
  | none => throw .missingSubcommand

end CommitStyle.CommandLine
