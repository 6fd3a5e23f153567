namespace FrontendAtlas.Command

inductive Task where
  | generate (sourceRoot outputDir : Option String)
  | verify (snapshot : Option String) (json strict : Bool)
  | stats (snapshot : Option String)
  deriving DecidableEq

structure Invocation where
  root : String
  verbosity : Nat
  task : Task
  deriving DecidableEq

inductive LogLevel where
  | warn
  | info
  | debug
  deriving DecidableEq

def LogLevel.name : LogLevel → String
  | .warn => "warn"
  | .info => "info"
  | .debug => "debug"

def Invocation.logLevel (invocation : Invocation) : LogLevel :=
  match invocation.verbosity with
  | 0 => .warn
  | 1 => .info
  | _ => .debug

inductive Refusal where
  | helpAsked
  | nothingGiven
  | commandMissing
  | commandUnknown
  | argumentUnknown
  | valueMissing
  | repeated
  | valueUnwanted
  deriving DecidableEq

inductive Word where
  | generate
  | verify
  | stats
  | help
  deriving DecidableEq

def Word.ofName? : String → Option Word
  | "generate" => some .generate
  | "verify" => some .verify
  | "stats" => some .stats
  | "help" => some .help
  | _ => none

inductive Slot where
  | root
  | sourceRoot
  | outputDir
  | json
  | strict
  | snapshot
  deriving DecidableEq

inductive Choice where
  | help
  | verbose
  | flag (slot : Slot)
  | valued (slot : Slot)
  deriving DecidableEq

inductive Level where
  | program
  | generate
  | verify
  | stats
  deriving DecidableEq

namespace Level

def ofLong? : Level → String → Option Choice
  | _, "help" => some .help
  | _, "verbose" => some .verbose
  | .program, "root" => some (.valued .root)
  | .generate, "source-root" => some (.valued .sourceRoot)
  | .generate, "output-dir" => some (.valued .outputDir)
  | .verify, "json" => some (.flag .json)
  | .verify, "strict" => some (.flag .strict)
  | _, _ => none

def ofShort? : Level → Char → Option Choice
  | _, 'h' => some .help
  | _, 'v' => some .verbose
  | .program, 'r' => some (.valued .root)
  | _, _ => none

def takesPath : Level → Bool
  | .verify | .stats => true
  | .program | .generate => false

end Level

/-- What one level was given so far.  The value of the last option is not looked at before the next
argument, so that an unknown one is told first. -/
structure Given where
  verbosity : Nat := 0
  values : List (Slot × String) := []
  pending : Option (Slot × Option String) := none

namespace Given

def value? (given : Given) (slot : Slot) : Option String :=
  given.values.lookup slot

def has (given : Given) (slot : Slot) : Bool :=
  (given.value? slot).isSome

def isEmpty (given : Given) : Bool :=
  given.verbosity == 0 && given.values.isEmpty

def fill (given : Given) (slot : Slot) (value : String) : Except Refusal Given :=
  if given.has slot then .error .repeated else .ok { given with values := (slot, value) :: given.values }

def fillPath (given : Given) (slot : Slot) (path : String) : Except Refusal Given :=
  if given.has slot then .error .repeated
  else if path.isEmpty then .error .valueMissing
  else given.fill slot path

def settle (given : Given) : Except Refusal Given :=
  match given.pending with
  | none => .ok given
  | some (_, none) => .error .valueMissing
  | some (slot, some path) => { given with pending := none }.fillPath slot path

def awaiting? (given : Given) : Option Slot :=
  match given.pending with
  | some (slot, none) => some slot
  | _ => none

def option (given : Given) : Choice → Except Refusal Given
  | .help => do
    let _ ← given.settle
    throw .helpAsked
  | .verbose => do
    let given ← given.settle
    return { given with verbosity := given.verbosity + 1 }
  | .flag slot => do (← given.settle).fill slot ""
  | .valued slot => do
    let given ← given.settle
    return { given with pending := some (slot, none) }

def attached (given : Given) (value : String) : Choice → Except Refusal Given
  | .valued slot => do (← given.settle).fillPath slot value
  | _ => .error .valueUnwanted

def long (level : Level) (given : Given) (text : List Char) : Except Refusal Given :=
  let name := text.takeWhile (· != '=')
  match level.ofLong? (String.ofList name) with
  | none => .error .argumentUnknown
  | some found =>
    match text.drop name.length with
    | [] => given.option found
    | _ :: value => given.attached (String.ofList value) found

/-- Options by their letters.  What follows the letter of an option with a value is the value, without
an equals sign in front. -/
def short (level : Level) (given : Given) : List Char → Except Refusal Given
  | [] => .ok given
  | c :: rest =>
    match level.ofShort? c with
    | none => .error .argumentUnknown
    | some (.valued slot) =>
      match rest with
      | [] => given.option (.valued slot)
      | '=' :: value => given.attached (String.ofList value) (.valued slot)
      | value => given.attached (String.ofList value) (.valued slot)
    | some found => do (← given.option found).short level rest

def path (level : Level) (given : Given) (argument : String) : Except Refusal Given :=
  if level.takesPath ∧ ¬ given.has .snapshot ∧ given.pending.map Prod.fst ≠ some .snapshot then do
    let given ← given.settle
    return { given with pending := some (.snapshot, some argument) }
  else .error .argumentUnknown

end Given

def readPaths (level : Level) : Given → List String → Except Refusal Given
  | given, [] => .ok given
  | given, argument :: rest =>
    if level = .program then
      .error (if (Word.ofName? argument).isSome then .argumentUnknown else .commandUnknown)
    else do readPaths level (← given.path level argument) rest

def readArgument (level : Level) (given : Given) (argument : String) : Except Refusal Given :=
  match argument.toList with
  | '-' :: '-' :: text => given.long level text
  | '-' :: c :: text => given.short level (c :: text)
  | _ =>
    match given.awaiting? with
    | some slot => .ok { given with pending := some (slot, some argument) }
    | none => if level = .program then .error .commandUnknown else given.path level argument

def readArguments (level : Level) : Given → List String → Except Refusal Given
  | given, [] => .ok given
  | given, argument :: rest =>
    if argument = "--" then readPaths level given rest
    else do readArguments level (← readArgument level given argument) rest

def readProgram : Given → List String → Except Refusal (Given × Option (Word × List String))
  | given, [] => .ok (given, none)
  | given, argument :: rest =>
    match if given.awaiting?.isNone then Word.ofName? argument else none with
    | some word => .ok (given, some (word, rest))
    | none =>
      if argument = "--" then do return (← readPaths .program given rest, none)
      else do readProgram (← readArgument .program given argument) rest

def help : List String → Refusal
  | [] => .helpAsked
  | [name] => if (Word.ofName? name).isSome then .helpAsked else .commandUnknown
  | _ => .commandUnknown

def readTask (word : Word) (arguments : List String) : Except Refusal (Given × Task) :=
  let read (level : Level) : Except Refusal Given := do (← readArguments level {} arguments).settle
  match word with
  | .generate => do
    let given ← read .generate
    return (given, .generate (given.value? .sourceRoot) (given.value? .outputDir))
  | .verify => do
    let given ← read .verify
    return (given, .verify (given.value? .snapshot) (given.has .json) (given.has .strict))
  | .stats => do
    let given ← read .stats
    return (given, .stats (given.value? .snapshot))
  | .help => .error (help arguments)

/-- Reads a command line.  The root is the working directory if none is given; a verbosity after the
command counts instead of one in front of it. -/
def Invocation.ofArguments (arguments : List String) : Except Refusal Invocation := do
  match ← readProgram {} arguments with
  | (given, some (word, rest)) =>
    let (after, task) ← readTask word rest
    let given ← given.settle
    let verbosity := if after.verbosity = 0 then given.verbosity else after.verbosity
    return ⟨(given.value? .root).getD ".", verbosity, task⟩
  | (given, none) =>
    let given ← given.settle
    throw (if given.isEmpty then .nothingGiven else .commandMissing)

end FrontendAtlas.Command
