import ClusterBilling.CommandLine.Argument

/-!
# Reading a command line

The words of a command line are read from left to right, on the level of the program up to the name
of a command and on the level of that command behind it. An option whose value is a word of its own
stays *pending* until the next argument is named or the level ends; only then is its value looked
at. Everything else is looked at where it stands. Which of several faults is reported follows from
that order, and from a command's own faults going before those of the level above.

A level ends by taking in the environment for what was not given on it. That a command names what
it must is asked last.
-/

namespace ClusterBilling.CommandLine

/-- The environment, by the names of its variables. -/
abbrev Environment := String → Option String

/-- Where a setting comes from, what outweighs what last. -/
inductive Origin
  | environment
  | commandLine
deriving DecidableEq, Repr

/-- A setting that was accepted. -/
structure Given where
  argument : Argument
  origin : Origin
  setting : Setting
deriving DecidableEq, Repr

/-- An argument whose values are not yet accepted. -/
structure Pending where
  argument : Argument
  values : List String
deriving DecidableEq, Repr

/-- What has been read on a level. -/
structure Scan where
  given : List Given
  pending : Option Pending
  /-- The next word is the value of the pending option. -/
  awaiting : Bool
  /-- No word is an option any more. -/
  trailing : Bool
  /-- The bare argument of the level has had its one value. -/
  placed : Bool
deriving DecidableEq, Repr

namespace Scan

def start : Scan := ⟨[], none, false, false, false⟩

/-- Whether an argument was accepted before. -/
def has (scan : Scan) (a : Argument) : Bool := scan.given.any fun g => g.argument == a

/-- Puts settings of an argument on record. -/
def record (scan : Scan) (origin : Origin) (a : Argument) (settings : List Setting) : Scan :=
  { scan with given := scan.given ++ settings.map fun s => ⟨a, origin, s⟩ }

/-- Accepts an argument with its values. -/
def accept (scan : Scan) (a : Argument) (values : List String) : Except Refusal Scan :=
  match a.demand with
  | .stop refusal => .error refusal
  | .nothing setting =>
    if scan.has a then .error .argumentConflict else .ok (scan.record .commandLine a [setting])
  | .value =>
    if values.isEmpty then .error .invalidValue
    else if scan.has a then .error .argumentConflict
    else (values.mapM a.read).map (scan.record .commandLine a)
  | .values => (values.mapM a.read).map (scan.record .commandLine a)

/-- Accepts what is pending. -/
def settle (scan : Scan) : Except Refusal Scan :=
  match scan.pending with
  | none => .ok scan
  | some p => { scan with pending := none }.accept p.argument p.values

/-- Takes in an argument that is complete. -/
def take (scan : Scan) (a : Argument) (values : List String) : Except Refusal Scan := do
  let scan ← (← scan.settle).accept a values
  return { scan with awaiting := false }

/-- Takes in the name of an option whose value is to come. -/
def await (scan : Scan) (a : Argument) : Except Refusal Scan := do
  let scan ← scan.settle
  return { scan with pending := some ⟨a, []⟩, awaiting := true }

/-- An option with the value attached to its name, or without one. -/
def option (scan : Scan) (a : Argument) (attached : Option String) : Except Refusal Scan :=
  match a.demand, attached with
  | .nothing _, none | .stop _, none => scan.take a []
  | .nothing _, some _ | .stop _, some _ => .error .tooManyValues
  | _, some value => scan.take a [value]
  | _, none => scan.await a

/-- An option by its long name: what follows the two hyphens. -/
def longOption (level : Level) (scan : Scan) (body : List Char) : Except Refusal Scan :=
  let name := String.ofList (body.takeWhile (· != '='))
  let attached := match body.dropWhile (· != '=') with
    | _ :: value => some (String.ofList value)
    | [] => none
  match level.named? name with
  | some a => scan.option a attached
  | none => .error .unknownArgument

/-- The value that follows a letter in the same word. -/
def attachedValue : List Char → Option String
  | [] => none
  | '=' :: value => some (String.ofList value)
  | value => some (String.ofList value)

/-- Options by their letters: what follows the one hyphen. The first that takes a value takes all
letters behind it. -/
def letters (level : Level) (scan : Scan) : List Char → Except Refusal Scan
  | [] => .ok scan
  | letter :: rest =>
    match level.lettered? letter with
    | none => .error .unknownArgument
    | some a =>
      match a.demand with
      | .nothing _ | .stop _ =>
        match scan.take a [] with
        | .ok scan => letters level scan rest
        | .error refusal => .error refusal
      | _ => scan.option a (attachedValue rest)

/-- The refusal of a word that has no place on a level. -/
def misplaced (level : Level) (scan : Scan) (word : String) : Refusal :=
  match level with
  | .program =>
    if scan.trailing && (word == "help" || (Subcommand.ofName? word).isSome) then .unknownArgument
    else .invalidSubcommand
  | .command _ => .unknownArgument

/-- A word that stands for itself. -/
def bareWord (level : Level) (scan : Scan) (word : String) : Except Refusal Scan :=
  match level.bare? with
  | none => .error (misplaced level scan word)
  | some a =>
    match a.demand, scan.pending with
    | .values, some ⟨.regions, values⟩ =>
      .ok { scan with pending := some ⟨.regions, values ++ [word]⟩, awaiting := false }
    | demand, _ =>
      if scan.placed && demand != .values then .error (misplaced level scan word)
      else do
        let scan ← scan.settle
        return { scan with pending := some ⟨a, [word]⟩, awaiting := false, placed := true }

/-- The value of the option that awaits one. -/
def awaited (scan : Scan) (word : String) : Scan :=
  { scan with
    pending := scan.pending.map fun p => { p with values := p.values ++ [word] }
    awaiting := false }

/-- **One word of a level.** -/
def word (level : Level) (scan : Scan) (text : String) : Except Refusal Scan :=
  if scan.trailing then bareWord level scan text
  else
    match text.toList with
    | ['-', '-'] => .ok { scan with trailing := true }
    | '-' :: '-' :: body => longOption level scan body
    | '-' :: c :: rest => letters level scan (c :: rest)
    | _ => if scan.awaiting then .ok (scan.awaited text) else bareWord level scan text

/-- Takes in the environment for the arguments of a level that were not given. -/
def addEnvironment (environment : Environment) (scan : Scan) :
    List Argument → Except Refusal Scan
  | [] => .ok scan
  | a :: rest =>
    match scan.has a, a.environmentName?.bind environment with
    | false, some text =>
      match a.read text with
      | .ok setting => addEnvironment environment (scan.record .environment a [setting]) rest
      | .error refusal => .error refusal
    | _, _ => addEnvironment environment scan rest

/-- The end of a level. -/
def close (environment : Environment) (level : Level) (scan : Scan) : Except Refusal Scan := do
  (← scan.settle).addEnvironment environment level.options

/-- All words of a command. -/
def command (environment : Environment) (subcommand : Subcommand) (words : List String) :
    Except Refusal (List Given) := do
  let level := Level.command subcommand
  let scan ← (← words.foldlM (word level) start).close environment level
  if level.demanded.all scan.has then return scan.given else throw .missingRequiredArgument

/-- The words behind a request for help, which may name a command. -/
def helpOn : List String → Refusal
  | [] => .displayHelp
  | [name] =>
    if name == "help" || (Subcommand.ofName? name).isSome then .displayHelp else .invalidSubcommand
  | _ => .invalidSubcommand

/-- The words of the program's level, up to the name of a command, and what follows it. -/
def program (scan : Scan) : List String → Except Refusal (Scan × Option (Subcommand × List String))
  | [] => .ok (scan, none)
  | text :: rest =>
    if scan.trailing || scan.awaiting then
      match word .program scan text with
      | .ok scan => program scan rest
      | .error refusal => .error refusal
    else if text == "help" then .error (helpOn rest)
    else
      match Subcommand.ofName? text with
      | some subcommand => .ok (scan, some (subcommand, rest))
      | none =>
        match word .program scan text with
        | .ok scan => program scan rest
        | .error refusal => .error refusal

end Scan

/-- What a command line says: the command, and what was given before and behind its name. -/
structure Reading where
  subcommand : Subcommand
  before : List Given
  behind : List Given

/-- **Reads a command line.** -/
def read (environment : Environment) (words : List String) : Except Refusal Reading := do
  match ← Scan.start.program words with
  | (scan, some (subcommand, rest)) =>
    let behind ← Scan.command environment subcommand rest
    let scan ← scan.close environment .program
    return ⟨subcommand, scan.given, behind⟩
  | (scan, none) =>
    let scan ← scan.close environment .program
    throw (if scan.given.isEmpty then .displayHelpOnMissingArgumentOrSubcommand
      else .missingSubcommand)

end ClusterBilling.CommandLine
