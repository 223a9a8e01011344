/-
The command line.

The program replays one file and prints the balances that it ends with.  Four options
may come with it, three of which can also be set in the environment; what is said on
the command line counts more than the environment, and both count more than the file of
settings.  An option takes the next argument as its value, or what follows an equals
sign; an argument that looks like an option is no value.
-/
import Cashbook.Csv.Operations
import Cashbook.Replay
import Cashbook.Settings

namespace Cashbook.CommandLine

/-! ### Options -/

/-- The options that take a value. -/
inductive Flag where
  | dbPath
  | config
  | timeout
  | least
deriving DecidableEq

namespace Flag

/-- Every option. -/
def all : List Flag := [.dbPath, .config, .timeout, .least]

/-- How an option is written. -/
def name : Flag → String
  | .dbPath => "--db-path"
  | .config => "--config"
  | .timeout => "--timeout-ms"
  | .least => "--min-amount"

/-- The variable of the environment that stands in for an option. -/
def environmentName? : Flag → Option String
  | .dbPath => none
  | .config => some "WALLET_CONFIG"
  | .timeout => some "WALLET_OPERATION_TIMEOUT_MS"
  | .least => some "WALLET_MIN_AMOUNT"

/-- The option that is written so. -/
def ofName? (name : String) : Option Flag := all.find? fun f => f.name == name

end Flag

/-- What is wrong with the arguments. -/
inductive Misuse where
  | unexpected (argument : String)
  | missingValue (name : String)
  | badValue (flag : Flag) (value : String)
  | repeated (flag : Flag)
  | missingInput
deriving DecidableEq

/-- The words for what is wrong with the arguments. -/
def Misuse.message : Misuse → String
  | .unexpected argument => s!"error: unexpected argument '{argument}' found"
  | .missingValue name => s!"error: a value is required for '{name}' but none was supplied"
  | .badValue flag value => s!"error: invalid value '{value}' for '" ++ flag.name ++ "'"
  | .repeated flag => "error: the argument '" ++ flag.name ++ "' cannot be used multiple times"
  | .missingInput => "error: the following required arguments were not provided: <INPUT>"

/-- Why the program does nothing. -/
inductive Stop where
  | misuse (cause : Misuse)
  /-- It was asked how it is used. -/
  | help
  /-- It was asked which version it is. -/
  | version
deriving DecidableEq

/-- What the program has been told so far. -/
structure Draft where
  input : Option String
  dbPath : Option String
  config : Option String
  timeout : Option Nat
  least : Option Decimal
deriving DecidableEq

namespace Draft

/-- Nothing. -/
def blank : Draft := ⟨none, none, none, none, none⟩

/-- Whether an option has been given. -/
def has (d : Draft) : Flag → Bool
  | .dbPath => d.dbPath.isSome
  | .config => d.config.isSome
  | .timeout => d.timeout.isSome
  | .least => d.least.isSome

/-- A path, which may not be empty. -/
def path (name value : String) : Except Stop String :=
  if value.isEmpty then .error (.misuse (.missingValue name)) else .ok value

/-- Gives an option its value. -/
def set (d : Draft) (flag : Flag) (value : String) : Except Stop Draft :=
  match flag with
  | .dbPath => (path flag.name value).map fun p => { d with dbPath := some p }
  | .config => (path flag.name value).map fun p => { d with config := some p }
  | .timeout =>
    match Text.unsigned? value.toList with
    | some ms =>
      if ms < Text.wordLimit then .ok { d with timeout := some ms }
      else .error (.misuse (.badValue flag value))
    | none => .error (.misuse (.badValue flag value))
  | .least =>
    match Decimal.read? value with
    | some least => .ok { d with least := some least }
    | none => .error (.misuse (.badValue flag value))

/-- Gives an option its value on the command line, where it may stand only once. -/
def give (d : Draft) (flag : Flag) (value : String) : Except Stop Draft := do
  let next ← d.set flag value
  if d.has flag then throw (.misuse (.repeated flag)) else pure next

/-- Takes an argument as the file to replay. -/
def place (d : Draft) (argument : String) : Except Stop Draft :=
  match d.input with
  | none => (path "<INPUT>" argument).map fun p => { d with input := some p }
  | some _ => .error (.misuse (.unexpected argument))

end Draft

/-! ### Arguments -/

/-- What an argument is. -/
inductive Argument where
  /-- Everything behind it is taken as it stands. -/
  | endOfOptions
  /-- An option by its long name, with what follows an equals sign. -/
  | long (name : String) (value : Option String)
  /-- An option by a letter. -/
  | short (letter : Char)
  | plain
deriving DecidableEq

/-- What an argument looks like. -/
def Argument.of (argument : String) : Argument :=
  match argument.toList with
  | ['-', '-'] => .endOfOptions
  | '-' :: '-' :: rest =>
    let name := String.ofList ('-' :: '-' :: rest.takeWhile (· != '='))
    match rest.dropWhile (· != '=') with
    | _ :: value => .long name (some (String.ofList value))
    | [] => .long name none
  | '-' :: letter :: _ => .short letter
  | _ => .plain

/-- The option that takes a value, with the value if it stands in the same argument. -/
def Argument.flag? : Argument → Option (Flag × Option String)
  | .long name value => (Flag.ofName? name).map fun flag => (flag, value)
  | .endOfOptions | .short _ | .plain => none

/-- What an option without a value asks for, if there is such an option. -/
def stopOf? : Argument → Option Stop
  | .short 'h' | .long "--help" none => some .help
  | .short 'V' | .long "--version" none => some .version
  | _ => none

/-- Reads the arguments; `verbatim` once the options have ended, `pending` where a value must come next. -/
def readArguments (verbatim : Bool) (pending : Option Flag) (d : Draft) :
    List String → Except Stop Draft
  | [] =>
    match pending with
    | some flag => .error (.misuse (.missingValue flag.name))
    | none => .ok d
  | argument :: rest =>
    match pending with
    | some flag =>
      if Argument.of argument = .plain then do
        let d ← d.give flag argument
        readArguments verbatim none d rest
      else .error (.misuse (.missingValue flag.name))
    | none =>
      if verbatim ∨ Argument.of argument = .plain then do
        let d ← d.place argument
        readArguments verbatim none d rest
      else if Argument.of argument = .endOfOptions then readArguments true none d rest
      else
        match Argument.flag? (Argument.of argument) with
        | some (flag, some value) => do
          let d ← d.give flag value
          readArguments verbatim none d rest
        | some (flag, none) => readArguments verbatim (some flag) d rest
        | none => .error ((stopOf? (Argument.of argument)).getD (.misuse (.unexpected argument)))

/-- Takes from the environment what the command line leaves open. -/
def readEnvironment (env : String → Option String) (d : Draft) : List Flag → Except Stop Draft
  | [] => .ok d
  | flag :: rest => do
    let d ← match d.has flag, flag.environmentName?.bind env with
      | false, some value => d.set flag value
      | _, _ => pure d
    readEnvironment env d rest

/-- What the program is to do. -/
structure Invocation where
  /-- The file to replay. -/
  input : String
  dbPath : Option String
  /-- The file of settings. -/
  config : Option String
  timeout : Option Nat
  least : Option Decimal
deriving DecidableEq

/-- What the arguments and the environment ask for. -/
def parse (arguments : List String) (env : String → Option String) : Except Stop Invocation := do
  let d ← readArguments false none .blank arguments
  let d ← readEnvironment env d Flag.all
  match d.input with
  | some input =>
    pure { input, dbPath := d.dbPath, config := d.config, timeout := d.timeout, least := d.least }
  | none => throw (.misuse .missingInput)

/-! ### Answers -/

/-- What the program writes and how it ends. -/
structure Response where
  exit : Nat
  stdout : String
  /-- The lines for the error output. -/
  stderr : List String
deriving DecidableEq

/-- How the program is used. -/
def usage : String :=
  "Usage: wallet-ledger [OPTIONS] <INPUT>\n\n" ++
  "Arguments:\n  <INPUT>  Input wallet operations CSV file\n\n" ++
  "Options:\n" ++
  "      --db-path <DB_PATH>        Path to persistent database (optional). If provided, uses RocksDB\n" ++
  "      --config <CONFIG>          JSON file with engine settings. Flags below override it [env: WALLET_CONFIG=]\n" ++
  "      --timeout-ms <TIMEOUT_MS>  Deadline for each engine operation, in milliseconds [env: WALLET_OPERATION_TIMEOUT_MS=]\n" ++
  "      --min-amount <MIN_AMOUNT>  Smallest amount a transaction may move [env: WALLET_MIN_AMOUNT=]\n" ++
  "  -h, --help                     Print help\n" ++
  "  -V, --version                  Print version\n"

/-- The answer where there is nothing to do. -/
def Stop.response : Stop → Response
  | .misuse cause => ⟨2, "", [cause.message]⟩
  | .help => ⟨0, usage, []⟩
  | .version => ⟨0, "wallet-ledger 0.1.0\n", []⟩

/-- The line that says that nothing will be kept. -/
def notKept : String :=
  "WARNING: Persistent storage requested via --db-path, but 'storage-rocksdb' feature is not " ++
    "enabled. Falling back to In-Memory storage."

/-- The settings that the file of settings gives, and what is said against it. -/
def Invocation.settings (inv : Invocation) (file : String → Option (List UInt8)) : Outcome Settings := do
  let s ← match inv.config with
    | some path => Settings.ofFile (file path)
    | none => pure .standard
  pure { s with
    operationTimeout := inv.timeout.getD s.operationTimeout
    minAmount := inv.least.getD s.minAmount }

/-- What is said about a row. -/
def rowLine? : Replay.RowResult → Option String
  | .done => none
  | .failed failure => some ("Error processing operation: " ++ failure.message)
  | .unreadable fault => some ("Error reading operation: " ++ (Failure.csv fault).message)

/-- Replays a file with these settings; `stamps` is what the calls get from outside. -/
def Invocation.replay (inv : Invocation) (settings : Settings) (stamps : Nat → Stamp)
    (bytes : List UInt8) : Response :=
  let desk := Desk.start (Rules.ofSettings settings) stamps
  let (results, r) := (Replay.start desk).applyRows (Csv.operations bytes)
  let warnings := if inv.dbPath.isSome then [notKept] else []
  let lines := warnings ++ results.filterMap rowLine?
  match r.report with
  | (.ok report, _) => ⟨0, report, lines⟩
  | (.error failure, _) => ⟨1, "", lines ++ ["Error: " ++ failure.message]⟩

/-- Does what the program has been asked for, given what the files hold. -/
def Invocation.response (inv : Invocation) (stamps : Nat → Stamp)
    (file : String → Option (List UInt8)) : Response :=
  match inv.settings file with
  | .error failure => ⟨1, "", ["Error: " ++ failure.message]⟩
  | .ok settings =>
    match file inv.input with
    | some bytes => inv.replay settings stamps bytes
    | none => ⟨1, "", ["Error: " ++ Failure.io.message]⟩

end Cashbook.CommandLine
