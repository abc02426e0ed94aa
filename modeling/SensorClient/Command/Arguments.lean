import SensorClient.Command.Option
import SensorClient.Command.Stream

/-!
# Reading a command line

Words are read from left to right. Options that every command takes may stand before the command
as well as after it, and the one after it counts. After two dashes alone nothing is an option any
more. What the command line leaves open is taken from the environment, and then from what is
usual.

## Main definitions

* `Verb`, `Command`: the commands, without and with what they need
* `Reading`: how far a command line has been read
* `Invocation.read`: the command that a command line asks for
-/

namespace SensorClient

/-- The commands. -/
inductive Verb where
  | info
  | stream
  | version
  | doctor
deriving DecidableEq, Repr

namespace Verb

/-- The command with a given name. -/
def ofName? : String → Option Verb
  | "info" => some info
  | "stream" => some stream
  | "version" => some version
  | "doctor" => some doctor
  | _ => none

/-- The options that a command takes. -/
def options : Verb → List CommandOption
  | info => CommandOption.everywhere ++ CommandOption.location ++ [.interface]
  | stream =>
    CommandOption.everywhere ++ CommandOption.location ++
      [.interface, .interval, .bufferInterval, .bufferSize, .standbyOverride, .dataRangeIndex,
        .recordSize, .xyz, .batch, .count, .timeout, .poll]
  | version => CommandOption.everywhere ++ [.extended]
  | doctor => CommandOption.everywhere ++ CommandOption.location

/-- How many words a command takes that are no options. -/
def words : Verb → Nat
  | info | stream => 1
  | version | doctor => 0

end Verb

/-- A command with what it needs. -/
inductive Command where
  | info (location : Location) (sensor : Sensor)
  | stream (location : Location) (sensor : Sensor) (options : StreamOptions)
  | version (extended : Bool)
  | doctor (location : Location)
deriving DecidableEq, Repr

/-- A command and the form of its output, if one is asked for. -/
structure Invocation where
  format : Option Format
  command : Command
deriving DecidableEq, Repr

/-- Why a command line asks for no command. -/
inductive Stop where
  /-- It makes no sense. -/
  | misuse
  /-- It asks for the version of the program. -/
  | version
  /-- It asks how the program is used. -/
  | help
deriving DecidableEq, Repr

/-! ## Words -/

/-- How far a command line has been read. -/
structure Reading where
  options : Options
  /-- The option whose value comes next. -/
  awaiting : Option CommandOption
  /-- Whether nothing is an option any more. -/
  plain : Bool
deriving DecidableEq, Repr

namespace Reading

/-- Nothing has been read. -/
def start : Reading := ⟨.empty, none, false⟩

/-- Gives an option a value. -/
def give (r : Reading) (option : CommandOption) (value : String) : Except Stop Reading :=
  match r.options.put option value with
  | some options => .ok { r with options, awaiting := none }
  | none => .error .misuse

/-- Reads an option with two dashes: its name, and its value if that is attached. -/
def long (r : Reading) (allowed : List CommandOption) (name : List Char)
    (attached : Option (List Char)) : Except Stop Reading :=
  match allowed.find? fun option => option.name.toList == name, attached with
  | some option, none =>
    if option.isSwitch then r.give option "" else .ok { r with awaiting := some option }
  | some option, some value =>
    if option.isSwitch then .error .misuse else r.give option (String.ofList value)
  | none, none => .error (if name = "help".toList then .help else .misuse)
  | none, some _ => .error .misuse

/-- Reads one word. An option that waits for its value cannot take a word with a dash before it,
except a dash alone. -/
def step (allowed : List CommandOption) (words : Nat) (r : Reading) (word : String) :
    Except Stop Reading :=
  let plainWord : Except Stop Reading :=
    match r.awaiting with
    | some option => r.give option word
    | none =>
      if r.options.words.length < words then
        .ok { r with options.words := r.options.words ++ [word] }
      else .error .misuse
  if r.plain then plainWord
  else
    match word.toList with
    | '-' :: '-' :: rest =>
      if r.awaiting.isSome then .error .misuse
      else if rest = [] then .ok { r with plain := true }
      else
        r.long allowed (rest.takeWhile (· != '='))
          (match rest.dropWhile (· != '=') with
            | [] => none
            | _ :: value => some value)
    | '-' :: c :: _ =>
      if r.awaiting.isSome then .error .misuse
      else .error (if c = 'h' then .help else .misuse)
    | _ => plainWord

/-- What has been read in the end; an option may not still wait for its value. -/
def finish (r : Reading) : Except Stop Options :=
  if r.awaiting.isSome then .error .misuse else .ok r.options

end Reading

/-- Reads what follows the name of a command. -/
def Verb.read (verb : Verb) (words : List String) : Except Stop Options := do
  (← words.foldlM (Reading.step verb.options verb.words) .start).finish

/-! ## Commands -/

/-- Whether words name what help can be had on. -/
def isTopic : List String → Bool
  | [] => true
  | [word] => word = "help" || (Verb.ofName? word).isSome
  | _ => false

/-- Reads what comes before the name of a command; gives the options there, the command, and the
words after it. -/
def readGlobal : Reading → List String → Except Stop (Options × Verb × List String)
  | _, [] => .error .misuse
  | r, word :: rest =>
    if r.awaiting.isSome || r.plain then do
      readGlobal (← r.step CommandOption.everywhere 0 word) rest
    else
      match Verb.ofName? word with
      | some verb => .ok (r.options, verb, rest)
      | none =>
        if word = "--version" || "-V".toList.isPrefixOf word.toList then .error .version
        else if word = "help" then .error (if isTopic rest then .help else .misuse)
        else do readGlobal (← r.step CommandOption.everywhere 0 word) rest

/-- The variables of the environment. -/
abbrev Environment := String → Option String

/-- A value that is given, else the one in the environment, else the usual one. -/
def settled {α : Type} (given : Option α) (inherited : Option String) (read? : String → Option α)
    (usual : α) : Except Stop α :=
  match given, inherited with
  | some value, _ => .ok value
  | none, none => .ok usual
  | none, some text =>
    match read? text with
    | some value => .ok value
    | none => .error .misuse

/-- Where the daemon is, from the options, the environment, and what is usual. -/
def Options.location (o : Options) (environment : Environment) : Except Stop Location := do
  let socket ← settled o.socket (environment "SENSORCHAN_SOCKET") Options.nonempty
    SocketConfig.defaultPath
  let service ← settled o.service (environment "SENSORCHAN_SERVICE") some Service.defaultName
  let bus ← settled o.bus (environment "SENSORCHAN_BUS") BusKind.ofName? .system
  return ⟨socket, service, bus, o.handshakeTimeout.getD "5s"⟩

/-- The sensor that is asked for. -/
def Options.sensor (o : Options) : Except Stop Sensor :=
  match o.words with
  | [name] => .ok ⟨name, o.interface⟩
  | _ => .error .misuse

/-- What records hold; it has to be said in exactly one of two ways. -/
def Options.layout (o : Options) : Except Stop Layout :=
  match o.xyz, o.recordSize with
  | some (), none => .ok .xyz
  | none, some size => .ok (.bytes size)
  | _, _ => .error .misuse

/-- What is wanted of a stream. -/
def Options.stream (o : Options) : Except Stop StreamOptions := do
  return {
    layout := ← o.layout
    batch := o.batch.isSome
    interval := o.interval
    bufferInterval := o.bufferInterval
    bufferSize := o.bufferSize
    standbyOverride := o.standbyOverride.isSome
    dataRangeIndex := o.dataRangeIndex
    count := o.count
    timeout := o.timeout
    poll := o.poll.getD "200ms" }

/-- The command that options ask for. -/
def Options.command (o : Options) (environment : Environment) :
    Verb → Except Stop Command
  | .info => return .info (← o.location environment) (← o.sensor)
  | .stream => return .stream (← o.location environment) (← o.sensor) (← o.stream)
  | .version => return .version o.extended.isSome
  | .doctor => return .doctor (← o.location environment)

/-- The command that a command line asks for. -/
def Invocation.read (environment : Environment) (words : List String) :
    Except Stop Invocation := do
  let (outer, verb, rest) ← readGlobal .start words
  let options ← verb.read rest
  return ⟨options.format <|> outer.format, ← options.command environment verb⟩

end SensorClient
