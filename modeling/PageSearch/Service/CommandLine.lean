import PageSearch.Terminal
import PageSearch.Value.Number

/-!
# The command line

The options choose the host, the port, the mode and the connection of the service. An option may be
shortened as long as it is clear which one is meant, its value may follow it or be joined to it, and
arguments that are no options are put aside. Two dashes alone end the options; joined to an option
they are no value, and unset it.
-/

namespace PageSearch.CommandLine

/-- An option that takes a value. -/
inductive Setting where
  /-- The host that the service listens on. -/
  | host
  /-- The port that it listens on. -/
  | port
  /-- The mode that it runs in. -/
  | mode
  /-- The name of its connection to the engine. -/
  | connection
  deriving DecidableEq

/-- What an option does. -/
inductive Effect where
  /-- Shows the help and ends. -/
  | help
  /-- Sets a value. -/
  | set (setting : Setting)
  deriving DecidableEq

/-- The names of the options. -/
def names : List (String × Effect) :=
  [("-h", .help), ("--help", .help), ("-s", .set .host), ("--host", .set .host),
    ("-p", .set .port), ("--port", .set .port), ("-m", .set .mode), ("--mode", .set .mode),
    ("-ev", .set .connection), ("--elastic-env-name", .set .connection)]

/-- What an argument is. -/
inductive Argument where
  /-- An option, with the value that is joined to it. -/
  | option (effect : Effect) (joined : Option String)
  /-- Something that looks like an option and is none. -/
  | unknown
  /-- A value. -/
  | value

/-- The options that an argument with two dashes may mean, with the value joined to it. -/
def longMatches (arg : List Char) : List Argument :=
  let stem := arg.takeWhile (· != '=')
  let joined := if arg.contains '=' then some (String.ofList (arg.drop (stem.length + 1))) else none
  (names.filter fun (name, _) => stem.isPrefixOf name.toList).map fun (_, effect) => .option effect joined

/-- The options that an argument with one dash may mean: one of a single letter with the value right
after it, or the beginning of a longer one. -/
def shortMatches (arg : List Char) : List Argument :=
  names.filterMap fun (name, effect) =>
    if name.toList == arg.take 2 then some (.option effect (some (String.ofList (arg.drop 2))))
    else if arg.isPrefixOf name.toList then some (.option effect none)
    else none

/-- Digits with a minus before them, and perhaps with a point among them. -/
def looksNegative (arg : List Char) : Bool :=
  match arg.map Text.toPlainDigit with
  | '-' :: r =>
    let body := if r.getLast? == some '\n' then r.dropLast else r
    let rest := body.dropWhile Reading.isDigit
    match rest with
    | [] => !body.isEmpty
    | '.' :: places => !places.isEmpty && places.all Reading.isDigit
    | _ => false
  | _ => false

/-- An argument that begins with a dash and is no name of an option, alone or before a value. -/
def classifyOther (arg : List Char) : Outcome Argument :=
  let found := if arg.take 2 == ['-', '-'] then longMatches arg else shortMatches arg
  match found with
  | [one] => .ok one
  | _ :: _ => .error .usage
  | [] => .ok (if looksNegative arg || arg.contains ' ' then .value else .unknown)

/-- What an argument is. One that may mean several options is a fault. -/
def classify (arg : String) : Outcome Argument :=
  let s := arg.toList
  let stem := String.ofList (s.takeWhile (· != '='))
  if s.head? != some '-' then .ok .value
  else
    match names.lookup arg with
    | some effect => .ok (.option effect none)
    | none =>
      if s.length == 1 then .ok .value
      else
        match names.lookup stem with
        | some effect => .ok (.option effect (some (String.ofList (s.drop (stem.length + 1)))))
        | none => classifyOther s

/-- What a command line says. -/
structure Options where
  /-- The host. -/
  host : Option String := none
  /-- The port. -/
  port : Option Int := none
  /-- The mode. -/
  mode : Option String := some "prod"
  /-- The name of the connection. -/
  connection : Option String := none
  /-- The arguments that were put aside. -/
  unknown : List String := []

namespace Options

/-- Sets an option; a port is a whole number. -/
def set (o : Options) (setting : Setting) (value : String) : Outcome Options :=
  match setting with
  | .host => .ok { o with host := some value }
  | .mode => .ok { o with mode := some value }
  | .connection => .ok { o with connection := some value }
  | .port =>
    match Reading.int? value.toList with
    | some n => .ok { o with port := some n }
    | none => .error .usage

/-- Leaves an option without a value. -/
def unset (o : Options) : Setting → Options
  | .host => { o with host := none }
  | .port => { o with port := none }
  | .mode => { o with mode := none }
  | .connection => { o with connection := none }

/-- Sets an option to the value that is joined to it. -/
def setJoined (o : Options) (setting : Setting) (value : String) : Outcome Options :=
  if value == "--" then .ok (o.unset setting) else o.set setting value

/-- Puts arguments aside. -/
def putAside (o : Options) (args : List String) : Options := { o with unknown := o.unknown ++ args }

/-- Reads the arguments that are left. -/
def readFrom (o : Options) : List String → Outcome Options
  | [] => .ok o
  | "--" :: rest => .ok (o.putAside ("--" :: rest))
  | arg :: rest => do
    match ← classify arg with
    | .value | .unknown => readFrom (o.putAside [arg]) rest
    | .option .help _ => .error .usage
    | .option (.set setting) (some joined) => readFrom (← o.setJoined setting joined) rest
    | .option (.set setting) none =>
      match rest with
      | [] => .error .usage
      | next :: rest =>
        if next == "--" then .error .usage
        else
          match ← classify next with
          | .value => readFrom (← o.set setting next) rest
          | _ => .error .usage

/-- Reads a command line. -/
def read (args : List String) : Outcome Options := readFrom {} args

/-! ### The settings of the service -/

/-- Chooses the values for the mode: a setting that is an object with a field of that name becomes
the value of the field. Without a mode there must be no such setting. -/
def forMode (mode : Option String) (envs : Fields) : Outcome Fields :=
  match mode with
  | some mode => .ok (envs.filterMap fun (key, v) => (v.get? mode).map (key, ·))
  | none => if envs.any fun (_, v) => v.isObject then .error .unsuitable else .ok []

/-- The mode as a setting; without one it is the empty list. -/
def modeValue (mode : Option String) : Value := (mode.map Value.str).getD (.list [])

/-- A text that replaces a setting unless it is missing or empty. -/
def override (name : String) (text : Option String) : Fields :=
  match text with
  | some s => if s.isEmpty then [] else [(name, .str s)]
  | none => []

/-- The settings of the service with what the command line says, which are shown on the terminal. The
port zero counts as missing. -/
def update [Terminal] (o : Options) (envs : Value) : Outcome Fields :=
  match envs with
  | .obj fields => do
    let port : Fields :=
      match o.port with
      | some n => if n == 0 then [] else [("port", .int n)]
      | none => []
    let moded := (Fields.put fields "mode" (modeValue o.mode)).putAll (← forMode o.mode fields)
    let updated := moded.putAll
      (override "host" o.host ++ port ++ override "elastic_env_name" o.connection)
    Terminal.outline (.obj updated)
    return updated
  | _ => .error .unsuitable

end Options

end PageSearch.CommandLine
