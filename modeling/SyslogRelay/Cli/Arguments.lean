import SyslogRelay.Severity
import SyslogRelay.Text.Similarity

/-!
The command line of `logfwd`: its options, how arguments are read left to
right, and the messages of usage errors.
-/

namespace SyslogRelay.Cli

open SyslogRelay.Text

/-- The options of the command. -/
inductive Flag
  | config
  | host
  | port
  | app
  | hostname
  | raw
  | mirror
  | earlyBuffer
  | facility
  | verbose
  | help
  | version
  deriving DecidableEq, Repr

namespace Flag

/-- Every option, in the order of the help text. -/
def all : List Flag :=
  [config, host, port, app, hostname, raw, mirror, earlyBuffer, facility, verbose, help, version]

def long : Flag → String
  | config => "config"
  | host => "host"
  | port => "port"
  | app => "app"
  | hostname => "hostname"
  | raw => "raw"
  | mirror => "mirror"
  | earlyBuffer => "early-buffer"
  | facility => "facility"
  | verbose => "verbose"
  | help => "help"
  | version => "version"

def short? : Flag → Option Char
  | config => some 'c'
  | port => some 'p'
  | app => some 'a'
  | verbose => some 'v'
  | help => some 'h'
  | version => some 'V'
  | _ => none

/-- The name of the value an option takes, if it takes one. -/
def valueName? : Flag → Option String
  | config => some "CONFIG"
  | host => some "HOST"
  | port => some "PORT"
  | app => some "APP"
  | hostname => some "HOSTNAME"
  | earlyBuffer => some "EARLY_BUFFER"
  | facility => some "FACILITY"
  | _ => none

def takesValue (f : Flag) : Bool := f.valueName?.isSome

/-- How an option is named in messages: `--port <PORT>`, `--raw`. -/
def display (f : Flag) : String :=
  "--" ++ f.long ++ match f.valueName? with
    | some v => " <" ++ v ++ ">"
    | none => ""

def ofLong? (s : String) : Option Flag := all.find? (·.long = s)

/-- Whether an option belongs to the command's own option group: all but help
and version. -/
def inGroup (f : Flag) : Bool := f != help && f != version

/-- The options of the command's own group, in the order of the help text. -/
def group : List Flag := all.filter inGroup

def ofShort? (c : Char) : Option Flag := all.find? (·.short? = some c)

end Flag

/-- The facilities the command line accepts, in the order it lists them. -/
def facilityChoices : List Facility :=
  [.kern, .user, .daemon, .auth, .syslog, .local0, .local1, .local2, .local3, .local4, .local5,
    .local6, .local7]

/-- What the command line asks for. -/
structure Options where
  config : Option String
  host : Option String
  port : Option Nat
  app : Option String
  hostname : Option String
  raw : Bool
  mirror : Bool
  earlyBuffer : Option Nat
  facility : Option Facility
  verbose : Bool
  deriving DecidableEq, Repr

def Options.none : Options := ⟨.none, .none, .none, .none, .none, false, false, .none, .none, false⟩

/-- What the usage line of an error names: the options used, in order, and
whether the command's whole option group counts as used. -/
structure Usage where
  used : List Flag
  wholeGroup : Bool
  deriving DecidableEq, Repr

/-- The usage line that names no option. -/
def Usage.generic : Usage := ⟨[], false⟩

/-- Why the arguments were refused. -/
inductive UsageError
  /-- An argument that is no option of the command, with a similar option. -/
  | unexpected (arg : String) (similar : Option String) (usage : Usage)
  /-- An option that takes a value got none. -/
  | missingValue (f : Flag)
  /-- A value outside the option's choices, with a similar choice. -/
  | notAChoice (f : Flag) (value : String) (similar : Option String)
  /-- A value that does not read as the option's kind. -/
  | invalid (f : Flag) (value : String) (reason : String)
  | repeated (f : Flag)
  /-- A value attached to an option that takes none. -/
  | unwanted (f : Flag) (value : String) (usage : Usage)
  deriving DecidableEq, Repr

/-- The choices an option accepts, if it has a fixed set. -/
def choices : Flag → List String
  | .facility => facilityChoices.map Facility.name
  | _ => []

/-- The usage line: the options used, each once, those of a used group left to the
group, then the group as `<a|b|...>`; `[OPTIONS]` when nothing is named. -/
def Usage.render (u : Usage) : String :=
  let alone := (if u.wholeGroup then u.used.filter (!·.inGroup) else u.used).eraseDups
  let group := if u.wholeGroup then ["<" ++ "|".intercalate (Flag.group.map Flag.display) ++ ">"] else []
  match alone.map Flag.display ++ group with
  | [] => "Usage: logfwd [OPTIONS]"
  | items => "Usage: logfwd " ++ " ".intercalate items

/-- The text of a usage error, as written to standard error. -/
def UsageError.render (e : UsageError) : String :=
  let tip (kind : String) : Option String → String
    | some s => "\n\n  tip: a similar " ++ kind ++ " exists: '" ++ s ++ "'"
    | none => ""
  let listed (f : Flag) :=
    if (choices f).isEmpty then "" else "\n  [possible values: " ++ ", ".intercalate (choices f) ++ "]"
  let usage (u : Usage) := "\n\n" ++ u.render
  let body := match e with
    | .unexpected arg similar u => "unexpected argument '" ++ arg ++ "' found" ++ tip "argument" similar ++ usage u
    | .missingValue f => "a value is required for '" ++ f.display ++ "' but none was supplied" ++ listed f
    | .notAChoice f v similar =>
      if v.isEmpty then "a value is required for '" ++ f.display ++ "' but none was supplied" ++ listed f
      else "invalid value '" ++ v ++ "' for '" ++ f.display ++ "'" ++ listed f ++ tip "value" similar
    | .invalid f v reason => "invalid value '" ++ v ++ "' for '" ++ f.display ++ "': " ++ reason
    | .repeated f => "the argument '" ++ f.display ++ "' cannot be used multiple times" ++ usage .generic
    | .unwanted f v u =>
      "unexpected value '" ++ v ++ "' for '" ++ f.display ++ "' found; no more were expected" ++ usage u
  "error: " ++ body ++ "\n\nFor more information, try '--help'.\n"

/-! ### Reading values -/

/-- Why a decimal integer does not read: the reasons of the standard integer reader. -/
def readInteger (s : String) : Except String Int :=
  let (neg, digits) := match s.toList with
    | '-' :: ds => (true, ds)
    | '+' :: ds => (false, ds)
    | ds => (false, ds)
  if s.isEmpty then .error "cannot parse integer from empty string"
  else if digits.isEmpty || !digits.all Char.isDigit then .error "invalid digit found in string"
  else
    let n : Nat := digits.foldl (fun acc c => acc * 10 + (c.toNat - 48)) 0
    if neg then .ok (-(n : Int)) else .ok (n : Int)

/-- A port: an integer of 64 bits, then within 0..=65535. -/
def readPort (s : String) : Except String Nat := do
  let i ← readInteger s
  if i < -Int.pow 2 63 ∨ i ≥ Int.pow 2 63 then
    throw (if i < 0 then "number too small to fit in target type" else "number too large to fit in target type")
  if i < 0 ∨ i > 65535 then throw (toString i ++ " is not in 0..=65535")
  pure i.toNat

/-- A count: an unsigned integer of 64 bits. -/
def readCount (s : String) : Except String Nat := do
  match s.toList with
  | '-' :: _ => throw "invalid digit found in string"
  | _ => pure ()
  let i ← readInteger s
  if i ≥ Int.pow 2 64 then throw "number too large to fit in target type"
  pure i.toNat

/-- Store one settled value. A settings file path may not be empty. -/
def store (o : Options) (f : Flag) (value : String) : Except UsageError Options :=
  match f with
  | .config => if value.isEmpty then .error (.missingValue f) else .ok { o with config := some value }
  | .host => .ok { o with host := some value }
  | .port => match readPort value with
    | .ok n => .ok { o with port := some n }
    | .error r => .error (.invalid f value r)
  | .app => .ok { o with app := some value }
  | .hostname => .ok { o with hostname := some value }
  | .earlyBuffer => match readCount value with
    | .ok n => .ok { o with earlyBuffer := some n }
    | .error r => .error (.invalid f value r)
  | .facility => match facilityChoices.find? (·.name = value) with
    | some fac => .ok { o with facility := some fac }
    | none => .error (.notAChoice f value (closestWord? value (choices f)))
  | .raw => .ok { o with raw := true }
  | .mirror => .ok { o with mirror := true }
  | .verbose => .ok { o with verbose := true }
  | .help | .version => .ok o

/-! ### Reading the arguments -/

/-- What reading the arguments ends in. -/
inductive Request
  | run (o : Options)
  | help
  | version
  | refused (e : UsageError)
  deriving DecidableEq, Repr

/-- The reader's state: the options so far, those already given, an option
waiting for its value (and whether it still takes one), and whether `--` was seen. -/
structure Reader where
  options : Options
  given : List Flag
  pending : Option (Flag × List String)
  awaiting : Bool
  trailing : Bool

/-- Settle an option with its values: help and version stop the reading; a value
option needs its value; an option may be given once. -/
def settle (r : Reader) (f : Flag) (values : List String) : Except Request Reader :=
  if f.takesValue ∧ values.isEmpty then .error (.refused (.missingValue f))
  else if f = .help then .error .help
  else if f = .version then .error .version
  else if f ∈ r.given then .error (.refused (.repeated f))
  else
    match store r.options f (values.headD "") with
    | .ok o => .ok { r with options := o, given := r.given ++ [f] }
    | .error e => .error (.refused e)

/-- Settle the waiting option, if any. -/
def settlePending (r : Reader) : Except Request Reader :=
  match r.pending with
  | some (f, values) => settle { r with pending := none, awaiting := false } f values
  | none => .ok r

/-- The known long names, in the order they are looked up. -/
def longNames : List String := Flag.all.map Flag.long

/-- Refuse an argument; an error of the waiting option is not reported then. -/
def refuse (e : UsageError) : Except Request Reader := .error (.refused e)

/-- Refuse an argument that is not an option, naming no option in the usage line. -/
def refuseArg (arg : String) : Except Request Reader := refuse (.unexpected arg none .generic)

/-- The options used once the waiting one is settled, whatever comes of it: one
without a value stays out, one given before is taken out again, and one whose
value is refused still counts. -/
def Reader.usedAfterPending (r : Reader) : List Flag :=
  match r.pending with
  | some (f, values) =>
    if f.takesValue ∧ values.isEmpty then r.given
    else if f ∈ r.given then r.given.erase f
    else r.given ++ [f]
  | none => r.given

/-- Refuse an unknown long option, with the most similar known one. -/
def Reader.unknownLong (r : Reader) (name : String) : Except Request Reader :=
  let similar := closestWord? name longNames
  let suggested := (similar.bind Flag.ofLong?).toList
  let used := r.usedAfterPending
  refuse (.unexpected ("--" ++ name) (similar.map ("--" ++ ·))
    ⟨used ++ suggested.filter (· ∉ used), false⟩)

/-- Settle the waiting option, then `f` with its values. -/
def react (r : Reader) (f : Flag) (values : List String) : Except Request Reader := do
  let r ← settlePending r
  settle r f values

/-- Start an option that takes a value and has none attached: it waits. -/
def await (r : Reader) (f : Flag) : Except Request Reader := do
  let r ← settlePending r
  pure { r with pending := some (f, []), awaiting := true }

/-- Read a long option with its attached value, if any. -/
def readLong (r : Reader) (name : String) (attached : Option String) : Except Request Reader :=
  match Flag.ofLong? name with
  | none => r.unknownLong name
  | some f =>
    if f.takesValue then
      match attached with
      | some v => react r f [v]
      | none => await r f
    else
      match attached with
      | some v => refuse (.unwanted f v ⟨r.given ++ [f], !r.given.isEmpty⟩)
      | none => react r f []

/-- Read a group of short options. -/
def readShorts (r : Reader) : List Char → Except Request Reader
  | [] => .ok r
  | c :: rest =>
    match Flag.ofShort? c with
    | none => refuseArg ("-" ++ String.singleton c)
    | some f =>
      if f.takesValue then
        let value := match rest with
          | '=' :: v => v
          | v => v
        if rest.isEmpty then await r f else react r f [String.ofList value]
      else do
        let r ← react r f []
        readShorts r rest

/-- Read one argument. -/
def readArg (r : Reader) (arg : String) : Except Request Reader :=
  let cs := arg.toList
  if r.trailing then refuseArg arg
  else if arg = "--" then .ok { r with trailing := true, awaiting := false }
  else
    match cs with
    | '-' :: '-' :: body =>
      match body.span (· ≠ '=') with
      | (name, '=' :: v) => readLong r (String.ofList name) (some (String.ofList v))
      | (name, _) => readLong r (String.ofList name) none
    | '-' :: c :: rest => readShorts r (c :: rest)
    | _ =>
      match r.pending with
      | some (f, values) =>
        if r.awaiting then .ok { r with pending := some (f, values ++ [arg]), awaiting := false }
        else refuseArg arg
      | none => refuseArg arg

/-- Read the arguments (without the program name). -/
def Request.ofArgs (args : List String) : Request :=
  let start : Reader := ⟨Options.none, [], none, false, false⟩
  let finish (r : Reader) : Request :=
    match settlePending r with
    | .ok r => .run r.options
    | .error q => q
  match args.foldlM readArg start with
  | .ok r => finish r
  | .error q => q

/-! ### Texts -/

def versionText : String := "logfwd 0.1.0\n"

def helpText : String :=
  "Forward console lines to a remote syslog collector over UDP\n\n" ++
  "Usage: logfwd [OPTIONS]\n\n" ++
  "Options:\n" ++
  "  -c, --config <CONFIG>              JSON configuration file (LOGFWD_* environment variables otherwise)\n" ++
  "      --host <HOST>                  Collector host name or address\n" ++
  "  -p, --port <PORT>                  Collector UDP port\n" ++
  "  -a, --app <APP>                    APP-NAME field\n" ++
  "      --hostname <HOSTNAME>          HOSTNAME field (defaults to $HOSTNAME)\n" ++
  "      --raw                          Send lines unchanged instead of RFC 5424 records\n" ++
  "      --mirror                       Keep printing lines to stderr while forwarding\n" ++
  "      --early-buffer <EARLY_BUFFER>  Lines kept while the collector is not reachable yet\n" ++
  "      --facility <FACILITY>          Syslog facility [possible values: kern, user, daemon, auth, syslog, local0, local1, local2, local3, local4, local5, local6, local7]\n" ++
  "  -v, --verbose                      Verbose mode (show internal logs)\n" ++
  "  -h, --help                         Print help\n" ++
  "  -V, --version                      Print version\n"

end SyslogRelay.Cli
