import SyslogRelay.Config.Basic
import SyslogRelay.Relay.Forwarder

namespace SyslogRelay.Cli

/-- What failed, and why. -/
structure Report where
  context : String
  causes : List String
  deriving DecidableEq, Repr

/-- Indent a cause: the first line after its label, later lines under it. -/
def indentCause (label : String) (text : String) : String :=
  let pad := String.ofList (List.replicate label.length ' ')
  match text.splitOn "\n" with
  | [] => label
  | first :: rest => label ++ first ++ String.join (rest.map fun l => "\n" ++ pad ++ l)

/-- A number right-aligned in five columns, then a colon and a blank. -/
def causeLabel (n : Nat) : String :=
  let digits := toString n
  String.ofList (List.replicate (5 - digits.length) ' ') ++ digits ++ ": "

/-- The text of a report, as written to standard error. -/
def Report.render (r : Report) : String :=
  let numbered := r.causes.length > 1
  let causes := (List.range r.causes.length).zip r.causes |>.map fun (n, c) =>
    "\n" ++ indentCause (if numbered then causeLabel n else "    ") c
  "Error: " ++ r.context ++
    (if r.causes.isEmpty then "" else "\n\nCaused by:" ++ String.join causes) ++ "\n"

/-- The texts of a settings error and of what it carries. -/
def configCauses : ConfigError → List String
  | .io e => ["I/O error: " ++ e.message, e.message]
  | .json e => ["JSON parse error: " ++ e.message, e.message]
  | .invalid reason => ["Invalid configuration: " ++ reason]

/-- The texts of a link error and of what it carries. -/
def linkCauses : Net.LinkError → List String
  | .socket e => [(Net.LinkError.socket e).message, e.message]
  | .configure e => [(Net.LinkError.configure e).message, e.message]
  | .send dest e => [(Net.LinkError.send dest e).message, e.message]
  | .closed => [Net.LinkError.closed.message]

/-- The texts of a resolution error and of what it carries. -/
def resolveCauses : Net.ResolveError → List String
  | .io e => [(Net.ResolveError.io e).message, e.message]
  | .malformed f => [(Net.ResolveError.malformed f).message, f.message]
  | e => [e.message]

/-- The texts of a forwarder error and of what it carries; a link error stands
for itself. -/
def forwarderCauses : Relay.ForwarderError → List String
  | .resolve host source => (Relay.ForwarderError.resolve host source).message :: resolveCauses source
  | .transport e => linkCauses e
  | e => [e.message]

end SyslogRelay.Cli
