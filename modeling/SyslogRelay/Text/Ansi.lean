import SyslogRelay.Text.Utf8

namespace SyslogRelay.Text

mutual

/-- Runs of text between escapes; `run` holds the current run reversed. -/
def ansiRuns (run : List Char) : List Char → List (List Char)
  | [] => [run.reverse]
  | '\x1b' :: '[' :: rest => run.reverse :: skipEscape rest
  | c :: rest => ansiRuns (c :: run) rest

/-- Skip an escape's body up to its closing `m`; an unterminated escape leaves an
empty last run. -/
def skipEscape : List Char → List (List Char)
  | [] => [[]]
  | 'm' :: rest => ansiRuns [] rest
  | _ :: rest => skipEscape rest

end

/-- The runs of a text between its colour escapes. -/
def segments (s : String) : List String :=
  (ansiRuns [] s.toList).map String.ofList

/-- The text with its colour escapes removed. -/
def stripAnsi (s : String) : String :=
  String.join (segments s)

/-- The text without colour escapes and without trailing line ends. -/
def cleanLine (s : String) : String :=
  String.ofList (dropLineEnds (stripAnsi s).toList)

end SyslogRelay.Text
