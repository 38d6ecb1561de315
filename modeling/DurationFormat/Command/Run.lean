import DurationFormat.Breakdown.Listing
import DurationFormat.Command.Arguments
import DurationFormat.Failure
import DurationFormat.Origin
import DurationFormat.Template.Explanation

/-!
# Running a command

A run depends on its surroundings through two variables, the files it reads and the filter that
log directives make. It fails only before anything is written, and the only thing that can fail is
reading a template file.
-/

namespace DurationFormat

/-- What is logged, all of it for debugging. -/
inductive Event where
  | formatting (millis : Int64) (choice : FormatChoice)
  | splitting (millis : Int64) (parts : Granularity)
  | reading (d : Diagnostic)
  deriving DecidableEq

namespace Event

def level : String := "DEBUG"

def message : Event → String
  | .formatting millis choice =>
    "formatting duration millis=" ++ Numeral.signed millis.toInt ++ " format=" ++ choice.format ++
      " source=" ++ choice.origin.title
  | .splitting millis parts =>
    "splitting duration millis=" ++ Numeral.signed millis.toInt ++ " parts=" ++ parts.name
  | .reading d => d.message

end Event

structure Surroundings where
  /-- The format string to use where none is given; an empty one counts as none. -/
  format : Option String
  /-- Directives for the log. -/
  log : Option String
  /-- Which events directives let through; malformed ones make no filter. -/
  filter : (directives : String) → Option (Event → Bool)
  files : FileReader

namespace Surroundings

def format? (s : Surroundings) : Option String := s.format.filter (· ≠ "")

/-- Whether an event is logged. Only warnings are where no directives make a filter. -/
def logs (s : Surroundings) (e : Event) : Bool :=
  ((s.log.bind s.filter).or (s.filter "warn")).any (· e)

end Surroundings

inductive Outcome where
  | help (page : Command.HelpPage)
  | misuse (e : Command.UsageError)
  | failed (f : Failure)
  | done (stdout : String) (log : List Event)

namespace Outcome

def exitCode : Outcome → Nat
  | .help _ => 0
  | .misuse _ => 2
  | .failed _ => 1
  | .done _ _ => 0

def stdout : Outcome → String
  | .help page => page.text
  | .misuse _ => ""
  | .failed _ => ""
  | .done text _ => text

def stderr : Outcome → String
  | .help _ => ""
  | .misuse e => e.report
  | .failed f => if f.text = "" then "" else "Error: " ++ f.text ++ "\n"
  | .done _ _ => ""

def log : Outcome → List Event
  | .done _ log => log
  | _ => []

end Outcome

namespace Command

def printed (x : Json) : String := x.pretty ++ "\n"

def formatJson (millis : Int64) (choice : FormatChoice) (output : String) : Json :=
  .obj [("duration_ms", .int millis.toInt), ("format", .str choice.format),
    ("source", .str choice.origin.name), ("output", .str output)]

def formatOutput (millis : Int64) (choice : FormatChoice) (mode : OutputMode) : String :=
  let output := DurationFormat.format millis choice.format
  match mode with
  | .text => output ++ "\n"
  | .json => printed (formatJson millis choice output)

def splitOutput (b : Breakdown) : OutputMode → String
  | .text => b.listing
  | .json => printed b.toJson

def explainOutput (t : Template) : OutputMode → String
  | .text => t.listing
  | .json => printed t.toJson

def readingEvents (format : String) : List Event := (Template.diagnostics format).map .reading

/-- What a command writes and the events on the way. -/
def answer (s : Surroundings) (mode : OutputMode) :
    Command → Except TemplateFileError (String × List Event)
  | .format millis argument path =>
    (chooseFormat s.files argument path s.format?).map fun choice =>
      (formatOutput millis choice mode,
        .formatting millis choice :: readingEvents choice.format)
  | .split millis parts strings =>
    .ok (splitOutput (.ofMillis millis parts strings) mode, [.splitting millis parts])
  | .explain text =>
    .ok (explainOutput (.ofString text) mode, readingEvents text)

def run (c : Command) (mode : OutputMode) (s : Surroundings) : Outcome :=
  match c.answer s mode with
  | .ok (stdout, log) => .done stdout (log.filter s.logs)
  | .error e => .failed ⟨e.message, []⟩

end Command

def versionLine : String := "duratiform 0.1.0\n"

def runProgram (arguments : List String) (s : Surroundings) : Outcome :=
  match Command.readInvocation arguments with
  | .ok invocation => invocation.command.run invocation.mode s
  | .error (.misuse e) => .misuse e
  | .error (.help page) => .help page
  | .error .version => .done versionLine []

end DurationFormat
