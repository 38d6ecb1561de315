import DurationFormat.Command.Parameter
import DurationFormat.Granularity.Reading
import DurationFormat.Text.Terminal

/-!
# Usage errors

Why a command line is refused, and what is reported.
-/

namespace DurationFormat.Command

inductive UsageError where
  | unexpectedArgument (argument : String)
  | unrecognizedVerb (name : String)
  | unexpectedValue (value option : String)
  | missingValue (p : Parameter)
  | repeated (p : Parameter)
  | unknownOutput (value : String)
  | malformedMillis (value : String) (cause : Numeral.ReadError)
  | malformedParts (value : String) (cause : Granularity.ReadError)
  | conflict (first second : Parameter)
  | missingParameter (p : Parameter)
  deriving DecidableEq

namespace UsageError

open Text

/-- The values of a parameter that has only a few, on a line of their own. -/
def choices : Parameter → String
  | .output =>
    "\n  [possible values: " ++ emphasized "text" ++ ", " ++ emphasized "json" ++ "]"
  | _ => ""

def named (text : String) : String := "'" ++ emphasized text ++ "'"

def invalidValue (p : Parameter) (value : String) : String :=
  "invalid value " ++ named value ++ " for " ++ named p.display

/-- The text with its styles. A value is emphasized, but not where a cause repeats it. -/
def styled : UsageError → String
  | .unexpectedArgument argument => "unexpected argument " ++ named argument ++ " found"
  | .unrecognizedVerb name => "unrecognized subcommand " ++ named name
  | .unexpectedValue value option =>
    "unexpected value " ++ named value ++ " for " ++ named option ++
      " found; no more were expected"
  | .missingValue p =>
    "a value is required for " ++ named p.display ++ " but none was supplied" ++ choices p
  | .repeated p => "the argument " ++ named p.display ++ " cannot be used multiple times"
  | .unknownOutput value => invalidValue .output value ++ choices .output
  | .malformedMillis value cause => invalidValue .millis value ++ ": " ++ cause.message
  | .malformedParts value cause => invalidValue .parts value ++ ": " ++ cause.message
  | .conflict first second =>
    "the argument " ++ named first.display ++ " cannot be used with " ++ named second.display
  | .missingParameter p =>
    "the following required arguments were not provided:\n  " ++ emphasized p.display

/-- The whole report, where styles are not shown. A value may itself hold control sequences, and one
that is not complete takes text behind the value up to the next change of style. -/
def report (e : UsageError) : String :=
  plain (emphasized "error:" ++ " " ++ e.styled ++ "\n\nFor more information, try " ++
    named "--help" ++ ".\n")

end UsageError

end DurationFormat.Command
