import DurationFormat.Command
import DurationFormat.Command.UsageError

/-!
# Settings

A parameter together with the value that was read for it.
-/

namespace DurationFormat.Command

inductive Setting where
  | output (mode : OutputMode)
  | parts (g : Granularity)
  | strings
  | templateFile (path : String)
  | millis (n : Int64)
  | format (text : String)
  | subject (text : String)
  deriving DecidableEq

namespace Setting

def parameter : Setting → Parameter
  | .output _ => .output
  | .parts _ => .parts
  | .strings => .strings
  | .templateFile _ => .templateFile
  | .millis _ => .millis
  | .format _ => .format
  | .subject _ => .subject

/-- Reads the value given for a parameter. An empty output mode or path counts as missing. -/
def read (value : String) : Parameter → Except UsageError Setting
  | .output =>
    match value with
    | "" => .error (.missingValue .output)
    | "text" => .ok (.output .text)
    | "json" => .ok (.output .json)
    | _ => .error (.unknownOutput value)
  | .parts =>
    match Granularity.read value with
    | .ok g => .ok (.parts g)
    | .error cause => .error (.malformedParts value cause)
  | .strings => .ok .strings
  | .templateFile => if value = "" then .error (.missingValue .templateFile)
    else .ok (.templateFile value)
  | .millis =>
    match Numeral.readInt64 value with
    | .ok n => .ok (.millis n)
    | .error cause => .error (.malformedMillis value cause)
  | .format => .ok (.format value)
  | .subject => .ok (.subject value)

def output? : Setting → Option OutputMode
  | .output mode => some mode
  | _ => none

def parts? : Setting → Option Granularity
  | .parts g => some g
  | _ => none

def templateFile? : Setting → Option String
  | .templateFile path => some path
  | _ => none

def millis? : Setting → Option Int64
  | .millis n => some n
  | _ => none

def format? : Setting → Option String
  | .format text => some text
  | _ => none

def subject? : Setting → Option String
  | .subject text => some text
  | _ => none

end Setting

end DurationFormat.Command
