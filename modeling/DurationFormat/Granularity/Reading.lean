import DurationFormat.Granularity
import DurationFormat.Numeral
import DurationFormat.Text.Blank

/-!
# Reading a granularity

Unlike `Granularity.ofPartCount`, which takes any count, a granularity that is asked for by text
or by number must be one of the four. Blanks around the text do not matter. A numeral of a byte is
taken for a number of parts; anything else has to be the name of a granularity or of its coarsest
unit, in letters of either case. A numeral past a byte is no numeral here but an unknown name.
-/

namespace DurationFormat.Granularity

inductive ReadError where
  | invalidPartCount (count : Nat)
  /-- Keeps the text as it was given, blanks included. -/
  | unknown (text : String)
  deriving DecidableEq

def ReadError.message : ReadError → String
  | .invalidPartCount count =>
    "invalid part count " ++ Numeral.plain count ++ ": expected 1, 2, 3 or 4"
  | .unknown text =>
    "unknown granularity '" ++ text ++ "': expected 1-4 or seconds, minutes, hours, days"

def all : List Granularity := [.seconds, .minutes, .hours, .days]

def readPartCount (count : Nat) : Except ReadError Granularity :=
  match all.find? (·.partCount = count) with
  | some g => .ok g
  | none => .error (.invalidPartCount count)

/-- The granularity of this name, in small letters. -/
def named? (name : List Char) : Option Granularity :=
  all.find? fun g => name = g.name.toList ∨ name = g.coarsest.name.toList

def read (text : String) : Except ReadError Granularity :=
  let word := Text.trim text.toList
  match Numeral.readNat 255 word with
  | .ok count => readPartCount count
  | .error _ =>
    match named? (word.map Char.toLower) with
    | some g => .ok g
    | none => .error (.unknown text)

end DurationFormat.Granularity
