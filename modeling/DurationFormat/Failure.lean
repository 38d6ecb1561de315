import DurationFormat.Numeral
import DurationFormat.Text.Occurrence

/-!
# Failures and their causes

A failure is told by its own message alone if that already contains the message of every cause.
Otherwise every cause is listed below it, in order and numbered from zero.
-/

namespace DurationFormat

structure Failure where
  message : String
  /-- The cause of the failure, the cause of that, and so on. -/
  causes : List String

namespace Failure

/-- The block of the cause at a position. -/
def causeBlock (cause : String) (i : Nat) : String :=
  "\n\nCaused by:\n    " ++ Numeral.plain i ++ ": " ++ cause

def text (f : Failure) : String :=
  if f.causes.all fun cause => Text.occurs cause.toList f.message.toList then f.message
  else f.message ++ String.join (f.causes.mapIdx fun i cause => causeBlock cause i)

end Failure

end DurationFormat
