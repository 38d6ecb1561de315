import DurationFormat.Granularity

/-!
# Commands

What the program is asked to do, with every parameter read, and the two ways in which it answers.
The path of a template file is text as every parameter is, so a path that is not UTF-8 cannot be
asked for.
-/

namespace DurationFormat

inductive Command where
  /-- Shows a duration as a format string says, wherever that comes from. -/
  | format (millis : Int64) (format templateFile : Option String)
  | split (millis : Int64) (parts : Granularity) (strings : Bool)
  | explain (format : String)
  deriving DecidableEq

inductive OutputMode where
  | text
  | json
  deriving DecidableEq

structure Invocation where
  command : Command
  mode : OutputMode
  deriving DecidableEq

end DurationFormat
