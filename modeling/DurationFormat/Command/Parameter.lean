/-!
# What can be said on the command line

The commands, the parameters they take and the names of the options. Every scope, the top level as
well as each command, takes the output mode and asks for help by the same names.
-/

namespace DurationFormat.Command

inductive Verb where
  | format
  | split
  | explain
  deriving DecidableEq

namespace Verb

def all : List Verb := [.format, .split, .explain]

def name : Verb → String
  | .format => "format"
  | .split => "split"
  | .explain => "explain"

end Verb

inductive Parameter where
  | output
  | parts
  | strings
  | templateFile
  | millis
  /-- The format string of `format`, which may be left out. -/
  | format
  /-- The format string of `explain`, which may not. -/
  | subject
  deriving DecidableEq

namespace Parameter

/-- As usage lines and messages show it. -/
def display : Parameter → String
  | .output => "--output <OUTPUT>"
  | .parts => "--parts <N>"
  | .strings => "--strings"
  | .templateFile => "--template-file <PATH>"
  | .millis => "<MILLIS>"
  | .format => "[FORMAT]"
  | .subject => "<FORMAT>"

def takesValue : Parameter → Bool
  | .strings => false
  | _ => true

/-- Whether a negative number in its place is a value and no option. -/
def allowsNegative : Parameter → Bool
  | .millis => true
  | _ => false

end Parameter

inductive Meaning where
  | set (p : Parameter)
  | help
  | version
  deriving DecidableEq

structure OptionName where
  long : String
  short : Option Char
  meaning : Meaning

inductive Scope where
  | top
  | verb (v : Verb)
  deriving DecidableEq

namespace Scope

def ownOptions : Scope → List OptionName
  | .top => [⟨"version", some 'V', .version⟩]
  | .verb .format => [⟨"template-file", none, .set .templateFile⟩]
  | .verb .split => [⟨"parts", some 'p', .set .parts⟩, ⟨"strings", none, .set .strings⟩]
  | .verb .explain => []

def options (s : Scope) : List OptionName :=
  ⟨"output", some 'o', .set .output⟩ :: ⟨"help", some 'h', .help⟩ :: s.ownOptions

/-- What arguments without an option stand for, in order. -/
def positions : Scope → List Parameter
  | .top => []
  | .verb .format => [.millis, .format]
  | .verb .split => [.millis]
  | .verb .explain => [.subject]

def long? (s : Scope) (name : String) : Option Meaning :=
  (s.options.find? (·.long = name)).map (·.meaning)

def short? (s : Scope) (c : Char) : Option Meaning :=
  (s.options.find? (·.short = some c)).map (·.meaning)

end Scope

end DurationFormat.Command
