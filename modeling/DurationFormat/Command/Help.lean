import DurationFormat.Command.Parameter

/-!
# Help pages

A page opens with what the program or command is for and shows how it is called.
-/

namespace DurationFormat.Command

inductive HelpPage where
  | top
  | verb (v : Verb)
  | help
  deriving DecidableEq

namespace HelpPage

def about : HelpPage → String
  | .top => "Split and format millisecond durations"
  | .verb .format => "Render a duration through a format string"
  | .verb .split => "Break a duration into day/hour/minute/second counts"
  | .verb .explain => "Show how a format string is compiled"
  | .help => "Print this message or the help of the given subcommand(s)"

def usage : HelpPage → String
  | .top => "Usage: duratiform [OPTIONS] [COMMAND]"
  | .verb .format => "Usage: duratiform format [OPTIONS] <MILLIS> [FORMAT]"
  | .verb .split => "Usage: duratiform split [OPTIONS] <MILLIS>"
  | .verb .explain => "Usage: duratiform explain [OPTIONS] <FORMAT>"
  | .help => "Usage: duratiform help [COMMAND]..."

def text (p : HelpPage) : String := p.about ++ "\n\n" ++ p.usage ++ "\n"

end HelpPage

def Scope.helpPage : Scope → HelpPage
  | .top => .top
  | .verb v => .verb v

end DurationFormat.Command
