import DurationFormat.Files
import DurationFormat.Template.Render

/-!
# Where a format string comes from

The first of these that is there decides: an argument, a template file, the environment, the
default. Only a template file can fail, and then nothing later takes its place. A template file
ends in at most one line ending that is not part of the format string.
-/

namespace DurationFormat

inductive Origin where
  | argument
  | file
  | env
  | default
  deriving DecidableEq

def Origin.name : Origin → String
  | .argument => "argument"
  | .file => "file"
  | .env => "env"
  | .default => "default"

/-- As `Origin.name`, with a capital. -/
def Origin.title : Origin → String
  | .argument => "Argument"
  | .file => "File"
  | .env => "Env"
  | .default => "Default"

structure TemplateFileError where
  path : String
  failure : ReadFailure
  deriving DecidableEq

def TemplateFileError.message (e : TemplateFileError) : String :=
  "failed to read template file " ++ e.path ++ ": " ++ e.failure.message

/-- Drops a line feed at the end, and with it a carriage return before it. -/
def dropLineEnding (text : String) : String :=
  match text.toList.reverse with
  | '\n' :: '\r' :: rest => String.ofList rest.reverse
  | '\n' :: rest => String.ofList rest.reverse
  | _ => text

def readTemplateFile (files : FileReader) (path : String) : Except TemplateFileError String :=
  match files.text path with
  | .ok text => .ok (dropLineEnding text)
  | .error failure => .error ⟨path, failure⟩

structure FormatChoice where
  format : String
  origin : Origin
  deriving DecidableEq

def chooseFormat (files : FileReader) (argument path env : Option String) :
    Except TemplateFileError FormatChoice :=
  match argument, path, env with
  | some format, _, _ => .ok ⟨format, .argument⟩
  | none, some path, _ => (readTemplateFile files path).map (⟨·, .file⟩)
  | none, none, some format => .ok ⟨format, .env⟩
  | none, none, none => .ok ⟨defaultFormat, .default⟩

end DurationFormat
