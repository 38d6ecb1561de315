/-!
# Files

Reading a file gives its bytes or says why it cannot be read. Text is bytes in UTF-8. A path is text
too, so one that is not UTF-8, as a system may have them, cannot be given.
-/

namespace DurationFormat

inductive ReadFailure where
  | notFound
  | notADirectory
  | isADirectory
  | nameTooLong
  | nulInPath
  /-- The bytes were read but are not UTF-8. -/
  | notText
  /-- Any other refusal, in the words of the system. -/
  | refused (reason : String)
  deriving DecidableEq

def ReadFailure.message : ReadFailure → String
  | .notFound => "No such file or directory (os error 2)"
  | .notADirectory => "Not a directory (os error 20)"
  | .isADirectory => "Is a directory (os error 21)"
  | .nameTooLong => "File name too long (os error 36)"
  | .nulInPath => "file name contained an unexpected NUL byte"
  | .notText => "stream did not contain valid UTF-8"
  | .refused reason => reason

abbrev FileReader := (path : String) → Except ReadFailure ByteArray

def FileReader.text (files : FileReader) (path : String) : Except ReadFailure String := do
  match String.fromUTF8? (← files path) with
  | some text => pure text
  | none => throw .notText

end DurationFormat
