import DurationFormat.Command.Run

/-!
# The program

Takes arguments, variables and files from the system and gives them to `runProgram`. Of log
directives only the names of levels are understood here.
-/

open DurationFormat

/-- The number of an error, which comes with either sign. -/
def errorNumber (code : UInt32) : UInt32 := min code (0 - code)

def readFailure : IO.Error → ReadFailure
  | .noFileOrDirectory _ _ _ => .notFound
  | .inappropriateType _ code _ =>
    if errorNumber code = 21 then .isADirectory else .notADirectory
  | .permissionDenied _ _ _ => .refused "Permission denied (os error 13)"
  | .invalidArgument file code reason =>
    if errorNumber code = 36 then .nameTooLong
    else .refused (toString (IO.Error.invalidArgument file code reason))
  | e => .refused (toString e)

def readBytes (path : String) : IO (Except ReadFailure ByteArray) := do
  try
    return .ok (← IO.FS.readBinFile path)
  catch e => return .error (readFailure e)

/-- Directives other than the name of a level are taken for malformed ones. -/
def levelFilter (directives : String) : Option (Event → Bool) :=
  let level := String.ofList (directives.toList.map Char.toLower)
  if level = "debug" || level = "trace" then some fun _ => true
  else if ["off", "error", "warn", "info"].contains level then some fun _ => false
  else none

def templateFile? (arguments : List String) : Option String :=
  match Command.readInvocation arguments with
  | .ok ⟨.format _ none path, _⟩ => path
  | _ => none

def main (arguments : List String) : IO UInt32 := do
  let content ←
    match templateFile? arguments with
    | some path => readBytes path
    | none => pure (.error .notFound)
  let outcome := runProgram arguments
    { format := ← IO.getEnv "DURATIFORM_FORMAT", log := ← IO.getEnv "DURATIFORM_LOG",
      filter := levelFilter, files := fun _ => content }
  for e in outcome.log do
    IO.eprintln (Event.level ++ " " ++ e.message)
  IO.print outcome.stdout
  IO.eprint outcome.stderr
  return .ofNat outcome.exitCode
