import DurationFormat.Command.Help
import DurationFormat.Command.Setting

/-!
# Reading arguments

Arguments are read from left to right. A value that stands on its own is held until the next
argument that is accepted, or the end, and only then read, so an unknown option or a surplus
argument is reported before a bad value just in front of it. A value attached to its option is
read at once. The name of a command hands the arguments after it to that command, and what the top
level still holds is read after them.
-/

namespace DurationFormat.Command

inductive Halt where
  | misuse (e : UsageError)
  | help (page : HelpPage)
  | version
  deriving DecidableEq

structure Progress where
  settings : List Setting
  /-- The parameter to be read next, with its value once that has been seen. -/
  held : Option (Parameter × Option String)
  /-- What the next arguments without an option stand for. -/
  positions : List Parameter

namespace Progress

def start (s : Scope) : Progress := ⟨[], none, s.positions⟩

def isWaiting (p : Progress) : Bool :=
  match p.held with
  | some (_, none) => true
  | _ => false

def has (p : Progress) (parameter : Parameter) : Bool :=
  p.settings.any (·.parameter = parameter)

def enter (p : Progress) (parameter : Parameter) (value : String) : Except UsageError Progress :=
  if p.has parameter then .error (.repeated parameter)
  else (Setting.read value parameter).map fun x => { p with settings := p.settings ++ [x] }

def settle (p : Progress) : Except UsageError Progress :=
  match p.held with
  | none => .ok p
  | some (parameter, none) => .error (.missingValue parameter)
  | some (parameter, some value) => { p with held := none }.enter parameter value

/-- Reads what is held and then a value that is attached to its option. -/
def attach (p : Progress) (parameter : Parameter) (value : String) : Except Halt Progress :=
  (p.settle.bind (·.enter parameter value)).mapError .misuse

def take (s : Scope) (p : Progress) (meaning : Meaning) : Except Halt Progress :=
  match p.settle with
  | .error e => .error (.misuse e)
  | .ok p =>
    match meaning with
    | .help => .error (.help s.helpPage)
    | .version => .error .version
    | .set parameter =>
      if parameter.takesValue then .ok { p with held := some (parameter, none) }
      else (p.enter parameter "").mapError .misuse

/-- Takes an option by its long name, given without the dashes. -/
def takeLong (s : Scope) (p : Progress) (body : List Char) : Except Halt Progress :=
  let name := String.ofList (body.takeWhile (· ≠ '='))
  let value? :=
    match body.dropWhile (· ≠ '=') with
    | [] => none
    | _ :: value => some (String.ofList value)
  match s.long? name, value? with
  | none, _ => .error (.misuse (.unexpectedArgument ("--" ++ name)))
  | some meaning, none => p.take s meaning
  | some (.set parameter), some value =>
    if parameter.takesValue then p.attach parameter value
    else .error (.misuse (.unexpectedValue value ("--" ++ name)))
  | some _, some value => .error (.misuse (.unexpectedValue value ("--" ++ name)))

/-- Takes options by their letters. What follows the letter of an option with a value is that
value, with or without an equals sign. -/
def takeShort (s : Scope) (p : Progress) : List Char → Except Halt Progress
  | [] => .ok p
  | c :: rest =>
    match s.short? c with
    | none => .error (.misuse (.unexpectedArgument (String.ofList ['-', c])))
    | some meaning =>
      match meaning, rest with
      | .set parameter, d :: value =>
        if parameter.takesValue then
          p.attach parameter (String.ofList (if d = '=' then value else rest))
        else (p.take s meaning).bind fun p => p.takeShort s rest
      | _, _ => (p.take s meaning).bind fun p => p.takeShort s rest

def surplus (s : Scope) (literal : Bool) (argument : String) : UsageError :=
  match s with
  | .verb _ => .unexpectedArgument argument
  | .top =>
    if literal && (argument = "help" || Verb.all.any (·.name = argument)) then
      .unexpectedArgument argument
    else .unrecognizedVerb argument

/-- Takes an argument that is no option. After `--` it is not the value of an option either. -/
def takePlain (s : Scope) (p : Progress) (literal : Bool) (argument : String) :
    Except Halt Progress :=
  match p.held, literal with
  | some (parameter, none), false => .ok { p with held := some (parameter, some argument) }
  | _, _ =>
    match p.positions with
    | [] => .error (.misuse (surplus s literal argument))
    | parameter :: positions =>
      match p.settle with
      | .error e => .error (.misuse e)
      | .ok p => .ok { p with held := some (parameter, some argument), positions }

/-- Whether a numeral without its sign is meant: digits, which may have a point behind the first
of them and an exponent that is not empty. -/
def isUnsigned (cs : List Char) : Bool :=
  let exponent := cs.dropWhile (· ≠ 'e')
  let mantissa := cs.takeWhile (· ≠ 'e')
  (mantissa.filter (· ≠ '.')).all Char.isDigit && mantissa.count '.' ≤ 1 &&
    mantissa.head? ≠ some '.' &&
    (exponent = [] || (mantissa ≠ [] && exponent ≠ ['e'] && (exponent.drop 1).all Char.isDigit))

/-- Whether letters after a dash are a negative number that has a place. -/
def expectsNegative (p : Progress) (letters : List Char) : Bool :=
  p.positions.head?.any Parameter.allowsNegative && isUnsigned letters

def takeArgument (s : Scope) (p : Progress) (argument : String) : Except Halt Progress :=
  match argument.toList with
  | '-' :: '-' :: body => p.takeLong s body
  | '-' :: c :: letters =>
    if p.expectsNegative (c :: letters) then p.takePlain s false argument
    else p.takeShort s (c :: letters)
  | _ => p.takePlain s false argument

end Progress

/-- The page that `help` shows for names of commands after it. -/
def helpFor : List String → Halt
  | [] => .help .top
  | name :: rest =>
    match Verb.all.find? (·.name = name), rest with
    | some v, [] => .help (.verb v)
    | none, [] => if name = "help" then .help .help else .misuse (.unrecognizedVerb name)
    | none, next :: _ => .misuse (.unrecognizedVerb (if name = "help" then next else name))
    | some _, next :: _ => .misuse (.unrecognizedVerb next)

abbrev Handover := Verb × List String

/-- Reads arguments up to a command's name or the end. After `--`, which `literal` records, no
argument is an option or a command's name. -/
def readArguments (s : Scope) (p : Progress) (literal : Bool) :
    List String → Except Halt (Progress × Option Handover)
  | [] => .ok (p, none)
  | argument :: rest =>
    if literal then
      (p.takePlain s true argument).bind fun p => readArguments s p true rest
    else
      let verb? := if s = .top && !p.isWaiting then Verb.all.find? (·.name = argument) else none
      match verb? with
      | some v => .ok (p, some (v, rest))
      | none =>
        if s = .top && !p.isWaiting && argument = "help" then .error (helpFor rest)
        else if argument = "--" then readArguments s p true rest
        else (p.takeArgument s argument).bind fun p => readArguments s p false rest

/-- The command that settings make up. Two ways to give a format string exclude each other. -/
def ofSettings (v : Verb) (settings : List Setting) : Except UsageError Command :=
  match v with
  | .format =>
    match settings.filter fun x => x.parameter = .format ∨ x.parameter = .templateFile with
    | first :: second :: _ => .error (.conflict first.parameter second.parameter)
    | _ =>
      match settings.findSome? Setting.millis? with
      | none => .error (.missingParameter .millis)
      | some millis =>
        .ok (.format millis (settings.findSome? Setting.format?)
          (settings.findSome? Setting.templateFile?))
  | .split =>
    match settings.findSome? Setting.millis? with
    | none => .error (.missingParameter .millis)
    | some millis =>
      .ok (.split millis ((settings.findSome? Setting.parts?).getD default)
        (settings.contains .strings))
  | .explain =>
    match settings.findSome? Setting.subject? with
    | none => .error (.missingParameter .subject)
    | some text => .ok (.explain text)

def readVerb (v : Verb) (arguments : List String) : Except Halt (Command × List Setting) :=
  match readArguments (.verb v) (.start (.verb v)) false arguments with
  | .error halt => .error halt
  | .ok (p, _) =>
    (p.settle.bind fun p => (ofSettings v p.settings).map fun c => (c, p.settings)).mapError
      .misuse

/-- Reads a whole command line. Without a command, help is shown. The output mode may be given
before the command's name or after it, and the latter counts. -/
def readInvocation (arguments : List String) : Except Halt Invocation :=
  match readArguments .top (.start .top) false arguments with
  | .error halt => .error halt
  | .ok (top, none) =>
    match top.settle with
    | .error e => .error (.misuse e)
    | .ok _ => .error (.help .top)
  | .ok (top, some (v, rest)) =>
    match readVerb v rest with
    | .error halt => .error halt
    | .ok (command, own) =>
      match top.settle with
      | .error e => .error (.misuse e)
      | .ok top =>
        .ok ⟨command, ((own ++ top.settings).findSome? Setting.output?).getD .text⟩

end DurationFormat.Command
