/-!
# Text for a terminal

A text may hold control sequences, which a terminal obeys and does not show. Here they are dropped,
as is every other control character that does not lay out text.

An escape character starts a sequence, also within another one, and a cancelling character ends it.
Layout within a sequence interrupts it: that character is shown, and so is the text behind it up to
the next control character, from where the sequence goes on. Only ASCII makes up sequences, so a
character beyond ASCII has no effect within one, and as part of an interrupting text it ends the
sequence.
-/

namespace DurationFormat.Text

def isControl (c : Char) : Bool := c.toNat < 0x20 || c.toNat = 0x7F

def isLayout (c : Char) : Bool := c = '\t' || c = '\n' || c = '\x0c' || c = '\r'

def isAscii (c : Char) : Bool := c.toNat < 0x80

def cancels (c : Char) : Bool := c = '\x18' || c = '\x1a'

/-- Strings of a sequence are read byte by byte, and this byte ends most of them. -/
def holdsTerminator (c : Char) : Bool := (String.utf8EncodeChar c).contains 0x9C

/-- What a control sequence waits for. -/
inductive ControlSequence where
  /-- The kind of sequence. -/
  | escape
  /-- The last character of a short sequence. -/
  | short
  /-- The last character of a sequence with parameters. -/
  | parameters
  /-- The parameters of a sequence for a device. -/
  | device
  /-- More parameters of a sequence for a device, or its marks. -/
  | deviceParameters
  /-- More marks of a sequence for a device, or the character that starts its string. -/
  | deviceMarks
  /-- The bell after a command. -/
  | command
  /-- The byte that ends a string. -/
  | string
  deriving DecidableEq

namespace ControlSequence

def showsLayout : ControlSequence → Bool
  | .escape | .short | .parameters => true
  | _ => false

def afterEscape (c : Char) : Option ControlSequence :=
  if c = '[' then some .parameters
  else if c = ']' then some .command
  else if c = 'P' then some .device
  else if c = 'X' || c = '^' || c = '_' then some .string
  else if c.toNat < 0x30 then some .short
  else none

/-- Marks come last and below digits, and only the first parameter may be one of `<=>?`. -/
def afterPrintable (c : Char) : ControlSequence → Option ControlSequence
  | .escape => afterEscape c
  | .short => if c.toNat < 0x30 then some .short else none
  | .parameters => if c.toNat < 0x40 then some .parameters else none
  | .device =>
    if c.toNat < 0x30 then some .deviceMarks
    else if c.toNat < 0x40 then some .deviceParameters
    else some .string
  | .deviceParameters =>
    if c.toNat < 0x30 then some .deviceMarks
    else if c.toNat < 0x3C then some .deviceParameters
    else some .string
  | .deviceMarks => if c.toNat < 0x30 then some .deviceMarks else some .string
  | .command => some .command
  | .string => some .string

/-- What is waited for after a character that neither escapes nor cancels nor interrupts. -/
def after (c : Char) (s : ControlSequence) : Option ControlSequence :=
  match s with
  | .command => if c = '\x07' then none else some .command
  | .string => if holdsTerminator c then none else some .string
  | s => if isControl c || !isAscii c then some s else s.afterPrintable c

end ControlSequence

inductive Place where
  /-- In text that is shown, which may interrupt a sequence. -/
  | shown (interrupted : Option ControlSequence)
  | within (s : ControlSequence)
  deriving DecidableEq

namespace Place

def start : Place := .shown none

def ofSequence? : Option ControlSequence → Place
  | none => .start
  | some s => .within s

def shows (c : Char) : Place → Bool
  | .shown _ => !isControl c || isLayout c
  | .within s => s.showsLayout && isLayout c

def next (c : Char) (p : Place) : Place :=
  if c = '\x1b' then .within .escape
  else if cancels c then .start
  else
    match p with
    | .shown s =>
      if !p.shows c then .ofSequence? s
      else if isAscii c then .shown s
      else .start
    | .within s => if p.shows c then .shown (some s) else .ofSequence? (s.after c)

end Place

def withoutControls (p : Place) : List Char → List Char
  | [] => []
  | c :: cs =>
    if p.shows c then c :: withoutControls (p.next c) cs else withoutControls (p.next c) cs

def plain (text : String) : String := String.ofList (withoutControls .start text.toList)

/-- Text in a style that ends with it. -/
def emphasized (text : String) : String := "\x1b[1m" ++ text ++ "\x1b[0m"

end DurationFormat.Text
