import DurationFormat.Numeral

/-!
# JSON text

Values and how they are written. Objects are lists of fields and are written in their order. A
layout says what goes between the tokens: nothing, or line breaks with two blanks for each level.
In strings, quotes, backslashes and control characters below the blank are escaped, and nothing
else is.
-/

namespace DurationFormat

inductive Json where
  | null
  | int (n : Int)
  | str (text : String)
  | arr (items : List Json)
  | obj (fields : List (String × Json))

namespace Json

structure Layout where
  /-- Goes before each item, and at the outer depth before a closing bracket. -/
  lineBreak : (depth : Nat) → List Char
  colon : List Char

def Layout.compact : Layout where
  lineBreak _ := []
  colon := [':']

def Layout.pretty : Layout where
  lineBreak depth := '\n' :: List.replicate (2 * depth) ' '
  colon := [':', ' ']

def hexPair (n : Nat) : List Char := (Nat.toDigits 16 n).leftpad 2 '0'

def escapedChar (c : Char) : List Char :=
  if c = '"' then ['\\', '"']
  else if c = '\\' then ['\\', '\\']
  else if c = '\x08' then ['\\', 'b']
  else if c = '\t' then ['\\', 't']
  else if c = '\n' then ['\\', 'n']
  else if c = '\x0c' then ['\\', 'f']
  else if c = '\r' then ['\\', 'r']
  else if c.toNat < 0x20 then ['\\', 'u', '0', '0'] ++ hexPair c.toNat
  else [c]

def writeString (text : String) : List Char :=
  '"' :: text.toList.flatMap escapedChar ++ ['"']

mutual

/-- Writes a value that stands inside `depth` others. -/
def write (l : Layout) (depth : Nat) : Json → List Char
  | .null => ['n', 'u', 'l', 'l']
  | .int n => (Numeral.signed n).toList
  | .str text => writeString text
  | .arr [] => ['[', ']']
  | .arr (x :: xs) =>
    '[' :: l.lineBreak (depth + 1) ++ write l (depth + 1) x ++ writeItems l (depth + 1) xs ++
      l.lineBreak depth ++ [']']
  | .obj [] => ['\x7b', '\x7d']
  | .obj ((key, x) :: fields) =>
    '\x7b' :: l.lineBreak (depth + 1) ++ writeString key ++ l.colon ++ write l (depth + 1) x ++
      writeFields l (depth + 1) fields ++ l.lineBreak depth ++ ['\x7d']

/-- Items after the first. -/
def writeItems (l : Layout) (depth : Nat) : List Json → List Char
  | [] => []
  | x :: xs => ',' :: l.lineBreak depth ++ write l depth x ++ writeItems l depth xs

/-- Fields after the first. -/
def writeFields (l : Layout) (depth : Nat) : List (String × Json) → List Char
  | [] => []
  | (key, x) :: fields =>
    ',' :: l.lineBreak depth ++ writeString key ++ l.colon ++ write l depth x ++
      writeFields l depth fields

end

def compact (x : Json) : String := String.ofList (x.write .compact 0)

def pretty (x : Json) : String := String.ofList (x.write .pretty 0)

end Json

end DurationFormat
