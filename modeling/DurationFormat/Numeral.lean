/-!
# Decimal numerals

Writing counts, with or without padding, and reading numerals within bounds. Padding never
shortens a numeral. A reader takes digits from left to right and stops at the first offence, so a
character that is no digit is reported only if the digits before it stayed within the bound.
-/

namespace DurationFormat.Numeral

def plain (n : Nat) : String := String.ofList (Nat.toDigits 10 n)

/-- Zeros are put in front up to the width. -/
def padded (width n : Nat) : String := String.ofList ((Nat.toDigits 10 n).leftpad width '0')

def twoDigits (n : Nat) : String := padded 2 n

def signed : Int → String
  | .ofNat n => plain n
  | .negSucc n => "-" ++ plain (n + 1)

inductive ReadError where
  | empty
  | invalidDigit
  | tooLarge
  | tooSmall
  deriving DecidableEq

def ReadError.message : ReadError → String
  | .empty => "cannot parse integer from empty string"
  | .invalidDigit => "invalid digit found in string"
  | .tooLarge => "number too large to fit in target type"
  | .tooSmall => "number too small to fit in target type"

def digitValue (c : Char) : Nat := c.toNat - '0'.toNat

/-- Reads digits on top of a value already read; `excess` is the offence of passing the limit. -/
def readDigits (limit : Nat) (excess : ReadError) : Nat → List Char → Except ReadError Nat
  | value, [] => .ok value
  | value, c :: rest =>
    if c.isDigit then
      let value := 10 * value + digitValue c
      if value ≤ limit then readDigits limit excess value rest else .error excess
    else .error .invalidDigit

def readNat (limit : Nat) : List Char → Except ReadError Nat
  | [] => .error .empty
  | ['+'] => .error .invalidDigit
  | '+' :: ds => readDigits limit .tooLarge 0 ds
  | ds => readDigits limit .tooLarge 0 ds

/-- At least one digit after an optional sign. The limits are those of the digits. -/
def readInt (least greatest : Nat) : List Char → Except ReadError Int
  | ['-'] => .error .invalidDigit
  | '-' :: ds => (readDigits least .tooSmall 0 ds).map fun n => -(n : Int)
  | ds => (readNat greatest ds).map fun n => (n : Int)

def readInt64 (text : String) : Except ReadError Int64 :=
  (readInt 9223372036854775808 9223372036854775807 text.toList).map Int64.ofInt

@[simp] theorem toList_plain (n : Nat) : (plain n).toList = Nat.toDigits 10 n :=
  String.toList_ofList

@[simp] theorem toList_padded (width n : Nat) :
    (padded width n).toList = (Nat.toDigits 10 n).leftpad width '0' :=
  String.toList_ofList

theorem length_padded (width n : Nat) :
    (padded width n).length = max width (plain n).length := by
  simp [padded, plain, List.leftpad]
  omega

end DurationFormat.Numeral
