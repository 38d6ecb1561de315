import DurationFormat.Text.DefaultIgnorable
import DurationFormat.Text.GraphemeExtend
import DurationFormat.Text.Unprintable

/-!
# Quoted text

Text in double quotes on one line. Six characters have an escape of their own. Every other
character is written raw or by its code point in hexadecimal; which are raw is a parameter, since
quoted text can be read back for any choice.
-/

namespace DurationFormat.Text

/-- The sound marks of halfwidth letters. They join the letter before them, but take a place of
their own. -/
def halfwidthSoundMarks : CharSet := [(0xFF9E, 0xFF9F)]

def isVisible (c : Char) : Bool :=
  !unprintable.contains c && !defaultIgnorable.contains c &&
    (!graphemeExtend.contains c || halfwidthSoundMarks.contains c)

def quotedChar (raw : Char → Bool) (c : Char) : List Char :=
  if c = '\x00' then ['\\', '0']
  else if c = '\t' then ['\\', 't']
  else if c = '\r' then ['\\', 'r']
  else if c = '\n' then ['\\', 'n']
  else if c = '"' then ['\\', '"']
  else if c = '\\' then ['\\', '\\']
  else if raw c then [c]
  else '\\' :: 'u' :: '\x7b' :: Nat.toDigits 16 c.toNat ++ ['\x7d']

def quoted (raw : Char → Bool) (text : String) : String :=
  String.ofList ('"' :: text.toList.flatMap (quotedChar raw) ++ ['"'])

end DurationFormat.Text
