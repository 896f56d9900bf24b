import Benchtop.Text.Digits
import Benchtop.Text.GraphemeExtend
import Benchtop.Text.Unprintable

/-!
# Quoted text

How a diagnostic shows a text that came from a device: in double quotes, with the quote and the
backslash escaped, line ends, tabs and NUL by their letters, and every character by its number that
would not be seen or would run into the one before.
-/

namespace Benchtop.Text

/-- The digits of `n` in base 16, lower case, without leading zeros. -/
def hexNumber (n : Nat) : List Char := Nat.toDigits 16 n

/-- A character by its number. -/
def numbered (c : Char) : List Char :=
  ['\\', 'u', '\x7b'] ++ hexNumber c.toNat ++ ['\x7d']

/-- The halfwidth sound marks of kana. They have the property Grapheme_Extend, yet stand in a place
of their own. -/
def isHalfwidthSoundMark (c : Char) : Bool := c.toNat == 0xFF9E || c.toNat == 0xFF9F

/-- A character that would run into the one before it. -/
def isCombining (c : Char) : Bool := isGraphemeExtend c && !isHalfwidthSoundMark c

/-- How a character is written between the quotes. -/
def quotedChar (c : Char) : List Char :=
  if c = '"' then ['\\', '"']
  else if c = '\\' then ['\\', '\\']
  else if c = '\n' then ['\\', 'n']
  else if c = '\r' then ['\\', 'r']
  else if c = '\t' then ['\\', 't']
  else if c = Char.ofNat 0 then ['\\', '0']
  else if isCombining c || isUnprintable c then numbered c
  else [c]

/-- A text in quotes. -/
def quoted (text : List Char) : String :=
  String.ofList (['"'] ++ text.flatMap quotedChar ++ ['"'])

end Benchtop.Text
