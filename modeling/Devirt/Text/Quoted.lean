import Devirt.Numeric.Hex
import Devirt.Text.DefaultIgnorable
import Devirt.Text.GraphemeExtend
import Devirt.Text.NonGraphic

/-!
# Quoted Text

String constants are shown between double quotes. Five characters have a short escape besides the
quote itself, characters that would not be visible on their own are written by number, and all
others stand for themselves.
-/

namespace Devirt.Text

/-- The two halfwidth katakana sound marks. They extend the letter before them, but they are letters
themselves and take a column of their own. -/
def isHalfwidthSoundMark (c : Char) : Bool :=
  c == '\uff9e' || c == '\uff9f'

/-- Does the character merge with the one before it, so that it has no place of its own? -/
def isCombining (c : Char) : Bool :=
  isGraphemeExtend c && !isHalfwidthSoundMark c

/-- Is the character visible on its own? Every ASCII character from the space to the tilde is. -/
def isVisible (c : Char) : Bool :=
  if ' ' ≤ c ∧ c ≤ '~' then true
  else !isNonGraphic c && !isDefaultIgnorable c && !isCombining c

/-- The form of a character between quotes. -/
def quoteChar (c : Char) : List Char :=
  match c with
  | '\x00' => ['\\', '0']
  | '\t' => ['\\', 't']
  | '\r' => ['\\', 'r']
  | '\n' => ['\\', 'n']
  | '"' => ['\\', '"']
  | '\\' => ['\\', '\\']
  | c =>
    if isVisible c then [c]
    else ['\\', 'u', '\x7b'] ++ (Numeric.hex c.toNat).toList ++ ['\x7d']

/-- The text between double quotes. -/
def quoted (s : String) : String :=
  String.ofList ('"' :: s.toList.flatMap quoteChar ++ ['"'])

end Devirt.Text
