import VolumeService.Text.Invisible

/-! # Quoted text

Text is shown between quotation marks so that it can be told from what stands around it.

* **Named escapes.** A quotation mark, a backslash, NUL, tab, line feed and carriage return are
  written as a backslash and one more character.
* **Numbered escapes.** Any other character that does not show by itself (`isInvisible`) is
  written as its code point in hexadecimal, in lower case and without leading zeros.
* **All else stands for itself,** apostrophes included. -/

namespace VolumeService.Text

/-- The hexadecimal digits of a number, in lower case. -/
def hexDigits (n : Nat) : List Char := Nat.toDigits 16 n

/-- A character as it is written between quotation marks. -/
def escape (c : Char) : List Char :=
  if c = '\x00' then ['\\', '0']
  else if c = '\t' then ['\\', 't']
  else if c = '\n' then ['\\', 'n']
  else if c = '\r' then ['\\', 'r']
  else if c = '"' then ['\\', '"']
  else if c = '\\' then ['\\', '\\']
  else if isInvisible c then ['\\', 'u', '\x7b'] ++ hexDigits c.toNat ++ ['\x7d']
  else [c]

/-- Text between quotation marks. -/
def quoted (text : String) : String :=
  String.ofList ('"' :: (text.toList.flatMap escape ++ ['"']))

end VolumeService.Text
