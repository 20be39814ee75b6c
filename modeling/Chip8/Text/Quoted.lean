import Chip8.Text.Numeral
import Chip8.Text.Unprintable
import Chip8.Text.Extending

/-!
# Quoted texts

A text inside a record is written between quotation marks, so that its ends and every character
of it can be told.  Five characters have a letter of their own behind a backslash, and every
character that would not be seen, or would attach to its neighbour, is written by its number in
braces.  An apostrophe stands for itself.

## What is here

* `escape c` — how one character is written.
* `quoted s` — the whole text between quotation marks.
-/

set_option autoImplicit false

namespace Chip8.Text

/-- How one character is written inside quotation marks. -/
def escape (c : Char) : List Char :=
  if c = '\x00' then ['\\', '0']
  else if c = '\t' then ['\\', 't']
  else if c = '\r' then ['\\', 'r']
  else if c = '\n' then ['\\', 'n']
  else if c = '\\' then ['\\', '\\']
  else if c = '"' then ['\\', '"']
  else if isExtending c || isUnprintable c then
    ['\\', 'u', '\x7b'] ++ Nat.toDigits 16 c.toNat ++ ['\x7d']
  else [c]

/-- The text `s` between quotation marks. -/
def quoted (s : String) : String :=
  String.ofList ('"' :: s.toList.flatMap escape ++ ['"'])

end Chip8.Text
