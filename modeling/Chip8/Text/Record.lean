import Chip8.Text.Numeral

/-!
# Values written out as records

The inspection text of a value names its type and its fields on one line: a bare name for a value
without parts, a name with one value in parentheses, or a name with labelled values in braces.  A
record that leaves fields out says so with two dots at its end.

## What is here

* `record`, `openRecord` — labelled values in braces, complete or with the rest left out.
* `wrapped` — one value in parentheses behind a name.
* `sequence` — values in brackets.
* `truth` — the two truth values.
-/

set_option autoImplicit false

namespace Chip8.Text

/-- A truth value in words. -/
def truth (b : Bool) : String :=
  if b then "true" else "false"

/-- A name followed by one value in parentheses. -/
def wrapped (name value : String) : String :=
  name ++ "(" ++ value ++ ")"

/-- Labelled values, separated by commas. -/
def labelled (fields : List (String × String)) : String :=
  ", ".intercalate (fields.map fun f => f.1 ++ ": " ++ f.2)

/-- A name followed by labelled values in braces. -/
def record (name : String) (fields : List (String × String)) : String :=
  name ++ " \x7b " ++ labelled fields ++ " \x7d"

/-- A record of which only some fields are shown. -/
def openRecord (name : String) (fields : List (String × String)) : String :=
  name ++ " \x7b " ++ labelled fields ++ ", .. \x7d"

/-- Values in brackets, separated by commas. -/
def sequence (values : List String) : String :=
  "[" ++ ", ".intercalate values ++ "]"

end Chip8.Text
