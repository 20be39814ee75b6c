import Chip8.Text.Rows
import Chip8.Text.Record
import Chip8.Screen.Basic

/-!
# The screen as text

A line of text shows two rows of pixels: every character stands for a pixel and the one below it,
and is a full block, an upper or lower half block, or a space.  Where a stored screen ends inside a
pair of rows, the line has only the columns for which there are both pixels.

## What is here

* `Screen.text` — the lines.
* `Screen.inspect` — the pixels as a one-line record.
-/

set_option autoImplicit false

namespace Chip8.Screen

open Text

/-- The character for a pixel and the one below it. -/
def blockChar (upper lower : Bool) : Char :=
  match upper, lower with
  | true, true => '█'
  | true, false => '▀'
  | false, true => '▄'
  | false, false => ' '

/-- The characters of two rows of pixels given one after the other. -/
def blockLine (pair : List Bool) : List Char :=
  List.zipWith blockChar (pair.take width) (pair.drop width)

/-- The screen, two rows of pixels to a line. -/
def text (s : Screen) : String :=
  String.ofList ((rows (2 * width) s.pixels.toList).flatMap fun pair => blockLine pair ++ ['\n'])

/-- The pixels as a one-line record. -/
def inspect (s : Screen) : String :=
  record "Screen" [("pixels", sequence (s.pixels.toList.map truth))]

end Chip8.Screen
