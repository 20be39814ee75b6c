/-!
# Colours on a terminal

A terminal changes the look of what follows when it reads the escape character, a bracket, a
number and the letter `m`.  A coloured text is put between the sequence that starts a look and the
sequence that ends it.

## What is here

* `Look` — the two display attributes that start and end a look, and the looks in use.
* `styled` — a text in a look.
-/

set_option autoImplicit false

namespace Chip8.Text

/-- The control sequence that selects a display attribute. -/
def selectAttribute (code : String) : String :=
  "\x1b[" ++ code ++ "m"

/-- A look of a text on a terminal: the display attributes that start and end it. -/
structure Look where
  /-- The attribute selected in front of the text. -/
  start : String
  /-- The attribute selected behind the text. -/
  stop : String
  deriving DecidableEq, Repr

namespace Look

/-- Green letters, then the usual colour. -/
def green : Look := ⟨"32", "39"⟩

/-- Yellow letters, then the usual colour. -/
def yellow : Look := ⟨"33", "39"⟩

/-- Dim (bright black) letters, then the usual colour. -/
def dim : Look := ⟨"90", "39"⟩

/-- Red letters, then the usual colour. -/
def red : Look := ⟨"31", "39"⟩

/-- Bold letters, then every attribute at its default. -/
def bold : Look := ⟨"1", "0"⟩

end Look

/-- A text in a look. -/
def styled (look : Look) (s : String) : String :=
  selectAttribute look.start ++ s ++ selectAttribute look.stop

end Chip8.Text
