import Chip8.Text.Record
import Chip8.Text.Quoted
import Chip8.Text.Numeral

/-!
# Faults of files

A program that asks the system for a file may be told why it cannot have it.

## What is here

* `FileFault` — why a file could not be read: the system's number of the fault, its kind and its
  description, with the faults that a program meets.
* `FileFault.inspect` — the fault as a one-line record.
-/

set_option autoImplicit false

namespace Chip8.CommandLine

open Text

/-- Why a file could not be read. -/
structure FileFault where
  /-- The number of the system's error. -/
  code : Nat
  /-- Its kind. -/
  kind : String
  /-- Its description. -/
  description : String
  deriving DecidableEq, Repr

namespace FileFault

/-- There is no such file. -/
def notFound : FileFault := ⟨2, "NotFound", "No such file or directory"⟩

/-- The file may not be read. -/
def denied : FileFault := ⟨13, "PermissionDenied", "Permission denied"⟩

/-- A part of the name that should be a directory is none. -/
def notDirectory : FileFault := ⟨20, "NotADirectory", "Not a directory"⟩

/-- The name is that of a directory. -/
def isDirectory : FileFault := ⟨21, "IsADirectory", "Is a directory"⟩

/-- The name, or a part of it, is longer than a name may be. -/
def nameTooLong : FileFault := ⟨36, "InvalidFilename", "File name too long"⟩

/-- The faults above, each with a number of its own. -/
def all : List FileFault := [notFound, denied, notDirectory, isDirectory, nameTooLong]

/-- The fault as a one-line record. -/
def inspect (f : FileFault) : String :=
  wrapped "IoError"
    (record "Os"
      [("code", decimal f.code), ("kind", f.kind), ("message", quoted f.description)])

end FileFault

end Chip8.CommandLine
