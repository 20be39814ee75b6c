import Chip8.Instruction.Assembly
import Chip8.Snapshot.Flags
import Chip8.Memory.Hexdump
import Chip8.Screen.HalfBlocks
import Chip8.Machine.Console
import Chip8.Snapshot.Machine
import Chip8.CommandLine.Lister
import Chip8.CommandLine.Runner
import Chip8.Main
import Chip8.Proofs.Instruction.Words
import Chip8.Proofs.Instruction.Patterns
import Chip8.Proofs.Text.Digits
import Chip8.Proofs.Text.Columns
import Chip8.Proofs.Instruction.Spelling
import Chip8.Proofs.Machine.Transition
import Chip8.Proofs.Machine.Faults
import Chip8.Proofs.Machine.Drawing
import Chip8.Proofs.Machine.Bounded
import Chip8.Proofs.Machine.Guarded
import Chip8.Proofs.Machine.Subroutines
import Chip8.Proofs.Machine.Iteration
import Chip8.Proofs.Machine.Keys
import Chip8.Proofs.Machine.KeyWait
import Chip8.Proofs.Machine.Stuck
import Chip8.Proofs.Machine.Writes
import Chip8.Proofs.Machine.Setting
import Chip8.Proofs.Machine.Independence
import Chip8.Proofs.Machine.Commuting
import Chip8.Proofs.Machine.Fresh
import Chip8.Proofs.Machine.Overlay
import Chip8.Proofs.Machine.Timers
import Chip8.Proofs.Machine.Arithmetic
import Chip8.Proofs.Machine.Locality
import Chip8.Proofs.Machine.Skips
import Chip8.Proofs.Machine.Transfer
import Chip8.Proofs.Machine.Glyphs
import Chip8.Proofs.Machine.KeyNews
import Chip8.Proofs.Machine.Log
import Chip8.Proofs.Machine.Listing
import Chip8.Proofs.Machine.Lit
import Chip8.Proofs.Memory.Hexdump
import Chip8.Proofs.Memory.Ranges
import Chip8.Proofs.Screen.HalfBlocks
import Chip8.Proofs.Json.Objects
import Chip8.Proofs.Snapshot.RoundTrip
import Chip8.Proofs.CommandLine.Listing
import Chip8.Proofs.CommandLine.Frames
