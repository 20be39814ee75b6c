import Mathlib.Tactic.IntervalCases
import Chip8.Proofs.Instruction.Words
import Chip8.Proofs.Text.Columns
import Chip8.Proofs.Text.Digits

/-!
# The assembly text of an instruction tells which instruction it is

A line of assembly is a mnemonic and a list of operands.  Several instructions share a mnemonic, and
then their operands are of different sorts, which can be told by how they begin: a register by `v`,
a byte by `#`, an address that stands for a value by `$`, and so on.  So the line can be taken apart
into mnemonic and operands, each of these can be read, and no two instructions agree in all of them.
This does not depend on whether the operands fit into a word.

A sprite's height is written with one digit where a byte is written with two, but a number is read
the same whatever zeros stand in front of it.

## What is here

* `Mnemonic`, `Operand` — what a line is made of; `Operand.read` is the way back from the text of an
  operand.
* `Instruction.mnemonic`, `Instruction.operands` — an instruction taken apart, and
  `Instruction.assembled?`, put together again.
* `Instruction.text_eq` — the text is made of these parts.
* `Instruction.text_inj`, `Instruction.text_ne_inval` — instructions are told apart by their texts,
  and from words that are none.
* `Disassembly.text_determines` — the two together, and what follows for words.
-/

set_option autoImplicit false

namespace Chip8

open Text

/-! ## Mnemonics -/

/-- The mnemonics of the instructions. -/
inductive Mnemonic where
  | cls | ret | jmp | call | se | sne | mov | or | and | xor | add | sub | shr | bsub | shl
  | rand | draw | sek | snek | waitk | font | bcd | dmao | dmai
  deriving DecidableEq

namespace Mnemonic

/-- How a mnemonic is written. -/
def text : Mnemonic → String
  | cls => "cls"
  | ret => "ret"
  | jmp => "jmp"
  | call => "call"
  | se => "se"
  | sne => "sne"
  | mov => "mov"
  | or => "or"
  | and => "and"
  | xor => "xor"
  | add => "add"
  | sub => "sub"
  | shr => "shr"
  | bsub => "bsub"
  | shl => "shl"
  | rand => "rand"
  | draw => "draw"
  | sek => "sek"
  | snek => "snek"
  | waitk => "waitk"
  | font => "font"
  | bcd => "bcd"
  | dmao => "dmao"
  | dmai => "dmai"

/-- The mnemonics in a list. -/
def all : List Mnemonic :=
  [cls, ret, jmp, call, se, sne, mov, or, and, xor, add, sub, shr, bsub, shl, rand, draw, sek, snek,
    waitk, font, bcd, dmao, dmai]

theorem mem_all (m : Mnemonic) : m ∈ all := by
  cases m <;> decide

theorem text_inj {m n : Mnemonic} (h : m.text = n.text) : m = n := by
  have hall : ∀ m ∈ all, ∀ n ∈ all, m.text = n.text → m = n := by decide
  exact hall m m.mem_all n n.mem_all h

theorem blank_notMem_text (m : Mnemonic) : ' ' ∉ m.text.toList := by
  cases m <;> decide

theorem length_text_le (m : Mnemonic) : m.text.toList.length ≤ 7 := by
  cases m <;> decide

theorem not_inval_prefix (m : Mnemonic) : ¬ "inval".toList <+: (padRight 7 m.text).toList := by
  cases m <;> decide

end Mnemonic

/-! ## Operands -/

/-- An operand of an instruction. -/
inductive Operand where
  /-- A register. -/
  | register (x : UInt64)
  /-- A byte or a height. -/
  | literal (b : UInt8)
  /-- An address to go to. -/
  | target (a : UInt16)
  /-- An address that stands for a value. -/
  | value (a : UInt16)
  /-- The sum of an address and a register. -/
  | offset (a : UInt16)
  /-- The delay timer. -/
  | delay
  /-- The sound timer. -/
  | sound
  /-- The index. -/
  | index
  /-- The memory that the index points at. -/
  | pointed

namespace Operand

variable {d width : Nat} {cs : List Char}

/-- How an operand is written, bytes and heights with at least `width` digits. -/
def text (width : Nat) : Operand → String
  | register x => registerText x
  | literal b => "#" ++ hex width b.toNat
  | target a => addressText a
  | value a => "$" ++ addressText a
  | offset a => "$" ++ addressText a ++ "+v0"
  | delay => "DT"
  | sound => "ST"
  | index => "I"
  | pointed => "&I"

/-- The operand that is written like this. -/
def read : List Char → Operand
  | 'v' :: cs => register (.ofNat (hexValue cs))
  | '#' :: cs => literal (.ofNat (hexValue cs))
  | '$' :: cs =>
    let a : UInt16 := .ofNat (hexValue (cs.takeWhile (· ≠ '+')))
    if '+' ∈ cs then offset a else value a
  | 'D' :: _ => delay
  | 'S' :: _ => sound
  | 'I' :: _ => index
  | '&' :: _ => pointed
  | cs => target (.ofNat (hexValue cs))

theorem read_dollar (cs : List Char) :
    read ('$' :: cs) =
      if '+' ∈ cs then offset (.ofNat (hexValue (cs.takeWhile (· ≠ '+'))))
      else value (.ofNat (hexValue (cs.takeWhile (· ≠ '+')))) := rfl

theorem read_digit (h : d < 16) (cs : List Char) :
    read (d.digitChar :: cs) = target (.ofNat (hexValue (d.digitChar :: cs))) := by
  interval_cases d <;> rfl

theorem hexValue_addressText (a : UInt16) : hexValue (addressText a).toList = a.toNat :=
  hexValue_hex 3 a.toNat

theorem ne_of_mem_addressText {a : UInt16} {c : Char} (h : c ∈ (addressText a).toList) :
    c ≠ '+' := by
  obtain ⟨d, -, rfl⟩ := exists_digit_of_mem_hex h
  exact Nat.digitChar_ne '+' (by decide)

theorem takeWhile_addressText (a : UInt16) {cs : List Char} (h : cs.takeWhile (· ≠ '+') = []) :
    ((addressText a).toList ++ cs).takeWhile (· ≠ '+') = (addressText a).toList := by
  rw [List.takeWhile_append_of_pos fun _ hc => decide_eq_true (ne_of_mem_addressText hc), h,
    List.append_nil]

/-- **An operand is read as it was written**, whatever the number of digits. -/
theorem read_text (width : Nat) (o : Operand) : read (o.text width).toList = o := by
  cases o with
  | register x =>
    rw [text, registerText, String.toList_append]
    show register (.ofNat (hexValue (hexUpper x.toNat).toList)) = _
    rw [hexValue_hexUpper, UInt64.ofNat_toNat]
  | literal b =>
    rw [text, String.toList_append]
    show literal (.ofNat (hexValue (hex width b.toNat).toList)) = _
    rw [hexValue_hex, UInt8.ofNat_toNat]
  | target a =>
    obtain ⟨c, cs, hcs⟩ := List.exists_cons_of_ne_nil (toList_hex_ne_nil 3 a.toNat)
    obtain ⟨d, hd, rfl⟩ := exists_digit_of_mem_hex (hcs ▸ List.mem_cons_self)
    rw [text, addressText, hcs, read_digit hd, ← hcs, hexValue_hex, UInt16.ofNat_toNat]
  | value a =>
    have hplus : '+' ∉ (addressText a).toList := fun h => ne_of_mem_addressText h rfl
    rw [text, String.toList_append, show "$".toList = ['$'] from rfl, List.singleton_append,
      read_dollar, if_neg hplus, ← List.append_nil (addressText a).toList,
      takeWhile_addressText a rfl,
      hexValue_addressText, UInt16.ofNat_toNat]
  | offset a =>
    have hplus : '+' ∈ (addressText a).toList ++ "+v0".toList :=
      List.mem_append_right _ (by decide)
    rw [text, String.append_assoc, String.toList_append, String.toList_append,
      show "$".toList = ['$'] from rfl, List.singleton_append, read_dollar, if_pos hplus,
      takeWhile_addressText a (by decide), hexValue_addressText, UInt16.ofNat_toNat]
  | delay => rw [text]; rfl
  | sound => rw [text]; rfl
  | index => rw [text]; rfl
  | pointed => rw [text]; rfl

theorem listable_text (width : Nat) (o : Operand) : Listable (o.text width) := by
  have haddress : ∀ a : UInt16, Listable ("$" ++ addressText a) := fun a =>
    Listable.append (by decide) (comma_notMem_hex 3 a.toNat)
  cases o with
  | register x => exact Listable.append (by decide) (comma_notMem_hexUpper x.toNat)
  | literal b => exact Listable.append (by decide) (comma_notMem_hex width b.toNat)
  | target a =>
    exact ⟨fun h => toList_hex_ne_nil 3 a.toNat (String.toList_eq_nil_iff.2 h),
      comma_notMem_hex 3 a.toNat⟩
  | value a => exact haddress a
  | offset a => exact (haddress a).append (by decide)
  | delay => rw [text]; decide
  | sound => rw [text]; decide
  | index => rw [text]; decide
  | pointed => rw [text]; decide

/-- Lists of operands are told apart by their texts. -/
theorem map_text_inj {os os' : List Operand} {width width' : Nat}
    (h : os.map (text width) = os'.map (text width')) : os = os' := by
  have hread := congrArg (List.map (read ·.toList)) h
  simpa only [List.map_map, Function.comp_def, read_text, List.map_id'] using hread

end Operand

/-! ## Instructions in parts -/

/-- The mnemonic of an operation on two registers. -/
def AluOp.named : AluOp → Mnemonic
  | .copy => .mov
  | .or => .or
  | .and => .and
  | .xor => .xor
  | .add => .add
  | .sub => .sub
  | .shiftRight => .shr
  | .subFrom => .bsub
  | .shiftLeft => .shl

namespace Instruction

variable {i j : Instruction}

/-- The mnemonic of an instruction. -/
def mnemonic : Instruction → Mnemonic
  | .system .clearScreen => .cls
  | .system .ret => .ret
  | .jump _ | .jumpOffset _ => .jmp
  | .call _ => .call
  | .skipEqByte _ _ | .skipEq _ _ => .se
  | .skipNeByte _ _ | .skipNe _ _ => .sne
  | .setByte _ _ | .setIndex _ | .misc .readDelay _ | .misc .setDelay _ | .misc .setSound _ => .mov
  | .addByte _ _ | .misc .addIndex _ => .add
  | .alu op _ _ => op.named
  | .random _ _ => .rand
  | .draw _ _ _ => .draw
  | .key .skipHeld _ => .sek
  | .key .skipFree _ => .snek
  | .misc .waitKey _ => .waitk
  | .misc .glyph _ => .font
  | .misc .digits _ => .bcd
  | .misc .store _ => .dmao
  | .misc .load _ => .dmai

/-- The operands of an instruction in the order in which they are written. -/
def operands : Instruction → List Operand
  | .system _ => []
  | .jump a | .call a => [.target a]
  | .skipEqByte x b | .skipNeByte x b | .setByte x b | .addByte x b | .random x b =>
    [.literal b, .register x]
  | .skipEq x y | .skipNe x y | .alu _ x y => [.register y, .register x]
  | .setIndex a => [.value a, .index]
  | .jumpOffset a => [.offset a]
  | .draw x y n => [.literal n, .register x, .register y]
  | .key _ x | .misc .waitKey x | .misc .store x | .misc .load x => [.register x]
  | .misc .readDelay x => [.delay, .register x]
  | .misc .setDelay x => [.register x, .delay]
  | .misc .setSound x => [.register x, .sound]
  | .misc .addIndex x | .misc .glyph x => [.register x, .index]
  | .misc .digits x => [.register x, .pointed]

/-- The least number of digits of a literal: one for a height, two for a byte. -/
def literalWidth : Instruction → Nat
  | .draw _ _ _ => 1
  | _ => 2

/-- The instruction with this mnemonic and these operands. -/
def assembled? : Mnemonic → List Operand → Option Instruction
  | .cls, [] => some (.system .clearScreen)
  | .ret, [] => some (.system .ret)
  | .jmp, [.target a] => some (.jump a)
  | .jmp, [.offset a] => some (.jumpOffset a)
  | .call, [.target a] => some (.call a)
  | .se, [.literal b, .register x] => some (.skipEqByte x b)
  | .se, [.register y, .register x] => some (.skipEq x y)
  | .sne, [.literal b, .register x] => some (.skipNeByte x b)
  | .sne, [.register y, .register x] => some (.skipNe x y)
  | .mov, [.literal b, .register x] => some (.setByte x b)
  | .mov, [.register y, .register x] => some (.alu .copy x y)
  | .mov, [.value a, .index] => some (.setIndex a)
  | .mov, [.delay, .register x] => some (.misc .readDelay x)
  | .mov, [.register x, .delay] => some (.misc .setDelay x)
  | .mov, [.register x, .sound] => some (.misc .setSound x)
  | .add, [.literal b, .register x] => some (.addByte x b)
  | .add, [.register y, .register x] => some (.alu .add x y)
  | .add, [.register x, .index] => some (.misc .addIndex x)
  | .or, [.register y, .register x] => some (.alu .or x y)
  | .and, [.register y, .register x] => some (.alu .and x y)
  | .xor, [.register y, .register x] => some (.alu .xor x y)
  | .sub, [.register y, .register x] => some (.alu .sub x y)
  | .shr, [.register y, .register x] => some (.alu .shiftRight x y)
  | .bsub, [.register y, .register x] => some (.alu .subFrom x y)
  | .shl, [.register y, .register x] => some (.alu .shiftLeft x y)
  | .rand, [.literal b, .register x] => some (.random x b)
  | .draw, [.literal n, .register x, .register y] => some (.draw x y n)
  | .sek, [.register x] => some (.key .skipHeld x)
  | .snek, [.register x] => some (.key .skipFree x)
  | .waitk, [.register x] => some (.misc .waitKey x)
  | .font, [.register x, .index] => some (.misc .glyph x)
  | .bcd, [.register x, .pointed] => some (.misc .digits x)
  | .dmao, [.register x] => some (.misc .store x)
  | .dmai, [.register x] => some (.misc .load x)
  | _, _ => none

/-- **An instruction is known from its mnemonic and its operands.** -/
theorem assembled?_mnemonic_operands (i : Instruction) :
    assembled? i.mnemonic i.operands = some i := by
  cases i with
  | system op | alu op | key op | misc op => cases op <;> rfl
  | jump | call | skipEqByte | skipNeByte | skipEq | setByte | addByte | skipNe | setIndex
  | jumpOffset | random | draw => rfl

/-- The text of an instruction is made of its mnemonic and its operands. -/
theorem text_eq (i : Instruction) :
    i.text = assembly i.mnemonic.text (i.operands.map (Operand.text i.literalWidth)) := by
  cases i with
  | system op | alu op | key op | misc op => cases op <;> rfl
  | jump | call | skipEqByte | skipNeByte | skipEq | setByte | addByte | skipNe | setIndex
  | jumpOffset | random | draw => rfl

/-! ## Lines -/

/-- A line of assembly falls into its column of seven characters and the list behind it. -/
theorem assembly_inj {m n : Mnemonic} {items items' : List String}
    (h : ∀ s ∈ items, Listable s) (h' : ∀ s ∈ items', Listable s)
    (heq : assembly m.text items = assembly n.text items') : m = n ∧ items = items' := by
  rw [assembly, assembly, ← String.toList_inj, String.toList_append, String.toList_append] at heq
  obtain ⟨hcolumn, hlist⟩ := List.append_inj heq
    ((length_padRight m.length_text_le).trans (length_padRight n.length_text_le).symm)
  exact ⟨Mnemonic.text_inj (padRight_inj m.blank_notMem_text n.blank_notMem_text
    (String.toList_inj.1 hcolumn)), intercalate_inj h h' (String.toList_inj.1 hlist)⟩

theorem listable_of_mem_map {os : List Operand} {width : Nat} :
    ∀ s ∈ os.map (Operand.text width), Listable s :=
  List.forall_mem_map.2 fun o _ => o.listable_text width

/-- **Instructions are told apart by their texts.** -/
theorem text_inj (h : i.text = j.text) : i = j := by
  rw [text_eq, text_eq] at h
  obtain ⟨hmnemonic, htexts⟩ := assembly_inj listable_of_mem_map listable_of_mem_map h
  have hoperands := Operand.map_text_inj htexts
  have hi := assembled?_mnemonic_operands i
  rw [hmnemonic, hoperands, assembled?_mnemonic_operands j] at hi
  exact (Option.some_inj.1 hi).symm

/-- **No instruction is written like a word that is none.** -/
theorem text_ne_inval (i : Instruction) (rest : String) : i.text ≠ "inval" ++ rest := by
  intro heq
  have hlist := congrArg String.toList heq
  rw [text_eq, assembly, String.toList_append, String.toList_append] at hlist
  have hprefix : "inval".toList <+: (padRight 7 i.mnemonic.text).toList ++ _ :=
    ⟨rest.toList, hlist.symm⟩
  have hlength : "inval".toList.length ≤ (padRight 7 i.mnemonic.text).toList.length :=
    (show "inval".toList.length ≤ 7 by decide).trans_eq
      (length_padRight i.mnemonic.length_text_le).symm
  exact i.mnemonic.not_inval_prefix
    (List.prefix_of_prefix_length_le hprefix (List.prefix_append _ _) hlength)

end Instruction

/-! ## Words -/

namespace Disassembly

theorem invalidText_eq (w : UInt16) : invalidText w = "inval" ++ ("  " ++ hex 4 w.toNat) := by
  rw [invalidText, assembly, String.intercalate_singleton, ← String.append_assoc]
  rfl

theorem invalidText_inj {w w' : UInt16} (h : invalidText w = invalidText w') : w = w' := by
  rw [invalidText_eq, invalidText_eq, String.append_right_inj, String.append_right_inj] at h
  have hvalue := congrArg (fun s => hexValue s.toList) h
  simpa only [hexValue_hex, UInt16.toNat_inj] using hvalue

/-- Words are told apart by how they are listed. -/
theorem once_plain_inj {w w' : UInt16} (h : plain.once w = plain.once w') : w = w' := by
  rw [once, once] at h
  cases hw : Instruction.decode? w with
  | none =>
    cases hw' : Instruction.decode? w' with
    | none =>
      rw [hw, hw'] at h
      exact invalidText_inj h
    | some j =>
      rw [hw, hw'] at h
      exact absurd (h.symm.trans (invalidText_eq w)) (j.text_ne_inval _)
  | some i =>
    cases hw' : Instruction.decode? w' with
    | none =>
      rw [hw, hw'] at h
      exact absurd (h.trans (invalidText_eq w')) (i.text_ne_inval _)
    | some j =>
      rw [hw, hw'] at h
      rw [← Instruction.encode_of_decode? hw, ← Instruction.encode_of_decode? hw',
        Instruction.text_inj h]

/-- **Assembly text tells which instruction it is.**  Two instructions with the same text are
the same, whether or not their operands fit into a word; none of the texts begins like that
of a word that is no instruction; and two words that are listed alike are the same word,
whatever they stand for. -/
theorem text_determines :
    (∀ i j : Instruction, i.text = j.text ↔ i = j) ∧
    (∀ (i : Instruction) (rest : String), i.text ≠ "inval" ++ rest) ∧
    ∀ w w' : UInt16, plain.once w = plain.once w' ↔ w = w' :=
  ⟨fun _ _ => ⟨Instruction.text_inj, congrArg _⟩, Instruction.text_ne_inval,
    fun _ _ => ⟨once_plain_inj, congrArg _⟩⟩

end Disassembly

end Chip8
