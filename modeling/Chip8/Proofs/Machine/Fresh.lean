import Chip8.Proofs.Machine.Bounded
import Chip8.Proofs.Machine.Loading

/-!
# Starting over

Starting over keeps dialect and memory, and loading a program replaces the upper part of memory.
What both leave of a machine is its dialect and the bytes below the place of programs, and a machine
that was just switched on can be given the same.  So whatever a machine has been through, after the
two of them it cannot be told from a new one.

## What is here

* `Machine.reset_eq` — what starting over leaves of a machine.
* `Console.newWith` — a console at power-on that is given some bytes at the bottom of memory and a
  program.
* `Console.machine_reset_load` — starting over and loading a program, in either order.
* `Console.no_residue` — two consoles that have been through different things are the same
  afterwards.
-/

set_option autoImplicit false

namespace Chip8

namespace Machine

/-- Starting over leaves the dialect and memory, and nothing else. -/
theorem reset_eq {m : Machine} (hs : m.screen.pixels.size = Screen.width * Screen.height) :
    m.reset = { initial m.flags.dialect with memory := m.memory } := by
  have hdark : m.screen.clear = Screen.dark := by
    rw [Screen.clear, hs, Screen.dark]
  rw [reset, hdark]
  rfl

end Machine

namespace Console

/-- A console at power-on, after `low` was written to the bottom of its memory and a program was
loaded. -/
def newWith (d : Dialect) (e : Entropy) (low program : List UInt8) : Console :=
  (powerOn d e).performAll [.edit (.overwrite 0 low), .load program]

/-- The two operations that make anew what a program can see, in either order. -/
def restarts (program : List UInt8) : List (List Operation) :=
  [[.reset, .load program], [.load program, .reset]]

variable {c : Console} {program low : List UInt8}

theorem machine_newWith (d : Dialect) (e : Entropy) (hlow : low.length ≤ Memory.capacity)
    (hp : program.length ≤ Memory.programLimit) :
    (newWith d e low program).machine =
      { Machine.initial d with
        memory := Memory.loaded ⟨Memory.blit Memory.initial.bytes 0 low⟩ program } := by
  have hwrite : (Machine.initial d).memory.overwrite 0 low =
      { memory := ⟨Memory.blit Memory.initial.bytes 0 low⟩ } := by
    refine Memory.overwrite_of_le ?_
    rw [show (Machine.initial d).memory.size = Memory.capacity from Memory.size_initial]
    omega
  have hedit : ((powerOn d e).perform (.edit (.overwrite 0 low))).state.machine =
      { Machine.initial d with memory := ⟨Memory.blit Memory.initial.bytes 0 low⟩ } := by
    rw [perform, edit]
    simp only [Memory.perform, powerOn, hwrite, settle]
  show (((powerOn d e).perform (.edit (.overwrite 0 low))).state.machine.load program).state = _
  rw [hedit, Machine.load_of_le hp]

/-- Starting over and loading a program, in either order, succeed and leave a new machine with the
memory that loading has left. -/
theorem machine_reset_load (h : c.machine.Bounded) (hp : program.length ≤ Memory.programLimit)
    {ops : List Operation} (hops : ops ∈ restarts program) :
    c.answers ops = [.done, .done] ∧
      (c.performAll ops).machine =
        { Machine.initial c.machine.flags.dialect with
          memory := c.machine.memory.loaded program } := by
  simp only [restarts, List.mem_cons, List.not_mem_nil, or_false] at hops
  rcases hops with rfl | rfl
  · simp only [answers, performAll, perform, change, settle, Machine.load_of_le hp,
      Machine.reset_eq h.screen_size]
    exact ⟨rfl, trivial⟩
  · have hs : ({ c.machine with memory := c.machine.memory.loaded program } :
        Machine).screen.pixels.size = Screen.width * Screen.height := h.screen_size
    simp only [answers, performAll, perform, change, settle, Machine.load_of_le hp,
      Machine.reset_eq hs]
    exact ⟨rfl, trivial⟩

/-- A new console with the lowest bytes of a memory holds, with a program loaded, what that memory
holds with the program loaded. -/
theorem machine_newWith_block {m : Memory} (hm : m.size = Memory.capacity) (d : Dialect)
    (e : Entropy) (hp : program.length ≤ Memory.programLimit) :
    (newWith d e (m.block 0 Memory.programStart) program).machine =
      { Machine.initial d with memory := m.loaded program } := by
  have hlen : (m.block 0 Memory.programStart).length ≤ Memory.capacity := by
    rw [Memory.length_block]
    decide
  have hsize : Memory.initial.size = m.size := Memory.size_initial.trans hm.symm
  have hroom : Memory.programStart ≤ m.size := by
    rw [hm]
    decide
  rw [machine_newWith d e hlen hp, Memory.loaded_blit_block hsize hroom program]

/-- **Nothing is left of what a machine has been through** once it has started over and a program
was loaded, in whichever order.  Two consoles that have come, by whatever operations, to the same
dialect and the same bytes below the place of programs are then the same in every part, and the same
as a console at power-on that is given these bytes and the program: but for memory it is as at
power-on, and memory holds these bytes, the program from `200` on and zeros behind it. -/
theorem no_residue {c c' : Console} (h : c.Reached) (h' : c'.Reached)
    (hdialect : c'.machine.flags.dialect = c.machine.flags.dialect)
    (hlow : ∀ k < 0x200, c'.machine.memory.bytes[k]? = c.machine.memory.bytes[k]?)
    {program : List UInt8} (hp : program.length ≤ 0xe00) (e : Entropy) :
    let low := c.machine.memory.block 0 0x200
    let new := (newWith c.machine.flags.dialect e low program).machine
    (∀ ops ∈ restarts program,
      c.answers ops = [.done, .done] ∧ c'.answers ops = [.done, .done] ∧
        (c.performAll ops).machine = new ∧ (c'.performAll ops).machine = new) ∧
    new = { Machine.initial c.machine.flags.dialect with memory := new.memory } ∧
    new.memory.size = 0x1000 ∧
    (∀ k (hk : k < program.length), new.memory.read (0x200 + k) = .ok program[k]) ∧
    (∀ a, 0x200 + program.length ≤ a → a ≤ 0xfff → new.memory.read a = .ok 0) ∧
    ∀ a < 0x200, new.memory.read a = c.machine.memory.read a := by
  intro low new
  have hnew : new = { Machine.initial c.machine.flags.dialect with
      memory := c.machine.memory.loaded program } :=
    machine_newWith_block h.bounded.memory_size _ e hp
  have hsame : c'.machine.memory.loaded program = c.machine.memory.loaded program :=
    Memory.loaded_congr (h'.bounded.memory_size.trans h.bounded.memory_size.symm) hlow program
  have hsize : c.machine.memory.size = 0x1000 := h.bounded.memory_size
  constructor
  · intro ops hops
    obtain ⟨hanswers, hmachine⟩ := machine_reset_load h.bounded hp hops
    obtain ⟨hanswers', hmachine'⟩ := machine_reset_load h'.bounded hp hops
    rw [hdialect, hsame] at hmachine'
    exact ⟨hanswers, hanswers', hmachine.trans hnew.symm, hmachine'.trans hnew.symm⟩
  · rw [hnew]
    exact ⟨rfl, (Memory.size_loaded _ _).trans hsize, Memory.reads_loaded hsize hp⟩

set_option maxRecDepth 100000 in
/-- One console stands in a subroutine and waits for a key while another one is held; the other was
switched on in another dialect, has a longer program and is paused.  A program of one
jump makes both the same. -/
theorem no_residue_of_wait_and_pause :
    let e : Entropy := ⟨fun _ => 0, 0⟩
    let c := (powerOn {} e).performAll
      [.edit (.overwrite 0x200 [0x22, 0x02, 0xf3, 0x0a]), .press 5, .run 3]
    let c' := (powerOn (.uniform true) e).performAll
      [.setDialect {}, .edit (.overwrite 0x200 [0x61, 0x07, 0xf1, 0x15]), .run 2, .togglePause]
    c.machine.flags.keyWait = true ∧ c.machine.stack = [0x202] ∧ c.machine.held 5 = true ∧
      c'.machine.flags.pause = true ∧ c'.machine.delay = 7 ∧
      let new := (c.performAll [.reset, .load [0x12, 0x00]]).machine
      new = (c'.performAll [.load [0x12, 0x00], .reset]).machine ∧
        new.memory.read 0x200 = .ok 0x12 ∧ new.memory.read 0x202 = .ok 0 := by
  intro e c c'
  have h : c.machine.flags.keyWait = true ∧ c.machine.stack = [0x202] ∧ c.machine.held 5 = true ∧
      c'.machine.flags.pause = true ∧ c'.machine.delay = 7 ∧
      c'.machine.flags.dialect = c.machine.flags.dialect ∧
      c'.machine.memory.bytes.toList.take 0x200 = c.machine.memory.bytes.toList.take 0x200 := by
    decide +kernel
  obtain ⟨hwait, hstack, hheld, hpause, hdelay, hdialect, htake⟩ := h
  have hc : c.Reached := ⟨_, _, _, rfl⟩
  have hc' : c'.Reached := ⟨_, _, _, rfl⟩
  -- nothing from here on is to be evaluated
  clear_value c c'
  have hlow : ∀ k < 0x200, c'.machine.memory.bytes[k]? = c.machine.memory.bytes[k]? := by
    intro k hk
    simpa only [List.getElem?_take_of_lt hk, Array.getElem?_toList] using congrArg (·[k]?) htake
  have hfits : ([0x12, 0x00] : List UInt8).length ≤ 0xe00 := by decide
  obtain ⟨hsame, -, -, hbytes, hzeros, -⟩ := no_residue hc hc' hdialect hlow hfits e
  obtain ⟨-, -, hreset, -⟩ := hsame [.reset, .load [0x12, 0x00]] (by simp [restarts])
  obtain ⟨-, -, -, hload⟩ := hsame [.load [0x12, 0x00], .reset] (by simp [restarts])
  refine ⟨hwait, hstack, hheld, hpause, hdelay, hreset.trans hload.symm, ?_, ?_⟩
  · rw [hreset]
    exact hbytes 0 (by decide)
  · rw [hreset]
    exact hzeros 0x202 (by decide) (by decide)

end Console

end Chip8
