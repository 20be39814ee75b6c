import Chip8.Proofs.Machine.Iteration

/-!
# Keys

A press is news if the key exists and is not held, and a release if the key is held.  What is no
news changes nothing.  Only presses and releases reach the keys, and starting over, which lets go of
all of them.

## What is here

* `press_of_stale`, `press_of_fresh`, `press_of_waiting` — the three ways of a press.
* `state_press_eq_setKey`, `state_release_eq_setKey` — what is left of a press for
  which nothing waits, and of a release; `held_state_press`, `held_state_release`,
  which keys are held after either.
* `Operation.call?` — the key that is pressed or released, and `Console.keys_perform`, that nothing
  else reaches the keys.
* `Console.held_perform`, `Console.held_performAll` — a key that is held stays held until it is
  released, and `Console.release_mem_of_held`, the same from the end.
* `Console.machine_perform_of_state_cycle` — what ticks and keys can do to a machine that does not
  move by itself.
-/

set_option autoImplicit false

namespace Chip8

/-- The key that an operation calls upon, and whether it is to go down. -/
def Operation.call? : Operation → Option (Nat × Bool)
  | .press k => some (k, true)
  | .release k => some (k, false)
  | _ => none

namespace Machine

variable {m : Machine} {j k : Nat}

/-- A press that is no news changes nothing. -/
theorem press_of_stale (h : ¬ (k < 16 ∧ m.held k = false)) : m.press k = ⟨m, false, []⟩ := by
  rw [press, if_neg h]

/-- A press that is news, while nothing waits for it. -/
theorem press_of_fresh (hk : k < 16) (h : m.held k = false) (hw : m.flags.keyWait = false) :
    m.press k = ⟨m.setKey k true, true, []⟩ := by
  rw [press, if_pos ⟨hk, h⟩]
  dsimp only
  rw [if_neg (by rw [show (m.setKey k true).flags = m.flags from rfl, hw]; decide)]

/-- A press that is news ends a key wait. -/
theorem press_of_waiting (hk : k < 16) (h : m.held k = false) (hw : m.flags.keyWait = true) :
    m.press k =
      ⟨{ (m.setKey k true).setReg m.keyTarget.toNat (.ofNat k) with
          flags := { m.flags with keyWait := false } },
        true, [.resumed k m.keyTarget]⟩ := by
  rw [press, if_pos ⟨hk, h⟩]
  dsimp only
  rw [if_pos (show (m.setKey k true).flags.keyWait = true from hw)]
  rfl

/-- A key that is where it is to go stays there. -/
theorem setKey_of_held {down : Bool} (h : k < 16 → m.held k = down) : m.setKey k down = m := by
  have hkeys : m.keys.setIfInBounds k down = m.keys := by
    refine Vector.ext fun j hj => ?_
    rw [Vector.getElem_setIfInBounds hj]
    split
    · rename_i hkj
      subst hkj
      rw [← h hj, held, Vector.getElem?_eq_getElem hj, Option.getD_some]
    · rfl
  rw [setKey, hkeys]

/-- Unless a program waits for a key, a press leaves the key held and changes nothing else. -/
theorem state_press_eq_setKey (hw : m.flags.keyWait = false) (k : Nat) :
    (m.press k).state = m.setKey k true := by
  by_cases h : k < 16 ∧ m.held k = false
  · rw [press_of_fresh h.1 h.2 hw]
  · rw [press_of_stale h, setKey_of_held fun hk => ?_]
    exact Bool.not_eq_false _ ▸ fun hfree => h ⟨hk, hfree⟩

/-- A release leaves the key free and changes nothing else. -/
theorem state_release_eq_setKey (m : Machine) (k : Nat) :
    (m.release k).state = m.setKey k false := by
  rw [release]
  split
  · rfl
  · rename_i h
    exact (setKey_of_held fun _ => Bool.not_eq_true _ ▸ h).symm

theorem state_press (hw : m.flags.keyWait = false) (k : Nat) :
    ∃ keys, (m.press k).state = { m with keys } :=
  ⟨_, state_press_eq_setKey hw k⟩

theorem state_release (m : Machine) (k : Nat) : ∃ keys, (m.release k).state = { m with keys } :=
  ⟨_, state_release_eq_setKey m k⟩

theorem result_press (m : Machine) (k : Nat) :
    (m.press k).result = decide (k < 16 ∧ m.held k = false) := by
  by_cases h : k < 16 ∧ m.held k = false
  · rw [decide_eq_true h, press, if_pos h]
    dsimp only
    split <;> rfl
  · rw [decide_eq_false h, press_of_stale h]

theorem result_release (m : Machine) (k : Nat) : (m.release k).result = m.held k := by
  rw [release]
  split
  · rename_i h
    exact h.symm
  · rename_i h
    exact (Bool.not_eq_true _ ▸ h).symm

/-- After a press the key is held, if it exists, and nothing is new with the others. -/
theorem held_state_press (m : Machine) (j k : Nat) :
    (m.press j).state.held k = if k = j ∧ j < 16 then true else m.held k := by
  rw [← held_setKey, press]
  split
  · dsimp only
    split <;> rfl
  · rename_i h
    rw [setKey_of_held fun hj => Bool.not_eq_false _ ▸ fun hfree => h ⟨hj, hfree⟩]

/-- After a release the key is free, and nothing is new with the others. -/
theorem held_state_release (m : Machine) (j k : Nat) :
    (m.release j).state.held k = if k = j ∧ j < 16 then false else m.held k := by
  rw [state_release_eq_setKey, held_setKey]

theorem reg_congr {n : Machine} (h : n.registers = m.registers) (k : Nat) : n.reg k = m.reg k := by
  rw [reg, h, reg]

theorem held_congr {n : Machine} (h : n.keys = m.keys) (k : Nat) : n.held k = m.held k := by
  rw [held, h, held]

end Machine

namespace Console

variable {c : Console} {op : Operation} {k : Nat}

theorem held_cycle (c : Console) (k : Nat) : c.cycle.state.machine.held k = c.machine.held k :=
  Machine.held_congr (Machine.keys_cycle _ _) k

theorem keys_run (c : Console) (n : Nat) : (c.run n).state.machine.keys = c.machine.keys :=
  run_induction (motive := fun c' => c'.machine.keys = c.machine.keys) rfl
    (fun _ h => (Machine.keys_cycle _ _).trans h) n

/-- **Only presses and releases reach the keys**, and starting over. -/
theorem keys_perform (hcall : op.call? = none) (hreset : op ≠ .reset) :
    (c.perform op).state.machine.keys = c.machine.keys := by
  cases op with
  | load program =>
    rw [perform, Machine.load_eq]
    split <;> rfl
  | cycle => exact Machine.keys_cycle _ _
  | run n => exact keys_run c n
  | press | release => cases hcall
  | reset => exact absurd rfl hreset
  | tick | setRegister | togglePause | setKeyWait | setDialect | edit => rfl

/-- **A key that is held stays held** until it is released, unless everything starts over. -/
theorem held_perform (hrel : op ≠ .release k) (hreset : op ≠ .reset)
    (h : c.machine.held k = true) : (c.perform op).state.machine.held k = true := by
  cases op with
  | press j => exact (Machine.held_state_press _ j k).trans (by rw [h, ite_self])
  | release j =>
    have hne : ¬ (k = j ∧ j < 16) := fun hkj => hrel (hkj.1 ▸ rfl)
    exact (Machine.held_state_release _ j k).trans (by rw [if_neg hne, h])
  | reset => exact absurd rfl hreset
  | load | cycle | run | edit | tick | setRegister | togglePause | setKeyWait | setDialect =>
    exact (Machine.held_congr (keys_perform (by rfl) hreset) k).trans h

theorem held_performAll {ops : List Operation} (hrel : .release k ∉ ops) (hreset : .reset ∉ ops)
    (h : c.machine.held k = true) : (c.performAll ops).machine.held k = true := by
  have hops : c.Throughout (fun _ op => op ≠ .release k ∧ op ≠ .reset) ops :=
    throughout_iff_forall_mem.2 fun op hop => ⟨fun e => hrel (e ▸ hop), fun e => hreset (e ▸ hop)⟩
  exact performAll_induction_of (motive := fun c => c.machine.held k = true) hops h
    fun c op hne h => held_perform hne.1 hne.2 h

/-- A key that was held and is not held any more was released meanwhile. -/
theorem release_mem_of_held {ops : List Operation} (hreset : .reset ∉ ops)
    (h : c.machine.held k = true) (hfree : (c.performAll ops).machine.held k = false) :
    .release k ∈ ops := by
  refine Decidable.byContradiction fun hrel => ?_
  rw [held_performAll hrel hreset h] at hfree
  cases hfree

/-- **Where cycles change nothing, and a press nothing but keys**, nothing that goes on while a
program runs changes more than timers and keys. -/
theorem machine_perform_of_state_cycle (hcycle : c.cycle.state = c)
    (hpress : ∀ k, op = .press k → ∃ keys, (c.machine.press k).state = { c.machine with keys })
    (hop : op.isRoutine = true) :
    ∃ delay sound keys, (c.perform op).state.machine = { c.machine with delay, sound, keys } := by
  cases op with
  | cycle =>
    rw [show (c.perform .cycle).state = c from hcycle]
    exact ⟨_, _, _, rfl⟩
  | run n =>
    rw [show (c.perform (.run n)).state = c from state_run_of_state_cycle hcycle n]
    exact ⟨_, _, _, rfl⟩
  | tick => exact ⟨_, _, _, rfl⟩
  | press k =>
    obtain ⟨keys, hkeys⟩ := hpress k rfl
    exact ⟨_, _, keys, hkeys⟩
  | release k =>
    obtain ⟨keys, hkeys⟩ := c.machine.state_release k
    exact ⟨_, _, keys, hkeys⟩
  | load | setRegister | reset | togglePause | setKeyWait | setDialect | edit => cases hop

end Console

end Chip8
