import Chip8.Proofs.Machine.Runs

/-!
# Subroutines

A call puts the address behind it on the stack, and a return takes the newest address off it.  No
other instruction reaches the stack, and between cycles only starting over does.  So whatever a
subroutine does, calls of its own, words that are no instructions and changes to the program itself
included, the stack below it stays as it was at the call, and the only way out of it is a return to
the place of the call.

The newest address stands at the head of the list; the oldest ones are a suffix of it.

## What is here

* `Operation.isGradual` — operations that make one cycle at most and do not start over.
* `Console.suffix_or_returned` — the step: an address that lies on the stack, with everything older,
  is still there after one operation, unless the operation was a return to it.
* `Console.subroutine_discipline` — the run: what this says of a call.
-/

set_option autoImplicit false

namespace Chip8

/-- The operation makes one cycle at most and does not start over. -/
def Operation.isGradual : Operation → Bool
  | .run _ | .reset => false
  | _ => true

namespace Console

variable {c : Console} {op : Operation} {a : UInt16} {older : List UInt16}

/-- What is done between cycles leaves the stack alone. -/
theorem stack_perform (hop : op.isGradual = true) (hne : op ≠ .cycle) :
    (c.perform op).state.machine.stack = c.machine.stack := by
  cases op with
  | cycle => exact absurd rfl hne
  | run n => cases hop
  | reset => cases hop
  | load program =>
    rw [perform, Machine.load_eq]
    split <;> rfl
  | press k =>
    rw [perform, Machine.press]
    split
    · dsimp only
      split <;> rfl
    · rfl
  | release k =>
    rw [perform, Machine.release]
    split <;> rfl
  | tick | setRegister | togglePause | setKeyWait | setDialect | edit => rfl

/-- A cycle leaves an address on the stack, and everything older, unless it returns there. -/
theorem suffix_or_returned_of_cycle (h : a :: older <:+ c.machine.stack) :
    a :: older <:+ c.cycle.state.machine.stack ∨
      c.machine.Executes (.system .ret) ∧ c.cycle.state.machine.pc = a ∧
        c.cycle.state.machine.stack = older := by
  have hcycle : c.cycle.state.machine = (c.machine.cycle c.entropy.next).state := rfl
  rw [hcycle]
  obtain hs | hs | ⟨i, hi⟩ := c.machine.state_cycle_cases c.entropy.next
  · rw [hs]
    exact .inl h
  · rw [hs]
    exact .inl h
  obtain hc | ⟨b, -, hs⟩ | ⟨b, rest, rfl, hstack, hs⟩ | ⟨x, -, hs⟩ :=
    Machine.control_of_executes hi c.entropy.next
  · have hsame := congrArg Machine.Control.stack hc
    refine .inl ?_
    rw [show (c.machine.cycle c.entropy.next).state.stack = c.machine.stack from hsame]
    exact h
  · rw [hs]
    exact .inl (h.trans (List.suffix_cons _ _))
  · -- the address taken from the stack is ours, or ours lies deeper
    rw [hstack] at h
    rw [hs]
    rcases List.suffix_cons_iff.1 h with heq | hrest
    · obtain ⟨rfl, rfl⟩ := List.cons.inj heq
      exact .inr ⟨hi, rfl, rfl⟩
    · exact .inl hrest
  · rw [hs]
    exact .inl h

/-- **One operation leaves an address on the stack, and everything older, unless it is a return to
that address.** -/
theorem suffix_or_returned (hop : op.isGradual = true) (h : a :: older <:+ c.machine.stack) :
    a :: older <:+ (c.perform op).state.machine.stack ∨
      op = .cycle ∧ c.machine.Executes (.system .ret) ∧
        (c.perform op).state.machine.pc = a ∧ (c.perform op).state.machine.stack = older := by
  by_cases hne : op = .cycle
  · subst hne
    exact (suffix_or_returned_of_cycle h).imp_right fun hret => ⟨rfl, hret⟩
  · rw [stack_perform hop hne]
    exact .inl h

/-- As long as the stack has not come back to the depth below an address, the address and everything
older are on it. -/
theorem suffix_performAll {ops : List Operation} (h : a :: older <:+ c.machine.stack)
    (hops : c.Throughout
      (fun c op => op.isGradual = true ∧ c.machine.stack.length ≠ older.length) ops)
    (hnow : (c.performAll ops).machine.stack.length ≠ older.length) :
    a :: older <:+ (c.performAll ops).machine.stack := by
  refine performAll_induction_of (motive := fun c =>
    c.machine.stack.length ≠ older.length → a :: older <:+ c.machine.stack) hops (fun _ => h)
    (fun c op hP ih hlen => ?_) hnow
  obtain hsuffix | ⟨-, -, -, hstack⟩ := suffix_or_returned hP.1 (ih hP.2)
  · exact hsuffix
  · rw [hstack] at hlen
    exact absurd rfl hlen

/-- **A call is undone by the return that belongs to it and by nothing else.**  The call at the
program counter `p` puts `p + 2` on the stack.  Whatever is done afterwards, cycle by cycle and
without starting over: as long as the stack has not come back to the depth before the call, its
oldest addresses are those before the call, followed by `p + 2`; and the operation that first brings
that depth back is a cycle that executes a return, goes to `p + 2` and leaves the stack as it was
before the call. -/
theorem subroutine_discipline (hcall : c.machine.Executes (.call a)) :
    c.cycle.state.machine.stack = (c.machine.pc + 2) :: c.machine.stack ∧
    ∀ ops, c.cycle.state.Throughout (fun c' op =>
        op.isGradual = true ∧ c'.machine.stack.length ≠ c.machine.stack.length) ops →
      let now := c.cycle.state.performAll ops
      now.machine.stack.length ≠ c.machine.stack.length →
        (c.machine.pc + 2) :: c.machine.stack <:+ now.machine.stack ∧
        ∀ op, op.isGradual = true →
          (now.perform op).state.machine.stack.length = c.machine.stack.length →
          op = .cycle ∧ now.machine.Executes (.system .ret) ∧
            (now.perform op).state.machine.pc = c.machine.pc + 2 ∧
            (now.perform op).state.machine.stack = c.machine.stack := by
  have hstart : c.cycle.state.machine.stack = (c.machine.pc + 2) :: c.machine.stack :=
    congrArg Machine.stack (Machine.state_of_executes_call hcall c.entropy.next)
  refine ⟨hstart, ?_⟩
  intro ops hops now hnow
  have hsuffix : (c.machine.pc + 2) :: c.machine.stack <:+ now.machine.stack :=
    suffix_performAll (hstart ▸ List.suffix_refl _) hops hnow
  refine ⟨hsuffix, fun op hop hback => ?_⟩
  obtain hstill | hret := suffix_or_returned hop hsuffix
  · have hlen := hstill.length_le
    rw [List.length_cons] at hlen
    omega
  · exact hret

set_option maxRecDepth 100000 in
/-- A subroutine that calls itself once and is then overwritten with a return: the first return goes
back into the subroutine, and only the second one behind the first call. -/
theorem subroutine_discipline_recursive :
    let c := (powerOn {} ⟨fun _ => 0, 0⟩).performAll
      [.edit (.overwrite 0x200 [0x22, 0x00, 0x00, 0xee])]
    let now := c.cycle.state.performAll
      [.cycle, .tick, .edit (.overwrite 0x200 [0x00, 0xee]), .cycle]
    c.machine.Executes (.call 0x200) ∧ 0x202 :: c.machine.stack <:+ now.machine.stack ∧
      (now.perform .cycle).state.machine.pc = 0x202 ∧
      (now.perform .cycle).state.machine.stack = c.machine.stack := by
  intro c now
  have h : c.machine.Executes (.call 0x200) ∧ c.machine.pc = 0x200 ∧
      c.cycle.state.Throughout (fun c' op =>
        op.isGradual = true ∧ c'.machine.stack.length ≠ c.machine.stack.length)
        [.cycle, .tick, .edit (.overwrite 0x200 [0x00, 0xee]), .cycle] ∧
      now.machine.stack.length ≠ c.machine.stack.length ∧
      (now.perform .cycle).state.machine.stack.length = c.machine.stack.length := by
    decide +kernel
  obtain ⟨hcall, hpc, hops, hnow, hback⟩ := h
  obtain ⟨hsuffix, hreturn⟩ := (subroutine_discipline hcall).2 _ hops hnow
  obtain ⟨-, -, hpc', hstack⟩ := hreturn .cycle rfl hback
  rw [hpc] at hsuffix hpc'
  exact ⟨hcall, hsuffix, hpc', hstack⟩

end Console

end Chip8
