import Chip8.Proofs.Machine.Keys

/-!
# The news of a key

A press or release that is answered with yes is news: the key has moved.  As a key that is
held cannot be pressed and one that is free cannot be released, the news of a key go down and
up by turns, and the last of them tells whether it is held.  Whoever counts the news has lost
no key and counted none twice.

## What is here

* `Console.newsOf?`, `Console.news` — the news of a key in one operation and in a list of them.
* `Console.newsOf?_cases` — what one operation does to a key: nothing, or it moves it and says so.
* `getElem_news`, `held_performAll_eq` — the news alternate, and the last of them counts.
* `Console.perform_of_stale` — a call on a key that is no news.
* `Console.key_calls_alternate` — all of it, from power-on.
-/

set_option autoImplicit false

namespace Chip8

namespace Machine

variable {m : Machine} {k : Nat}

theorem held_of_le (hk : 16 ≤ k) : m.held k = false := by
  rw [held, Vector.getElem?_eq_none hk, Option.getD_none]

theorem held_eq_true_iff : m.held k = true ↔ m.keys[k]? = some true := by
  rw [held]
  cases m.keys[k]? <;> simp

/-- A release that is no news changes nothing. -/
theorem release_of_free (h : m.held k = false) : m.release k = ⟨m, false, []⟩ := by
  rw [release, if_neg (by rw [h]; decide)]

theorem held_initial (d : Dialect) (k : Nat) : (initial d).held k = false := by
  rcases Nat.lt_or_ge k 16 with hk | hk
  · show (Vector.replicate 16 false)[k]?.getD false = false
    rw [Vector.getElem?_replicate, if_pos hk, Option.getD_some]
  · exact held_of_le hk

end Machine

namespace Console

variable {c : Console} {op : Operation} {j k : Nat} {down : Bool}

/-! ## Calls upon a key -/

theorem eq_of_call? (h : op.call? = some (j, down)) :
    op = .press j ∧ down = true ∨ op = .release j ∧ down = false := by
  cases op with
  | press | release => cases h; simp
  | load | cycle | run | edit | tick | setRegister | reset | togglePause | setKeyWait
  | setDialect => cases h

/-- A call upon a key is answered with yes if the key exists and is not yet where it is to go. -/
theorem result_of_call? (h : op.call? = some (j, down)) :
    (c.perform op).result = .flag (decide (j < 16 ∧ c.machine.held j = !down)) := by
  obtain ⟨rfl, rfl⟩ | ⟨rfl, rfl⟩ := eq_of_call? h
  · exact congrArg Answer.flag (c.machine.result_press j)
  · refine congrArg Answer.flag ((c.machine.result_release j).trans ?_)
    rcases Nat.lt_or_ge j 16 with hj | hj
    · simp [hj]
    · simp [Machine.held_of_le hj]

/-- After a call upon a key, the key is where it was to go, if it exists. -/
theorem held_of_call? (h : op.call? = some (j, down)) (k : Nat) :
    (c.perform op).state.machine.held k = if k = j ∧ j < 16 then down else c.machine.held k := by
  obtain ⟨rfl, rfl⟩ | ⟨rfl, rfl⟩ := eq_of_call? h
  · exact c.machine.held_state_press j k
  · exact c.machine.held_state_release j k

/-- **A call that is no news changes nothing**, even while a program waits for a key; and a call
upon a key that does not exist is none. -/
theorem perform_of_stale (h : op.call? = some (j, down))
    (hstale : (c.perform op).result = .flag false ∨ 16 ≤ j) :
    c.perform op = ⟨c, .flag false, []⟩ := by
  have hnot : ¬ (j < 16 ∧ c.machine.held j = !down) := by
    rintro ⟨hj, hfresh⟩
    rw [result_of_call? h, decide_eq_true ⟨hj, hfresh⟩] at hstale
    exact hstale.elim nofun (Nat.not_le_of_lt hj)
  obtain ⟨rfl, rfl⟩ | ⟨rfl, rfl⟩ := eq_of_call? h
  · rw [perform, Machine.press_of_stale hnot]
    rfl
  · have hfree : c.machine.held j = false := by
      rcases Nat.lt_or_ge j 16 with hj | hj
      · exact Bool.not_eq_true _ ▸ fun hheld => hnot ⟨hj, hheld⟩
      · exact Machine.held_of_le hj
    rw [perform, Machine.release_of_free hfree]
    rfl

/-! ## News -/

/-- The news of the key `k` in an operation: if the key is called upon and the answer is yes,
whether it went down. -/
def newsOf? (k : Nat) (c : Console) (op : Operation) : Option Bool :=
  match op.call? with
  | some (j, down) => if j = k ∧ (c.perform op).result = .flag true then some down else none
  | none => none

/-- **An operation leaves a key as it is, or it moves it and says so.** -/
theorem newsOf?_cases (k : Nat) (c : Console) (hreset : op ≠ .reset) :
    (c.newsOf? k op = none ∧ (c.perform op).state.machine.held k = c.machine.held k) ∨
      (c.newsOf? k op = some (!c.machine.held k) ∧
        (c.perform op).state.machine.held k = !c.machine.held k) := by
  rw [newsOf?]
  cases hcall : op.call? with
  | none => exact .inl ⟨rfl, Machine.held_congr (keys_perform hcall hreset) k⟩
  | some call =>
    obtain ⟨j, down⟩ := call
    simp only [held_of_call? hcall, result_of_call? hcall, Answer.flag.injEq, decide_eq_true_eq]
    by_cases hkj : k = j ∧ j < 16
    · obtain ⟨rfl, hk⟩ := hkj
      by_cases hfresh : c.machine.held k = !down
      · rw [if_pos ⟨rfl, hk, hfresh⟩, if_pos ⟨rfl, hk⟩, hfresh, Bool.not_not]
        exact .inr ⟨rfl, rfl⟩
      · have hthere : c.machine.held k = down :=
          (Bool.eq_not_of_ne hfresh).trans (Bool.not_not down)
        rw [if_neg fun h => hfresh h.2.2, if_pos ⟨rfl, hk⟩, hthere]
        exact .inl ⟨rfl, rfl⟩
    · rw [if_neg fun h => hkj ⟨h.1.symm, h.2.1⟩, if_neg hkj]
      exact .inl ⟨rfl, rfl⟩

/-- The news of the key `k` in a list of operations. -/
def news (k : Nat) (c : Console) : List Operation → List Bool
  | [] => []
  | op :: ops => (c.newsOf? k op).toList ++ (c.perform op).state.news k ops

/-- **The news of a key alternate**, and the first of them depends on whether the key is held. -/
theorem getElem_news {ops : List Operation} (hreset : .reset ∉ ops) {i : Nat}
    (h : i < (c.news k ops).length) :
    (c.news k ops)[i] = (decide (i % 2 = 0) ^^ c.machine.held k) := by
  induction ops generalizing c i with
  | nil => cases h
  | cons op ops ih =>
    obtain ⟨hop, hops⟩ := List.ne_and_not_mem_of_not_mem_cons hreset
    obtain ⟨hnews, hheld⟩ | ⟨hnews, hheld⟩ := newsOf?_cases k c hop.symm
    · simp only [news, hnews, Option.toList_none, List.nil_append] at h ⊢
      rw [ih hops h, hheld]
    · simp only [news, hnews, Option.toList_some, List.singleton_append, List.length_cons] at h ⊢
      cases i with
      | zero => exact (Bool.true_xor _).symm
      | succ i =>
        have hparity : decide ((i + 1) % 2 = 0) = !decide (i % 2 = 0) := by
          rw [← decide_not, decide_eq_decide]
          omega
        rw [List.getElem_cons_succ, ih hops (Nat.lt_of_succ_lt_succ h), hheld, hparity,
          Bool.xor_not, Bool.not_xor]

/-- **The last of the news of a key tells whether it is held.** -/
theorem held_performAll_eq {ops : List Operation} (hreset : .reset ∉ ops) :
    (c.performAll ops).machine.held k = (c.news k ops).getLast?.getD (c.machine.held k) := by
  induction ops generalizing c with
  | nil => rfl
  | cons op ops ih =>
    obtain ⟨hop, hops⟩ := List.ne_and_not_mem_of_not_mem_cons hreset
    have hrest := ih (c := (c.perform op).state) hops
    obtain ⟨hnews, hheld⟩ | ⟨hnews, hheld⟩ := newsOf?_cases k c hop.symm
    · rw [news, hnews, ← hheld]
      exact hrest
    · rw [news, hnews, Option.toList_some, List.getLast?_append, Option.getD_or, ← hheld]
      exact hrest

/-- **The calls upon a key count its moves.**  Let operations be performed from power-on, with no
reset among them.  Those calls upon a key that are answered with yes are a press and a release by
turns, and the first of them is a press; the key is held iff the last of them was a press.  A call
that is answered with no leaves everything as it is, and so does one upon a key that does not exist.
No other operation changes which keys are held. -/
theorem key_calls_alternate (d : Dialect) (e : Entropy) {ops : List Operation}
    (hreset : .reset ∉ ops) (k : Nat) :
    let c := (powerOn d e).performAll ops
    let news := (powerOn d e).news k ops
    (∀ i (h : i < news.length), news[i] = decide (i % 2 = 0)) ∧
    (c.machine.keys[k]? = some true ↔ news.getLast? = some true) ∧
    (∀ op j, op = .press j ∨ op = .release j →
      (c.perform op).result = .flag false ∨ 16 ≤ j → c.perform op = ⟨c, .flag false, []⟩) ∧
    ∀ op, (∀ j, op ≠ .press j ∧ op ≠ .release j) → op ≠ .reset →
      (c.perform op).state.machine.keys = c.machine.keys := by
  intro c news
  have hfree : (powerOn d e).machine.held k = false := Machine.held_initial d k
  refine ⟨fun i h => ?_, ?_, ?_, ?_⟩
  · rw [getElem_news hreset h, hfree, Bool.xor_false]
  · rw [← Machine.held_eq_true_iff, held_performAll_eq hreset, hfree]
    cases ((powerOn d e).news k ops).getLast? <;> simp
  · rintro op j (rfl | rfl) hstale
    · exact perform_of_stale rfl hstale
    · exact perform_of_stale rfl hstale
  · intro op hop hreset
    refine keys_perform ?_ hreset
    cases op with
    | press j => exact absurd rfl (hop j).1
    | release j => exact absurd rfl (hop j).2
    | load | cycle | run | edit | tick | setRegister | reset | togglePause | setKeyWait
    | setDialect => rfl

set_option maxRecDepth 100000 in
/-- A program waits for a key.  Key 5 is pressed twice and released twice, another one is released
that is not held, there is no key 16, and key 5 is pressed again while the machine is paused. -/
theorem key_calls_alternate_around_wait :
    let ops : List Operation :=
      [.load [0xf0, 0x0a], .cycle, .press 5, .press 5, .release 5, .release 5, .release 3,
        .press 16, .togglePause, .press 5]
    let start := powerOn (.uniform false) ⟨fun _ => 0, 0⟩
    let c := start.performAll ops
    .reset ∉ ops ∧ start.news 5 ops = [true, false, true] ∧ c.machine.keys[5]? = some true ∧
      c.perform (.release 16) = ⟨c, .flag false, []⟩ ∧
      (c.perform .cycle).state.machine.keys = c.machine.keys := by
  dsimp only
  have hcalls := fun (ops : List Operation) (hreset : .reset ∉ ops) =>
    key_calls_alternate (.uniform false) ⟨fun _ => 0, 0⟩ hreset 5
  refine ⟨by decide, by decide +kernel, ?_, ?_, ?_⟩
  · exact (hcalls _ (by decide)).2.1.2 (by decide +kernel)
  · exact (hcalls _ (by decide)).2.2.1 _ 16 (.inr rfl) (.inr (Nat.le_refl 16))
  · exact (hcalls _ (by decide)).2.2.2 .cycle (fun _ => ⟨nofun, nofun⟩) nofun

end Console

end Chip8
