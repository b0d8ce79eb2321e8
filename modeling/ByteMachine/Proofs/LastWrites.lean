import ByteMachine.Proofs.Stack

/-!
# Last writes

A cell of memory holds what the last push or call to it has stored, and a register what the last
instruction has put there that names it as its first operand. So nothing else is written to, though
operands are masked, two of them may name one register, and each may name the stack pointer. The
stack pointer takes results like any register and moves with the stack besides.

* `System.storeAt s x k` and `System.resultAt s r k` are what step `k` writes to a cell and to a
  register, if it does.
* `origin written start n` is the last of the first `n` steps that writes, with what it writes; for
  a place that none of them writes to, it is the start.

Results:
* `read_after_succ`, `reg_after_succ`, `sp_after_succ_eq`: what one step does to a cell, to a
  register, and to the stack pointer.
* `eq_origin`, `toNat_of_origin`: what any number of such steps lead to.
* `last_writers`: all this for every sequence of steps.
-/

namespace ByteMachine

open Machine (stackRegister)

/-! ## Where a byte comes from -/

/-- The last of the first `n` steps that writes to a place, and what it writes. A place that none of
them writes to has its byte from the start. -/
def origin (written : Nat → Option UInt8) (start : UInt8) : Nat → Nat × UInt8
  | 0 => (0, start)
  | n + 1 =>
    match written n with
    | some v => (n, v)
    | none => origin written start n

section Origin

variable {written : Nat → Option UInt8} {start v : UInt8} {n j : Nat}

theorem origin_succ_of_some (h : written n = some v) :
    origin written start (n + 1) = (n, v) := by
  simp only [origin, h]

theorem origin_succ_of_none (h : written n = none) :
    origin written start (n + 1) = origin written start n := by
  simp only [origin, h]

/-- **What changes only when it is written to is what the last write has left.** -/
theorem eq_origin (held : Nat → UInt8) (h : ∀ k, held (k + 1) = (written k).getD (held k))
    (n : Nat) : held n = (origin written (held 0) n).2 := by
  induction n with
  | zero => rfl
  | succ n ih =>
    rw [h n]
    cases hw : written n with
    | some v => rw [origin_succ_of_some hw, Option.getD_some]
    | none => rw [origin_succ_of_none hw, Option.getD_none, ih]

/-- **What moves besides is off by the moves since the last write.** -/
theorem toNat_of_origin (held : Nat → UInt8) {depth : Nat → Int} (hzero : depth 0 = 0)
    (h : ∀ k, ((held (k + 1)).toNat : Int) =
      (((written k).getD (held k)).toNat - (depth (k + 1) - depth k)) % 256)
    (hlast : origin written (held 0) n = (j, v)) :
    ((held n).toNat : Int) = (v.toNat - (depth n - depth j)) % 256 := by
  induction n with
  | zero =>
    obtain ⟨rfl, rfl⟩ := Prod.mk.inj hlast
    have hlt := (held 0).toNat_lt
    rw [hzero]
    omega
  | succ n ih =>
    rw [h n]
    cases hw : written n with
    | some w =>
      rw [origin_succ_of_some hw] at hlast
      obtain ⟨rfl, rfl⟩ := Prod.mk.inj hlast
      rw [Option.getD_some]
    | none =>
      rw [origin_succ_of_none hw] at hlast
      rw [Option.getD_none, ih hlast]
      omega

end Origin

/-! ## What a step writes -/

namespace System

variable {δ : Type} [Device δ]

/-- What step `k` stores in the cell `x`. -/
def storeAt (s : System δ) (x : UInt8) (k : Nat) : Option UInt8 :=
  if s.opensAt k = true ∧ (s.after k).machine.sp - 1 = x then some (s.storedAt k) else none

/-- The result that step `k` puts into the register of `r`. -/
def resultAt (s : System δ) (r : UInt8) (k : Nat) : Option UInt8 :=
  (s.executed k).bind fun i => i.result? (s.after k).machine r

variable {s : System δ} {i : Instruction} {k : Nat}

theorem resultAt_of_executed (h : s.executed k = some i) (r : UInt8) :
    s.resultAt r k = i.result? (s.after k).machine r := by
  simp [resultAt, h]

theorem resultAt_of_not_executed (h : s.executed k = none) (r : UInt8) : s.resultAt r k = none := by
  simp [resultAt, h]

theorem resultAt_eq_some_iff {r v : UInt8} : s.resultAt r k = some v ↔
    ∃ i a, s.executed k = some i ∧ i.target? = some a ∧ Registers.slot a = Registers.slot r ∧
      i.result (s.after k).machine = v := by
  simp only [resultAt, Option.bind_eq_some_iff, Instruction.result?_eq_some_iff, exists_and_left]

/-- **A cell takes what is stored in it and nothing else.** -/
theorem read_after_succ (s : System δ) (x : UInt8) (k : Nat) :
    (s.after (k + 1)).machine.read x = (s.storeAt x k).getD ((s.after k).machine.read x) := by
  unfold storeAt
  cases hi : s.executed k with
  | none => simp [after_succ_of_not_executed hi, opensAt, hi]
  | some i =>
    rw [opensAt_of_executed hi, storedAt_of_executed hi, Machine.read, memory_after_succ hi,
      Table.row_memory]
    cases ho : i.opens with
    | false => simp [Machine.read]
    | true =>
      rw [if_pos rfl, Memory.get_set]
      by_cases hx : (s.after k).machine.sp - 1 = x
      · simp [hx]
      · simp [hx, Machine.read]

/-- **A register other than the stack pointer takes results and nothing else.** -/
theorem reg_after_succ {r : UInt8} (hr : Registers.slot r ≠ Registers.slot stackRegister)
    (s : System δ) (k : Nat) :
    (s.after (k + 1)).machine.reg r = (s.resultAt r k).getD ((s.after k).machine.reg r) := by
  cases hi : s.executed k with
  | none => rw [after_succ_of_not_executed hi, resultAt_of_not_executed hi, Option.getD_none]
  | some i =>
    rw [resultAt_of_executed hi, Machine.reg, registers_after_succ hi]
    exact Table.row_reg hr i _

/-- So where it changes, an instruction has named it as its target. -/
theorem target?_of_reg_ne {r : UInt8} (hr : Registers.slot r ≠ Registers.slot stackRegister)
    (hne : (s.after (k + 1)).machine.reg r ≠ (s.after k).machine.reg r) :
    ∃ i a, s.executed k = some i ∧ i.target? = some a ∧ Registers.slot a = Registers.slot r := by
  rw [reg_after_succ hr] at hne
  cases hw : s.resultAt r k with
  | none =>
    rw [hw] at hne
    exact absurd rfl hne
  | some v =>
    obtain ⟨i, a, hi, ha, hslot, -⟩ := resultAt_eq_some_iff.mp hw
    exact ⟨i, a, hi, ha, hslot⟩

/-- **The stack pointer takes results and moves with the stack.** -/
theorem sp_after_succ_eq (s : System δ) (k : Nat) :
    (s.after (k + 1)).machine.sp =
      let v := (s.resultAt stackRegister k).getD (s.after k).machine.sp
      if s.opensAt k then v - 1 else if s.closesAt k then v + 1 else v := by
  cases hi : s.executed k with
  | none =>
    rw [after_succ_of_not_executed hi, resultAt_of_not_executed hi, Option.getD_none]
    simp [opensAt, closesAt, hi]
  | some i =>
    rw [resultAt_of_executed hi, opensAt_of_executed hi, closesAt_of_executed hi, sp_after_succ hi]
    exact Table.row_stackRegister i _

/-- A pop into the stack pointer leaves it behind the value that it has popped. -/
theorem sp_of_pop {a : UInt8} (h : s.executed k = some (.pop a))
    (ha : Registers.slot a = Registers.slot stackRegister) :
    (s.after (k + 1)).machine.sp = (s.after k).machine.top + 1 := by
  have hresult : s.resultAt stackRegister k = some (s.after k).machine.top :=
    resultAt_eq_some_iff.mpr ⟨.pop a, a, h, rfl, ha, rfl⟩
  rw [sp_after_succ_eq, hresult, opensAt_of_executed h, closesAt_of_executed h]
  rfl

/-- The moves of the stack pointer add up to the depth. -/
theorem toNat_sp_after_succ (s : System δ) (k : Nat) :
    ((s.after (k + 1)).machine.sp.toNat : Int) =
      (((s.resultAt stackRegister k).getD (s.after k).machine.sp).toNat -
        (s.depth (k + 1) - s.depth k)) % 256 := by
  cases hi : s.executed k with
  | none =>
    have hlt := (s.after k).machine.sp.toNat_lt
    rw [after_succ_of_not_executed hi, resultAt_of_not_executed hi, Option.getD_none, depth, hi,
      Option.elim_none]
    omega
  | some i =>
    rw [sp_after_succ hi, resultAt_of_executed hi, depth_succ_of_executed hi,
      Table.row_stackRegister, Instruction.toNat_moved]
    omega

/-! ## All steps -/

/-- **Memory and registers hold what was written last.** After any number of steps, failing ones
included, a cell holds what the last push or call has stored whose stack pointer came down to it,
and a register other than the stack pointer holds the last result that was put there, or else both
hold what they held before. The stack pointer is off its last result, or off its start, by what the
stack has grown since then, modulo 256.

So from one step to the next a register other than the stack pointer changes only by an LDI, an ADD,
a MUL, an AND or a POP whose first operand names it. The stack pointer changes by such a result and
by one for each push, call, pop and return; a POP into the stack pointer leaves it at the popped
value plus one. -/
theorem last_writers (s : System δ) (n : Nat) :
    (∀ x, (s.after n).machine.read x = (origin (s.storeAt x) (s.machine.read x) n).2) ∧
    (∀ r, Registers.slot r ≠ Registers.slot stackRegister →
      (s.after n).machine.reg r = (origin (s.resultAt r) (s.machine.reg r) n).2 ∧
      ((s.after (n + 1)).machine.reg r ≠ (s.after n).machine.reg r →
        ∃ i a, s.executed n = some i ∧ i.opcode ∈ [Opcode.ldi, .add, .mul, .and, .pop] ∧
          i.target? = some a ∧ Registers.slot a = Registers.slot r)) ∧
    (∀ j v, origin (s.resultAt stackRegister) s.machine.sp n = (j, v) →
      ((s.after n).machine.sp.toNat : Int) = (v.toNat - (s.depth n - s.depth j)) % 256) ∧
    ((s.after (n + 1)).machine.sp =
      let v := (s.resultAt stackRegister n).getD (s.after n).machine.sp
      if s.opensAt n then v - 1 else if s.closesAt n then v + 1 else v) ∧
    ∀ a, s.executed n = some (.pop a) → Registers.slot a = Registers.slot stackRegister →
      (s.after (n + 1)).machine.sp = (s.after n).machine.top + 1 := by
  refine ⟨fun x => ?_, fun r hr => ⟨?_, fun hne => ?_⟩, fun j v hlast => ?_,
    sp_after_succ_eq s n, fun a he ha => sp_of_pop he ha⟩
  · exact eq_origin (fun k => (s.after k).machine.read x) (s.read_after_succ x) n
  · exact eq_origin (fun k => (s.after k).machine.reg r) (reg_after_succ hr s) n
  · obtain ⟨i, a, hi, ha, hslot⟩ := target?_of_reg_ne hr hne
    exact ⟨i, a, hi, Instruction.opcode_of_target? ha, ha, hslot⟩
  · exact toNat_of_origin (fun k => (s.after k).machine.sp) rfl s.toNat_sp_after_succ hlast

/-- A machine that pushes a value and pops it into the stack pointer. -/
def poppedPointer : System Silent where
  device := {}
  machine := { Machine.initial with
    memory := Memory.zeroed.store <|
      [Instruction.ldi 8 9, .push 0, .pop 15, .hlt].flatMap Instruction.bytes }

/-- The stack pointer comes from the pop, step 2, and has moved by one since then; what the pop has
found comes from the push, step 1. -/
theorem last_writers_poppedPointer :
    origin (poppedPointer.storeAt 0xF3) (poppedPointer.machine.read 0xF3) 4 = (1, 9) ∧
    origin (poppedPointer.resultAt stackRegister) poppedPointer.machine.sp 4 = (2, 9) ∧
      (poppedPointer.after 4).machine.read 0xF3 = 9 ∧
      ((poppedPointer.after 4).machine.sp.toNat : Int) = 10 := by
  have hcell : origin (poppedPointer.storeAt 0xF3) (poppedPointer.machine.read 0xF3) 4 =
      (1, 9) := by decide +kernel
  have hpointer : origin (poppedPointer.resultAt stackRegister) poppedPointer.machine.sp 4 =
      (2, 9) := by decide +kernel
  obtain ⟨hread, -, hsp, -⟩ := last_writers poppedPointer 4
  refine ⟨hcell, hpointer, ?_, ?_⟩
  · rw [hread, hcell]
  · exact (hsp 2 9 hpointer).trans (by decide +kernel)

end System

end ByteMachine
