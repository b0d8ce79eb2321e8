import ByteMachine.Proofs.Instruction.Table

/-!
# What instructions do to the parts of the machine

The rows of the instruction table, read part by part: which register takes a result, what is
stored on the stack, where the stack pointer goes, which instruction comes next.

* `Instruction.target?` is the register operand that takes the `result` of an instruction, and
  `Instruction.result?` is the result as one of the registers sees it.
* `Instruction.opens` and `Instruction.closes` say which instructions store on the stack and which
  take from it; `Instruction.stored` is the byte that is stored, and `Instruction.moved` is where
  the stack pointer goes.
* `Instruction.branch?` is the address that an instruction goes to when it does not go on to the
  instruction behind it.

Results:
* `row_memory`, `row_registers`, `row_pc`, `row_flags`: the parts of a row.
* `row_reg`, `row_stackRegister`, `row_sp`: what becomes of one register, of the stack pointer, and
  of a stack pointer that no result goes to.
* `step_of_instruction?`, `after_succ_of_executed`: a step executes the instruction at the program
  counter and nothing else; `machine_after_succ` and its parts say what the machine is after it.
-/

namespace ByteMachine

namespace Instruction

/-- The register operand that the result goes to. -/
def target? : Instruction → Option UInt8
  | ldi a _ | add a _ | mul a _ | and a _ | pop a => some a
  | _ => none

/-- What the register of `target?` is given. -/
def result (i : Instruction) (m : Machine) : UInt8 :=
  match i with
  | ldi _ b => b
  | add a b => m.reg a + m.reg b
  | mul a b => m.reg a * m.reg b
  | and a b => m.reg a &&& m.reg b
  | pop _ => m.top
  | _ => 0

/-- The registers with the result in place. -/
def withResult (i : Instruction) (m : Machine) : Registers :=
  match i.target? with
  | some a => m.registers.set a (i.result m)
  | none => m.registers

/-- What the register of `r` is given, if the result goes there. -/
def result? (i : Instruction) (m : Machine) (r : UInt8) : Option UInt8 :=
  match i.target? with
  | some a => if Registers.slot a = Registers.slot r then some (i.result m) else none
  | none => none

/-- The instruction stores a byte on the stack. -/
def opens : Instruction → Bool
  | push _ | call _ => true
  | _ => false

/-- The instruction takes a byte from the stack. -/
def closes : Instruction → Bool
  | ret | pop _ => true
  | _ => false

/-- Where the instruction moves a stack pointer. -/
def moved (i : Instruction) (v : UInt8) : UInt8 :=
  if i.opens then v - 1 else if i.closes then v + 1 else v

/-- The byte that a push or a call stores: a push reads its register after the stack pointer has
moved, and a call stores the address behind itself. -/
def stored (i : Instruction) (m : Machine) : UInt8 :=
  match i with
  | push a => m.reserve.reg a
  | call _ => m.pc + 2
  | _ => 0

/-- No result goes to the stack pointer. -/
def sparesStack (i : Instruction) : Bool :=
  i.target?.all fun a => Registers.slot a != Registers.slot Machine.stackRegister

/-- The address that the instruction goes to, unless that is the instruction behind it. -/
def branch? (i : Instruction) (m : Machine) : Option UInt8 :=
  match i with
  | ret => some m.top
  | call a => some (m.reserve.reg a)
  | jmp a => some (m.reg a)
  | jeq a => if m.flags = .equal then some (m.reg a) else none
  | jne a => if m.flags.isEqual then none else some (m.reg a)
  | _ => none

theorem result?_eq_some_iff {i : Instruction} {m : Machine} {r v : UInt8} :
    i.result? m r = some v ↔
      ∃ a, i.target? = some a ∧ Registers.slot a = Registers.slot r ∧ i.result m = v := by
  unfold result?
  cases i.target? with
  | none => simp
  | some a => simp

theorem result?_of_sparesStack {i : Instruction} (h : i.sparesStack = true) (m : Machine) :
    i.result? m Machine.stackRegister = none := by
  unfold sparesStack at h
  unfold result?
  cases ha : i.target? with
  | none => rfl
  | some a =>
    rw [ha, Option.all_some, bne_iff_ne] at h
    exact if_neg h

/-- Results come from five opcodes. -/
theorem opcode_of_target? {i : Instruction} {a : UInt8} (h : i.target? = some a) :
    i.opcode ∈ [Opcode.ldi, .add, .mul, .and, .pop] := by
  cases i <;> simp [target?, opcode] at h ⊢

end Instruction

namespace Table

open Machine (stackRegister)

/-! ## The parts of a row -/

/-- **Only pushes and calls write to memory**, and only the cell below the stack. -/
theorem row_memory (i : Instruction) (m : Machine) :
    (row i m).memory =
      if i.opens then m.memory.set (m.sp - 1) (i.stored m) else m.memory := by
  cases i <;>
    simp [row, Instruction.opens, Instruction.stored, Machine.reserve, Machine.sp, Machine.reg,
      Machine.setReg]

/-- **A register changes by a result, or as the stack pointer.** -/
theorem row_registers (i : Instruction) (m : Machine) :
    (row i m).registers =
      let r := i.withResult m
      if i.opens then r.set stackRegister (r.get stackRegister - 1)
      else if i.closes then r.set stackRegister (r.get stackRegister + 1)
      else r := by
  cases i <;>
    simp [row, Instruction.opens, Instruction.closes, Instruction.withResult, Instruction.target?,
      Instruction.result, Machine.reg, Machine.top, Machine.read, Machine.sp]

/-- **An instruction goes on to the one behind it**, unless it branches. -/
theorem row_pc (i : Instruction) (m : Machine) :
    (row i m).pc = (i.branch? m).getD (m.pc + UInt8.ofNat i.size) := by
  cases i with
  | jeq a =>
    simp only [row, Instruction.branch?, bits_eq_one_iff, value_eq_reg]
    split <;> rfl
  | jne a =>
    simp only [row, Instruction.branch?, ite_bits_and_one, value_eq_reg]
    split <;> rfl
  | _ =>
    simp [row, Instruction.branch?, Instruction.size, Instruction.opcode, Opcode.arity,
      Machine.reg, Machine.reserve, Machine.sp, Machine.setReg, Machine.top, Machine.read]

/-- **Only a comparison writes the flags.** -/
theorem row_flags (i : Instruction) (m : Machine) :
    (row i m).flags = match i with
      | .cmp a b => .compare (m.reg a) (m.reg b)
      | _ => m.flags := by
  cases i <;> simp [row, mark_eq_compare, Machine.reg]

theorem get_withResult (i : Instruction) (m : Machine) (r : UInt8) :
    (i.withResult m).get r = (i.result? m r).getD (m.reg r) := by
  unfold Instruction.withResult Instruction.result?
  cases i.target? with
  | none => rfl
  | some a =>
    simp only [Registers.get_set]
    split
    · rfl
    · rfl

/-- **A register other than the stack pointer takes results and nothing else.** -/
theorem row_reg {r : UInt8} (hr : Registers.slot r ≠ Registers.slot stackRegister)
    (i : Instruction) (m : Machine) : (row i m).reg r = (i.result? m r).getD (m.reg r) := by
  have hset : ∀ v, ((i.withResult m).set stackRegister v).get r = (i.withResult m).get r :=
    fun v => Registers.get_set_of_ne _ _ hr.symm
  rw [← get_withResult, Machine.reg, row_registers]
  split
  · exact hset _
  · split
    · exact hset _
    · rfl

/-- **The stack pointer takes results, too, and moves after that.** -/
theorem row_stackRegister (i : Instruction) (m : Machine) :
    (row i m).sp = i.moved ((i.result? m stackRegister).getD m.sp) := by
  rw [Machine.sp, Machine.sp, ← get_withResult, Machine.reg, row_registers]
  unfold Instruction.moved
  split
  · exact Registers.get_set_self _ _ _
  · split
    · exact Registers.get_set_self _ _ _
    · rfl

/-- The stack pointer moves down with a push or a call and up with a pop or a return, as long as no
result goes to it. -/
theorem row_sp {i : Instruction} (h : i.sparesStack = true) (m : Machine) :
    (row i m).sp = if i.opens then m.sp - 1 else if i.closes then m.sp + 1 else m.sp := by
  rw [row_stackRegister, Instruction.result?_of_sparesStack h, Option.getD_none]
  rfl

variable {δ : Type} [Device δ]

/-- A device decides about the running mark and nothing else of the machine. -/
theorem perform_machine (i : Instruction) (s : System δ) :
    ∃ running, (perform i s).machine = { row i s.machine with running } := by
  cases i
  case prn => exact ⟨_, rfl⟩
  all_goals exact ⟨_, rfl⟩

end Table

namespace System

variable {δ : Type} [Device δ]

/-- The instruction at the program counter. -/
def instruction? (s : System δ) : Option Instruction :=
  s.machine.memory.instruction? s.machine.pc

/-- The instruction that is executed after `k` steps. -/
def executed (s : System δ) (k : Nat) : Option Instruction := (s.after k).instruction?

/-- Step `k` stores a byte on the stack. -/
def opensAt (s : System δ) (k : Nat) : Bool := (s.executed k).any Instruction.opens

/-- Step `k` takes a byte from the stack. -/
def closesAt (s : System δ) (k : Nat) : Bool := (s.executed k).any Instruction.closes

theorem opensAt_of_executed {s : System δ} {k : Nat} {i : Instruction} (h : s.executed k = some i) :
    s.opensAt k = i.opens := by
  simp [opensAt, h]

theorem closesAt_of_executed {s : System δ} {k : Nat} {i : Instruction}
    (h : s.executed k = some i) : s.closesAt k = i.closes := by
  simp [closesAt, h]

theorem step_of_instruction? {s : System δ} {i : Instruction} (h : s.instruction? = some i) :
    s.step = (.ok (), Table.perform i s) := by
  rw [Table.step_eq_table_step, Table.step]
  unfold instruction? at h
  rw [h]

theorem step_of_not_instruction? {s : System δ} (h : s.instruction? = none) :
    s.step = (.error (.unknownOpcode (s.machine.read s.machine.pc) s.machine.pc), s) := by
  rw [Table.step_eq_table_step, Table.step]
  unfold instruction? at h
  rw [h]
  rfl

/-- **A step succeeds exactly at an instruction.** -/
theorem step_fst_ok_iff {s : System δ} : s.step.1 = .ok () ↔ ∃ i, s.instruction? = some i := by
  constructor
  · intro h
    cases hi : s.instruction? with
    | some i => exact ⟨i, rfl⟩
    | none =>
      rw [step_of_not_instruction? hi] at h
      exact absurd h (by simp)
  · rintro ⟨i, hi⟩
    rw [step_of_instruction? hi]

theorem succeeds_iff {s : System δ} {n : Nat} :
    s.Succeeds n ↔ ∀ k < n, (s.executed k).isSome = true := by
  unfold Succeeds executed
  simp only [step_fst_ok_iff, Option.isSome_iff_exists]

/-- **The next step performs the instruction at the program counter.** -/
theorem after_succ_of_executed {s : System δ} {k : Nat} {i : Instruction}
    (h : s.executed k = some i) : s.after (k + 1) = Table.perform i (s.after k) := by
  rw [after_succ, step_of_instruction? h]

/-- The machine after a step is the row of the instruction, but for the running mark. -/
theorem machine_after_succ {s : System δ} {k : Nat} {i : Instruction} (h : s.executed k = some i) :
    ∃ running, (s.after (k + 1)).machine = { Table.row i (s.after k).machine with running } := by
  rw [after_succ_of_executed h]
  exact Table.perform_machine i (s.after k)

theorem memory_after_succ {s : System δ} {k : Nat} {i : Instruction} (h : s.executed k = some i) :
    (s.after (k + 1)).machine.memory = (Table.row i (s.after k).machine).memory := by
  obtain ⟨running, hm⟩ := machine_after_succ h
  rw [hm]

theorem registers_after_succ {s : System δ} {k : Nat} {i : Instruction}
    (h : s.executed k = some i) :
    (s.after (k + 1)).machine.registers = (Table.row i (s.after k).machine).registers := by
  obtain ⟨running, hm⟩ := machine_after_succ h
  rw [hm]

theorem pc_after_succ {s : System δ} {k : Nat} {i : Instruction} (h : s.executed k = some i) :
    (s.after (k + 1)).machine.pc = (Table.row i (s.after k).machine).pc := by
  obtain ⟨running, hm⟩ := machine_after_succ h
  rw [hm]

theorem sp_after_succ {s : System δ} {k : Nat} {i : Instruction} (h : s.executed k = some i) :
    (s.after (k + 1)).machine.sp = (Table.row i (s.after k).machine).sp := by
  rw [Machine.sp, Machine.reg, registers_after_succ h]
  rfl

/-- Without an instruction at the program counter, a step leads nowhere. -/
theorem after_succ_of_not_executed {s : System δ} {k : Nat} (h : s.executed k = none) :
    s.after (k + 1) = s.after k := by
  rw [after_succ, step_of_not_instruction? h]

end System

end ByteMachine
