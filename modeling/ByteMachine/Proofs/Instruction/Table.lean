import ByteMachine.Device.Recorded
import ByteMachine.Proofs.Instruction.Basic
import ByteMachine.Proofs.Steps

/-!
# The instruction table

The instruction table gives one row to every instruction: what becomes of memory, registers and
flags, and at which address the next instruction stands. `Table.row` is the table for the machine
alone, `Table.perform` adds the device, and `Table.step` is the interpreter that the table
describes.

* Only the bytes that an instruction declares are read (`Memory.instruction?`).
* A register operand names the register of its low three bits (`Table.register`).
* Every row writes the address of the next instruction out; nothing is read off the layout bits.

Results:
* `row_eq_advance`: executing an instruction and moving on by the layout bits is its row.
* `step_eq_table_step`: one step of the machine is one step of that interpreter.
* `repeated_step_eq_table`: any number of steps gives the same answers, the same machine, the same
  device and the same calls to the device as by the table.
-/

namespace ByteMachine

namespace Table

/-- The register that an operand names: its low three bits. -/
def register (a : UInt8) : Fin 8 := ⟨(a &&& 0b111).toNat, by
  rw [UInt8.toNat_and]
  exact Nat.lt_of_le_of_lt Nat.and_le_right (by decide)⟩

/-- The value of a register. -/
def value (r : Registers) (k : Fin 8) : UInt8 := r.cells.get k

/-- Puts a value into a register. -/
def put (r : Registers) (k : Fin 8) (v : UInt8) : Registers := ⟨r.cells.set k.val v k.isLt⟩

/-- The mark of a comparison, by the order of the values as numbers. -/
def mark (x y : UInt8) : Flags :=
  match compare x.toNat y.toNat with
  | .lt => ⟨0b0100⟩
  | .gt => ⟨0b0010⟩
  | .eq => ⟨0b0001⟩

/-- The row of an instruction: the machine after it. -/
def row (i : Instruction) (m : Machine) : Machine :=
  let r := m.registers
  match i with
  | .hlt => { m with running := false, pc := m.pc + 1 }
  | .ldi a b => { m with registers := put r (register a) b, pc := m.pc + 3 }
  | .prn _ => { m with pc := m.pc + 2 }
  | .add a b =>
    { m with
      registers := put r (register a) (value r (register a) + value r (register b))
      pc := m.pc + 3 }
  | .mul a b =>
    { m with
      registers := put r (register a) (value r (register a) * value r (register b))
      pc := m.pc + 3 }
  | .cmp a b =>
    { m with flags := mark (value r (register a)) (value r (register b)), pc := m.pc + 3 }
  | .and a b =>
    { m with
      registers := put r (register a) (value r (register a) &&& value r (register b))
      pc := m.pc + 3 }
  | .push a =>
    let pushed := put r 7 (value r 7 - 1)
    { m with
      registers := pushed
      memory := m.memory.set (value r 7 - 1) (value pushed (register a))
      pc := m.pc + 2 }
  | .pop a =>
    let popped := put r (register a) (m.memory.get (value r 7))
    { m with registers := put popped 7 (value popped 7 + 1), pc := m.pc + 2 }
  | .call a =>
    let pushed := put r 7 (value r 7 - 1)
    { m with
      registers := pushed
      memory := m.memory.set (value r 7 - 1) (m.pc + 2)
      pc := value pushed (register a) }
  | .ret =>
    { m with registers := put r 7 (value r 7 + 1), pc := m.memory.get (value r 7) }
  | .jmp a => { m with pc := value r (register a) }
  | .jeq a =>
    { m with pc := if m.flags.bits = 0b0001 then value r (register a) else m.pc + 2 }
  | .jne a =>
    { m with pc := if m.flags.bits &&& 0b0001 = 0 then value r (register a) else m.pc + 2 }

variable {δ : Type} [Device δ]

/-- The row of an instruction with a device: a print offers the value before anything else
happens and ends the run if it is refused, and a halt is reported by the stopped machine. -/
def perform (i : Instruction) (s : System δ) : System δ :=
  match i with
  | .hlt => ⟨row .hlt s.machine, Device.halt { s.machine with running := false } s.device⟩
  | .prn a =>
    let answer := Device.print s.machine (value s.machine.registers (register a)) s.device
    ⟨{ row (.prn a) s.machine with running := s.machine.running && answer.1 }, answer.2⟩
  | i => ⟨row i s.machine, s.device⟩

/-- One instruction by the table. -/
def step (s : System δ) : Except Fault Unit × System δ :=
  match s.machine.memory.instruction? s.machine.pc with
  | none => (.error (.unknownOpcode (s.machine.memory.get s.machine.pc) s.machine.pc), s)
  | some i => (.ok (), perform i s)

/-! ## The table in the machine's own terms -/

theorem slot_eq_register (a : UInt8) : Registers.slot a = register a :=
  Fin.ext (Registers.slot_val_eq_and a)

theorem register_stack : register Machine.stackRegister = 7 := by decide

@[simp] theorem value_register (r : Registers) (a : UInt8) : value r (register a) = r.get a := by
  rw [← slot_eq_register]
  rfl

theorem value_eq_reg (m : Machine) (a : UInt8) : value m.registers (register a) = m.reg a :=
  value_register m.registers a

@[simp] theorem put_register (r : Registers) (a v : UInt8) :
    put r (register a) v = r.set a v := by
  rw [← slot_eq_register]
  rfl

@[simp] theorem value_seven (r : Registers) : value r 7 = r.get Machine.stackRegister := by
  rw [← register_stack, value_register]

@[simp] theorem put_seven (r : Registers) (v : UInt8) :
    put r 7 v = r.set Machine.stackRegister v := by
  rw [← register_stack, put_register]

theorem mark_eq_compare (x y : UInt8) : mark x y = .compare x y := by
  unfold mark
  rcases Flags.compare_cases x y with ⟨h, e⟩ | ⟨h, e⟩ | ⟨rfl, e⟩
  · rw [e, Nat.compare_eq_lt.mpr h]
    rfl
  · rw [e, Nat.compare_eq_gt.mpr h]
    rfl
  · rw [e, Nat.compare_eq_eq.mpr rfl]
    rfl

theorem bits_eq_one_iff (f : Flags) : f.bits = 1 ↔ f = .equal := by
  obtain ⟨bits⟩ := f
  simp [Flags.equal]

/-- Testing that the equal bit is clear is the opposite of testing that it is set. -/
theorem ite_bits_and_one (f : Flags) (x y : UInt8) :
    (if f.bits &&& 1 = 0 then x else y) = if f.isEqual then y else x := by
  unfold Flags.isEqual Flags.equal
  by_cases h : f.bits &&& 1 = 0 <;> simp [h]

/-! ## The layout bits and the table -/

/-- Whether the row of an opcode writes an address of its own choice. -/
def transfers : Opcode → Bool
  | .call | .ret | .jmp | .jeq | .jne => true
  | _ => false

theorem setsPc_byte (op : Opcode) : setsPc op.byte = transfers op := by
  cases op <;> decide

theorem operandCount_byte (op : Opcode) : operandCount op.byte = UInt8.ofNat op.arity := by
  cases op <;> decide

/-- **The row of an instruction is executing it and moving on by the layout bits.** -/
theorem row_eq_advance (op : Opcode) (a b : UInt8) (m : Machine) :
    row (.ofOpcode op a b) m = (m.execute op a b).advance op.byte := by
  cases h : transfers op with
  | true =>
    -- the instruction has written the next address itself, wherever it leads
    rw [Machine.advance_of_setsPc ((setsPc_byte op).trans h)]
    cases op <;> try contradiction
    all_goals
      simp [row, Instruction.ofOpcode, Machine.execute, Machine.jump, Machine.reserve,
        Machine.release, Machine.top, Machine.read, Machine.sp, Machine.reg, Machine.setReg,
        Machine.write, bits_eq_one_iff, ite_bits_and_one]
  | false =>
    -- the next address is behind the declared operands
    rw [Machine.advance_of_not_setsPc ((setsPc_byte op).trans h), operandCount_byte]
    cases op <;> try contradiction
    all_goals
      simp [row, Instruction.ofOpcode, Machine.execute, Machine.jump, Machine.reserve,
        Machine.release, Machine.top, Machine.read, Machine.sp, Machine.reg, Machine.setReg,
        Machine.write, Machine.alu, Machine.stop, Opcode.arity, mark_eq_compare]

/-- **With a device, too:** performing an opcode and moving on is the row of its instruction. -/
theorem perform_ofOpcode (op : Opcode) (a b : UInt8) (s : System δ) :
    perform (.ofOpcode op a b) s =
      ⟨(s.perform op a b).machine.advance op.byte, (s.perform op a b).device⟩ := by
  by_cases hp : op = .prn
  · subst hp
    have hstop : s.machine.stop.advance Opcode.prn.byte =
        { row (.prn a) s.machine with running := false } := by
      rw [Machine.advance_of_not_setsPc (setsPc_byte .prn), operandCount_byte]
      rfl
    have hrow : s.machine.advance Opcode.prn.byte = row (.prn a) s.machine :=
      (row_eq_advance .prn a b s.machine).symm
    simp only [perform, Instruction.ofOpcode, System.perform, value_eq_reg]
    generalize Device.print s.machine (s.machine.reg a) s.device = answer
    obtain ⟨accepted, device⟩ := answer
    cases accepted with
    | true =>
      rw [if_pos rfl, hrow]
      simp [row]
    | false =>
      rw [if_neg Bool.false_ne_true, hstop]
      simp
  by_cases hh : op = .hlt
  · subst hh
    have hrow : s.machine.stop.advance Opcode.hlt.byte = row .hlt s.machine :=
      (row_eq_advance .hlt a b s.machine).symm
    simp only [perform, Instruction.ofOpcode, System.perform, hrow]
    rfl
  · rw [System.perform_of_ne hp hh, ← row_eq_advance]
    cases op <;> first | contradiction | rfl

/-- **One step of the machine is one step by the table.** -/
theorem step_eq_table_step (s : System δ) : s.step = step s := by
  unfold step
  cases h : Opcode.ofByte? (s.machine.read s.machine.pc) with
  | none =>
    have hi : s.machine.memory.instruction? s.machine.pc = none := by
      rw [Memory.instruction?_eq_map]
      exact congrArg (Option.map _) h
    rw [System.step_of_none h, hi]
    rfl
  | some op =>
    have hb := Opcode.ofByte?_eq_some_iff.mp h
    rw [System.step_of_some h, Memory.instruction?_of_byte hb]
    exact congrArg (Prod.mk _) (perform_ofOpcode op _ _ s).symm

/-- **The machine refines the instruction table.** For every machine, every device and every `n`,
`n` steps give the same answers and lead to the same machine and device as `n` steps by the table;
with the calls to the device recorded, those are the same, too. -/
theorem repeated_step_eq_table (n : Nat) (s : System δ) (calls : Array Call) :
    repeated System.step n s = repeated step n s ∧
      repeated System.step n (⟨s.machine, ⟨s.device, calls⟩⟩ : System (Recorded δ)) =
        repeated step n ⟨s.machine, ⟨s.device, calls⟩⟩ := by
  have plain : (System.step : System δ → _) = step := funext step_eq_table_step
  have recorded : (System.step : System (Recorded δ) → _) = step := funext step_eq_table_step
  rw [plain, recorded]
  exact ⟨rfl, rfl⟩

end Table

end ByteMachine
