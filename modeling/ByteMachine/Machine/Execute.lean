import ByteMachine.Machine.Basic
import ByteMachine.Opcode

/-!
# What an instruction does to the machine

`Machine.execute` is the effect of one instruction on the machine alone, with a case for each of the
handlers `hlt`, `ldi`, `prn`, `add` and so on up to `jne`. Printing leaves the machine as it is,
because what it does beyond that is up to the device, and halting ends the run. `Machine.advance`
then moves the program counter past the instruction, unless the layout bits of its byte say that the
instruction has set the program counter itself.

## Results

* `advance_of_setsPc`, `advance_of_not_setsPc`: the two cases of moving on.
-/

namespace ByteMachine.Machine

/-- The effect of an instruction with operand bytes `a` and `b` on the machine.

A push moves the stack pointer before it reads its register, and a pop moves it after it wrote
its register, so both see the moved stack pointer when their register is the stack pointer. A call
reads its target after it moved the stack pointer. -/
def execute (op : Opcode) (a b : UInt8) (m : Machine) : Machine :=
  match op with
  | .hlt => m.stop
  | .ldi => m.setReg a b
  | .prn => m
  | .add => m.alu .add a b
  | .mul => m.alu .mul a b
  | .cmp => m.alu .cmp a b
  | .and => m.alu .and a b
  | .push => m.reserve.write m.reserve.sp (m.reserve.reg a)
  | .pop => (m.setReg a m.top).release
  | .call => (m.reserve.write m.reserve.sp (m.pc + 2)).jump (m.reserve.reg a)
  | .ret => (m.jump m.top).release
  | .jmp => m.jump (m.reg a)
  | .jeq => m.jump (if m.flags = .equal then m.reg a else m.pc + 2)
  | .jne => m.jump (if m.flags.isEqual then m.pc + 2 else m.reg a)

/-- Moves the program counter past the instruction with byte `ir`, unless the instruction sets the
program counter itself. -/
def advance (ir : UInt8) (m : Machine) : Machine :=
  if setsPc ir then m else m.jump (m.pc + (operandCount ir + 1))

theorem advance_of_setsPc {ir : UInt8} (h : setsPc ir = true) (m : Machine) : m.advance ir = m :=
  if_pos h

theorem advance_of_not_setsPc {ir : UInt8} (h : setsPc ir = false) (m : Machine) :
    m.advance ir = m.jump (m.pc + (operandCount ir + 1)) :=
  if_neg (by simp [h])

end ByteMachine.Machine
