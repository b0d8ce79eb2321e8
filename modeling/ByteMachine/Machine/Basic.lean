import ByteMachine.Memory
import ByteMachine.Registers
import ByteMachine.Flags

/-!
# The machine

Memory, registers, the address of the next instruction, condition flags, and whether the machine
is running. Register 7 is the stack pointer; the stack grows downward and wraps around.

* `Machine.reserve` moves the stack pointer down and `Machine.release` moves it up.
* `Machine.reg` and `Machine.setReg` are the operations `reg` and `set_reg`.
* `Machine.alu`, the operation `alu`, performs an arithmetic operation on two registers; the first
  one takes the result.
* `Machine.fetch` reads the three bytes at the program counter.
-/

namespace ByteMachine

/-- The state of the machine. -/
@[ext] structure Machine where
  memory : Memory
  registers : Registers
  /-- The address of the next instruction. -/
  pc : UInt8
  flags : Flags
  /-- Whether a run goes on after the current instruction. -/
  running : Bool
deriving DecidableEq

/-- The operations of the arithmetic unit. -/
inductive AluOp
  | add
  | mul
  | cmp
  | and
deriving DecidableEq, Repr

/-- The bytes that are read before an instruction is executed. -/
structure Fetch where
  opcode : UInt8
  first : UInt8
  second : UInt8
deriving DecidableEq

namespace Machine

/-- The register that holds the stack pointer. -/
def stackRegister : UInt8 := 7

/-- Where the stack pointer starts. -/
def stackStart : UInt8 := 0xF4

/-- A machine with zeroed memory and an empty stack, not running. -/
def initial : Machine where
  memory := .zeroed
  registers := Registers.zeroed.set stackRegister stackStart
  pc := 0
  flags := .cleared
  running := false

/-! ## Memory and registers -/

/-- The byte at an address. -/
def read (m : Machine) (a : UInt8) : UInt8 := m.memory.get a

/-- Puts a byte at an address. -/
def write (m : Machine) (a v : UInt8) : Machine := { m with memory := m.memory.set a v }

/-- The value of a register. -/
def reg (m : Machine) (i : UInt8) : UInt8 := m.registers.get i

/-- Puts a value into a register. -/
def setReg (m : Machine) (i v : UInt8) : Machine := { m with registers := m.registers.set i v }

/-- The stack pointer. -/
def sp (m : Machine) : UInt8 := m.reg stackRegister

/-- Moves the program counter. -/
def jump (m : Machine) (a : UInt8) : Machine := { m with pc := a }

/-- Ends the run. -/
def stop (m : Machine) : Machine := { m with running := false }

/-- Begins a run. -/
def start (m : Machine) : Machine := { m with running := true }

/-! ## The stack -/

/-- Moves the stack pointer down by one cell. -/
def reserve (m : Machine) : Machine := m.setReg stackRegister (m.sp - 1)

/-- Moves the stack pointer up by one cell. -/
def release (m : Machine) : Machine := m.setReg stackRegister (m.sp + 1)

/-- The byte the stack pointer points at. -/
def top (m : Machine) : UInt8 := m.read m.sp

/-! ## The arithmetic unit -/

/-- Performs an operation on the registers `a` and `b`. Arithmetic wraps around; the first register
takes the result, and a comparison writes the flags only. -/
def alu (op : AluOp) (a b : UInt8) (m : Machine) : Machine :=
  match op with
  | .add => m.setReg a (m.reg a + m.reg b)
  | .mul => m.setReg a (m.reg a * m.reg b)
  | .and => m.setReg a (m.reg a &&& m.reg b)
  | .cmp => { m with flags := .compare (m.reg a) (m.reg b) }

/-! ## Fetching -/

/-- The byte at the program counter and the two after it. Both operand bytes are read whether or
not the instruction has that many. -/
def fetch (m : Machine) : Fetch := ⟨m.read m.pc, m.read (m.pc + 1), m.read (m.pc + 2)⟩

/-! ## What the operations leave alone -/

@[simp] theorem read_write_self (m : Machine) (a v : UInt8) : (m.write a v).read a = v :=
  m.memory.get_set_self a v

theorem read_write (m : Machine) (a b v : UInt8) :
    (m.write a v).read b = if a = b then v else m.read b :=
  m.memory.get_set a b v

@[simp] theorem sp_initial : initial.sp = stackStart :=
  Registers.zeroed.get_set_self stackRegister stackStart

end Machine

end ByteMachine
