/-!
# Instruction bytes

An instruction byte says by its bits how it is laid out:

```text
AABCDDDD
││││└┴┴┴─ which instruction
│││└───── the instruction sets the program counter itself
││└────── the arithmetic unit executes it
└┴─────── number of operand bytes that follow
```

Fourteen bytes are instructions; the layout bits can be read off any byte.

* `operandCount`, `setsPc` and `usesAlu` are the operations `operand_count`, `sets_pc` and
  `uses_alu`.
* `Opcode.ofByte?` and `Opcode.byte` are the operations `from_byte` and `byte`.

## Results

* `ofByte?_byte`, `byte_of_ofByte?`: encoding and decoding are inverse, so `ofByte?_eq_some_iff`.
-/

namespace ByteMachine

/-! ## Layout bits -/

/-- How many operand bytes follow an instruction byte: its top two bits. -/
def operandCount (b : UInt8) : UInt8 := b >>> 6

/-- Whether the instruction sets the program counter itself: bit 4. -/
def setsPc (b : UInt8) : Bool := (b >>> 4) &&& 1 != 0

/-- Whether the arithmetic unit executes the instruction: bit 5. -/
def usesAlu (b : UInt8) : Bool := (b >>> 5) &&& 1 != 0

/-! ## The instructions -/

/-- The instructions of the machine. -/
inductive Opcode
  /-- Halt. -/
  | hlt
  /-- Load an immediate byte into a register. -/
  | ldi
  /-- Print a register. -/
  | prn
  /-- Add two registers. -/
  | add
  /-- Multiply two registers. -/
  | mul
  /-- Compare two registers. -/
  | cmp
  /-- Bitwise and of two registers. -/
  | and
  /-- Push a register onto the stack. -/
  | push
  /-- Pop the stack into a register. -/
  | pop
  /-- Call the subroutine whose address a register holds. -/
  | call
  /-- Return from a subroutine. -/
  | ret
  /-- Jump to the address a register holds. -/
  | jmp
  /-- Jump if the last comparison found equality. -/
  | jeq
  /-- Jump if the last comparison did not find equality. -/
  | jne
deriving DecidableEq, Repr

namespace Opcode

/-- The instructions in the order of the instruction table. -/
def all : List Opcode :=
  [hlt, ldi, prn, add, mul, cmp, and, push, pop, call, ret, jmp, jeq, jne]

/-- The instruction byte. -/
def byte : Opcode → UInt8
  | hlt => 0b00000001
  | ldi => 0b10000010
  | prn => 0b01000111
  | add => 0b10100000
  | mul => 0b10100010
  | cmp => 0b10100111
  | and => 0b10101000
  | push => 0b01000101
  | pop => 0b01000110
  | call => 0b01010000
  | ret => 0b00010001
  | jmp => 0b01010100
  | jeq => 0b01010101
  | jne => 0b01010110

/-- The instruction that a byte stands for, if any. -/
def ofByte? (b : UInt8) : Option Opcode :=
  match b.toNat with
  | 0b00000001 => some hlt
  | 0b10000010 => some ldi
  | 0b01000111 => some prn
  | 0b10100000 => some add
  | 0b10100010 => some mul
  | 0b10100111 => some cmp
  | 0b10101000 => some and
  | 0b01000101 => some push
  | 0b01000110 => some pop
  | 0b01010000 => some call
  | 0b00010001 => some ret
  | 0b01010100 => some jmp
  | 0b01010101 => some jeq
  | 0b01010110 => some jne
  | _ => none

/-- How many operand bytes the instruction has. -/
def operands (op : Opcode) : UInt8 := operandCount op.byte

/-- The name of the instruction in assembly text. -/
def mnemonic : Opcode → String
  | hlt => "HLT"
  | ldi => "LDI"
  | prn => "PRN"
  | add => "ADD"
  | mul => "MUL"
  | cmp => "CMP"
  | and => "AND"
  | push => "PUSH"
  | pop => "POP"
  | call => "CALL"
  | ret => "RET"
  | jmp => "JMP"
  | jeq => "JEQ"
  | jne => "JNE"

instance : ToString Opcode := ⟨mnemonic⟩

/-! ## Encoding and decoding -/

@[simp] theorem ofByte?_byte (op : Opcode) : ofByte? op.byte = some op := by
  cases op <;> rfl

theorem byte_of_ofByte? {b : UInt8} {op : Opcode} (h : ofByte? b = some op) : op.byte = b := by
  apply UInt8.toNat_inj.mp
  unfold ofByte? at h
  split at h <;> cases h <;> simp_all [byte]

/-- **A byte stands for an instruction exactly when it is that instruction's byte.** -/
theorem ofByte?_eq_some_iff {b : UInt8} {op : Opcode} : ofByte? b = some op ↔ b = op.byte :=
  ⟨fun h => (byte_of_ofByte? h).symm, fun h => h ▸ ofByte?_byte op⟩

theorem byte_injective {p q : Opcode} (h : p.byte = q.byte) : p = q := by
  have := ofByte?_byte p
  rw [h, ofByte?_byte] at this
  exact (Option.some.inj this).symm

end Opcode

end ByteMachine
