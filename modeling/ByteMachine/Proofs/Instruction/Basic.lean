import ByteMachine.Memory
import ByteMachine.Opcode

/-!
# Instructions with their operands

An `Instruction` is an opcode together with exactly the operand bytes that it declares. Its `bytes`
are the opcode byte and then the operands, and `Memory.instruction?` reads an instruction back from
memory: it looks at the bytes that the instruction declares and at no other cell.

Results:
* `instruction?_eq_some_iff`: an instruction is read at an address exactly when its bytes stand
  there, wrapped around the end of memory.
* `instruction?_eq_map`: reading an instruction is decoding its first byte.
-/

namespace ByteMachine

/-- How many operands the instruction table gives an opcode. -/
def Opcode.arity : Opcode → Nat
  | hlt | ret => 0
  | prn | push | pop | call | jmp | jeq | jne => 1
  | ldi | add | mul | cmp | and => 2

/-- The layout bits of an opcode agree with the table. -/
theorem Opcode.arity_eq_operands (op : Opcode) : op.arity = op.operands.toNat := by
  cases op <;> decide

/-- An instruction with the operand bytes it declares. -/
inductive Instruction
  | hlt
  | ldi (a b : UInt8)
  | prn (a : UInt8)
  | add (a b : UInt8)
  | mul (a b : UInt8)
  | cmp (a b : UInt8)
  | and (a b : UInt8)
  | push (a : UInt8)
  | pop (a : UInt8)
  | call (a : UInt8)
  | ret
  | jmp (a : UInt8)
  | jeq (a : UInt8)
  | jne (a : UInt8)
deriving DecidableEq

namespace Instruction

/-- The opcode of the instruction. -/
def opcode : Instruction → Opcode
  | hlt => .hlt
  | ldi _ _ => .ldi
  | prn _ => .prn
  | add _ _ => .add
  | mul _ _ => .mul
  | cmp _ _ => .cmp
  | and _ _ => .and
  | push _ => .push
  | pop _ => .pop
  | call _ => .call
  | ret => .ret
  | jmp _ => .jmp
  | jeq _ => .jeq
  | jne _ => .jne

/-- The operand bytes. -/
def operands : Instruction → List UInt8
  | hlt | ret => []
  | prn a | push a | pop a | call a | jmp a | jeq a | jne a => [a]
  | ldi a b | add a b | mul a b | cmp a b | and a b => [a, b]

/-- The opcode byte and the operands behind it. -/
def bytes (i : Instruction) : List UInt8 := i.opcode.byte :: i.operands

/-- How many bytes the instruction takes. -/
def size (i : Instruction) : Nat := i.opcode.arity + 1

/-- The instruction that an opcode makes of the two bytes behind it. -/
def ofOpcode (op : Opcode) (a b : UInt8) : Instruction :=
  match op with
  | .hlt => hlt
  | .ldi => ldi a b
  | .prn => prn a
  | .add => add a b
  | .mul => mul a b
  | .cmp => cmp a b
  | .and => and a b
  | .push => push a
  | .pop => pop a
  | .call => call a
  | .ret => ret
  | .jmp => jmp a
  | .jeq => jeq a
  | .jne => jne a

theorem length_operands (i : Instruction) : i.operands.length = i.opcode.arity := by
  cases i <;> rfl

@[simp] theorem length_bytes (i : Instruction) : i.bytes.length = i.size := by
  rw [bytes, List.length_cons, length_operands, size]

theorem size_pos (i : Instruction) : 0 < i.size := Nat.succ_pos _

theorem size_le (i : Instruction) : i.size ≤ 3 := by
  cases i <;> simp [size, opcode, Opcode.arity]

@[simp] theorem opcode_ofOpcode (op : Opcode) (a b : UInt8) : (ofOpcode op a b).opcode = op := by
  cases op <;> rfl

/-- An instruction keeps as many of the two bytes as its opcode declares. -/
theorem operands_ofOpcode (op : Opcode) (a b : UInt8) :
    (ofOpcode op a b).operands = [a, b].take op.arity := by
  cases op <;> rfl

theorem bytes_ofOpcode (op : Opcode) (a b : UInt8) :
    (ofOpcode op a b).bytes = [op.byte, a, b].take (op.arity + 1) := by
  rw [bytes, opcode_ofOpcode, operands_ofOpcode, List.take_succ_cons]

theorem eq_ofOpcode (i : Instruction) :
    i = ofOpcode i.opcode (i.operands.getD 0 0) (i.operands.getD 1 0) := by
  cases i <;> rfl

/-- The bytes of an instruction say which instruction it is. -/
theorem bytes_injective {i j : Instruction} (h : i.bytes = j.bytes) : i = j := by
  obtain ⟨ho, ha⟩ := List.cons.inj h
  rw [eq_ofOpcode i, eq_ofOpcode j, Opcode.byte_injective ho, ha]

end Instruction

namespace Memory

/-- The `n` bytes from an address on, wrapped around the end of memory. -/
def slice (m : Memory) (pc : UInt8) (n : Nat) : List UInt8 :=
  (List.range n).map fun k => m.get (pc + UInt8.ofNat k)

/-- The instruction that stands at an address. Only the bytes that it declares are read. -/
def instruction? (m : Memory) (pc : UInt8) : Option Instruction :=
  match (m.get pc).toNat with
  | 0b00000001 => some .hlt
  | 0b10000010 => some (.ldi (m.get (pc + 1)) (m.get (pc + 2)))
  | 0b01000111 => some (.prn (m.get (pc + 1)))
  | 0b10100000 => some (.add (m.get (pc + 1)) (m.get (pc + 2)))
  | 0b10100010 => some (.mul (m.get (pc + 1)) (m.get (pc + 2)))
  | 0b10100111 => some (.cmp (m.get (pc + 1)) (m.get (pc + 2)))
  | 0b10101000 => some (.and (m.get (pc + 1)) (m.get (pc + 2)))
  | 0b01000101 => some (.push (m.get (pc + 1)))
  | 0b01000110 => some (.pop (m.get (pc + 1)))
  | 0b01010000 => some (.call (m.get (pc + 1)))
  | 0b00010001 => some .ret
  | 0b01010100 => some (.jmp (m.get (pc + 1)))
  | 0b01010101 => some (.jeq (m.get (pc + 1)))
  | 0b01010110 => some (.jne (m.get (pc + 1)))
  | _ => none

@[simp] theorem length_slice (m : Memory) (pc : UInt8) (n : Nat) : (m.slice pc n).length = n := by
  rw [slice, List.length_map, List.length_range]

theorem slice_of_le {m : Memory} (pc : UInt8) {n : Nat} (h : n ≤ 3) :
    m.slice pc n = [m.get pc, m.get (pc + 1), m.get (pc + 2)].take n := by
  have hr : List.range n = (List.range 3).take n := by
    rw [List.take_range, Nat.min_eq_left h]
  rw [slice, hr, List.map_take]
  congr 1
  simp [List.range_succ]

theorem instruction?_of_byte {m : Memory} {pc : UInt8} {op : Opcode} (h : m.get pc = op.byte) :
    m.instruction? pc = some (.ofOpcode op (m.get (pc + 1)) (m.get (pc + 2))) := by
  unfold instruction?
  rw [h]
  cases op <;> rfl

/-- The instruction at an address has its opcode byte there. -/
theorem get_of_instruction? {m : Memory} {pc : UInt8} {i : Instruction}
    (h : m.instruction? pc = some i) : m.get pc = i.opcode.byte := by
  unfold instruction? at h
  split at h
  case h_15 => cases h
  all_goals
    rename_i hb
    cases h
    exact UInt8.toNat_inj.mp hb

/-- **Reading an instruction is decoding its first byte** and taking the operands behind it. -/
theorem instruction?_eq_map (m : Memory) (pc : UInt8) :
    m.instruction? pc =
      (Opcode.ofByte? (m.get pc)).map (.ofOpcode · (m.get (pc + 1)) (m.get (pc + 2))) := by
  cases h : Opcode.ofByte? (m.get pc) with
  | some op => exact instruction?_of_byte (Opcode.ofByte?_eq_some_iff.mp h)
  | none =>
    cases hi : m.instruction? pc with
    | none => rfl
    | some i =>
      rw [get_of_instruction? hi, Opcode.ofByte?_byte] at h
      exact absurd h (by simp)

/-- **An instruction is read at an address exactly when its bytes stand there.** -/
theorem instruction?_eq_some_iff {m : Memory} {pc : UInt8} {i : Instruction} :
    m.instruction? pc = some i ↔ m.slice pc i.size = i.bytes := by
  constructor
  · intro h
    have hb := get_of_instruction? h
    have e := instruction?_of_byte hb
    rw [h, Option.some.injEq] at e
    rw [slice_of_le pc i.size_le, hb]
    conv => rhs; rw [e, Instruction.bytes_ofOpcode]
    rfl
  · intro h
    have hb : m.get pc = i.opcode.byte := by
      rw [slice_of_le pc i.size_le, Instruction.size, Instruction.bytes, List.take_succ_cons] at h
      exact (List.cons.inj h).1
    rw [instruction?_of_byte hb, Option.some.injEq]
    apply Instruction.bytes_injective
    rw [Instruction.bytes_ofOpcode, ← h, slice_of_le pc i.size_le, hb]
    rfl

end Memory

end ByteMachine
