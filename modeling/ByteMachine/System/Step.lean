import ByteMachine.Machine.Execute
import ByteMachine.Device.Basic
import ByteMachine.Text.Hex

/-!
# One instruction

A `System` is a machine with a device attached. `System.step`, the operation `step`, executes the
instruction at the program counter; a byte that is no instruction is a `Fault`, and then nothing
changes.

## Results

* `perform_of_ne`: only printing and halting reach the device.
* `step_of_none`, `step_of_some`: the two ways a step can go.
* `step_fst_error_iff`: exactly the bytes that are no instruction are faults.
-/

namespace ByteMachine

/-- Why a machine cannot go on. -/
inductive Fault
  /-- The byte `opcode` at `address` is no instruction. -/
  | unknownOpcode (opcode address : UInt8)
deriving DecidableEq

/-- The fault in words; both bytes have two lower-case digits. -/
def Fault.message : Fault → String
  | unknownOpcode opcode address =>
    "unknown opcode 0x" ++ String.ofList (Text.Hex.lower opcode) ++ " at address 0x" ++
      String.ofList (Text.Hex.lower address)

/-- A machine with a device attached. -/
@[ext] structure System (δ : Type) where
  machine : Machine
  device : δ

namespace System

variable {δ : Type}

/-- The same device on a machine that begins a run. -/
def start (s : System δ) : System δ := { s with machine := s.machine.start }

/-- The same device on a machine whose run has ended. -/
def stop (s : System δ) : System δ := { s with machine := s.machine.stop }

variable [Device δ]

/-- The effect of an instruction on machine and device.

A print hands its register to the device while the machine still runs, and a refusal ends the run.
A halt ends the run before the device learns of it. -/
def perform (op : Opcode) (a b : UInt8) (s : System δ) : System δ :=
  match op with
  | .prn =>
    let (accepted, device) := Device.print s.machine (s.machine.reg a) s.device
    ⟨if accepted then s.machine else s.machine.stop, device⟩
  | .hlt => ⟨s.machine.stop, Device.halt s.machine.stop s.device⟩
  | op => ⟨s.machine.execute op a b, s.device⟩

/-- Executes the instruction at the program counter. -/
def step (s : System δ) : Except Fault Unit × System δ :=
  let fetched := s.machine.fetch
  match Opcode.ofByte? fetched.opcode with
  | none => (.error (.unknownOpcode fetched.opcode s.machine.pc), s)
  | some op =>
    let s := s.perform op fetched.first fetched.second
    (.ok (), { s with machine := s.machine.advance fetched.opcode })

/-! ## How a step can go -/

/-- Only printing and halting reach the device. -/
theorem perform_of_ne {op : Opcode} (hp : op ≠ .prn) (hh : op ≠ .hlt) (a b : UInt8)
    (s : System δ) : s.perform op a b = ⟨s.machine.execute op a b, s.device⟩ := by
  cases op <;> first | contradiction | rfl

theorem step_of_none {s : System δ} (h : Opcode.ofByte? (s.machine.read s.machine.pc) = none) :
    s.step = (.error (.unknownOpcode (s.machine.read s.machine.pc) s.machine.pc), s) := by
  simp only [step, Machine.fetch, h]

theorem step_of_some {s : System δ} {op : Opcode}
    (h : Opcode.ofByte? (s.machine.read s.machine.pc) = some op) :
    s.step = (.ok (), ⟨(s.perform op (s.machine.read (s.machine.pc + 1))
        (s.machine.read (s.machine.pc + 2))).machine.advance op.byte,
      (s.perform op (s.machine.read (s.machine.pc + 1))
        (s.machine.read (s.machine.pc + 2))).device⟩) := by
  simp only [step, Machine.fetch, h, Opcode.byte_of_ofByte? h]

/-- **A step fails exactly at a byte that is no instruction.** -/
theorem step_fst_error_iff {s : System δ} :
    (∃ f, s.step.1 = .error f) ↔ Opcode.ofByte? (s.machine.read s.machine.pc) = none := by
  cases h : Opcode.ofByte? (s.machine.read s.machine.pc) with
  | none => simp [step_of_none h]
  | some op => simp [step_of_some h]

end System

end ByteMachine
