import ByteMachine.Machine.Basic
import ByteMachine.Text.Hex

/-!
# Snapshots

What a trace line shows of a machine, the text of the operation `trace`: the program counter, the
three bytes that are fetched there, and the registers. A line looks like this, every field in two
upper-case digits:

```text
TRACE: 03 | 01 00 00 | 0A 00 00 00 00 00 00 F4
```
-/

namespace ByteMachine

/-- What a trace line shows of a machine. -/
structure Snapshot where
  pc : UInt8
  fetched : Fetch
  registers : Registers
deriving DecidableEq

namespace Snapshot

/-- Fields in two digits each, a blank between neighbours. -/
def fields (vs : List UInt8) : List Char := [' '].intercalate (vs.map Text.Hex.upper)

/-- The characters of the trace line. -/
def chars (s : Snapshot) : List Char :=
  "TRACE: ".toList ++ fields [s.pc] ++ " | ".toList ++
    fields [s.fetched.opcode, s.fetched.first, s.fetched.second] ++ " | ".toList ++
    fields s.registers.toList

/-- The trace line. -/
def render (s : Snapshot) : String := String.ofList s.chars

@[simp] theorem toList_render (s : Snapshot) : s.render.toList = s.chars := String.toList_ofList

end Snapshot

namespace Machine

/-- What a trace line shows of the machine. -/
def snapshot (m : Machine) : Snapshot := ⟨m.pc, m.fetch, m.registers⟩

/-- The trace line of the machine. -/
def trace (m : Machine) : String := m.snapshot.render

end Machine

end ByteMachine
