import ByteMachine.Image.Line
import ByteMachine.Machine.Basic
import ByteMachine.Text.Lines

/-!
# Loading a program image

An image is loaded at address 0, byte after byte. A textual image is read line by line, and the
first line that cannot be read or does not fit ends the loading; the bytes before it stay in
memory. A raw image is loaded as a whole or not at all. `Machine.load` and `Machine.loadBytes` are
the operations `load` and `load_bytes`.

## Results

* `loadBytes_of_le`, `loadBytes_of_lt`: a raw image fits, or nothing changes.
-/

namespace ByteMachine

/-- Why an image could not be loaded. -/
inductive LoadError
  /-- The line with this number, counted from 1, begins like a binary literal but is none. -/
  | invalidLiteral (line : Nat)
  /-- The image has more bytes than the memory has cells. -/
  | tooLarge
deriving DecidableEq

/-- The error in words. -/
def LoadError.message : LoadError → String
  | invalidLiteral line => "invalid binary literal on line " ++ toString line
  | tooLarge => "program does not fit in " ++ toString Memory.size ++ " bytes"

namespace Image

/-- Loads the remaining lines of an image: `line` is the number of the first of them and `count`
the number of bytes already loaded. Gives the number of bytes in the image. -/
def loadLines (line count : Nat) (m : Memory) : List (List Char) → Except LoadError Nat × Memory
  | [] => (.ok count, m)
  | l :: ls =>
    match Line.read l with
    | .skipped => loadLines (line + 1) count m ls
    | .malformed => (.error (.invalidLiteral line), m)
    | .byte v =>
      if count < Memory.size then loadLines (line + 1) (count + 1) (m.set (UInt8.ofNat count) v) ls
      else (.error .tooLarge, m)

/-- Loads a textual image. -/
def loadText (text : List Char) (m : Memory) : Except LoadError Nat × Memory :=
  loadLines 1 0 m (Text.lines text)

/-- Loads a raw image. -/
def loadBytes (bytes : List UInt8) (m : Memory) : Except LoadError Nat × Memory :=
  if bytes.length ≤ Memory.size then (.ok bytes.length, m.store bytes) else (.error .tooLarge, m)

/-! ## Raw images -/

theorem loadBytes_of_le {bytes : List UInt8} (h : bytes.length ≤ 256) (m : Memory) :
    loadBytes bytes m = (.ok bytes.length, m.store bytes) :=
  if_pos h

theorem loadBytes_of_lt {bytes : List UInt8} (h : 256 < bytes.length) (m : Memory) :
    loadBytes bytes m = (.error .tooLarge, m) :=
  if_neg (Nat.not_le_of_lt h)

end Image

namespace Machine

/-- Loads a textual image into the memory of a machine. -/
def load (text : List Char) (m : Machine) : Except LoadError Nat × Machine :=
  let (result, memory) := Image.loadText text m.memory
  (result, { m with memory })

/-- Loads a raw image into the memory of a machine. -/
def loadBytes (bytes : List UInt8) (m : Machine) : Except LoadError Nat × Machine :=
  let (result, memory) := Image.loadBytes bytes m.memory
  (result, { m with memory })

end Machine

end ByteMachine
