import ByteMachine.Machine.Basic

/-!
# Devices

A device is what the machine prints to. It is asked to take a byte and may refuse it (`print`), and
it is told when the machine halts (`halt`). Both times it sees the whole machine.

* `Silent` takes every byte and does nothing.
* `Quota` takes a given number of bytes and refuses all later ones.
-/

namespace ByteMachine

/-- What a machine prints to; `δ` is the device's own state. -/
class Device (δ : Type) where
  /-- Takes a byte to print; the answer says whether the machine goes on. -/
  print : Machine → UInt8 → δ → Bool × δ
  /-- Learns that the machine has halted; the machine has stopped running by then. -/
  halt : Machine → δ → δ

/-- A device without any effect. -/
structure Silent where
deriving DecidableEq

instance : Device Silent where
  print _ _ d := (true, d)
  halt _ d := d

/-- A device that takes bytes until its quota is used up; with no quota it takes every byte. -/
structure Quota where
  left : Option Nat
deriving DecidableEq

instance : Device Quota where
  print _ _ d :=
    match d.left with
    | none => (true, d)
    | some 0 => (false, d)
    | some (n + 1) => (true, ⟨some n⟩)
  halt _ d := d

end ByteMachine
