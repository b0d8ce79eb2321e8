import ByteMachine.Device.Basic

/-!
# Recording the calls of a device

`Recorded δ` passes every call on to a device and keeps it, with the machine as the device saw it
and the device's answer.

## Results

* `print_calls`, `halt_calls`: each call is kept, in order.
-/

namespace ByteMachine

/-- A call that a machine made to its device. -/
inductive Call
  /-- The device was asked to print `value`, with the machine in state `machine`. -/
  | print (machine : Machine) (value : UInt8) (accepted : Bool)
  /-- The device was told of a halt, with the machine in state `machine`. -/
  | halt (machine : Machine)
deriving DecidableEq

/-- The machine as the device saw it. -/
def Call.machine : Call → Machine
  | print m _ _ => m
  | halt m => m

/-- A device together with the calls made to it, the latest call last. -/
structure Recorded (δ : Type) where
  device : δ
  calls : Array Call

namespace Recorded

variable {δ : Type}

/-- A device no call has been made to. -/
def fresh (d : δ) : Recorded δ := ⟨d, #[]⟩

instance [Device δ] : Device (Recorded δ) where
  print m v d :=
    let (accepted, device) := Device.print m v d.device
    (accepted, ⟨device, d.calls.push (.print m v accepted)⟩)
  halt m d := ⟨Device.halt m d.device, d.calls.push (.halt m)⟩

variable [Device δ]

@[simp] theorem print_fst (m : Machine) (v : UInt8) (d : Recorded δ) :
    (Device.print m v d).1 = (Device.print m v d.device).1 := rfl

@[simp] theorem print_calls (m : Machine) (v : UInt8) (d : Recorded δ) :
    (Device.print m v d).2.calls = d.calls.push (.print m v (Device.print m v d.device).1) := rfl

@[simp] theorem halt_calls (m : Machine) (d : Recorded δ) :
    (Device.halt m d).calls = d.calls.push (.halt m) := rfl

end Recorded

end ByteMachine
