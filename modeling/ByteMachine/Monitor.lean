import ByteMachine.Console.Basic
import ByteMachine.Console.Stream
import ByteMachine.Device.Recorded
import ByteMachine.Image.Load
import ByteMachine.Machine.Snapshot
import ByteMachine.System.Run

/-!
# The monitor

A monitor drives a machine, with one device attached to it for good, by single commands. It can put
the machine aside and bring it back. Of every command it notes the answer and what has changed:
the cells of memory, the bytes that reached the console, and the calls that the device recorded.

A script is a list of commands. It ends early when a check of the console asks for an exit.
-/

namespace ByteMachine

/-- What is attached to the machine of a monitor. -/
inductive Attachment
  | silent
  | recorder (d : Recorded Quota)
  | console (c : Console Stream)

namespace Attachment

instance : Device Attachment where
  print m v a :=
    match a with
    | .silent => (true, .silent)
    | .recorder d =>
      let (accepted, d) := Device.print m v d
      (accepted, .recorder d)
    | .console c =>
      let (accepted, c) := Device.print m v c
      (accepted, .console c)
  halt m a :=
    match a with
    | .silent => .silent
    | .recorder d => .recorder (Device.halt m d)
    | .console c => .console (Device.halt m c)

/-- The bytes that reached the console. -/
def output : Attachment → Array UInt8
  | .console c => c.sink.received
  | _ => #[]

/-- The calls that were recorded. -/
def calls : Attachment → Array Call
  | .recorder d => d.calls
  | _ => #[]

end Attachment

/-- A machine with its device, and a machine put aside. -/
structure Monitor where
  system : System Attachment
  saved : Machine

namespace Monitor

/-- What a monitor can be told to do. -/
inductive Command
  /-- Take a fresh machine. -/
  | fresh
  /-- Put the machine aside. -/
  | save
  /-- Bring the machine back that was put aside. -/
  | restore
  /-- Load a textual image. -/
  | load (text : String)
  /-- Load a raw image. -/
  | loadBytes (bytes : List UInt8)
  /-- Read a cell of memory. -/
  | read (address : UInt8)
  /-- Write a cell of memory. -/
  | write (address value : UInt8)
  /-- Read a register. -/
  | reg (i : UInt8)
  /-- Write a register. -/
  | setReg (i value : UInt8)
  /-- Move the program counter. -/
  | jump (address : UInt8)
  /-- Read the stack pointer. -/
  | sp
  /-- Ask whether the equal flag is set. -/
  | isEqual
  /-- Ask for the trace line. -/
  | trace
  /-- Perform an arithmetic operation on two registers. -/
  | alu (op : AluOp) (a b : UInt8)
  /-- Execute one instruction. -/
  | step
  /-- Run until the machine stops. -/
  | run
  /-- Run for at most `max` instructions and count them; keep the trace lines if `keep`. -/
  | runWith (max : Nat) (keep : Bool)
  /-- Change how the stream of the console behaves. -/
  | change (c : StreamChange)
  /-- Ask the console for the exit status. -/
  | exitCode
  /-- Check the console. -/
  | check

/-- What a watched run has come to: how many instructions began, and their trace lines. -/
structure Tally where
  count : Nat
  traces : Array String

/-- Counts an instruction, and keeps its trace line if `keep`. -/
def Tally.note (keep : Bool) (m : Machine) (t : Tally) : Tally where
  count := t.count + 1
  traces := if keep then t.traces.push m.trace else t.traces

/-- What a monitor answers. -/
inductive Reply
  | done
  | byte (v : UInt8)
  | truth (b : Bool)
  | line (text : String)
  | loaded (result : Except LoadError Nat)
  | stepped (result : Except Fault Unit)
  | ran (ending : Ending)
  | watched (ending : Ending) (tally : Tally) (kept : Bool)
  | exitCode (code : Option UInt8)
  | checked (verdict : Verdict)
  /-- The command is about a console, and another device is attached. -/
  | noConsole

/-- Whether a script ends after this answer. -/
def Reply.endsScript : Reply → Bool
  | checked (.exit _) => true
  | _ => false

/-- Changes the machine and leaves the rest as it is. -/
def modify (f : Machine → Machine) (m : Monitor) : Monitor :=
  { m with system := { m.system with machine := f m.system.machine } }

/-- Does what a command says. A run without a bound of its own goes on for at most `fuel`
instructions. -/
def perform (fuel : Nat) (c : Command) (m : Monitor) : Reply × Monitor :=
  let cpu := m.system.machine
  match c with
  | .fresh => (.done, m.modify fun _ => .initial)
  | .save => (.done, { m with saved := cpu })
  | .restore => (.done, m.modify fun _ => m.saved)
  | .load text =>
    let (result, cpu) := cpu.load text.toList
    (.loaded result, m.modify fun _ => cpu)
  | .loadBytes bytes =>
    let (result, cpu) := cpu.loadBytes bytes
    (.loaded result, m.modify fun _ => cpu)
  | .read a => (.byte (cpu.read a), m)
  | .write a v => (.done, m.modify (·.write a v))
  | .reg i => (.byte (cpu.reg i), m)
  | .setReg i v => (.done, m.modify (·.setReg i v))
  | .jump a => (.done, m.modify (·.jump a))
  | .sp => (.byte cpu.sp, m)
  | .isEqual => (.truth cpu.flags.isEqual, m)
  | .trace => (.line cpu.trace, m)
  | .alu op a b => (.done, m.modify (·.alu op a b))
  | .step =>
    let (result, system) := m.system.step
    (.stepped result, { m with system })
  | .run =>
    let (ending, system) := m.system.run fuel
    (.ran ending, { m with system })
  | .runWith max keep =>
    let (ending, system) := m.system.runWith (Tally.note keep) max ⟨0, #[]⟩
    (.watched ending system.device.seen keep,
      { m with system := ⟨system.machine, system.device.device⟩ })
  | .change change =>
    match m.system.device with
    | .console c =>
      let c := { c with sink := c.sink.change change }
      (.done, { m with system := { m.system with device := .console c } })
    | _ => (.noConsole, m)
  | .exitCode =>
    match m.system.device with
    | .console c => (.exitCode c.exitCode, m)
    | _ => (.noConsole, m)
  | .check =>
    match m.system.device with
    | .console c =>
      let (verdict, c) := c.check
      (.checked verdict, { m with system := { m.system with device := .console c } })
    | _ => (.noConsole, m)

/-- What a monitor notes of a command. -/
structure Entry where
  reply : Reply
  /-- The machine after the command. -/
  machine : Machine
  /-- The cells that the command changed, with their new values. -/
  changes : List (UInt8 × UInt8)
  /-- The bytes that reached the console. -/
  output : Array UInt8
  /-- The calls that were recorded. -/
  calls : Array Call

/-- A monitor with a fresh machine. -/
def fresh (device : Attachment) : Monitor := ⟨⟨.initial, device⟩, .initial⟩

/-- Does what a command says and notes what has changed. -/
def note (fuel : Nat) (c : Command) (before : Monitor) : Entry × Monitor :=
  let (reply, after) := before.perform fuel c
  let old := before.system
  let new := after.system
  ({ reply
     machine := new.machine
     changes := old.machine.memory.changes new.machine.memory
     output := new.device.output.extract old.device.output.size
     calls := new.device.calls.extract old.device.calls.size }, after)

/-- Follows a script. -/
def script (fuel : Nat) : List Command → Monitor → List Entry × Monitor
  | [], m => ([], m)
  | c :: cs, m =>
    let (entry, m) := m.note fuel c
    if entry.reply.endsScript then ([entry], m)
    else
      let (entries, m) := script fuel cs m
      (entry :: entries, m)

end Monitor

end ByteMachine
