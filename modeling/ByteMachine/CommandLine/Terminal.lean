import ByteMachine.CommandLine.Log
import ByteMachine.Console.Basic
import ByteMachine.Console.Stream

/-!
# The terminal

What a running command writes to: a console on its standard output, and its standard error. The
console's first failed write is logged, and what the logger writes goes to standard error.

Standard output may fail in every way a stream can. Standard error does not fail: **it is assumed to
take every line**, and all that is said about invocations is said under this assumption.

## Results

* `print_console`, `halt_console`: the terminal's console fares like a console alone.
-/

namespace ByteMachine.CommandLine

/-- The standard output as a console, and the standard error, which takes every line. -/
structure Terminal where
  console : Console Stream
  /-- The texts written to standard error, one entry a line. -/
  errors : Array String
  logger : Logger

namespace Terminal

/-- A terminal on which the logger has been set up, and nothing else has happened. -/
def opened (stdout : Stream) (logger : Logger) : Terminal :=
  ⟨.fresh stdout, logger.opening.toArray, logger⟩

/-- Writes a line to standard error. -/
def sayError (line : String) (t : Terminal) : Terminal := { t with errors := t.errors.push line }

/-- Writes lines to standard error. -/
def sayErrors (lines : List String) (t : Terminal) : Terminal :=
  lines.foldl (fun t line => t.sayError line) t

/-- Logs a record: it goes to standard error unless the logger drops it. -/
def log (r : Record) (t : Terminal) : Terminal :=
  if t.logger.passes r then t.sayError (t.logger.line r) else t

/-- The record of a failed write. -/
def writeFailed (e : SinkError) : Record :=
  ⟨.warn, "ls8_console", "console write failed: " ++ e.message⟩

/-- Logs the console's pending error if it is new; `clean` says that there was none before. -/
def notice (clean : Bool) (t : Terminal) : Terminal :=
  match clean, t.console.pending with
  | true, some e => t.log (writeFailed e)
  | _, _ => t

instance : Device Terminal where
  print m v t :=
    let ⟨console, errors, logger⟩ := t
    let clean := console.pending.isNone
    let (accepted, console) := Device.print m v console
    (accepted, notice clean ⟨console, errors, logger⟩)
  halt m t :=
    let ⟨console, errors, logger⟩ := t
    let clean := console.pending.isNone
    notice clean ⟨Device.halt m console, errors, logger⟩

@[simp] theorem log_console (r : Record) (t : Terminal) : (t.log r).console = t.console := by
  unfold log
  split <;> rfl

@[simp] theorem notice_console (clean : Bool) (t : Terminal) :
    (t.notice clean).console = t.console := by
  unfold notice
  split
  · rw [log_console]
  · rfl

/-- A print fares on a terminal as on its console alone. -/
@[simp] theorem print_console (m : Machine) (v : UInt8) (t : Terminal) :
    (Device.print m v t).2.console = (Device.print m v t.console).2 :=
  notice_console _ _

/-- A halt fares on a terminal as on its console alone. -/
@[simp] theorem halt_console (m : Machine) (t : Terminal) :
    (Device.halt m t).console = Device.halt m t.console :=
  notice_console _ _

end Terminal

end ByteMachine.CommandLine
