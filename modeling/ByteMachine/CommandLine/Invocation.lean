import ByteMachine.CommandLine.Terminal
import ByteMachine.Image.Load
import ByteMachine.Machine.Snapshot
import ByteMachine.System.Run
import ByteMachine.Text.Quoted
import ByteMachine.Text.Utf8

/-!
# Invocations of the command

The command reads a program image from a file, loads it into a fresh machine, and runs the machine
with a console on the standard output. What an invocation comes to is its exit status and what
it wrote to standard output and standard error.

* First the logger is set up from the log setting.
* A file that is not there is reported on standard output, and the machine runs on zeroed memory.
  If that line cannot be written, the invocation is aborted.
* Any other trouble with the file, or with the image in it, ends the invocation with an error
  report.
* After the run the time it took is logged. Then the console is checked: a failed write is
  reported, and else a halt ends the invocation. Only then a fault of the machine is reported.

The three stages of `main` are `prepare`, the run, and `conclude`; `execute` puts them together for
a bounded number of instructions. What is not the command's own doing comes from its `Surroundings`:
the answer to reading the file, the logger, the time, and what an aborted process says.
-/

namespace ByteMachine.CommandLine

/-- What an invocation comes to. -/
structure Outcome where
  status : UInt8
  stdout : Array UInt8
  /-- The texts written to standard error, one entry a line. -/
  stderr : Array String
deriving DecidableEq

/-- How an invocation ends. -/
inductive Result
  | finished (o : Outcome)
  /-- The machine still runs when the bound is used up. -/
  | unfinished
deriving DecidableEq

/-- The surroundings of an invocation. -/
structure Surroundings where
  /-- The answer to reading the program file. -/
  file : Except SystemError (List UInt8)
  /-- The log setting, if there is one. -/
  setting : Option String
  /-- The logger that is set up from a text. -/
  logger : String → Logger
  stdout : Stream
  /-- How long the run takes, in words. -/
  elapsed : String
  /-- The lines that a process aborted with a message leaves on standard error. -/
  lastWords : String → List String

namespace Surroundings

/-- The log setting that holds if there is none. -/
def usualSetting : String := "info"

/-- The logger of an invocation. -/
def ownLogger (s : Surroundings) : Logger := s.logger (s.setting.getD usualSetting)

end Surroundings

/-- Why an invocation fails. -/
inductive Failure
  | loading (program : String) (cause : LoadError)
  | reading (program : String) (cause : SystemError)
  | writing (cause : SinkError)
  | executing (cause : Fault)

namespace Failure

/-- What the invocation was about to do. -/
def context : Failure → String
  | loading program _ => "failed to load " ++ program
  | reading program _ => "failed to read " ++ program
  | writing _ => "failed to write output"
  | executing _ => "execution failed"

/-- What went wrong. -/
def cause : Failure → String
  | loading _ cause => cause.message
  | reading _ cause => cause.message
  | writing cause => cause.message
  | executing cause => cause.message

/-- The lines of the error report. -/
def report (f : Failure) : List String :=
  ["Error: " ++ f.context, "", "Caused by:", "    " ++ f.cause]

end Failure

/-- What an invocation is aborted with if a line could not be written to standard output. -/
def unsaid (e : SinkError) : String := "failed printing to stdout: " ++ e.message

namespace Terminal

/-- Writes a line to standard output outside of the console; the answer is the error if that
failed. -/
def say (line : String) (t : Terminal) : Option SinkError × Terminal :=
  let (result, sink) := Sink.writeAll (Console.lineBytes line) t.console.sink
  let t := { t with console := { t.console with sink } }
  match result with
  | .ok () => (none, t)
  | .error e => (some e, t)

/-- Ends the invocation with a status. -/
def finish (status : UInt8) (t : Terminal) : Outcome :=
  ⟨status, t.console.sink.received, t.errors⟩

/-- Ends the invocation with an error report. -/
def fail (f : Failure) (t : Terminal) : Outcome := (t.sayErrors f.report).finish 1

/-- Ends the invocation at once, with some last words. -/
def abort (lastWords : List String) (t : Terminal) : Outcome := (t.sayErrors lastWords).finish 101

end Terminal

/-! ## Stages -/

/-- The record of a successful loading. -/
def loadedRecord (count : Nat) (program : String) : Record :=
  ⟨.info, "ls8", "loaded " ++ toString count ++ " bytes from " ++ Text.quoted program⟩

/-- The record of a file that is not there. -/
def missingRecord (program : String) : Record :=
  ⟨.warn, "ls8", "could not open " ++ Text.quoted program ++ ": " ++ SystemError.noSuchFile.message⟩

/-- The record of a run that has ended. -/
def ranRecord (elapsed : String) : Record := ⟨.info, "ls8", "ran for " ++ elapsed⟩

/-- Reads and loads the program; gives the machine that is to run, or the outcome if it never
does. -/
def prepare (program : String) (s : Surroundings) : Except Outcome (System Terminal) :=
  let t := Terminal.opened s.stdout s.ownLogger
  match s.file with
  | .ok bytes =>
    match Machine.initial.load (Text.Utf8.decode bytes) with
    | (.ok count, machine) => .ok ⟨machine, t.log (loadedRecord count program)⟩
    | (.error e, _) => .error (t.fail (.loading program e))
  | .error .noSuchFile =>
    match t.say (program ++ " not found.") with
    | (none, t) => .ok ⟨.initial, t.log (missingRecord program)⟩
    | (some e, t) => .error (t.abort (s.lastWords (unsaid e)))
  | .error e => .error (t.fail (.reading program e))

/-- What a terminal does before each instruction: with tracing, it shows the trace line. -/
def tracing (trace : Bool) (m : Machine) (t : Terminal) : Terminal :=
  if trace then t.sayError m.trace else t

/-- What the invocation comes to after the run: the console is checked, and then the run. -/
def conclude (ending : Ending) (t : Terminal) : Outcome :=
  match t.console.check with
  | (.failed e, console) => { t with console }.fail (.writing e)
  | (.exit code, console) => { t with console }.finish code
  | (.proceed, console) =>
    match ending with
    | .fault f => { t with console }.fail (.executing f)
    | _ => { t with console }.finish 0

/-- Runs a program for at most `fuel` instructions, with a trace line before each of them or
without. -/
def execute (fuel : Nat) (program : String) (trace : Bool) (s : Surroundings) : Result :=
  match prepare program s with
  | .error outcome => .finished outcome
  | .ok system =>
    match System.loop (tracing trace) fuel system.start with
    | (.limit, _) => .unfinished
    | (ending, system) => .finished (conclude ending (system.device.log (ranRecord s.elapsed)))

end ByteMachine.CommandLine
