import ByteMachine.Proofs.Outcome

/-!
# The exit status of the command

An invocation that comes to its end has the status 0 or 1, and if something could not be written to
standard output it says so in an error report. There is one exception: the line about a file that is
not there is written outside of the console, and if that fails the invocation is aborted. All this
is said of a standard error that takes every line.

* `Attempts program s bs`: the invocation tries to write `bs` to standard output.
* `Crashes program s cause`: the file is not there, and the line that says so cannot be written.

Results:
* `status_conclude`, `written_or_reported`: how an invocation is concluded from its console.
* `execute_of_crashes`: an invocation that crashes is aborted whatever its bound.
* `status_of_finished`: the status of every invocation that comes to its end.
-/

namespace ByteMachine.CommandLine

open Terminal

/-! ## Endings without a crash -/

section

variable {e : Ending} {t : Terminal} {text : List Char} {out : Stream} {k : Nat}
  {u : System (Console Stream)}

theorem conclude_of_proceed (h : t.console.check.1 = .proceed) (he : ∀ f, e ≠ .fault f) :
    (conclude e t).status = 0 := by
  have hclosing : closing e t.console = (0, []) := by
    unfold closing
    rw [h]
    cases e with
    | fault f => exact absurd rfl (he f)
    | stopped => rfl
    | limit => rfl
  rw [conclude_eq, hclosing]

/-- What is concluded has the status 0 or 1, as long as no other one was asked for. -/
theorem status_conclude (hexit : ∀ code, t.console.check.1 = .exit code → code = 0) :
    (conclude e t).status = 0 ∨ (conclude e t).status = 1 := by
  cases hcheck : t.console.check.1 with
  | failed cause => exact .inr (conclude_of_failed hcheck).1
  | exit code =>
    obtain rfl := hexit code hcheck
    exact .inl (conclude_of_exit hcheck)
  | proceed =>
    cases e with
    | fault f => exact .inr (conclude_of_fault hcheck).1
    | stopped => exact .inl (conclude_of_proceed hcheck nofun)
    | limit => exact .inl (conclude_of_proceed hcheck nofun)

/-- **Behind a run all has been written, or the failed write is reported.** -/
theorem written_or_reported (hends : (started text out).Ends k e u)
    (hconsole : t.console = u.device) (hempty : out.received = #[]) :
    (conclude e t).stdout.toList = ((started text out).calls k).flatMap Call.written ∨
      (conclude e t).status = 1 ∧
        ∃ cause : SinkError, (conclude e t).Reports "failed to write output" cause.message := by
  cases hp : u.device.pending with
  | none => exact .inl ((stdout_of_ends hends hconsole hempty).2 hp)
  | some cause =>
    have hcheck : t.console.check.1 = .failed cause := by
      rw [hconsole, Console.check_of_pending hp]
    obtain ⟨hstatus, hreports⟩ := conclude_of_failed (e := e) hcheck
    exact .inr ⟨hstatus, cause, hreports⟩

end

/-! ## A file that is not there -/

/-- The line about a file that is not there. -/
def missingLine (program : String) : List UInt8 := Console.lineBytes (program ++ " not found.")

/-- The file is not there, and the line that says so cannot be written. -/
def Crashes (program : String) (s : Surroundings) (cause : SinkError) : Prop :=
  s.file = .error .noSuchFile ∧ (Sink.writeAll (missingLine program) s.stdout).1 = .error cause

theorem stderr_abort (lastWords : List String) (t : Terminal) :
    (t.abort lastWords).stderr.toList = t.errors.toList ++ lastWords := by
  unfold abort
  rw [sayErrors_eq]
  exact Array.toList_append

section

variable {program : String} {trace : Bool} {s : Surroundings} {out : Stream} {cause : SinkError}
  {o : Outcome} {fuel : Nat}

theorem prepare_of_written (hfile : s.file = .error .noSuchFile)
    (h : Sink.writeAll (missingLine program) s.stdout = (.ok (), out)) :
    prepare program s =
      .ok ⟨.initial, (s.terminal.withConsole (.fresh out)).log (missingRecord program)⟩ := by
  have hline : Sink.writeAll (Console.lineBytes (program ++ " not found."))
      (Terminal.opened s.stdout s.ownLogger).console.sink = (.ok (), out) := h
  simp only [prepare, hfile, say, hline]
  rfl

theorem prepare_of_unwritten (hfile : s.file = .error .noSuchFile)
    (h : Sink.writeAll (missingLine program) s.stdout = (.error cause, out)) :
    prepare program s =
      .error ((s.terminal.withConsole (.fresh out)).abort (s.lastWords (unsaid cause))) := by
  have hline : Sink.writeAll (Console.lineBytes (program ++ " not found."))
      (Terminal.opened s.stdout s.ownLogger).console.sink = (.error cause, out) := h
  simp only [prepare, hfile, say, hline]
  rfl

/-- **An invocation that crashes is aborted**, whatever its bound: with the status 101, and with
the last words behind what the logger has said when it was set up. -/
theorem execute_of_crashes (h : Crashes program s cause) :
    ∃ o : Outcome, o.status = 101 ∧
      o.stderr.toList = s.ownLogger.opening ++
        s.lastWords ("failed printing to stdout: " ++ cause.message) ∧
      ∀ fuel trace, execute fuel program trace s = .finished o := by
  obtain ⟨hfile, hline⟩ := h
  obtain ⟨⟨result, out⟩, hwrite⟩ : ∃ r, Sink.writeAll (missingLine program) s.stdout = r :=
    ⟨_, rfl⟩
  obtain rfl : result = .error cause := by rw [← hline, hwrite]
  refine ⟨(s.terminal.withConsole (.fresh out)).abort (s.lastWords (unsaid cause)), rfl, ?_,
    fun fuel trace => ?_⟩
  · rw [stderr_abort]
    rfl
  · simp only [execute, prepare_of_unwritten hfile hwrite]

/-- A machine with zeroed memory comes to a fault before it has executed anything. -/
theorem ends_zeroed (c : Console Stream) :
    (⟨Machine.initial.start, c⟩ : System (Console Stream)).Ends 0 (.fault (.unknownOpcode 0 0))
      ⟨Machine.initial, c⟩ :=
  .fault (System.turns_zero _) rfl rfl

/-- When the line about a missing file has been written, the invocation fails all the same: with the
fault of a machine with zeroed memory, or with a flush. -/
theorem status_of_missing (hfile : s.file = .error .noSuchFile)
    (hline : (Sink.writeAll (missingLine program) s.stdout).1 = .ok ())
    (hempty : s.stdout.received = #[]) (h : execute fuel program trace s = .finished o) :
    o.status = 1 ∧ o.stdout.toList = missingLine program := by
  obtain ⟨⟨result, out⟩, hwrite⟩ : ∃ r, Sink.writeAll (missingLine program) s.stdout = r :=
    ⟨_, rfl⟩
  obtain ⟨n, -, hput, hok⟩ := Stream.writeAll_cases (missingLine program) s.stdout
  rw [hok.mp hline, List.take_length, hwrite] at hput
  obtain rfl : result = .ok () := by rw [← hline, hwrite]
  obtain rfl : out = s.stdout.put (missingLine program) := hput
  obtain ⟨k, e, u, t, he, hends, hconsole, rfl⟩ :=
    ends_of_prepare (prepare_of_written hfile hwrite) h
  let begun : System (Console Stream) :=
    ⟨Machine.initial.start, .fresh (s.stdout.put (missingLine program))⟩
  have hmap : System.map Terminal.console (System.start
      ⟨.initial, (s.terminal.withConsole (.fresh (s.stdout.put (missingLine program)))).log
        (missingRecord program)⟩) = begun :=
    System.ext rfl (log_console _ _)
  rw [hmap] at hends
  obtain ⟨-, rfl, rfl⟩ := hends.unique (ends_zeroed _) he nofun
  constructor
  · cases hcheck : t.console.check.1 with
    | failed cause => exact (conclude_of_failed hcheck).1
    | proceed => exact (conclude_of_fault hcheck).1
    | exit code =>
      rw [hconsole, Console.check_eq_exit_iff] at hcheck
      cases hcheck.2.2
  · rw [stdout_conclude, hconsole]
    simp [Console.fresh, hempty]

end

/-! ## What an invocation writes -/

/-- The invocation tries to write these bytes to standard output before it comes to its end. -/
inductive Attempts (program : String) (s : Surroundings) : List UInt8 → Prop
  /-- The file is not there, which is said; the machine does not get to write anything. -/
  | missing (hfile : s.file = .error .noSuchFile) : Attempts program s (missingLine program)
  /-- The file cannot be read. -/
  | unreadable {cause : SystemError} (hfile : s.file = .error cause)
      (hcause : cause ≠ .noSuchFile) : Attempts program s []
  /-- There is no program in the file. -/
  | unloadable {bytes : List UInt8} {cause : LoadError} (hfile : s.file = .ok bytes)
      (hload : (Machine.initial.load (Text.Utf8.decode bytes)).1 = .error cause) :
      Attempts program s []
  /-- The program writes the lines of its prints, and the farewell if it halts. -/
  | run {bytes : List UInt8} {count k : Nat} {e : Ending} {u : System (Console Stream)}
      (hfile : s.file = .ok bytes)
      (hload : (Machine.initial.load (Text.Utf8.decode bytes)).1 = .ok count) (he : e ≠ .limit)
      (hends : (started (Text.Utf8.decode bytes) s.stdout).Ends k e u) :
      Attempts program s
        (((started (Text.Utf8.decode bytes) s.stdout).calls k).flatMap Call.written)

section

variable {program : String} {trace : Bool} {s : Surroundings} {bytes bs : List UInt8} {o : Outcome}
  {fuel : Nat}

theorem prepare_of_unreadable {cause : SystemError} (hfile : s.file = .error cause)
    (hcause : cause ≠ .noSuchFile) :
    prepare program s = .error (s.terminal.fail (.reading program cause)) := by
  unfold prepare
  rw [hfile]
  cases cause with
  | noSuchFile => exact absurd rfl hcause
  | _ => rfl

theorem outcome_of_fail {f : Failure} (hempty : s.stdout.received = #[])
    (h : Result.finished (s.terminal.fail f) = .finished o) :
    o.status = 1 ∧ o.stdout.toList = [] := by
  obtain rfl := Result.finished.inj h
  refine ⟨rfl, ?_⟩
  rw [stdout_fail]
  exact congrArg Array.toList hempty

theorem exists_attempts (h : execute fuel program trace s = .finished o) :
    ∃ bs, Attempts program s bs := by
  cases hfile : s.file with
  | error cause =>
    by_cases hcause : cause = .noSuchFile
    · exact ⟨_, .missing (hcause ▸ hfile)⟩
    · exact ⟨_, .unreadable hfile hcause⟩
  | ok bytes =>
    cases hload : (Machine.initial.load (Text.Utf8.decode bytes)).1 with
    | error cause => exact ⟨_, .unloadable hfile hload⟩
    | ok count =>
      obtain ⟨k, e, u, -, he, hends, -, -⟩ := ends_of_execute hfile hload h
      exact ⟨_, .run hfile hload he hends⟩

/-- **Without a crash the status is 0 or 1**, and what has not been written is reported. -/
theorem status_of_attempts (hempty : s.stdout.received = #[]) (hbs : Attempts program s bs)
    (hcrash : ∀ cause, ¬Crashes program s cause) (h : execute fuel program trace s = .finished o) :
    (o.status = 0 ∨ o.status = 1) ∧
      (o.stdout.toList = bs ∨ o.status = 1 ∧
        ∃ cause : SinkError, o.Reports "failed to write output" cause.message) := by
  cases hbs with
  | missing hfile =>
    cases hline : (Sink.writeAll (missingLine program) s.stdout).1 with
    | error cause => exact absurd ⟨hfile, hline⟩ (hcrash cause)
    | ok _ =>
      obtain ⟨hstatus, hall⟩ := status_of_missing hfile hline hempty h
      exact ⟨.inr hstatus, .inl hall⟩
  | @unreadable cause hfile hcause =>
    simp only [execute, prepare_of_unreadable hfile hcause] at h
    obtain ⟨hstatus, hnone⟩ := outcome_of_fail hempty h
    exact ⟨.inr hstatus, .inl hnone⟩
  | @unloadable bytes cause hfile hload =>
    rw [execute_of_load_error hfile hload] at h
    obtain ⟨hstatus, hnone⟩ := outcome_of_fail hempty h
    exact ⟨.inr hstatus, .inl hnone⟩
  | @run bytes count k e u hfile hload he hends =>
    obtain ⟨k', e', u', t, he', hends', hconsole, rfl⟩ := ends_of_execute hfile hload h
    obtain ⟨rfl, rfl, rfl⟩ := hends.unique hends' he he'
    refine ⟨status_conclude fun code hcode => ?_, written_or_reported hends hconsole hempty⟩
    exact ((Console.check_eq_exit_of_ends hends he rfl rfl code).mp (hconsole ▸ hcode)).1

/-- A standard output that takes everything takes the line about a missing file, too. -/
theorem not_crashes_of_works (hw : s.stdout.Works) (cause : SinkError) :
    ¬Crashes program s cause := by
  rintro ⟨-, hline⟩
  have hok : (Sink.writeAll (missingLine program) s.stdout).1 = .ok () := by
    rw [Stream.writeAll_eq hw.2.1, if_pos]
    simp [Stream.room, Stream.capped, hw.1]
  rw [hok] at hline
  cases hline

theorem exists_crashes_iff_of_blocked (hb : s.stdout.Blocked) :
    (∃ cause, Crashes program s cause) ↔ s.file = .error .noSuchFile := by
  refine ⟨fun ⟨_, hfile, _⟩ => hfile, fun hfile => ?_⟩
  have hne := List.length_pos_iff.mp (Console.length_lineBytes_pos (program ++ " not found."))
  obtain ⟨cause, hwrite⟩ := hb.writeAll hne
  refine ⟨cause, hfile, ?_⟩
  rw [missingLine, hwrite]

/-- **The status of an invocation that comes to its end**, whatever the answer to reading the file,
the logger and the standard output, with tracing or without. It is 0 or 1, and if standard output
has not got all that the invocation has tried to write, it is 1 and the failed write is reported.

The exception is a crash: the file is not there, and the line that says so cannot be written. Then
the invocation is aborted before the machine runs, with the status 101, and nothing but the last
words of the process is on standard error. With a standard output that takes everything there is no
crash; with one that takes nothing there is one for every file that is not there.

Standard error is assumed to take every line. -/
theorem status_of_finished (hempty : s.stdout.received = #[])
    (h : execute fuel program trace s = .finished o) :
    (o.status = 101 ↔ ∃ cause, Crashes program s cause) ∧
    (∀ cause, Crashes program s cause →
      o.stderr.toList = s.ownLogger.opening ++
        s.lastWords ("failed printing to stdout: " ++ cause.message) ∧
      ∀ fuel trace, execute fuel program trace s = .finished o) ∧
    (∃ bs, Attempts program s bs) ∧
    ((∀ cause, ¬Crashes program s cause) → (o.status = 0 ∨ o.status = 1) ∧
      ∀ bs, Attempts program s bs → o.stdout.toList ≠ bs → o.status = 1 ∧
        ∃ cause : SinkError, o.Reports "failed to write output" cause.message) ∧
    (s.stdout.Works → ∀ cause, ¬Crashes program s cause) ∧
    (s.stdout.Blocked → ((∃ cause, Crashes program s cause) ↔ s.file = .error .noSuchFile)) := by
  have hcrashes : ∀ cause, Crashes program s cause → o.status = 101 ∧
      o.stderr.toList = s.ownLogger.opening ++
        s.lastWords ("failed printing to stdout: " ++ cause.message) ∧
      ∀ fuel trace, execute fuel program trace s = .finished o := by
    intro cause hcrash
    obtain ⟨o', hstatus, hstderr, hexecute⟩ := execute_of_crashes hcrash
    obtain rfl : o' = o := Result.finished.inj ((hexecute fuel trace).symm.trans h)
    exact ⟨hstatus, hstderr, hexecute⟩
  obtain ⟨bs, hbs⟩ := exists_attempts h
  have hgraceful : (∀ cause, ¬Crashes program s cause) → o.status = 0 ∨ o.status = 1 :=
    fun hcrash => (status_of_attempts hempty hbs hcrash h).1
  refine ⟨⟨fun hstatus => ?_, fun ⟨cause, hcrash⟩ => (hcrashes cause hcrash).1⟩,
    fun cause hcrash => (hcrashes cause hcrash).2, ⟨bs, hbs⟩,
    fun hcrash => ⟨hgraceful hcrash, fun bs' hbs' hne => ?_⟩,
    not_crashes_of_works, exists_crashes_iff_of_blocked⟩
  · by_contra hnone
    rcases hgraceful (not_exists.mp hnone) with hzero | hone
    · rw [hzero] at hstatus
      cases hstatus
    · rw [hone] at hstatus
      cases hstatus
  · exact (status_of_attempts hempty hbs' hcrash h).2.resolve_left hne

end

/-- Surroundings in which the program file is not there, with a logger that writes warnings, and
with a process that has last words of its own around the message. -/
def nowhere (stdout : Stream) : Surroundings where
  file := .error .noSuchFile
  setting := some "warn"
  logger _ := ⟨[], fun r => r.level.rank ≤ Level.warn.rank, Record.message⟩
  stdout := stdout
  elapsed := "5ms"
  lastWords message :=
    ["", "thread 'main' panicked:", message, "note: display a backtrace for more"]

/-- A standard output on a device without space. -/
def noSpace : Stream := .failing (.system .noSpace)

/-- What comes of it on a device without space. -/
def abortedOutcome : Outcome where
  status := 101
  stdout := #[]
  stderr := #["", "thread 'main' panicked:",
    "failed printing to stdout: No space left on device (os error 28)",
    "note: display a backtrace for more"]

/-- With a standard output that works, a file that is not there is said not to be there, and the
status is 1; with one that takes nothing the invocation crashes. -/
theorem status_of_finished_nowhere :
    (∃ o, execute 1 "nope.ls8" false (nowhere .unbounded) = .finished o ∧ o.status = 1 ∧
      (o.status = 0 ∨ o.status = 1)) ∧
    ∃ cause, Crashes "nope.ls8" (nowhere noSpace) cause ∧
      execute 1 "nope.ls8" false (nowhere noSpace) = .finished abortedOutcome ∧
      abortedOutcome.stderr.toList =
        (nowhere noSpace).lastWords ("failed printing to stdout: " ++ cause.message) := by
  constructor
  · obtain ⟨o, hexecute, hone⟩ : ∃ o : Outcome,
        execute 1 "nope.ls8" false (nowhere .unbounded) = .finished o ∧ o.status = 1 :=
      ⟨⟨1, (missingLine "nope.ls8").toArray, #["could not open \"nope.ls8\": " ++
          "No such file or directory (os error 2)", "Error: execution failed", "", "Caused by:",
          "    unknown opcode 0x00 at address 0x00"]⟩, by decide +kernel, rfl⟩
    obtain ⟨-, -, -, hgraceful, hworks, -⟩ := status_of_finished rfl hexecute
    exact ⟨o, hexecute, hone, (hgraceful (hworks ⟨rfl, nofun, rfl⟩)).1⟩
  · have hexecute : execute 1 "nope.ls8" false (nowhere noSpace) = .finished abortedOutcome := by
      decide +kernel
    obtain ⟨-, hcrashes, -, -, -, hblocked⟩ := status_of_finished rfl hexecute
    obtain ⟨cause, hcrash⟩ := (hblocked ⟨rfl, rfl⟩).mpr rfl
    exact ⟨cause, hcrash, hexecute, (hcrashes cause hcrash).1⟩

/-- A file that is not there and a standard output without space: the status is neither 0 nor 1, and
there is no error report. -/
theorem aborted_nowhere :
    ∃ o, execute 1 "nope.ls8" false (nowhere noSpace) = .finished o ∧
      ¬(o.status = 0 ∨ o.status = 1) ∧ ∀ context cause, ¬o.Reports context cause := by
  have hexecute : execute 1 "nope.ls8" false (nowhere noSpace) = .finished abortedOutcome := by
    decide +kernel
  refine ⟨abortedOutcome, hexecute, by decide, ?_⟩
  rintro context cause ⟨before, hbefore⟩
  -- the third line from the end of a report is empty
  have hthird := congrArg (·.reverse[2]?) hbefore
  simp [abortedOutcome, reportLines] at hthird

end ByteMachine.CommandLine
