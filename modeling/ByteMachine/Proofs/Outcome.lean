import ByteMachine.CommandLine.Invocation
import ByteMachine.Proofs.Console.Decimal
import ByteMachine.Proofs.Console.Run

/-!
# Outcomes of the command

What an invocation comes to whose program file can be read and whose program comes to its end. The
logger and the trace lines show on standard error only: the run goes the way of a machine with a
console alone, and the outcome is read off that console and the end of the run. Standard error is
assumed to take every line.

Results:
* `Reports.context_eq`: an outcome reports in one context only.
* `conclude_eq`: how an invocation is concluded.
* `execute_of_load_error`, `ends_of_prepare`, `ends_of_execute`: an invocation ends in front of the
  run or behind it.
* `status_conclude_iff`: when the status is 0.
* `conclude_of_works_of_stopped`, `conclude_of_works_of_fault`, `conclude_of_blocked`: what is
  concluded with a standard output that takes everything or nothing.
* `outcome_of_execute`: the outcome of an invocation.
-/

namespace ByteMachine.CommandLine

open Terminal

/-- The lines of an error report: what was about to be done, and what went wrong. -/
def reportLines (context cause : String) : List String :=
  ["Error: " ++ context, "", "Caused by:", "    " ++ cause]

/-- The outcome ends with an error report. -/
def Outcome.Reports (o : Outcome) (context cause : String) : Prop :=
  ∃ before, o.stderr.toList = before ++ reportLines context cause

namespace Outcome

variable {o : Outcome} {context context' cause cause' : String}

/-- An outcome reports in one context only. -/
theorem Reports.context_eq (h : o.Reports context cause) (h' : o.Reports context' cause') :
    context = context' := by
  obtain ⟨before, hbefore⟩ := h
  obtain ⟨before', hbefore'⟩ := h'
  have hreport := List.append_inj_right' (hbefore.symm.trans hbefore') rfl
  have hhead : "Error: " ++ context = "Error: " ++ context' := (List.cons.inj hreport).1
  simpa using hhead

end Outcome

/-! ## Reports -/

theorem sayErrors_eq (lines : List String) (t : Terminal) :
    t.sayErrors lines = { t with errors := t.errors ++ lines.toArray } := by
  unfold sayErrors
  induction lines generalizing t with
  | nil => simp
  | cons line lines ih =>
    rw [List.foldl_cons, ih]
    simp [sayError]

theorem fail_eq (f : Failure) (t : Terminal) :
    t.fail f = ⟨1, t.console.sink.received, t.errors ++ f.report.toArray⟩ := by
  unfold fail
  rw [sayErrors_eq]
  rfl

/-- A report at the end of standard error. -/
theorem reports_append (status : UInt8) (stdout : Array UInt8) (errors : Array String)
    (context cause : String) :
    Outcome.Reports ⟨status, stdout, errors ++ (reportLines context cause).toArray⟩ context cause :=
  ⟨errors.toList, Array.toList_append⟩

theorem reports_fail (f : Failure) (t : Terminal) : (t.fail f).Reports f.context f.cause := by
  rw [fail_eq]
  exact reports_append _ _ _ f.context f.cause

theorem stdout_fail (f : Failure) (t : Terminal) : (t.fail f).stdout = t.console.sink.received := by
  rw [fail_eq]

/-! ## The end of an invocation -/

/-- How an invocation is concluded from its console and the end of its run: its status, and the
lines of the error report. -/
def closing (e : Ending) (c : Console Stream) : UInt8 × List String :=
  match c.check.1, e with
  | .failed cause, _ => (1, reportLines "failed to write output" cause.message)
  | .exit code, _ => (code, [])
  | .proceed, .fault f => (1, reportLines "execution failed" f.message)
  | .proceed, _ => (0, [])

section

variable {t : Terminal} {e : Ending}

/-- **What an invocation comes to**: concluding it writes nothing more to standard output, and to
standard error only the report. -/
theorem conclude_eq (e : Ending) (t : Terminal) :
    conclude e t = ⟨(closing e t.console).1, t.console.sink.received,
      t.errors ++ (closing e t.console).2.toArray⟩ := by
  have hsink := Console.sink_check t.console
  unfold conclude closing
  generalize t.console.check = r at hsink ⊢
  obtain ⟨verdict, console⟩ := r
  rw [← hsink]
  cases verdict with
  | failed cause => exact fail_eq _ _
  | exit code => simp [finish]
  | proceed =>
    cases e with
    | fault f => exact fail_eq _ _
    | stopped => simp [finish]
    | limit => simp [finish]

theorem conclude_of_failed {cause : SinkError} (h : t.console.check.1 = .failed cause) :
    (conclude e t).status = 1 ∧
      (conclude e t).Reports "failed to write output" cause.message := by
  have hclosing :
      closing e t.console = (1, reportLines "failed to write output" cause.message) := by
    unfold closing
    rw [h]
  rw [conclude_eq, hclosing]
  exact ⟨rfl, reports_append _ _ _ _ _⟩

theorem conclude_of_exit {code : UInt8} (h : t.console.check.1 = .exit code) :
    (conclude e t).status = code := by
  have hclosing : closing e t.console = (code, []) := by
    unfold closing
    rw [h]
  rw [conclude_eq, hclosing]

theorem conclude_of_fault {f : Fault} (h : t.console.check.1 = .proceed) :
    (conclude (.fault f) t).status = 1 ∧
      (conclude (.fault f) t).Reports "execution failed" f.message := by
  have hclosing : closing (.fault f) t.console = (1, reportLines "execution failed" f.message) := by
    unfold closing
    rw [h]
  rw [conclude_eq, hclosing]
  exact ⟨rfl, reports_append _ _ _ _ _⟩

/-- Concluding writes nothing more to standard output. -/
theorem stdout_conclude (e : Ending) (t : Terminal) :
    (conclude e t).stdout = t.console.sink.received := by
  rw [conclude_eq]

end

/-! ## The run of an invocation -/

theorem mirrors_terminal : System.Mirrors Terminal.console :=
  ⟨fun m v t => Prod.ext rfl (print_console m v t).symm, fun m t => (halt_console m t).symm⟩

@[simp] theorem tracing_console (trace : Bool) (m : Machine) (t : Terminal) :
    (tracing trace m t).console = t.console := by
  unfold tracing
  split <;> rfl

/-- The machine that begins to run an image, with a console on a stream. -/
def started (text : List Char) (out : Stream) : System (Console Stream) :=
  ⟨(Machine.initial.load text).2.start, .fresh out⟩

section

variable {fuel : Nat} {program : String} {trace : Bool} {s : Surroundings} {bytes : List UInt8}
  {o : Outcome}

/-- The terminal of an invocation that has not done anything yet. -/
def Surroundings.terminal (s : Surroundings) : Terminal := .opened s.stdout s.ownLogger

/-- The same terminal with another console. -/
def Terminal.withConsole (c : Console Stream) (t : Terminal) : Terminal := { t with console := c }

theorem prepare_of_loaded (hfile : s.file = .ok bytes) {count : Nat} {machine : Machine}
    (hload : Machine.initial.load (Text.Utf8.decode bytes) = (.ok count, machine)) :
    prepare program s = .ok ⟨machine, s.terminal.log (loadedRecord count program)⟩ := by
  simp only [prepare, hfile, hload]
  rfl

theorem prepare_of_unloadable (hfile : s.file = .ok bytes) {cause : LoadError}
    (hload : (Machine.initial.load (Text.Utf8.decode bytes)).1 = .error cause) :
    prepare program s = .error (s.terminal.fail (.loading program cause)) := by
  unfold prepare
  rw [hfile]
  dsimp only
  generalize Machine.initial.load (Text.Utf8.decode bytes) = r at hload ⊢
  obtain ⟨result, machine⟩ := r
  obtain rfl : result = .error cause := hload
  rfl

/-- An image that cannot be loaded ends the invocation before anything is executed. -/
theorem execute_of_load_error (hfile : s.file = .ok bytes) {cause : LoadError}
    (hload : (Machine.initial.load (Text.Utf8.decode bytes)).1 = .error cause) (fuel : Nat)
    (trace : Bool) :
    execute fuel program trace s = .finished (s.terminal.fail (.loading program cause)) := by
  unfold execute
  rw [prepare_of_unloadable hfile hload]

/-- **An invocation goes the way of a machine with a console alone**: it is concluded from that
console and the end of the run. -/
theorem ends_of_prepare {system : System Terminal} (hprepare : prepare program s = .ok system)
    (h : execute fuel program trace s = .finished o) :
    ∃ k e u t, e ≠ .limit ∧ (system.start.map Terminal.console).Ends k e u ∧
      t.console = u.device ∧ o = conclude e t := by
  simp only [execute, hprepare] at h
  have hloop : System.loop (fun _ c => c) fuel (system.start.map Terminal.console) = _ :=
    mirrors_terminal.loop (fun m t => (tracing_console trace m t).symm) fuel system.start
  have hends := (System.ends_turns fuel (system.start.map Terminal.console)).1
  rw [hloop] at hends
  generalize System.loop (tracing trace) fuel system.start = r at h hends
  obtain ⟨e, u⟩ := r
  refine ⟨_, e, _, u.device.log (ranRecord s.elapsed), ?_, hends, log_console _ _, ?_⟩
  · rintro rfl
    cases h
  · cases e with
    | limit => cases h
    | stopped => exact (Result.finished.inj h).symm
    | fault f => exact (Result.finished.inj h).symm

/-- The machine runs the image that has been loaded. -/
theorem ends_of_execute (hfile : s.file = .ok bytes) {count : Nat}
    (hload : (Machine.initial.load (Text.Utf8.decode bytes)).1 = .ok count)
    (h : execute fuel program trace s = .finished o) :
    ∃ k e u t, e ≠ .limit ∧ (started (Text.Utf8.decode bytes) s.stdout).Ends k e u ∧
      t.console = u.device ∧ o = conclude e t := by
  obtain ⟨⟨result, machine⟩, hr⟩ : ∃ r, Machine.initial.load (Text.Utf8.decode bytes) = r :=
    ⟨_, rfl⟩
  obtain rfl : result = .ok count := by rw [← hload, hr]
  let system : System Terminal := ⟨machine, s.terminal.log (loadedRecord count program)⟩
  have hmap : system.start.map Terminal.console = started (Text.Utf8.decode bytes) s.stdout := by
    simp [system, System.map, System.start, started, hr, Surroundings.terminal, Terminal.opened]
  exact hmap ▸ ends_of_prepare (prepare_of_loaded hfile hr) h

end

section

variable {text : List Char} {out : Stream} {k : Nat} {e : Ending} {u : System (Console Stream)}
  {t : Terminal}

/-- What the standard output has taken in the end. -/
theorem stdout_of_ends (hends : (started text out).Ends k e u) (hconsole : t.console = u.device)
    (hempty : out.received = #[]) :
    u.device.sink = out.put (conclude e t).stdout.toList ∧
      (u.device.pending = none →
        (conclude e t).stdout.toList = ((started text out).calls k).flatMap Call.written) := by
  obtain ⟨bs, hsink, hclean, -⟩ := (Console.wrote_of_ends hends rfl).sink
  have hstdout : (conclude e t).stdout.toList = bs := by
    rw [stdout_conclude, hconsole, hsink, Stream.toList_received_put, hempty]
    rfl
  rw [hstdout, ← Call.line_eq_written]
  exact ⟨hsink, hclean⟩

/-- **The status is 0 exactly if the machine has halted and every byte has been taken**, also by the
flush behind the run. -/
theorem status_conclude_iff (hends : (started text out).Ends k e u) (he : e ≠ .limit)
    (hconsole : t.console = u.device) (hempty : out.received = #[]) :
    (conclude e t).status = 0 ↔ e = .stopped ∧
      (∃ j, k = j + 1 ∧ (started text out).executed j = some .hlt) ∧
      (conclude e t).stdout.toList = ((started text out).calls k).flatMap Call.written ∧
      out.flushError = none := by
  have hexit := Console.check_eq_exit_of_ends hends he rfl rfl
  obtain ⟨hsink, -⟩ := stdout_of_ends hends hconsole hempty
  rw [← hconsole, Call.line_eq_written] at hexit
  constructor
  · intro hstatus
    cases hcheck : t.console.check.1 with
    | failed cause =>
      rw [(conclude_of_failed hcheck).1] at hstatus
      cases hstatus
    | exit code =>
      obtain ⟨-, hstopped, hhalt, hall, hflush⟩ := (hexit code).mp hcheck
      refine ⟨hstopped, hhalt, ?_, hflush⟩
      rw [stdout_conclude, hall, Stream.toList_received_put, hempty]
      rfl
    | proceed =>
      obtain ⟨f, rfl⟩ := Console.fault_of_check_proceed hends he rfl rfl (hconsole ▸ hcheck)
      rw [(conclude_of_fault hcheck).1] at hstatus
      cases hstatus
  · rintro ⟨hstopped, hhalt, hall, hflush⟩
    rw [hall, ← hconsole] at hsink
    exact conclude_of_exit ((hexit 0).mpr ⟨rfl, hstopped, hhalt, hsink, hflush⟩)

/-- With a standard output that takes everything, a run that has stopped has halted. -/
theorem conclude_of_works_of_stopped (hends : (started text out).Ends k .stopped u)
    (hconsole : t.console = u.device) (hempty : out.received = #[]) (hw : out.Works) :
    (conclude .stopped t).status = 0 ∧ ∃ j m, k = j + 1 ∧
      (started text out).executed j = some .hlt ∧
      (started text out).calls k = (started text out).calls j ++ [.halt m] ∧
      (∀ c ∈ (started text out).calls j, ∃ m v, c = .print m v true) ∧
      (conclude .stopped t).stdout.toList =
        ((started text out).calls j).flatMap Call.written ++ farewellBytes := by
  have hclean := Console.pending_of_works hends rfl hw hempty
  have hall := (stdout_of_ends hends hconsole hempty).2 hclean
  obtain ⟨-, j, m, hk, hexec, hcalls, hprints⟩ := Console.halted_of_stopped hends rfl rfl hclean
  have hstatus := (status_conclude_iff hends nofun hconsole hempty).mpr
    ⟨rfl, ⟨j, hk, hexec⟩, hall, hw.2.2⟩
  refine ⟨hstatus, j, m, hk, hexec, hcalls, hprints, ?_⟩
  rw [hall, hcalls, List.flatMap_append, List.flatMap_singleton]
  rfl

/-- With a standard output that takes everything, a fault of the machine is reported. -/
theorem conclude_of_works_of_fault {f : Fault} (hends : (started text out).Ends k (.fault f) u)
    (hconsole : t.console = u.device) (hempty : out.received = #[]) (hw : out.Works) :
    (conclude (.fault f) t).status = 1 ∧
      (∀ c ∈ (started text out).calls k, ∃ m v, c = .print m v true) ∧
      (conclude (.fault f) t).stdout.toList = ((started text out).calls k).flatMap Call.written ∧
      (conclude (.fault f) t).Reports "execution failed" f.message := by
  have hclean := Console.pending_of_works hends rfl hw hempty
  obtain ⟨hsink, hall⟩ := stdout_of_ends hends hconsole hempty
  obtain ⟨hexit, hprints⟩ := Console.clean_of_fault hends rfl
  have hcheck : t.console.check.1 = .proceed := by
    rw [hconsole, Console.check_eq_proceed_iff, Console.flush_put_fst_iff hsink]
    exact ⟨hclean, hw.2.2, hexit⟩
  obtain ⟨hstatus, hreports⟩ := conclude_of_fault hcheck
  exact ⟨hstatus, hprints, hall hclean, hreports⟩

/-- **With a blocked standard output nothing succeeds**, and the failed write is reported exactly if
there was something to write. -/
theorem conclude_of_blocked (hends : (started text out).Ends k e u) (he : e ≠ .limit)
    (hconsole : t.console = u.device) (hempty : out.received = #[]) (hb : out.Blocked) :
    (conclude e t).status = 1 ∧
      ((∃ cause : SinkError, (conclude e t).Reports "failed to write output" cause.message) ↔
        (started text out).calls k ≠ []) := by
  have hpending := Console.pending_of_blocked hends rfl hb
  rw [← hpending]
  cases hp : u.device.pending with
  | some cause =>
    have hcheck : t.console.check.1 = .failed cause := by
      rw [hconsole, Console.check_of_pending hp]
    obtain ⟨hstatus, hreports⟩ := conclude_of_failed (e := e) hcheck
    exact ⟨hstatus, fun _ => nofun, fun _ => ⟨cause, hreports⟩⟩
  | none =>
    -- nothing was written, so the machine has not halted, and it has come to a fault
    have hnone : (started text out).calls k = [] :=
      Decidable.byContradiction fun hne => hpending.mpr hne hp
    obtain ⟨hsink, -⟩ := stdout_of_ends hends hconsole hempty
    have hcheck : t.console.check.1 = .proceed := by
      rw [hconsole, Console.check_eq_proceed_iff, Console.flush_put_fst_iff hsink,
        (Console.wrote_of_ends hends rfl).exitCode, hnone]
      exact ⟨hp, hb.2, rfl⟩
    obtain ⟨f, rfl⟩ := Console.fault_of_check_proceed hends he rfl rfl (hconsole ▸ hcheck)
    obtain ⟨hstatus, hreports⟩ := conclude_of_fault hcheck
    refine ⟨hstatus, ?_, fun hne => absurd rfl hne⟩
    rintro ⟨cause, hwriting⟩
    exact absurd (hwriting.context_eq hreports) (by decide)

end

/-- **The outcome of an invocation** whose program file can be read, whatever is in it, and whose
program comes to its end; with any logger, with tracing or without, and with a standard error that
takes every line. The status is 0 exactly if the image can be loaded, the run ends with an HLT, and
the standard output has taken every line of it and can be flushed.

With a standard output that takes everything there are three outcomes: the image cannot be loaded,
and nothing is executed; the machine halts; or it comes to a fault. With one that takes nothing the
status is 1, and a failed write is reported exactly if the machine comes to a PRN or an HLT. The
check behind the run never goes on to a success: it goes on only behind a fault. -/
theorem outcome_of_execute {fuel : Nat} {program : String} {trace : Bool} {s : Surroundings}
    {bytes : List UInt8} {o : Outcome} (hfile : s.file = .ok bytes)
    (hempty : s.stdout.received = #[]) (h : execute fuel program trace s = .finished o) :
    let text := Text.Utf8.decode bytes
    let loaded := (Machine.initial.load text).1
    let run := started text s.stdout
    (o.status = 0 ↔ (∃ count, loaded = .ok count) ∧
      (∃ (j : Nat) (t : System (Console Stream)), run.Ends (j + 1) .stopped t ∧
        run.executed j = some .hlt ∧
        o.stdout.toList = (run.calls (j + 1)).flatMap Call.written) ∧
      s.stdout.flushError = none) ∧
    (s.stdout.Works →
      (∃ cause : LoadError, loaded = .error cause ∧ o.status = 1 ∧ o.stdout = #[] ∧
        o.Reports ("failed to load " ++ program) cause.message ∧
        ∀ fuel trace, execute fuel program trace s = .finished o) ∨
      (∃ (count j : Nat) (t : System (Console Stream)) (m : Machine), loaded = .ok count ∧
        run.Ends (j + 1) .stopped t ∧ run.executed j = some .hlt ∧ o.status = 0 ∧
        run.calls (j + 1) = run.calls j ++ [Call.halt m] ∧
        (∀ c ∈ run.calls j, ∃ m v, c = .print m v true) ∧
        o.stdout.toList = (run.calls j).flatMap Call.written ++ farewellBytes) ∨
      (∃ (count k : Nat) (f : Fault) (t : System (Console Stream)), loaded = .ok count ∧
        run.Ends k (.fault f) t ∧ o.status = 1 ∧
        (∀ c ∈ run.calls k, ∃ m v, c = .print m v true) ∧
        o.stdout.toList = (run.calls k).flatMap Call.written ∧
        o.Reports "execution failed" f.message)) ∧
    (s.stdout.Blocked → o.status = 1 ∧
      ((∃ cause : SinkError, o.Reports "failed to write output" cause.message) ↔
        (∃ count, loaded = .ok count) ∧
        ∃ j, run.Turns j ∧ (run.after j).machine.running = true ∧
          (run.executed j = some .hlt ∨ ∃ a, run.executed j = some (.prn a)))) ∧
    (∀ k e t, run.Ends k e t → e ≠ .limit → t.device.check.1 = .proceed →
      ∃ f, e = .fault f) := by
  intro text loaded run
  have hproceed : ∀ k e t, run.Ends k e t → e ≠ .limit → t.device.check.1 = .proceed →
      ∃ f, e = .fault f :=
    fun k e t hends he hcheck => Console.fault_of_check_proceed hends he rfl rfl hcheck
  cases hload : (Machine.initial.load text).1 with
  | error cause =>
    have hexecute : ∀ fuel trace, execute fuel program trace s =
        .finished (s.terminal.fail (.loading program cause)) := execute_of_load_error hfile hload
    obtain rfl : _ = o := Result.finished.inj ((hexecute fuel trace).symm.trans h)
    have hfailed : ¬∃ count, loaded = .ok count := by
      rintro ⟨count, hcount⟩
      rw [show loaded = _ from hload] at hcount
      cases hcount
    have hreports : (s.terminal.fail (.loading program cause)).Reports
        ("failed to load " ++ program) cause.message := reports_fail (.loading program cause) _
    refine ⟨⟨nofun, fun hzero => absurd hzero.1 hfailed⟩, fun _ => .inl ?_, fun _ => ⟨rfl, ?_⟩,
      hproceed⟩
    · refine ⟨cause, hload, rfl, ?_, hreports, hexecute⟩
      rw [stdout_fail]
      exact hempty
    · refine ⟨?_, fun hwrites => absurd hwrites.1 hfailed⟩
      rintro ⟨cause', hwriting⟩
      have hletters := congrArg String.toList (hwriting.context_eq hreports)
      simp at hletters
  | ok count =>
    obtain ⟨k, e, u, t, he, hends, hconsole, rfl⟩ := ends_of_execute hfile hload h
    have hloaded : ∃ count, loaded = .ok count := ⟨count, hload⟩
    refine ⟨?_, fun hw => .inr ?_, fun hb => ?_, hproceed⟩
    · rw [status_conclude_iff hends he hconsole hempty]
      constructor
      · rintro ⟨rfl, ⟨j, rfl, hexec⟩, hall, hflush⟩
        exact ⟨hloaded, ⟨j, u, hends, hexec, hall⟩, hflush⟩
      · rintro ⟨-, ⟨j, t', hends', hexec, hall⟩, hflush⟩
        obtain ⟨rfl, rfl, rfl⟩ := hends.unique hends' he nofun
        exact ⟨rfl, ⟨j, rfl, hexec⟩, hall, hflush⟩
    · cases e with
      | limit => exact absurd rfl he
      | stopped =>
        obtain ⟨hstatus, j, m, rfl, hexec, hcalls, hprints, hstdout⟩ :=
          conclude_of_works_of_stopped hends hconsole hempty hw
        exact .inl ⟨count, j, u, m, hload, hends, hexec, hstatus, hcalls, hprints, hstdout⟩
      | fault f =>
        obtain ⟨hstatus, hprints, hstdout, hreports⟩ :=
          conclude_of_works_of_fault hends hconsole hempty hw
        exact .inr ⟨count, k, f, u, hload, hends, hstatus, hprints, hstdout, hreports⟩
    · obtain ⟨hstatus, hwriting⟩ := conclude_of_blocked hends he hconsole hempty hb
      refine ⟨hstatus, hwriting.trans ((hends.calls_ne_nil_iff he).trans ?_)⟩
      exact ⟨fun hreach => ⟨hloaded, hreach⟩, fun hreach => hreach.2⟩

/-- The image of a program that prints 65 and halts. -/
def sixtyFive : List UInt8 :=
  Text.Utf8.encode "10000010\n00000000\n01000001\n01000111\n00000000\n00000001\n"

/-- Surroundings with this image in the program file and a logger that writes warnings. -/
def printing (stdout : Stream) : Surroundings where
  file := .ok sixtyFive
  setting := some "warn"
  logger _ := ⟨[], fun r => r.level.rank ≤ Level.warn.rank, Record.message⟩
  stdout := stdout
  elapsed := "5ms"
  lastWords message := [message]

/-- With a standard output that works, the number and the farewell are on it, and the status is 0;
with a closed one the failed write is reported. -/
theorem outcome_of_execute_sixtyFive :
    (∃ (o : Outcome) (j : Nat) (t : System (Console Stream)),
      execute 3 "65.ls8" false (printing .unbounded) = .finished o ∧ o.status = 0 ∧
      o.stdout.toList = [0x36, 0x35, 0x0A] ++ farewellBytes ∧
      (started (Text.Utf8.decode sixtyFive) .unbounded).Ends (j + 1) .stopped t ∧
      o.stdout.toList = ((started (Text.Utf8.decode sixtyFive) .unbounded).calls j).flatMap
        Call.written ++ farewellBytes) ∧
    ∃ (o : Outcome) (cause : SinkError),
      execute 3 "65.ls8" false (printing (.failing .brokenPipe)) = .finished o ∧
      o.status = 1 ∧ o.Reports "failed to write output" cause.message := by
  constructor
  · have hfile : (printing .unbounded).file = .ok sixtyFive := rfl
    have hworks : (printing .unbounded).stdout.Works := ⟨rfl, nofun, rfl⟩
    obtain ⟨o, hexecute, hzero, hbytes⟩ : ∃ o : Outcome,
        execute 3 "65.ls8" false (printing .unbounded) = .finished o ∧ o.status = 0 ∧
        o.stdout.toList = [0x36, 0x35, 0x0A] ++ farewellBytes :=
      ⟨⟨0, ([0x36, 0x35, 0x0A] ++ farewellBytes).toArray, #[]⟩, by decide +kernel, rfl, rfl⟩
    obtain ⟨-, houtcome, -⟩ := outcome_of_execute hfile rfl hexecute
    rcases houtcome hworks with
      ⟨cause, -, hone, -⟩ | ⟨count, j, t, m, -, hends, -, -, -, -, hlines⟩ |
      ⟨count, k, f, t, -, -, hone, -⟩
    · rw [hzero] at hone
      cases hone
    · exact ⟨o, j, t, hexecute, hzero, hbytes, hends, hlines⟩
    · rw [hzero] at hone
      cases hone
  · have hfile : (printing (.failing .brokenPipe)).file = .ok sixtyFive := rfl
    have hblocked : (printing (.failing .brokenPipe)).stdout.Blocked := ⟨rfl, rfl⟩
    obtain ⟨o, hexecute, hreports⟩ : ∃ o : Outcome,
        execute 3 "65.ls8" false (printing (.failing .brokenPipe)) = .finished o ∧
        o.Reports "failed to write output" SinkError.brokenPipe.message :=
      ⟨⟨1, #[], #["console write failed: broken pipe", "Error: failed to write output", "",
          "Caused by:", "    broken pipe"]⟩,
        by decide +kernel, ["console write failed: broken pipe"], rfl⟩
    obtain ⟨-, -, houtcome, -⟩ := outcome_of_execute hfile rfl hexecute
    exact ⟨o, .brokenPipe, hexecute, (houtcome hblocked).1, hreports⟩

end ByteMachine.CommandLine
