import ByteMachine.Proofs.LogSettings
import ByteMachine.Proofs.Status
import ByteMachine.Proofs.Tracing

/-!
# Observing an invocation

Standard error shows what an invocation does, to those who ask for it: the log setting says which
records are shown, and tracing adds a line for every instruction that begins. Neither of them makes
a difference to what is done. Nor does the time a run takes, which a record behind the run shows.

The logger is taken as it is; of one that has been set up from a setting `Logger.Follows` is assumed
where a result says so. Standard error is assumed to take every line.

* `Account` is what there is to observe of an invocation, and `Account.outcome trace g elapsed` is
  the outcome with tracing or without, with a logger, when the run takes some time.
* `Begins` says which record and which machine a run begins with, and `Fails` how an invocation ends
  without a run.
* `Account.ofRun` and `Account.withoutRun` are the accounts of the two cases, and `Describes` says
  which account an invocation has. None of them knows about the observer.

Results:
* `prepare_of_begins`, `prepare_of_fails`: what is written in front of a run, and without one.
* `execute_of_begins`, `execute_of_fails`: an invocation has the outcome of its account.
* `stderr_outcome`, `stderr_of_follows`: what tracing adds to standard error, and what a setting
  leaves of it.
* `observation_changes_nothing`: all invocations that are observed differently have one account.
-/

namespace ByteMachine.CommandLine

open Terminal

/-! ## What there is to observe -/

/-- What there is to observe of an invocation. -/
structure Account where
  status : UInt8
  stdout : Array UInt8
  /-- What is written before the run. -/
  front : List Entry
  /-- The machines in front of the instructions that begin. -/
  begun : List Machine
  /-- What is written behind the instructions, by the time the run has taken. -/
  back : String → List Entry

namespace Account

variable {a : Account} {trace : Bool} {g : Logger} {elapsed : String}

/-- What is written to standard error; the trace lines are between the rest. -/
def entries (a : Account) (trace : Bool) (elapsed : String) : List Entry :=
  a.front ++ traced trace a.begun ++ a.back elapsed

/-- The outcome of the invocation, with tracing or without, with a logger, and with a run that takes
some time. -/
def outcome (a : Account) (trace : Bool) (g : Logger) (elapsed : String) : Outcome where
  status := a.status
  stdout := a.stdout
  stderr := (g.opening ++ shown g (a.entries trace elapsed)).toArray

/-- **Tracing adds one block of lines** between what is written in front of the run and the rest. -/
theorem stderr_outcome (a : Account) (g : Logger) (elapsed : String) :
    (a.outcome false g elapsed).stderr.toList =
        g.opening ++ shown g a.front ++ shown g (a.back elapsed) ∧
      (a.outcome true g elapsed).stderr.toList =
        g.opening ++ shown g a.front ++ a.begun.map Machine.trace ++ shown g (a.back elapsed) := by
  have hlines : shown g (traced true a.begun) = a.begun.map Machine.trace := by
    have hmap : traced true a.begun = (a.begun.map Machine.trace).map .line := by
      rw [List.map_map]
      rfl
    rw [hmap, shown_lines]
  constructor
  · simp [outcome, entries, traced, shown_append]
  · simp [outcome, entries, shown_append, hlines]

/-- **A setting leaves the entries on standard error that it lets through.** -/
theorem stderr_of_follows {line : Record → String} {setting : Setting}
    (h : g.Follows line setting) :
    (a.outcome trace g elapsed).stderr.toList =
      ((a.entries trace elapsed).filter (·.passes setting.allows)).map (·.text line) := by
  have hpasses : g.passes = setting.allows := funext h.passes
  simp only [outcome, shown, h.opening, hpasses, h.line, List.nil_append]

/-- The setting `trace` leaves everything. -/
theorem stderr_of_follows_trace {line : Record → String}
    (h : g.Follows line (.limit (.upTo .trace))) :
    (a.outcome trace g elapsed).stderr.toList = (a.entries trace elapsed).map (·.text line) := by
  rw [stderr_of_follows h, List.filter_eq_self.mpr]
  intro e _
  cases e with
  | line text => rfl
  | record r => exact Limit.allows_trace r.level

end Account

/-! ## Before the run and behind it -/

section

variable {program : String} {s : Surroundings} {record : Record} {c : System (Console Stream)}

/-- A run begins: with a record of the loading, and with a machine that has a console alone. -/
inductive Begins (program : String) (file : Except SystemError (List UInt8)) (stdout : Stream) :
    Record → System (Console Stream) → Prop
  /-- The image has been loaded. -/
  | loaded {bytes : List UInt8} {count : Nat} {machine : Machine} (hfile : file = .ok bytes)
      (hload : Machine.initial.load (Text.Utf8.decode bytes) = (.ok count, machine)) :
      Begins program file stdout
        ⟨.info, "ls8", "loaded " ++ toString count ++ " bytes from " ++ Text.quoted program⟩
        ⟨machine, .fresh stdout⟩
  /-- The file is not there, which has been said. -/
  | missing {out : Stream} (hfile : file = .error .noSuchFile)
      (hline : Sink.writeAll (missingLine program) stdout = (.ok (), out)) :
      Begins program file stdout
        ⟨.warn, "ls8", "could not open " ++ Text.quoted program ++ ": " ++
          SystemError.noSuchFile.message⟩
        ⟨.initial, .fresh out⟩

/-- An invocation ends without a run: with a status, what standard output has got, and the lines
that say why. -/
inductive Fails (program : String) (file : Except SystemError (List UInt8)) (stdout : Stream)
    (lastWords : String → List String) : UInt8 → Array UInt8 → List String → Prop
  /-- The file cannot be read. -/
  | unreadable {cause : SystemError} (hfile : file = .error cause) (hcause : cause ≠ .noSuchFile) :
      Fails program file stdout lastWords 1 stdout.received
        (reportLines ("failed to read " ++ program) cause.message)
  /-- There is no program in the file. -/
  | unloadable {bytes : List UInt8} {machine : Machine} {cause : LoadError}
      (hfile : file = .ok bytes)
      (hload : Machine.initial.load (Text.Utf8.decode bytes) = (.error cause, machine)) :
      Fails program file stdout lastWords 1 stdout.received
        (reportLines ("failed to load " ++ program) cause.message)
  /-- The file is not there, and the line that says so cannot be written. -/
  | aborted {out : Stream} {cause : SinkError} (hfile : file = .error .noSuchFile)
      (hline : Sink.writeAll (missingLine program) stdout = (.error cause, out)) :
      Fails program file stdout lastWords 101 out.received
        (lastWords ("failed printing to stdout: " ++ cause.message))

/-- An invocation begins a run or ends without one. -/
theorem begins_or_fails (program : String) (file : Except SystemError (List UInt8))
    (stdout : Stream) (lastWords : String → List String) :
    (∃ record c, Begins program file stdout record c) ∨
      ∃ status out lines, Fails program file stdout lastWords status out lines := by
  cases hfile : file with
  | ok bytes =>
    obtain ⟨⟨result, machine⟩, hload⟩ :
        ∃ r, Machine.initial.load (Text.Utf8.decode bytes) = r := ⟨_, rfl⟩
    cases result with
    | ok count => exact .inl ⟨_, _, .loaded rfl hload⟩
    | error cause => exact .inr ⟨_, _, _, .unloadable rfl hload⟩
  | error cause =>
    by_cases hcause : cause = .noSuchFile
    · subst hcause
      obtain ⟨⟨result, out⟩, hline⟩ : ∃ r, Sink.writeAll (missingLine program) stdout = r :=
        ⟨_, rfl⟩
      cases result with
      | ok _ => exact .inl ⟨_, _, .missing rfl hline⟩
      | error cause => exact .inr ⟨_, _, _, .aborted rfl hline⟩
    · exact .inr ⟨_, _, _, .unreadable rfl hcause⟩

/-- What begins a run does not end without one. -/
theorem Begins.not_fails {file : Except SystemError (List UInt8)} {stdout : Stream}
    {lastWords : String → List String} {status : UInt8} {out : Array UInt8} {lines : List String}
    (h : Begins program file stdout record c) :
    ¬Fails program file stdout lastWords status out lines := by
  intro hfails
  cases h with
  | loaded hfile hload =>
    cases hfails with
    | unreadable hfile' => simp [hfile] at hfile'
    | aborted hfile' => simp [hfile] at hfile'
    | unloadable hfile' hload' =>
      obtain rfl := Except.ok.inj (hfile.symm.trans hfile')
      simp [hload] at hload'
  | missing hfile hline =>
    cases hfails with
    | unreadable hfile' hcause => exact hcause (Except.error.inj (hfile'.symm.trans hfile))
    | aborted hfile' hline' => simp [hline] at hline'
    | unloadable hfile' => simp [hfile] at hfile'

theorem Begins.clean {file : Except SystemError (List UInt8)} {stdout : Stream}
    (h : Begins program file stdout record c) : c.device.pending = none := by
  cases h <;> rfl

/-- Where a run begins, the record of the loading is on standard error and nothing else. -/
theorem prepare_of_begins (h : Begins program s.file s.stdout record c) :
    prepare program s =
      .ok ⟨c.machine, (s.terminal.withConsole c.device).enter [.record record]⟩ := by
  cases h with
  | loaded hfile hload =>
    rw [prepare_of_loaded hfile hload, log_eq]
    rfl
  | missing hfile hline =>
    rw [prepare_of_written hfile hline, log_eq]
    rfl

/-- Without a run, the lines that say why are on standard error and nothing else. -/
theorem prepare_of_fails {status : UInt8} {out : Array UInt8} {lines : List String}
    (h : Fails program s.file s.stdout s.lastWords status out lines) :
    prepare program s = .error ⟨status, out, (s.ownLogger.opening ++ lines).toArray⟩ := by
  rw [← List.append_toArray]
  cases h with
  | unreadable hfile hcause =>
    rw [prepare_of_unreadable hfile hcause, fail_eq]
    rfl
  | unloadable hfile hload =>
    rw [prepare_of_unloadable hfile (congrArg Prod.fst hload), fail_eq]
    rfl
  | aborted hfile hline =>
    rw [prepare_of_unwritten hfile hline, abort, sayErrors_eq]
    rfl

/-- The account of an invocation that ends without a run: no instruction begins. -/
def Account.withoutRun (status : UInt8) (out : Array UInt8) (lines : List String) : Account where
  status := status
  stdout := out
  front := []
  begun := []
  back _ := lines.map .line

/-- The account of an invocation that begins a run from `c` with a record, when the run ends in `u`
after `k` turns. An instruction that fails has begun. Behind the instructions comes the warning
about a failed write, then the time, and then the error report. -/
def Account.ofRun (record : Record) (c u : System (Console Stream)) (k : Nat) (e : Ending) :
    Account where
  status := (closing e u.device).1
  stdout := u.device.sink.received
  front := [.record record]
  begun := c.start.machines (e.begun k)
  back elapsed :=
    warning u.device ++ .record ⟨.info, "ls8", "ran for " ++ elapsed⟩ ::
      (closing e u.device).2.map .line

/-- The account of an invocation. -/
inductive Describes (program : String) (file : Except SystemError (List UInt8)) (stdout : Stream)
    (lastWords : String → List String) : Account → Prop
  | withoutRun {status : UInt8} {out : Array UInt8} {lines : List String}
      (hfails : Fails program file stdout lastWords status out lines) :
      Describes program file stdout lastWords (.withoutRun status out lines)
  | ofRun {record : Record} {c u : System (Console Stream)} {k : Nat} {e : Ending}
      (hbegins : Begins program file stdout record c) (hends : c.start.Ends k e u)
      (he : e ≠ .limit) : Describes program file stdout lastWords (.ofRun record c u k e)

end

/-! ## Whole invocations -/

section

variable {program : String} {trace : Bool} {s : Surroundings} {fuel k : Nat} {e : Ending}
  {record : Record} {c u : System (Console Stream)}

/-- A run that comes to its end within the bound gives the outcome of its account. -/
theorem execute_of_begins (hbegins : Begins program s.file s.stdout record c)
    (hends : c.start.Ends k e u) (hn : e.Allows fuel k) (trace : Bool) :
    execute fuel program trace s =
      if e = .limit then .unfinished
      else .finished ((Account.ofRun record c u k e).outcome trace s.ownLogger s.elapsed) := by
  let a := Account.ofRun record c u k e
  let report := (closing e u.device).2
  let before := a.front ++ (traced trace a.begun ++ warning u.device)
  let system : System Terminal := ⟨c.machine, (s.terminal.withConsole c.device).enter a.front⟩
  let closed : Terminal := (s.terminal.withConsole u.device).enter before
  have hprepare : prepare program s = .ok system := prepare_of_begins hbegins
  have hloop : System.loop (tracing trace) fuel system.start = (e, ⟨u.machine, closed⟩) := by
    refine (loop_tracing trace (s := system.start) hbegins.clean hends hn).trans ?_
    simp only [closed, before, enter_append]
    rfl
  have hentries : a.entries trace s.elapsed =
      before ++ [.record (ranRecord s.elapsed)] ++ report.map .line := by
    simp [a, before, report, Account.entries, Account.ofRun, ranRecord]
  have hclosed : conclude e (closed.log (ranRecord s.elapsed)) =
      a.outcome trace s.ownLogger s.elapsed := by
    rw [log_eq, ← enter_append, conclude_eq, Account.outcome, hentries, shown_append, shown_lines,
      ← List.append_assoc, ← List.append_toArray, ← List.append_toArray]
    rfl
  rw [← hclosed]
  simp only [execute, hprepare, hloop]
  cases e <;> rfl

/-- An invocation that ends without a run has the outcome of its account, whatever the bound. -/
theorem execute_of_fails {status : UInt8} {out : Array UInt8} {lines : List String}
    (h : Fails program s.file s.stdout s.lastWords status out lines) (fuel : Nat) :
    execute fuel program trace s =
      .finished ((Account.withoutRun status out lines).outcome trace s.ownLogger s.elapsed) := by
  have hnone : traced trace [] = [] := by cases trace <;> rfl
  simp only [execute, prepare_of_fails h, Account.outcome, Account.entries, Account.withoutRun,
    hnone, List.nil_append, shown_lines]

/-- **An invocation that comes to its end has an account**, and with it every invocation that is
observed differently. -/
theorem exists_account {o : Outcome} (h : execute fuel program trace s = .finished o) :
    ∃ a, Describes program s.file s.stdout s.lastWords a ∧
      ∀ setting trace' elapsed fuel', fuel ≤ fuel' →
        execute fuel' program trace' { s with setting, elapsed } =
          .finished (a.outcome trace' { s with setting }.ownLogger elapsed) := by
  rcases begins_or_fails program s.file s.stdout s.lastWords with
    ⟨record, c, hbegins⟩ | ⟨status, out, lines, hfails⟩
  · obtain ⟨hends, hallows⟩ := System.ends_turns fuel c.start
    generalize System.turns fuel c.start = k at hends hallows
    generalize System.loop (fun _ c => c) fuel c.start = r at hends hallows
    obtain ⟨e, u⟩ := r
    have he : e ≠ .limit := by
      rintro rfl
      rw [execute_of_begins hbegins hends hallows, if_pos rfl] at h
      cases h
    refine ⟨_, .ofRun hbegins hends he, fun setting trace' elapsed fuel' hle => ?_⟩
    have hlarger : e.Allows fuel' k :=
      (Ending.allows_iff he).mpr (Nat.le_trans ((Ending.allows_iff he).mp hallows) hle)
    rw [execute_of_begins (s := { s with setting, elapsed }) hbegins hends hlarger, if_neg he]
    rfl
  · exact ⟨_, .withoutRun hfails, fun setting trace' elapsed fuel' _ =>
      execute_of_fails (s := { s with setting, elapsed }) hfails fuel'⟩

end

/-! ## Trace lines -/

theorem Text.mem_intercalate {separator c : Char} {ps : List (List Char)}
    (h : c ∈ [separator].intercalate ps) : c = separator ∨ ∃ p ∈ ps, c ∈ p := by
  induction ps with
  | nil => cases h
  | cons p ps ih =>
    cases ps with
    | nil =>
      rw [List.intercalate_singleton] at h
      exact .inr ⟨p, List.mem_cons_self, h⟩
    | cons q qs =>
      rw [List.intercalate_cons_cons, List.mem_append, List.mem_append, List.mem_singleton] at h
      rcases h with (hp | hs) | hq
      · exact .inr ⟨p, List.mem_cons_self, hp⟩
      · exact .inl hs
      · exact (ih hq).imp_right fun ⟨r, hr, hc⟩ => ⟨r, List.mem_cons_of_mem p hr, hc⟩

theorem feed_not_mem_upper (b : UInt8) : '\n' ∉ Text.Hex.upper b := by
  have hdigit : ∀ n : Fin 16, '\n' ≠ Text.Hex.upperDigit n := by
    intro n hfeed
    have hvalue := Text.Hex.digitValue?_upperDigit n
    rw [← hfeed] at hvalue
    cases hvalue
  intro h
  have hlt := b.toNat_lt
  rw [Text.Hex.upper, List.mem_cons, List.mem_singleton] at h
  rcases h with h | h
  · exact hdigit ⟨b.toNat / 16, by omega⟩ h
  · exact hdigit ⟨b.toNat % 16, by omega⟩ h

theorem feed_not_mem_fields (vs : List UInt8) : '\n' ∉ Snapshot.fields vs := by
  intro h
  rcases Text.mem_intercalate h with h | ⟨ds, hds, h⟩
  · exact absurd h (by decide)
  · obtain ⟨b, -, rfl⟩ := List.mem_map.mp hds
    exact feed_not_mem_upper b h

theorem toList_trace (m : Machine) : m.trace.toList = m.snapshot.chars := m.snapshot.toList_render

/-- A trace line is one line. -/
theorem feed_not_mem_trace (m : Machine) : '\n' ∉ m.trace.toList := by
  intro h
  rw [toList_trace] at h
  unfold Snapshot.chars at h
  simp only [List.mem_append, feed_not_mem_fields, or_false] at h
  revert h
  decide

/-! ## Observers -/

/-- **Observing an invocation does not change it.** An invocation that comes to its end has an
account, which depends on the file and the standard output alone. With every log setting, with
tracing or without, however long the run takes, and with every bound that is enough, the outcome is
read off this account: the status and the standard output are always the same.

Tracing adds one block of lines, behind the record of the loading and in front of all else: a line
for every instruction that begins, and none if the program cannot be read or loaded.

If the loggers follow their settings, standard error is what it is under the setting `trace` without
the records that the setting does not let through: those above its level, or above the level of the
directive with the longest name that the target begins with.

Standard error is assumed to take every line. -/
theorem observation_changes_nothing {fuel : Nat} {program : String} {trace : Bool}
    {s : Surroundings} {o : Outcome} (h : execute fuel program trace s = .finished o) :
    ∃ a, Describes program s.file s.stdout s.lastWords a ∧
      o = a.outcome trace s.ownLogger s.elapsed ∧
      (∀ setting trace' elapsed fuel', fuel ≤ fuel' → ∃ o',
        execute fuel' program trace' { s with setting, elapsed } = .finished o' ∧
        o'.status = o.status ∧ o'.stdout = o.stdout ∧
        o' = a.outcome trace' (s.logger (setting.getD "info")) elapsed) ∧
      (∀ g elapsed, ∃ front back, front = g.opening ++ shown g a.front ∧
        (a.outcome false g elapsed).stderr.toList = front ++ back ∧
        (a.outcome true g elapsed).stderr.toList = front ++ a.begun.map Machine.trace ++ back) ∧
      (∀ m ∈ a.begun, '\n' ∉ m.trace.toList) ∧
      (∀ status out lines, Fails program s.file s.stdout s.lastWords status out lines →
        a.begun = []) ∧
      ∀ line setting, (s.logger "trace").Follows line (.limit (.upTo .trace)) →
        (s.logger setting.text).Follows line setting →
        (∀ r, setting.allows r = true ↔ setting.Allows r) ∧ ∀ trace' elapsed,
          (a.outcome trace' (s.logger "trace") elapsed).stderr.toList =
            (a.entries trace' elapsed).map (·.text line) ∧
          (a.outcome trace' (s.logger setting.text) elapsed).stderr.toList =
            ((a.entries trace' elapsed).filter (·.passes setting.allows)).map (·.text line) := by
  obtain ⟨a, hdescribes, hall⟩ := exists_account h
  have ho : o = a.outcome trace s.ownLogger s.elapsed :=
    Result.finished.inj (h.symm.trans (hall s.setting trace s.elapsed fuel (Nat.le_refl fuel)))
  refine ⟨a, hdescribes, ho, fun setting trace' elapsed fuel' hle => ?_, fun g elapsed => ?_,
    fun m _ => feed_not_mem_trace m, fun status out lines hfails => ?_,
    fun line setting htrace hsetting => ⟨setting.allows_iff, fun trace' elapsed => ?_⟩⟩
  · exact ⟨_, hall setting trace' elapsed fuel' hle, by rw [ho]; rfl, by rw [ho]; rfl, rfl⟩
  · obtain ⟨hfalse, htrue⟩ := a.stderr_outcome g elapsed
    exact ⟨_, _, rfl, hfalse, htrue⟩
  · cases hdescribes with
    | withoutRun _ => rfl
    | ofRun hbegins => exact absurd hfails hbegins.not_fails
  · exact ⟨Account.stderr_of_follows_trace htrace, Account.stderr_of_follows hsetting⟩

/-- A logger that follows a setting, and writes the target in front of the message. -/
def Setting.follower (setting : Setting) : Logger where
  opening := []
  passes := setting.allows
  line r := "[" ++ r.target ++ "] " ++ r.message

/-- Nothing but the warnings of the console is let through. -/
def consoleWarnings : Setting :=
  .directives [⟨"ls8", .off, by simp, by simp [Text.isBlank]⟩,
    ⟨"ls8_console", .upTo .warn, by simp, by simp [Text.isBlank]⟩]

/-- Surroundings with the image of a single HLT, a closed standard output, and loggers that follow
the setting of the console's warnings and the setting `trace`. -/
def closedOutput (setting : Option String) : Surroundings where
  file := .ok [0x30, 0x30, 0x30, 0x30, 0x30, 0x30, 0x30, 0x31]
  setting := setting
  logger text :=
    if text = "ls8=off,ls8_console=warn" then consoleWarnings.follower
    else (Setting.limit (.upTo .trace)).follower
  stdout := .failing .brokenPipe
  elapsed := "5ms"
  lastWords message := [message]

/-- With a closed standard output the farewell cannot be written. Tracing and logging do not change
that; of the records they show, the setting leaves the warning about the failed write. -/
theorem observation_changes_nothing_closedOutput :
    ∃ (o o' : Outcome) (a : Account),
      execute 1 "halt" false (closedOutput (some "trace")) = .finished o ∧
      execute 1 "halt" true (closedOutput (some consoleWarnings.text)) = .finished o' ∧
      o.status = 1 ∧ o'.status = o.status ∧ o'.stdout = o.stdout ∧
      o.stderr.toList = (a.entries false "5ms").map (·.text consoleWarnings.follower.line) ∧
      o.stderr.toList = ["[ls8] loaded 1 bytes from \"halt\"",
        "[ls8_console] console write failed: broken pipe", "[ls8] ran for 5ms",
        "Error: failed to write output", "", "Caused by:", "    broken pipe"] ∧
      o'.stderr.toList = ((a.entries true "5ms").filter (·.passes consoleWarnings.allows)).map
        (·.text consoleWarnings.follower.line) ∧
      o'.stderr.toList = ["TRACE: 00 | 01 00 00 | 00 00 00 00 00 00 00 F4",
        "[ls8_console] console write failed: broken pipe",
        "Error: failed to write output", "", "Caused by:", "    broken pipe"] := by
  have htext : consoleWarnings.text = "ls8=off,ls8_console=warn" := by decide +kernel
  have htrace : ((closedOutput (some "trace")).logger "trace").Follows
      consoleWarnings.follower.line (.limit (.upTo .trace)) := by
    have hother : ¬"trace" = "ls8=off,ls8_console=warn" := by decide
    have hlogger : (closedOutput (some "trace")).logger "trace" =
        (Setting.limit (.upTo .trace)).follower := by simp only [closedOutput, if_neg hother]
    rw [hlogger]
    exact ⟨rfl, fun _ => rfl, rfl⟩
  have hwarnings : ((closedOutput (some "trace")).logger consoleWarnings.text).Follows
      consoleWarnings.follower.line consoleWarnings := by
    have hlogger : (closedOutput (some "trace")).logger consoleWarnings.text =
        consoleWarnings.follower := by simp only [closedOutput, if_pos htext]
    rw [hlogger]
    exact ⟨rfl, fun _ => rfl, rfl⟩
  obtain ⟨o, hexecute, hstatus, hlines⟩ : ∃ o : Outcome,
      execute 1 "halt" false (closedOutput (some "trace")) = .finished o ∧ o.status = 1 ∧
      o.stderr.toList = ["[ls8] loaded 1 bytes from \"halt\"",
        "[ls8_console] console write failed: broken pipe", "[ls8] ran for 5ms",
        "Error: failed to write output", "", "Caused by:", "    broken pipe"] :=
    ⟨⟨1, #[], ⟨_⟩⟩, by decide +kernel, rfl, rfl⟩
  obtain ⟨o', hexecute', hlines'⟩ : ∃ o' : Outcome,
      execute 1 "halt" true (closedOutput (some consoleWarnings.text)) = .finished o' ∧
      o'.stderr.toList = ["TRACE: 00 | 01 00 00 | 00 00 00 00 00 00 00 F4",
        "[ls8_console] console write failed: broken pipe",
        "Error: failed to write output", "", "Caused by:", "    broken pipe"] :=
    ⟨⟨1, #[], ⟨_⟩⟩, by rw [htext]; decide +kernel, rfl⟩
  obtain ⟨a, -, ho, hall, -, -, -, hfollows⟩ := observation_changes_nothing hexecute
  obtain ⟨o'', hexecute'', hstatus', hstdout', ho'⟩ :=
    hall (some consoleWarnings.text) true "5ms" 1 (Nat.le_refl 1)
  obtain rfl : o'' = o' := Result.finished.inj (hexecute''.symm.trans hexecute')
  obtain ⟨-, hstderr⟩ := hfollows _ _ htrace hwarnings
  refine ⟨o, o'', a, hexecute, hexecute', hstatus, hstatus', hstdout', ?_, hlines, ?_, hlines'⟩
  · rw [ho]
    exact (hstderr false "5ms").1
  · rw [ho']
    exact (hstderr true "5ms").2

end ByteMachine.CommandLine
