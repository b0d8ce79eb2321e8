import ByteMachine.Proofs.BoundedRuns
import ByteMachine.Proofs.Outcome

/-!
# What a run shows on standard error

A terminal writes to standard error beside the console: with tracing a line for every instruction
that begins, and a record of the first write that fails, which the logger may drop. Nothing else
writes there during a run, and a failed write is the last thing that happens in it.

* `Entry` is a line for standard error, or a record that the logger may drop; `shown g es` is what a
  logger makes of some entries.
* `Terminal.enter es` writes some entries, `traced trace ms` are the lines that tracing adds for
  some machines, and `Terminal.warning c` is the record of the write that has failed on a console.
* `observed trace s k` is where a run has come to when `k` instructions have begun.

Results:
* `device_after_step`, `step_observed`: what one instruction adds to standard error.
* `loop_observed`, `loop_tracing`: what a run adds.
-/

namespace ByteMachine.CommandLine

open Terminal

/-! ## Entries -/

/-- What an invocation has for standard error. -/
inductive Entry
  | line (text : String)
  | record (r : Record)

/-- The line that is written for the entry, if it is. -/
def Entry.text (written : Record → String) : Entry → String
  | line text => text
  | record r => written r

/-- Whether the entry is written when some records are kept. -/
def Entry.passes (keeps : Record → Bool) : Entry → Bool
  | line _ => true
  | record r => keeps r

/-- What a logger makes of some entries. -/
def shown (g : Logger) (es : List Entry) : List String :=
  (es.filter (·.passes g.passes)).map (·.text g.line)

/-- The lines that tracing adds for some machines. -/
def traced (trace : Bool) (ms : List Machine) : List Entry :=
  if trace then ms.map (.line ·.trace) else []

theorem shown_append (g : Logger) (es es' : List Entry) :
    shown g (es ++ es') = shown g es ++ shown g es' := by
  unfold shown
  rw [List.filter_append, List.map_append]

theorem shown_lines (g : Logger) (lines : List String) : shown g (lines.map .line) = lines := by
  have hall : (lines.map Entry.line).filter (·.passes g.passes) = lines.map .line :=
    List.filter_eq_self.mpr fun e he => by
      obtain ⟨line, -, rfl⟩ := List.mem_map.mp he
      rfl
  unfold shown
  rw [hall, List.map_map]
  exact List.map_id lines

/-! ## Writing entries -/

namespace Terminal

/-- The terminal with some entries more, as far as its logger shows them. -/
def enter (es : List Entry) (t : Terminal) : Terminal :=
  { t with errors := t.errors ++ (shown t.logger es).toArray }

@[simp] theorem enter_nil (t : Terminal) : t.enter [] = t := by
  simp [enter, shown]

theorem enter_append (es es' : List Entry) (t : Terminal) :
    t.enter (es ++ es') = (t.enter es).enter es' := by
  simp [enter, shown_append]

theorem sayError_eq (line : String) (t : Terminal) : t.sayError line = t.enter [.line line] := by
  simp [sayError, enter, shown, Entry.passes, Entry.text]

theorem log_eq (r : Record) (t : Terminal) : t.log r = t.enter [.record r] := by
  unfold log
  split
  · rename_i h
    simp [sayError, enter, shown, Entry.passes, Entry.text, h]
  · rename_i h
    simp [enter, shown, Entry.passes, h]

/-- The warning about a failed write that is pending, if there is one. -/
def warning (c : Console Stream) : List Entry :=
  c.pending.toList.map fun e =>
    .record ⟨.warn, "ls8_console", "console write failed: " ++ e.message⟩

theorem warning_of_clean {c : Console Stream} (h : c.pending = none) : warning c = [] := by
  rw [warning, h]
  rfl

theorem notice_true (t : Terminal) : t.notice true = t.enter (warning t.console) := by
  unfold notice warning
  cases h : t.console.pending with
  | none => simp
  | some e => exact log_eq _ t

theorem print_snd {t : Terminal} (h : t.console.pending = none) (m : Machine) (v : UInt8) :
    (Device.print m v t).2 =
      (t.withConsole (Device.print m v t.console).2).enter
        (warning (Device.print m v t.console).2) := by
  obtain ⟨console, errors, logger⟩ := t
  have hclean : console.pending.isNone = true := by simpa using h
  exact (congrArg (notice · _) hclean).trans (notice_true _)

theorem halt_eq {t : Terminal} (h : t.console.pending = none) (m : Machine) :
    Device.halt m t =
      (t.withConsole (Device.halt m t.console)).enter (warning (Device.halt m t.console)) := by
  obtain ⟨console, errors, logger⟩ := t
  have hclean : console.pending.isNone = true := by simpa using h
  exact (congrArg (notice · _) hclean).trans (notice_true _)

end Terminal

theorem tracing_eq (trace : Bool) (m : Machine) (t : Terminal) :
    tracing trace m t = t.enter (traced trace [m]) := by
  cases trace with
  | false => exact (enter_nil t).symm
  | true => exact sayError_eq m.trace t

theorem traced_append (trace : Bool) (ms ms' : List Machine) :
    traced trace (ms ++ ms') = traced trace ms ++ traced trace ms' := by
  cases trace <;> simp [traced]

/-! ## Steps and runs -/

section

variable {s : System Terminal} {k n : Nat} {e : Ending} {u : System (Console Stream)}

/-- Behind a failed write the machine does not go on. -/
theorem clean_of_running {c : System (Console Stream)} (h : c.device.pending = none)
    (hturns : c.Turns k) (hr : (c.after k).machine.running = true) :
    (c.after k).device.pending = none := by
  induction k with
  | zero => exact h
  | succ k ih =>
    have hk := ih (hturns.of_le (Nat.le_succ k)) (hturns k (Nat.lt_succ_self k)).1
    rw [System.device_after_succ]
    cases hcall : c.callAt k with
    | none => exact hk
    | some call =>
      have hstops := System.not_stops_of_running hr hcall
      rcases System.callAt_eq_some hcall with ⟨-, rfl⟩ | ⟨a, -, rfl⟩
      · cases hstops
      · rw [Call.stops, Bool.not_eq_false'] at hstops
        exact (Console.writeLine_fst_iff _ _).mp hstops

/-- **A step writes nothing to standard error but the warning about its own write.** -/
theorem device_after_step (h : s.device.console.pending = none) :
    s.step.2.device = (s.device.withConsole s.step.2.device.console).enter
      (warning s.step.2.device.console) := by
  have hdevice : s.step.2.device = (s.callAt 0).elim s.device (Call.act · s.device) :=
    System.device_after_succ s 0
  rw [hdevice]
  cases hcall : s.callAt 0 with
  | none =>
    rw [Option.elim, warning_of_clean h, enter_nil]
    rfl
  | some c =>
    rcases System.callAt_eq_some hcall with ⟨-, rfl⟩ | ⟨a, -, rfl⟩
    · simp only [Option.elim, Call.act, halt_console]
      exact halt_eq h _
    · simp only [Option.elim, Call.act, print_console]
      exact print_snd h _ _

/-- Where a run has come to when `k` instructions have begun, with what is on standard error. -/
def observed (trace : Bool) (s : System Terminal) (k : Nat) : System Terminal :=
  let c := s.map Terminal.console
  ⟨(c.after k).machine, (s.device.withConsole (c.after k).device).enter
    (traced trace (c.machines k) ++ warning (c.after k).device)⟩

theorem observed_zero (trace : Bool) (h : s.device.console.pending = none) :
    observed trace s 0 = s := by
  have hnone : traced trace [] ++ warning s.device.console = [] := by
    rw [warning_of_clean h]
    cases trace <;> rfl
  exact System.ext rfl ((congrArg (enter · _) hnone).trans (enter_nil _))

/-- **One instruction adds its trace line**, and the warning if its write fails. -/
theorem step_observed (trace : Bool)
    (h : ((s.map Terminal.console).after k).device.pending = none) :
    (⟨(observed trace s k).machine, tracing trace (observed trace s k).machine
        (observed trace s k).device⟩ : System Terminal).step =
      (((s.map Terminal.console).after k).step.1, observed trace s (k + 1)) := by
  let c := s.map Terminal.console
  let t := observed trace s k
  let shown : System Terminal := ⟨t.machine, tracing trace t.machine t.device⟩
  change shown.step = ((c.after k).step.1, observed trace s (k + 1))
  have hconsole : shown.device.console = (c.after k).device := tracing_console _ _ _
  obtain ⟨hresult, hnext⟩ :=
    mirrors_terminal.alike.step (s := shown) (t := c.after k) ⟨rfl, hconsole⟩
  refine Prod.ext hresult (System.ext hnext.machine ?_)
  have hdevice : shown.device = (s.device.withConsole (c.after k).device).enter
      (traced trace (c.machines (k + 1))) := by
    have hbefore : t.device = (s.device.withConsole (c.after k).device).enter
        (traced trace (c.machines k)) := by
      simp only [t, observed, c, warning_of_clean h, List.append_nil]
    have hmachines : c.machines (k + 1) = c.machines k ++ [(c.after k).machine] := by
      rw [System.machines_add]
      rfl
    rw [hmachines, traced_append, enter_append, ← hbefore]
    exact tracing_eq trace t.machine t.device
  rw [device_after_step (hconsole ▸ h), show shown.step.2.device.console = _ from hnext.device,
    hdevice, observed, enter_append]
  rfl

/-- A run goes on behind its first turns. -/
theorem loop_observed (trace : Bool) (h : s.device.console.pending = none)
    (hturns : (s.map Terminal.console).Turns k) (n : Nat) :
    System.loop (tracing trace) (k + n) s =
      System.loop (tracing trace) n (observed trace s k) := by
  induction k generalizing n with
  | zero => rw [Nat.zero_add, observed_zero trace h]
  | succ k ih =>
    have hbefore := hturns.of_le (Nat.le_succ k)
    obtain ⟨hr, hok⟩ := hturns k (Nat.lt_succ_self k)
    have hrunning : (observed trace s k).machine.running = true := hr
    rw [Nat.add_assoc, Nat.add_comm 1, ih hbefore, System.loop_succ_running _ n hrunning,
      step_observed trace (clean_of_running h hbefore hr), hok]

/-- **A run writes its trace lines and then the warning**, and goes the way of a machine with a
console alone. -/
theorem loop_tracing (trace : Bool) (h : s.device.console.pending = none)
    (hends : (s.map Terminal.console).Ends k e u) (hn : e.Allows n k) :
    System.loop (tracing trace) n s = (e, ⟨u.machine, (s.device.withConsole u.device).enter
      (traced trace ((s.map Terminal.console).machines (e.begun k)) ++ warning u.device)⟩) := by
  obtain ⟨j, rfl, hj⟩ := hn.exists_add
  rw [loop_observed trace h hends.turns]
  cases hends with
  | stopped _ hr => exact System.loop_not_running _ j hr
  | fault hturns hr hf =>
    obtain ⟨i, rfl⟩ : ∃ i, j = i + 1 := Nat.exists_eq_succ_of_ne_zero (Nat.ne_of_gt hj)
    have hrunning : (observed trace s k).machine.running = true := hr
    have hsame : (s.map Terminal.console).after (k + 1) = (s.map Terminal.console).after k :=
      System.step_snd_of_error hf
    rw [System.loop_succ_running _ i hrunning,
      step_observed trace (clean_of_running h hturns hr), hf]
    simp only [observed, hsame]
    rfl
  | limit _ hr =>
    obtain rfl : 0 = j := hj
    exact System.loop_zero _ hr

end

end ByteMachine.CommandLine
