import ByteMachine.Console.Basic

/-!
# Errors and exits of a console

A console is driven by prints, halts and checks, one after the other, while its sink may change in
any way. A `Session` is any such sequence of deeds, from a fresh console on. The calls that a deed
makes to the sink are read off a sink that logs them.

Results:
* `writeLine_onLog`, `check_onLog`: the calls that a line and a check make.
* `Deed.failures_of_clean`, `Deed.report?_eq`, `Deed.perform_of_pending`, `Deed.accepted_iff`,
  `Deed.exitCode_perform`: what one deed can do.
* `pending_eq_some_iff`: since when an error is pending.
* `failures_eq`: what has failed is what has been reported, and what is pending.
* `failures_and_exits`: the account of a whole session.
-/

namespace ByteMachine

/-- A call to a sink, with its answer. -/
inductive SinkCall
  | write (offered : List UInt8) (answer : Except SinkError Nat)
  | flush (answer : Except SinkError Unit)

namespace SinkCall

/-- The error that a write brings about: its own, or that it took nothing. -/
def writeError? : SinkCall → Option SinkError
  | write _ (.error e) => some e
  | write _ (.ok 0) => some .writeZero
  | _ => none

/-- A flush that fails. -/
def isFailedFlush : SinkCall → Bool
  | flush (.error _) => true
  | _ => false

end SinkCall

/-- A sink that logs the calls made to it. -/
structure Logged (σ : Type) where
  sink : σ
  calls : List SinkCall

namespace Logged

variable {σ : Type} [Sink σ]

instance : Sink (Logged σ) where
  write bs s :=
    let (answer, sink) := Sink.write bs s.sink
    (answer, ⟨sink, s.calls ++ [.write bs answer]⟩)
  flush s :=
    let (answer, sink) := Sink.flush s.sink
    (answer, ⟨sink, s.calls ++ [.flush answer]⟩)

/-- The errors that a result stands for. -/
def errors {α : Type} : Except SinkError α → List SinkError
  | .ok _ => []
  | .error e => [e]

/-- **Writing all to a logging sink** goes as without the log. The log has a write that failed
exactly if writing all failed, and with its error. -/
theorem writeAll_logged (bs : List UInt8) (s : σ) :
    ∃ calls, (∀ log, Sink.writeAll bs (⟨s, log⟩ : Logged σ) =
        ((Sink.writeAll bs s).1, ⟨(Sink.writeAll bs s).2, log ++ calls⟩)) ∧
      calls.filterMap SinkCall.writeError? = errors (Sink.writeAll bs s).1 := by
  match bs with
  | [] => exact ⟨[], fun log => by simp, by simp [errors]⟩
  | b :: bs =>
    obtain ⟨⟨answer, t⟩, hwrite⟩ : ∃ r, Sink.write (b :: bs) s = r := ⟨_, rfl⟩
    have hlogged : ∀ log, Sink.write (b :: bs) (⟨s, log⟩ : Logged σ) =
        (answer, ⟨t, log ++ [.write (b :: bs) answer]⟩) := fun log => by
      simp only [Sink.write, hwrite]
    match answer, hwrite, hlogged with
    | .error e, hwrite, hlogged =>
      rw [Sink.writeAll_of_error hwrite]
      exact ⟨_, fun log => Sink.writeAll_of_error (hlogged log), rfl⟩
    | .ok 0, hwrite, hlogged =>
      rw [Sink.writeAll_of_zero hwrite]
      exact ⟨_, fun log => Sink.writeAll_of_zero (hlogged log), rfl⟩
    | .ok (n + 1), hwrite, hlogged =>
      obtain ⟨calls, hrest, herrors⟩ := writeAll_logged (bs.drop n) t
      rw [Sink.writeAll_of_pos hwrite]
      refine ⟨.write (b :: bs) (.ok (n + 1)) :: calls, fun log => ?_, herrors⟩
      rw [Sink.writeAll_of_pos (hlogged log), hrest]
      simp
termination_by bs.length

end Logged

namespace Console

/-- What can be done to a console. -/
inductive Deed (σ : Type)
  | print (m : Machine) (v : UInt8)
  | halt (m : Machine)
  | check
  /-- The sink changes by itself. -/
  | change (f : σ → σ)

/-- What a console answers. -/
inductive Response
  | printed (accepted : Bool)
  | checked (verdict : Verdict)
  | nothing

namespace Deed

variable {σ : Type}

/-- Does what is to be done to a console. -/
def perform [Sink σ] (d : Deed σ) (c : Console σ) : Response × Console σ :=
  match d with
  | print m v =>
    let (accepted, c) := Device.print m v c
    (.printed accepted, c)
  | halt m => (.nothing, Device.halt m c)
  | check =>
    let (verdict, c) := c.check
    (.checked verdict, c)
  | change f => (.nothing, { c with sink := f c.sink })

/-- The same deed on a console whose sink logs its calls. -/
def logged : Deed σ → Deed (Logged σ)
  | print m v => print m v
  | halt m => halt m
  | check => check
  | change f => change fun s => { s with sink := f s.sink }

/-- The deed is a check. -/
def isCheck : Deed σ → Bool
  | check => true
  | _ => false

/-- The deed is a halt. -/
def isHalt : Deed σ → Bool
  | halt _ => true
  | _ => false

/-- What becomes of the sink by itself. -/
def drift : Deed σ → σ → σ
  | change f => f
  | _ => id

end Deed

/-- The same console on a sink that has logged some calls. -/
def onLog {σ : Type} (log : List SinkCall) (c : Console σ) : Console (Logged σ) :=
  ⟨⟨c.sink, log⟩, c.exitCode, c.pending⟩

namespace Deed

variable {σ : Type} [Sink σ] (d : Deed σ) (c : Console σ)

/-- The calls that the deed makes to the sink. -/
def calls : List SinkCall := (d.logged.perform (c.onLog [])).2.sink.calls

/-- The errors of the writes that fail, one for each. -/
def failures : List SinkError := (d.calls c).filterMap SinkCall.writeError?

/-- The error that a check reports, unless it is a flush that has failed. -/
def report? : Option SinkError :=
  match (d.perform c).1 with
  | .checked (.failed e) => if (d.calls c).any SinkCall.isFailedFlush then none else some e
  | _ => none

end Deed

/-! ## One deed -/

section

variable {σ : Type} [Sink σ] {c : Console σ} {e : SinkError}

/-- **A line on a logging sink** goes as without the log. Nothing is called while an error is
pending; else the errors of the writes are what is pending behind the line. -/
theorem writeLine_onLog (line : String) (c : Console σ) :
    ∃ calls, (∀ log, (c.onLog log).writeLine line =
        ((c.writeLine line).1, (c.writeLine line).2.onLog (log ++ calls))) ∧
      (c.pending ≠ none → calls = []) ∧
      (c.pending = none →
        calls.filterMap SinkCall.writeError? = (c.writeLine line).2.pending.toList) := by
  obtain ⟨calls, hcalls, herrors⟩ := Logged.writeAll_logged (lineBytes line) c.sink
  rcases writeLine_cases line c with
    ⟨e, hp, hline⟩ | ⟨t, hp, hwrite, hline⟩ | ⟨e, t, hp, hwrite, hline⟩
  · have hlogged : ∀ log, (c.onLog log).pending = some e := fun _ => hp
    refine ⟨[], fun log => ?_, fun _ => rfl, fun h => by simp [hp] at h⟩
    rw [hline, writeLine_of_pending (hlogged log), List.append_nil]
  · have hlogged : ∀ log, (c.onLog log).pending = none := fun _ => hp
    rw [hwrite] at hcalls herrors
    refine ⟨calls, fun log => ?_, fun h => absurd hp h, fun _ => ?_⟩
    · rw [hline, writeLine_of_ok (hlogged log) (hcalls log)]
      rfl
    · rw [hline, herrors, hp]
      rfl
  · have hlogged : ∀ log, (c.onLog log).pending = none := fun _ => hp
    rw [hwrite] at hcalls herrors
    refine ⟨calls, fun log => ?_, fun h => absurd hp h, fun _ => ?_⟩
    · rw [hline, writeLine_of_error (hlogged log) (hcalls log)]
      rfl
    · rw [hline, herrors]
      rfl

/-- **A check on a logging sink** goes as without the log, and makes no other call than a flush, and
that only if nothing is pending. -/
theorem check_onLog (c : Console σ) :
    ∃ calls, (∀ log, (c.onLog log).check = (c.check.1, c.check.2.onLog (log ++ calls))) ∧
      (c.pending ≠ none → calls = []) ∧
      (c.pending = none → calls = [.flush (Sink.flush c.sink).1]) := by
  have hflushed : ∀ log, Sink.flush (c.onLog log).sink = ((Sink.flush c.sink).1,
      (⟨(Sink.flush c.sink).2, log ++ [.flush (Sink.flush c.sink).1]⟩ : Logged σ)) := fun _ => rfl
  rcases check_cases c with ⟨e, hp, hcheck⟩ | ⟨e, t, hp, hflush, hcheck⟩ | ⟨t, hp, hflush, hcheck⟩
  · have hlogged : ∀ log, (c.onLog log).pending = some e := fun _ => hp
    refine ⟨[], fun log => ?_, fun _ => rfl, fun h => by simp [hp] at h⟩
    rw [hcheck, check_of_pending (hlogged log), List.append_nil]
    rfl
  · have hlogged : ∀ log, (c.onLog log).pending = none := fun _ => hp
    refine ⟨_, fun log => ?_, fun h => absurd hp h, fun _ => rfl⟩
    have hflushed := hflushed log
    rw [hflush] at hflushed ⊢
    rw [hcheck, check_of_flush_error (hlogged log) hflushed]
    rfl
  · have hlogged : ∀ log, (c.onLog log).pending = none := fun _ => hp
    refine ⟨_, fun log => ?_, fun h => absurd hp h, fun _ => rfl⟩
    have hflushed := hflushed log
    rw [hflush] at hflushed ⊢
    rw [hcheck, check_of_flushed (hlogged log) hflushed]
    rfl

theorem exitCode_check (c : Console σ) : c.check.2.exitCode = c.exitCode := by
  cases h : c.pending with
  | some e => rw [check_of_pending h]
  | none => rw [check_snd_of_clean h]

/-- **A deed on a logging sink** goes as without the log. Nothing is called while an error is
pending; else the errors of the writes are what is pending behind the deed. -/
theorem Deed.exists_calls (d : Deed σ) (c : Console σ) :
    ∃ calls, (∀ log, d.logged.perform (c.onLog log) =
        ((d.perform c).1, (d.perform c).2.onLog (log ++ calls))) ∧
      (c.pending ≠ none → calls = []) ∧
      (c.pending = none →
        calls.filterMap SinkCall.writeError? = (d.perform c).2.pending.toList) := by
  cases d with
  | print m v =>
    obtain ⟨calls, hcalls, hrest⟩ := writeLine_onLog (decimal v) c
    refine ⟨calls, fun log => ?_, hrest⟩
    have hprint : Device.print m v (c.onLog log) = _ := hcalls log
    dsimp only [Deed.logged, Deed.perform]
    rw [hprint]
    rfl
  | halt m =>
    obtain ⟨calls, hcalls, hrest⟩ := writeLine_onLog farewell c
    refine ⟨calls, fun log => ?_, hrest⟩
    dsimp only [Deed.logged, Deed.perform, Device.halt]
    rw [hcalls]
    rfl
  | check =>
    obtain ⟨calls, hcalls, hnone, hflush⟩ := check_onLog c
    refine ⟨calls, fun log => ?_, hnone, fun hp => ?_⟩
    · dsimp only [Deed.logged, Deed.perform]
      rw [hcalls]
    · rw [hflush hp, Deed.perform]
      dsimp only
      rw [check_snd_of_clean hp, hp]
      rfl
  | change f =>
    refine ⟨[], fun log => ?_, fun _ => rfl, fun hp => ?_⟩
    · rw [List.append_nil]
      rfl
    · rw [Deed.perform, hp]
      rfl

/-- The calls of a deed are what it adds to any log. -/
theorem Deed.calls_eq {d : Deed σ} {calls : List SinkCall}
    (h : ∀ log, d.logged.perform (c.onLog log) =
      ((d.perform c).1, (d.perform c).2.onLog (log ++ calls))) : d.calls c = calls := by
  rw [Deed.calls, h]
  rfl

/-- While an error is pending, no deed calls the sink. -/
theorem Deed.calls_of_pending (d : Deed σ) (h : c.pending = some e) : d.calls c = [] := by
  obtain ⟨calls, hcalls, hnone, -⟩ := d.exists_calls c
  rw [calls_eq hcalls]
  exact hnone (by simp [h])

theorem Deed.failures_of_pending (d : Deed σ) (h : c.pending = some e) : d.failures c = [] := by
  rw [Deed.failures, d.calls_of_pending h]
  rfl

/-- A write that fails leaves its error pending, and nothing else does. -/
theorem Deed.failures_of_clean (d : Deed σ) (h : c.pending = none) :
    d.failures c = (d.perform c).2.pending.toList := by
  obtain ⟨calls, hcalls, -, herrors⟩ := d.exists_calls c
  rw [Deed.failures, calls_eq hcalls]
  exact herrors h

/-- **A check reports the pending error**, and no other deed does. -/
theorem Deed.report?_eq (d : Deed σ) (c : Console σ) :
    d.report? c = if d.isCheck then c.pending else none := by
  cases d with
  | check =>
    obtain ⟨calls, hcalls, hnone, hflush⟩ := check_onLog c
    have hlog : (check : Deed σ).calls c = calls := by
      rw [Deed.calls, Deed.logged, Deed.perform, hcalls]
      rfl
    rw [Deed.report?, hlog, Deed.perform]
    rcases check_cases c with
      ⟨e, hp, hcheck⟩ | ⟨e, t, hp, hsink, hcheck⟩ | ⟨t, hp, hsink, hcheck⟩
    · rw [hcheck, hnone (by simp [hp]), hp]
      rfl
    · rw [hcheck, hflush hp, hsink, hp]
      rfl
    · rw [hcheck, hp]
      cases c.exitCode <;> rfl
  | _ => rfl

/-- While an error is pending, no deed touches the sink, and only a check is done with the error. -/
theorem Deed.perform_of_pending (d : Deed σ) (h : c.pending = some e) :
    (d.perform c).2.sink = d.drift c.sink ∧
      (d.perform c).2.pending = if d.isCheck then none else some e := by
  cases d with
  | print m v =>
    have hprint : Device.print m v c = (false, c) := writeLine_of_pending h _
    dsimp only [Deed.perform]
    rw [hprint]
    exact ⟨rfl, h⟩
  | halt m =>
    dsimp only [Deed.perform, Device.halt]
    rw [writeLine_of_pending h]
    exact ⟨rfl, h⟩
  | check =>
    rw [Deed.perform, check_of_pending h]
    exact ⟨rfl, rfl⟩
  | change f => exact ⟨rfl, h⟩

/-- A print is accepted exactly if no error is pending behind it. -/
theorem Deed.accepted_iff {d : Deed σ} {accepted : Bool} (h : (d.perform c).1 = .printed accepted) :
    accepted = true ↔ (d.perform c).2.pending = none := by
  cases d with
  | print m v =>
    obtain rfl : (c.writeLine (decimal v)).1 = accepted := Response.printed.inj h
    exact writeLine_fst_iff (decimal v) c
  | _ => cases h

/-- **A halt asks for the exit**, and nothing takes the request back. -/
theorem Deed.exitCode_perform (d : Deed σ) (c : Console σ) :
    (d.perform c).2.exitCode = if d.isHalt then some 0 else c.exitCode := by
  cases d with
  | print m v => exact exitCode_writeLine _ c
  | halt m => rfl
  | check => exact exitCode_check c
  | change f => rfl

end

/-! ## Sessions -/

/-- A console that is driven from the beginning by one deed after the other. -/
structure Session (σ : Type) where
  sink : σ
  deed : Nat → Deed σ

namespace Session

variable {σ : Type} [Sink σ]

/-- The console before deed `k`. -/
def console (s : Session σ) : Nat → Console σ
  | 0 => .fresh s.sink
  | k + 1 => ((s.deed k).perform (s.console k)).2

/-- What deed `k` is answered. -/
def response (s : Session σ) (k : Nat) : Response := ((s.deed k).perform (s.console k)).1

/-- The calls that deed `k` makes to the sink. -/
def calls (s : Session σ) (k : Nat) : List SinkCall := (s.deed k).calls (s.console k)

/-- The errors of the writes of deed `k` that fail. -/
def failures (s : Session σ) (k : Nat) : List SinkError := (s.deed k).failures (s.console k)

/-- The write error that deed `k` reports. -/
def report? (s : Session σ) (k : Nat) : Option SinkError := (s.deed k).report? (s.console k)

/-- None of the deeds from `i` up to `j` is a check. -/
def Unchecked (s : Session σ) (i j : Nat) : Prop :=
  ∀ k, i ≤ k → k < j → (s.deed k).isCheck = false

variable {s : Session σ} {i j : Nat} {e : SinkError}

/-- An error stays pending until the next check. -/
theorem pending_of_unchecked (h : (s.console i).pending = some e) (hij : i ≤ j)
    (hno : s.Unchecked i j) : (s.console j).pending = some e := by
  induction hij with
  | refl => exact h
  | @step j hij ih =>
    have hj := ih fun k hik hkj => hno k hik (Nat.lt_succ_of_lt hkj)
    rw [console, ((s.deed j).perform_of_pending hj).2, hno j hij (Nat.lt_succ_self j)]
    rfl

/-- A write that fails leaves its error pending. -/
theorem pending_of_failure (h : e ∈ s.failures i) : (s.console (i + 1)).pending = some e := by
  cases hp : (s.console i).pending with
  | some e' =>
    rw [failures, (s.deed i).failures_of_pending hp] at h
    cases h
  | none =>
    rw [failures, (s.deed i).failures_of_clean hp, Option.mem_toList] at h
    exact h

/-- **An error is pending exactly since a write failed with it** and no check has come since. -/
theorem pending_eq_some_iff :
    (s.console j).pending = some e ↔ ∃ i < j, e ∈ s.failures i ∧ s.Unchecked (i + 1) j := by
  constructor
  · intro h
    induction j with
    | zero => cases h
    | succ j ih =>
      cases hp : (s.console j).pending with
      | none =>
        refine ⟨j, Nat.lt_succ_self j, ?_, fun k hk hkj => by omega⟩
        rw [failures, (s.deed j).failures_of_clean hp, Option.mem_toList]
        exact h
      | some e' =>
        rw [console, ((s.deed j).perform_of_pending hp).2] at h
        cases hcheck : (s.deed j).isCheck with
        | true =>
          rw [hcheck] at h
          cases h
        | false =>
          rw [hcheck] at h
          obtain ⟨i, hij, hi, hno⟩ := ih (hp.trans h)
          refine ⟨i, Nat.lt_succ_of_lt hij, hi, fun k hik hkj => ?_⟩
          rcases Nat.lt_succ_iff_lt_or_eq.mp hkj with hlt | rfl
          · exact hno k hik hlt
          · exact hcheck
  · rintro ⟨i, hij, hi, hno⟩
    exact pending_of_unchecked (pending_of_failure hi) hij hno

/-- **The errors of the writes that failed are those that were reported**, in order, and the one
that is pending. -/
theorem failures_eq (s : Session σ) (n : Nat) :
    (List.range n).flatMap s.failures =
      (List.range n).filterMap s.report? ++ (s.console n).pending.toList := by
  induction n with
  | zero => rfl
  | succ n ih =>
    have hreport : s.report? n = if (s.deed n).isCheck then (s.console n).pending else none :=
      (s.deed n).report?_eq _
    rw [List.range_succ, List.flatMap_append, List.filterMap_append, ih, List.flatMap_singleton]
    cases hp : (s.console n).pending with
    | none =>
      have hnone : s.report? n = none := by rw [hreport, hp, ite_self]
      have hfail : s.failures n = (s.console (n + 1)).pending.toList :=
        (s.deed n).failures_of_clean hp
      simp [hnone, hfail]
    | some e =>
      have hfail : s.failures n = [] := (s.deed n).failures_of_pending hp
      have hnext : (s.console (n + 1)).pending = if (s.deed n).isCheck then none else some e :=
        ((s.deed n).perform_of_pending hp).2
      cases hcheck : (s.deed n).isCheck with
      | true => simp [hfail, hreport, hnext, hcheck, hp]
      | false => simp [hfail, hreport, hnext, hcheck]

/-- **The exit is asked for exactly if there was a halt.** -/
theorem exitCode_eq (s : Session σ) (n : Nat) :
    (s.console n).exitCode =
      if (List.range n).any fun i => (s.deed i).isHalt then some 0 else none := by
  induction n with
  | zero => rfl
  | succ n ih =>
    rw [console, (s.deed n).exitCode_perform, ih, List.range_succ, List.any_append]
    cases h : (s.deed n).isHalt <;> simp [h]

/-- A print is refused exactly if its own write fails or an earlier failure is not yet reported. -/
theorem refused_iff {accepted : Bool} (h : s.response j = .printed accepted) :
    accepted = false ↔ ∃ i ≤ j, s.failures i ≠ [] ∧ s.Unchecked (i + 1) (j + 1) := by
  have haccepted : accepted = true ↔ (s.console (j + 1)).pending = none :=
    (s.deed j).accepted_iff h
  rw [← Bool.not_eq_true, haccepted, ← ne_eq, Option.ne_none_iff_exists']
  constructor
  · rintro ⟨e, he⟩
    obtain ⟨i, hij, hi, hno⟩ := pending_eq_some_iff.mp he
    exact ⟨i, Nat.le_of_lt_succ hij, List.ne_nil_of_mem hi, hno⟩
  · rintro ⟨i, hij, hi, hno⟩
    obtain ⟨e, he⟩ := List.exists_mem_of_ne_nil _ hi
    exact ⟨e, pending_eq_some_iff.mpr ⟨i, Nat.lt_succ_of_le hij, he, hno⟩⟩

theorem report?_eq_some_iff :
    s.report? j = some e ↔ (s.deed j).isCheck = true ∧ (s.console j).pending = some e := by
  rw [report?, (s.deed j).report?_eq]
  cases (s.deed j).isCheck <;> simp

theorem exitCode_eq_some_iff {n : Nat} {code : UInt8} :
    (s.console n).exitCode = some code ↔ code = 0 ∧ ∃ i < n, (s.deed i).isHalt = true := by
  rw [exitCode_eq]
  simp [and_comm, eq_comm (a := (0 : UInt8))]

/-- **The account of a console.** The next check behind a write that fails reports its error, and a
check reports no write error otherwise; so what has failed is what has been reported, and what is
pending. In between the sink is left alone, and prints are refused. The exit is asked for from the
first halt on. A check ends the process exactly if nothing is pending, the flush succeeds, and there
was a halt; a flush that fails is returned, and makes no difference besides. -/
theorem failures_and_exits (s : Session σ) :
    (∀ i j e, e ∈ s.failures i → i < j → s.Unchecked (i + 1) j → (s.deed j).isCheck = true →
      s.report? j = some e) ∧
    (∀ j e, s.report? j = some e →
      (s.deed j).isCheck = true ∧ ∃ i < j, e ∈ s.failures i ∧ s.Unchecked (i + 1) j) ∧
    (∀ n, (List.range n).flatMap s.failures =
      (List.range n).filterMap s.report? ++ (s.console n).pending.toList) ∧
    (∀ i j, s.failures i ≠ [] → i < j → s.Unchecked (i + 1) (j + 1) →
      s.calls j = [] ∧ (s.console (j + 1)).sink = (s.deed j).drift (s.console j).sink) ∧
    (∀ j accepted, s.response j = .printed accepted →
      (accepted = false ↔ ∃ i ≤ j, s.failures i ≠ [] ∧ s.Unchecked (i + 1) (j + 1))) ∧
    (∀ n code, (s.console n).exitCode = some code ↔
      code = 0 ∧ ∃ i < n, (s.deed i).isHalt = true) ∧
    (∀ k code, s.deed k = .check → (s.response k = .checked (.exit code) ↔
      (s.console k).pending = none ∧ (Sink.flush (s.console k).sink).1 = .ok () ∧
        code = 0 ∧ ∃ i < k, (s.deed i).isHalt = true)) ∧
    (∀ k e, s.deed k = .check → (s.console k).pending = none →
      (Sink.flush (s.console k).sink).1 = .error e →
      s.response k = .checked (.failed e) ∧ s.report? k = none ∧
        (s.console (k + 1)).exitCode = (s.console k).exitCode ∧
        (s.console (k + 1)).pending = none) := by
  refine ⟨?_, ?_, s.failures_eq, ?_, fun _ _ => refused_iff, fun _ _ => exitCode_eq_some_iff,
    ?_, ?_⟩
  · intro i j e hi hij hno hcheck
    exact report?_eq_some_iff.mpr ⟨hcheck, pending_eq_some_iff.mpr ⟨i, hij, hi, hno⟩⟩
  · intro j e h
    obtain ⟨hcheck, hpending⟩ := report?_eq_some_iff.mp h
    exact ⟨hcheck, pending_eq_some_iff.mp hpending⟩
  · intro i j hi hij hno
    obtain ⟨e, he⟩ := List.exists_mem_of_ne_nil _ hi
    have hpending : (s.console j).pending = some e :=
      pending_eq_some_iff.mpr ⟨i, hij, he, fun k hik hkj => hno k hik (Nat.lt_succ_of_lt hkj)⟩
    exact ⟨(s.deed j).calls_of_pending hpending, ((s.deed j).perform_of_pending hpending).1⟩
  · intro k code hk
    have hresponse : s.response k = .checked (s.console k).check.1 := by
      rw [response, hk, Deed.perform]
    rw [hresponse, Response.checked.injEq, check_eq_exit_iff, exitCode_eq_some_iff]
  · intro k e hk hclean hflush
    obtain ⟨⟨answer, t⟩, hsink⟩ : ∃ r, Sink.flush (s.console k).sink = r := ⟨_, rfl⟩
    obtain rfl : answer = .error e := by rw [← hflush, hsink]
    have hcheck := check_of_flush_error hclean hsink
    refine ⟨?_, ?_, ?_, ?_⟩
    · rw [response, hk, Deed.perform, hcheck]
    · rw [report?, hk, Deed.report?_eq, hclean]
      rfl
    · rw [console, hk, Deed.perform, hcheck]
    · rw [console, hk, Deed.perform, hcheck]
      exact hclean

end Session

end Console

end ByteMachine
