import ByteMachine.Proofs.Console.Output

/-!
# Runs on a console

What a run on a fresh console comes to, on any stream. As nobody checks the console meanwhile, an
error that is pending in the end belongs to the first line that was not taken, and nothing has been
written since. So the stream holds all lines exactly if no error is pending.

Results:
* `tracks_wrote`: what the calls made so far have left of a console.
* `halted_of_stopped`: a run that has stopped with nothing pending has halted.
* `check_eq_exit_of_ends`: when a check behind a run ends the process.
* `fault_of_check_proceed`: a check that finds nothing to do comes behind a fault of the machine.
* `pending_of_works`, `pending_of_blocked`: runs on streams that take everything or nothing.
-/

namespace ByteMachine

/-- The call is a halt. -/
def Call.isHalt : Call → Bool
  | halt _ => true
  | _ => false

namespace Stream

/-- The stream takes all that is written to it, and can be flushed. -/
def Works (s : Stream) : Prop := s.limit = none ∧ s.chunk ≠ some 0 ∧ s.flushError = none

/-- The stream takes nothing, so there is never anything to flush. -/
def Blocked (s : Stream) : Prop := s.limit = some 0 ∧ s.flushError = none

/-- Every write to a blocked stream fails. -/
theorem Blocked.writeAll {s : Stream} (h : s.Blocked) {bs : List UInt8} (hbs : bs ≠ []) :
    ∃ e, Sink.writeAll bs s = (.error e, s) := by
  obtain ⟨b, bs, rfl⟩ := List.exists_cons_of_ne_nil hbs
  have hroom : s.room (b :: bs).length = 0 := by
    rw [room, h.1]
    simp [capped]
  have hoffer : s.offer (b :: bs) = _ := offer_of_full (Nat.succ_pos _) hroom
  cases hr : s.refusal with
  | fails e =>
    rw [hr] at hoffer
    exact ⟨e, Sink.writeAll_of_error hoffer⟩
  | takesNothing =>
    rw [hr] at hoffer
    exact ⟨_, Sink.writeAll_of_zero hoffer⟩

end Stream

namespace Console

/-- What some calls have left of a fresh console on a stream: it has written a front part of their
lines, all of them exactly if no error is pending, and then it has accepted every print. -/
structure Wrote (out : Stream) (calls : List Call) (c : Console Stream) : Prop where
  exitCode : c.exitCode = if calls.any Call.isHalt then some 0 else none
  sink : ∃ bs, c.sink = out.put bs ∧
    (c.pending = none → bs = calls.flatMap Call.line) ∧
    (c.pending ≠ none → bs.length < (calls.flatMap Call.line).length)
  accepted : c.pending = none → ∀ m v, Call.print m v false ∉ calls

variable {out : Stream} {c : Console Stream} {ideal : List UInt8}

/-- One line more on any stream. -/
theorem writeLine_sink (line : String)
    (h : ∃ bs, c.sink = out.put bs ∧ (c.pending = none → bs = ideal) ∧
      (c.pending ≠ none → bs.length < ideal.length)) :
    ∃ bs, (c.writeLine line).2.sink = out.put bs ∧
      ((c.writeLine line).2.pending = none → bs = ideal ++ lineBytes line) ∧
      ((c.writeLine line).2.pending ≠ none → bs.length < (ideal ++ lineBytes line).length) := by
  obtain ⟨bs, hsink, hclean, hdirty⟩ := h
  obtain ⟨n, hn, hput, hok⟩ := Stream.writeAll_cases (lineBytes line) c.sink
  have hput : (Sink.writeAll (lineBytes line) c.sink).2 =
      out.put (bs ++ (lineBytes line).take n) := by
    rw [hput, hsink, Stream.put_append]
  rcases writeLine_cases line c with
    ⟨e, hp, hline⟩ | ⟨t, hp, hwrite, hline⟩ | ⟨e, t, hp, hwrite, hline⟩
  · have hne : c.pending ≠ none := by simp [hp]
    rw [hline, List.length_append]
    exact ⟨bs, hsink, fun h => absurd h hne, fun _ => Nat.lt_add_right _ (hdirty hne)⟩
  · rw [hwrite] at hput hok
    rw [hline]
    refine ⟨_, hput, fun _ => ?_, fun hne => absurd hp hne⟩
    rw [hok.mp rfl, List.take_length, hclean hp]
  · rw [hwrite] at hput hok
    have hlt : n < (lineBytes line).length :=
      Nat.lt_of_le_of_ne hn fun heq => nomatch hok.mpr heq
    rw [hline]
    refine ⟨_, hput, nofun, fun _ => ?_⟩
    rw [hclean hp, List.length_append, List.length_append, List.length_take]
    omega

/-- An error that is pending stays pending. -/
theorem pending_of_writeLine {line : String} (h : (c.writeLine line).2.pending = none) :
    c.pending = none := by
  cases hp : c.pending with
  | none => rfl
  | some e =>
    rw [writeLine_of_pending hp, hp] at h
    cases h

theorem wrote_fresh (out : Stream) : Wrote out [] (.fresh out) :=
  ⟨rfl, ⟨[], by simp [fresh], fun _ => rfl, fun h => absurd rfl h⟩, nofun⟩

/-- **What the calls made so far have left of a console.** -/
theorem tracks_wrote (out : Stream) : System.Tracks (Wrote out) where
  print calls m v c h := by
    have hanswer := writeLine_fst_iff (decimal v) c
    refine ⟨?_, ?_, ?_⟩
    · exact (exitCode_writeLine _ c).trans (by simp [h.exitCode, Call.isHalt])
    · rw [List.flatMap_append, List.flatMap_singleton]
      exact writeLine_sink (decimal v) h.sink
    · intro hclean m' v' hmem
      rcases List.mem_append.mp hmem with hmem | hmem
      · exact h.accepted (pending_of_writeLine hclean) m' v' hmem
      · obtain ⟨-, -, hfalse⟩ := Call.print.inj (List.mem_singleton.mp hmem)
        exact Bool.false_ne_true (hfalse.trans (hanswer.mpr hclean))
  halt calls m c h := by
    refine ⟨by simp [Device.halt, Call.isHalt], ?_, ?_⟩
    · rw [List.flatMap_append, List.flatMap_singleton]
      exact writeLine_sink farewell h.sink
    · intro hclean m' v' hmem
      rcases List.mem_append.mp hmem with hmem | hmem
      · exact h.accepted (pending_of_writeLine hclean) m' v' hmem
      · cases List.mem_singleton.mp hmem

/-! ## The end of a run -/

variable {s t : System (Console Stream)} {k : Nat} {e : Ending}

/-- A check leaves the stream as it is. -/
theorem sink_check (c : Console Stream) : c.check.2.sink = c.sink := by
  cases hp : c.pending with
  | some e => rw [check_of_pending hp]
  | none =>
    rw [check_snd_of_clean hp]
    cases hf : c.sink.flushError with
    | none => rw [Stream.flush_of_none hf]
    | some e => rw [Stream.flush_of_some hf]

theorem flush_put_fst_iff {bs : List UInt8} (h : c.sink = out.put bs) :
    (Sink.flush c.sink).1 = .ok () ↔ out.flushError = none := by
  have hsame : c.sink.flushError = out.flushError := by
    rw [h]
    rfl
  rw [← hsame]
  cases hf : c.sink.flushError with
  | none => simp [Stream.flush_of_none hf]
  | some e => simp [Stream.flush_of_some hf]

theorem wrote_of_ends (h : s.Ends k e t) (hs : s.device = .fresh out) :
    Wrote out (s.calls k) t.device := by
  rw [h.device]
  exact (tracks_wrote out).after_calls (hs ▸ wrote_fresh out) k

/-- The last call of a run that has stopped is a halt, or a print that was refused. -/
theorem last_of_stopped (h : s.Ends k .stopped t) (hr : s.machine.running = true) :
    ∃ j, k = j + 1 ∧ (∀ c ∈ s.calls j, ∃ m v, c = .print m v true) ∧
      ((s.executed j = some .hlt ∧ ∃ m, s.calls k = s.calls j ++ [.halt m]) ∨
        ∃ m v, s.calls k = s.calls j ++ [.print m v false]) := by
  obtain ⟨j, c, rfl, hcall, hstops, hcalls, hbefore⟩ := h.turns.stops_last hr h.of_stopped.1
  refine ⟨j, rfl, fun b hb => Call.eq_print_of_not_stops (hbefore b hb), ?_⟩
  rcases System.callAt_eq_some hcall with ⟨he, rfl⟩ | ⟨a, he, rfl⟩
  · exact .inl ⟨he, _, hcalls⟩
  · have hrefused : (Device.print (s.after j).machine ((s.after j).machine.reg a)
        (s.after j).device).1 = false := by simpa [Call.stops] using hstops
    rw [hrefused] at hcalls
    exact .inr ⟨_, _, hcalls⟩

/-- **A run that has stopped with nothing pending has halted**, and so has asked for the exit. -/
theorem halted_of_stopped (h : s.Ends k .stopped t) (hs : s.device = .fresh out)
    (hr : s.machine.running = true) (hclean : t.device.pending = none) :
    t.device.exitCode = some 0 ∧ ∃ j m, k = j + 1 ∧ s.executed j = some .hlt ∧
      s.calls k = s.calls j ++ [.halt m] ∧ ∀ c ∈ s.calls j, ∃ m v, c = .print m v true := by
  have hwrote := wrote_of_ends h hs
  obtain ⟨j, hk, hprints, ⟨hexec, m, hcalls⟩ | ⟨m, v, hcalls⟩⟩ := last_of_stopped h hr
  · refine ⟨?_, j, m, hk, hexec, hcalls, hprints⟩
    rw [hwrote.exitCode, hcalls]
    simp [Call.isHalt]
  · have hmem : Call.print m v false ∈ s.calls k := by simp [hcalls]
    exact absurd hmem (hwrote.accepted hclean m v)

/-- A run that comes to a fault has not asked for the exit, and every line has been taken. -/
theorem clean_of_fault {f : Fault} (h : s.Ends k (.fault f) t) (hs : s.device = .fresh out) :
    t.device.exitCode = none ∧ ∀ c ∈ s.calls k, ∃ m v, c = .print m v true := by
  have hgoes := h.turns.not_stops h.of_fault.1
  refine ⟨?_, fun c hc => Call.eq_print_of_not_stops (hgoes c hc)⟩
  have hnone : (s.calls k).any Call.isHalt = false := by
    rw [List.any_eq_false]
    intro c hc
    obtain ⟨m, v, rfl⟩ := Call.eq_print_of_not_stops (hgoes c hc)
    simp [Call.isHalt]
  rw [(wrote_of_ends h hs).exitCode, hnone]
  rfl

/-- **A check behind a run ends the process** exactly if the run has halted and the stream has taken
every line. -/
theorem check_eq_exit_of_ends (h : s.Ends k e t) (he : e ≠ .limit) (hs : s.device = .fresh out)
    (hr : s.machine.running = true) (code : UInt8) :
    t.device.check.1 = .exit code ↔ code = 0 ∧ e = .stopped ∧
      (∃ j, k = j + 1 ∧ s.executed j = some .hlt) ∧
      t.device.sink = out.put ((s.calls k).flatMap Call.line) ∧ out.flushError = none := by
  obtain ⟨bs, hsink, hclean, hdirty⟩ := (wrote_of_ends h hs).sink
  rw [check_eq_exit_iff, flush_put_fst_iff hsink]
  constructor
  · rintro ⟨hp, hflush, hcode⟩
    cases e with
    | limit => exact absurd rfl he
    | fault f =>
      rw [(clean_of_fault h hs).1] at hcode
      cases hcode
    | stopped =>
      obtain ⟨hexit, j, m, hk, hexec, -⟩ := halted_of_stopped h hs hr hp
      rw [hexit] at hcode
      exact ⟨(Option.some.inj hcode).symm, rfl, ⟨j, hk, hexec⟩, hclean hp ▸ hsink, hflush⟩
  · rintro ⟨rfl, rfl, -, hall, hflush⟩
    have hp : t.device.pending = none := by
      refine Decidable.byContradiction fun hne => Nat.lt_irrefl bs.length ?_
      have hsize := congrArg (fun s => s.received.size) (hsink.symm.trans hall)
      simp only [Stream.put, Array.size_append, List.size_toArray] at hsize
      have := hdirty hne
      omega
    exact ⟨hp, hflush, (halted_of_stopped h hs hr hp).1⟩

/-- **A check behind a run that finds nothing to do** comes behind a fault of the machine. -/
theorem fault_of_check_proceed (h : s.Ends k e t) (he : e ≠ .limit) (hs : s.device = .fresh out)
    (hr : s.machine.running = true) (hcheck : t.device.check.1 = .proceed) : ∃ f, e = .fault f := by
  obtain ⟨hp, -, hexit⟩ := (check_eq_proceed_iff _).mp hcheck
  cases e with
  | limit => exact absurd rfl he
  | fault f => exact ⟨f, rfl⟩
  | stopped =>
    rw [(halted_of_stopped h hs hr hp).1] at hexit
    cases hexit

/-- On a stream that takes everything, a run leaves nothing pending. -/
theorem pending_of_works (h : s.Ends k e t) (hs : s.device = .fresh out) (hw : out.Works)
    (hempty : out.received = #[]) : t.device.pending = none := by
  have hserves : Serves none (s.calls k) t.device := by
    rw [h.device]
    refine (tracks_serves none).after_calls ?_ k
    rw [hs]
    exact ⟨hw.1 ▸ delivers_fresh hempty hw.2.1, nofun⟩
  exact Decidable.byContradiction fun hne => hserves.delivers.pending hne nofun

theorem tracks_blocked (hb : out.Blocked) :
    System.Tracks fun calls (c : Console Stream) =>
      c.sink = out ∧ (calls ≠ [] → c.pending ≠ none) := by
  have hline : ∀ line (c : Console Stream), c.sink = out →
      (c.writeLine line).2.sink = out ∧ (c.writeLine line).2.pending ≠ none := by
    intro line c hc
    cases hp : c.pending with
    | some e =>
      rw [writeLine_of_pending hp, hp]
      exact ⟨hc, nofun⟩
    | none =>
      obtain ⟨e, hwrite⟩ := hb.writeAll (List.length_pos_iff.mp (length_lineBytes_pos line))
      rw [writeLine_of_error hp (hc ▸ hwrite)]
      exact ⟨hc, nofun⟩
  exact ⟨fun _ _ v c h => ⟨(hline _ c h.1).1, fun _ => (hline _ c h.1).2⟩,
    fun _ _ c h => ⟨(hline _ c h.1).1, fun _ => (hline _ c h.1).2⟩⟩

/-- On a blocked stream, a run leaves an error pending exactly if it has made a call. -/
theorem pending_of_blocked (h : s.Ends k e t) (hs : s.device = .fresh out) (hb : out.Blocked) :
    t.device.pending ≠ none ↔ s.calls k ≠ [] := by
  have hblocked := (tracks_blocked hb).after_calls (s := s) (by simp [hs, fresh]) k
  rw [← h.device] at hblocked
  refine ⟨fun hne hcalls => ?_, hblocked.2⟩
  obtain ⟨bs, -, -, hdirty⟩ := (wrote_of_ends h hs).sink
  have := hdirty hne
  rw [hcalls] at this
  cases this

end Console

end ByteMachine
