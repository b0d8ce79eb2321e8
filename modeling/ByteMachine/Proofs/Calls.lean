import ByteMachine.Proofs.Devices
import ByteMachine.Proofs.Instruction.Effect

/-!
# The calls of a run

The machine calls its device for every PRN and every HLT that it executes, and for nothing else.

* `System.callAt s k` is the call that step `k` makes, read off the instruction that is executed
  there, and `System.calls s k` lists the calls of the first `k` steps.
* `Call.Fits` says what the device is shown: a print by the running machine at the PRN, a halt by
  the stopped machine at the HLT.
* `Call.stops` marks the calls that end a run, and `Call.next` is the address behind the
  instruction that makes the call.

Results:
* `device_after_succ`, `running_after_succ`: a step changes the device and the running mark by its
  call alone.
* `Tracks.after`: what every call keeps of a device and the calls made to it holds after any number
  of steps.
* `Alike.calls`: devices that answer alike get the same calls.
* `after_recorded`: a recording device has recorded exactly these calls.
* `Turns.not_stops`, `Turns.stops_last`: no call but the last one has ended the run.
* `device_protocol`: how the calls of a whole run follow each other, and what they tell about its
  end.
-/

namespace ByteMachine

namespace Call

/-- The call ends the run: the machine halts, or the device refuses the byte. -/
def stops : Call → Bool
  | print _ _ accepted => !accepted
  | halt _ => true

/-- What the device is shown: the machine that is about to execute the instruction at its program
counter, stopped already if it halts, and for a print the value of the register it names. -/
def Fits : Call → Prop
  | print m v _ =>
    m.running = true ∧ ∃ a, m.memory.instruction? m.pc = some (.prn a) ∧ v = m.reg a
  | halt m => m.running = false ∧ m.memory.instruction? m.pc = some .hlt

/-- The address behind the instruction that makes the call. -/
def next : Call → UInt8
  | print m _ _ => m.pc + 2
  | halt m => m.pc + 1

/-- What the call makes of the device. -/
def act {δ : Type} [Device δ] (c : Call) (d : δ) : δ :=
  match c with
  | print m v _ => (Device.print m v d).2
  | halt m => Device.halt m d

theorem eq_print_of_not_stops {c : Call} (h : c.stops = false) : ∃ m v, c = .print m v true := by
  cases c with
  | print m v accepted =>
    cases accepted with
    | true => exact ⟨m, v, rfl⟩
    | false => cases h
  | halt m => cases h

end Call

namespace System

variable {δ : Type} [Device δ]

/-- The call that step `k` makes to the device, with the device's answer. -/
def callAt (s : System δ) (k : Nat) : Option Call :=
  let m := (s.after k).machine
  match s.executed k with
  | some .hlt => some (.halt m.stop)
  | some (.prn a) => some (.print m (m.reg a) (Device.print m (m.reg a) (s.after k).device).1)
  | _ => none

/-- The calls of the first `k` steps, in order. -/
def calls (s : System δ) (k : Nat) : List Call := (List.range k).filterMap s.callAt

variable {s t : System δ} {k : Nat} {e : Ending}

@[simp] theorem calls_zero (s : System δ) : s.calls 0 = [] := rfl

theorem calls_succ (s : System δ) (k : Nat) :
    s.calls (k + 1) = s.calls k ++ (s.callAt k).toList := by
  rw [calls, List.range_succ, List.filterMap_append]
  rfl

theorem callAt_of_not_executed (h : s.executed k = none) : s.callAt k = none := by
  simp only [callAt, h]

/-- Only a print and a halt make a call. -/
theorem callAt_eq_some {c : Call} (h : s.callAt k = some c) :
    (s.executed k = some .hlt ∧ c = .halt (s.after k).machine.stop) ∨
    ∃ a, s.executed k = some (.prn a) ∧
      c = .print (s.after k).machine ((s.after k).machine.reg a)
        (Device.print (s.after k).machine ((s.after k).machine.reg a) (s.after k).device).1 := by
  unfold callAt at h
  split at h
  · rename_i he
    exact .inl ⟨he, (Option.some.inj h).symm⟩
  · rename_i a he
    exact .inr ⟨a, he, (Option.some.inj h).symm⟩
  · cases h

/-- The steps that make a call. -/
theorem exists_callAt_iff :
    (∃ c, s.callAt k = some c) ↔
      s.executed k = some .hlt ∨ ∃ a, s.executed k = some (.prn a) := by
  constructor
  · rintro ⟨c, hc⟩
    rcases callAt_eq_some hc with ⟨he, -⟩ | ⟨a, he, -⟩
    · exact .inl he
    · exact .inr ⟨a, he⟩
  · rintro (he | ⟨a, he⟩)
    · exact ⟨_, by simp only [callAt, he]; rfl⟩
    · exact ⟨_, by simp only [callAt, he]; rfl⟩

/-! ## One step -/

/-- **A step changes the device by its call alone.** -/
theorem device_after_succ (s : System δ) (k : Nat) :
    (s.after (k + 1)).device =
      (s.callAt k).elim (s.after k).device (Call.act · (s.after k).device) := by
  cases h : s.executed k with
  | none =>
    rw [after_succ_of_not_executed h, callAt_of_not_executed h]
    rfl
  | some i =>
    rw [after_succ_of_executed h]
    simp only [callAt, h]
    cases i with
    | prn a =>
      simp only [Table.perform, Table.value_eq_reg]
      rfl
    | _ => rfl

/-- **A step stops the machine by its call alone.** -/
theorem running_after_succ (s : System δ) (k : Nat) :
    (s.after (k + 1)).machine.running =
      ((s.after k).machine.running && !(s.callAt k).any Call.stops) := by
  cases h : s.executed k with
  | none =>
    rw [after_succ_of_not_executed h, callAt_of_not_executed h]
    simp
  | some i =>
    rw [after_succ_of_executed h]
    simp only [callAt, h]
    cases i with
    | prn a => simp [Table.perform, Machine.reg, Call.stops]
    | hlt => simp [Table.perform, Table.row, Call.stops]
    | _ => simp [Table.perform, Table.row]

/-- The instruction that makes a call goes on to the one behind it. -/
theorem pc_of_callAt {c : Call} (h : s.callAt k = some c) :
    (s.after (k + 1)).machine.pc = c.next := by
  rcases callAt_eq_some h with ⟨he, rfl⟩ | ⟨a, he, rfl⟩
  · rw [pc_after_succ he]
    rfl
  · rw [pc_after_succ he]
    rfl

/-- A running machine makes calls that fit it. -/
theorem fits_of_callAt {c : Call} (hr : (s.after k).machine.running = true)
    (h : s.callAt k = some c) : c.Fits := by
  rcases callAt_eq_some h with ⟨he, rfl⟩ | ⟨a, he, rfl⟩
  · exact ⟨rfl, he⟩
  · exact ⟨hr, a, he, rfl⟩

/-! ## Devices and their calls -/

/-- A property of a device and the calls made to it so far that every further call keeps. -/
structure Tracks (P : List Call → δ → Prop) : Prop where
  print : ∀ cs m v d, P cs d →
    P (cs ++ [.print m v (Device.print m v d).1]) (Device.print m v d).2
  halt : ∀ cs m d, P cs d → P (cs ++ [.halt m]) (Device.halt m d)

/-- **What every call keeps holds after any number of steps.** -/
theorem Tracks.after {P : List Call → δ → Prop} (h : Tracks P) {cs : List Call}
    (hs : P cs s.device) (k : Nat) : P (cs ++ s.calls k) (s.after k).device := by
  induction k with
  | zero => simpa using hs
  | succ k ih =>
    rw [calls_succ, device_after_succ]
    cases hc : s.callAt k with
    | none => simpa using ih
    | some c =>
      rw [Option.toList_some, ← List.append_assoc]
      rcases callAt_eq_some hc with ⟨-, rfl⟩ | ⟨a, -, rfl⟩
      · exact h.halt _ _ _ ih
      · exact h.print _ _ _ _ ih

/-- The case in which no call has been made before. -/
theorem Tracks.after_calls {P : List Call → δ → Prop} (h : Tracks P) (hs : P [] s.device)
    (k : Nat) : P (s.calls k) (s.after k).device := by
  simpa using h.after hs k

variable {ε : Type} [Device ε] {R : δ → ε → Prop}

/-- Devices that answer alike get the same calls. -/
theorem Alike.callAt {t : System ε} (h : Alike R) (hst : Related R s t) (k : Nat) :
    s.callAt k = t.callAt k := by
  have hk := h.after hst k
  have he : s.executed k = t.executed k := by
    unfold executed instruction?
    rw [hk.machine]
  unfold System.callAt
  rw [he, hk.machine]
  simp only [(h.print _ _ _ _ hk.device).1]

theorem Alike.calls {t : System ε} (h : Alike R) (hst : Related R s t) (k : Nat) :
    s.calls k = t.calls k := by
  unfold System.calls
  rw [funext (h.callAt hst)]

/-! ## Recording the calls -/

theorem mirrors_recorded : Mirrors (Recorded.device : Recorded δ → δ) :=
  ⟨fun _ _ _ => rfl, fun _ _ => rfl⟩

theorem tracks_recorded : Tracks fun cs (d : Recorded δ) => d.calls = cs.toArray where
  print cs m v d h := by simp [h]
  halt cs m d h := by simp [h]

/-- The same machine on a device that records its calls, with none recorded yet. -/
def recorded (s : System δ) : System (Recorded δ) := ⟨s.machine, .fresh s.device⟩

/-- **A recording device records the calls of the steps**, and nothing else changes. -/
theorem after_recorded (s : System δ) (k : Nat) :
    s.recorded.after k =
      ⟨(s.after k).machine, ⟨(s.after k).device, (s.calls k).toArray⟩⟩ := by
  have hrel := mirrors_recorded.alike.after (related_map Recorded.device s.recorded) k
  have hsame := mirrors_recorded.alike.calls (related_map Recorded.device s.recorded) k
  have hcalls := tracks_recorded.after_calls (s := s.recorded) rfl k
  rw [hsame] at hcalls
  generalize s.recorded.after k = u at hrel hcalls ⊢
  obtain ⟨machine, device, calls⟩ := u
  obtain ⟨hm, hd⟩ := hrel
  exact System.ext hm (by rw [Recorded.mk.injEq]; exact ⟨hd, hcalls⟩)

/-! ## The calls of a run -/

/-- As long as the machine goes on running, no call has ended the run. -/
theorem not_stops_of_running {c : Call} (hr : (s.after (k + 1)).machine.running = true)
    (h : s.callAt k = some c) : c.stops = false := by
  rw [running_after_succ, h, Bool.and_eq_true] at hr
  simpa using hr.2

theorem mem_calls {c : Call} : c ∈ s.calls k ↔ ∃ j < k, s.callAt j = some c := by
  simp [calls, List.mem_filterMap]

/-- The calls of turns fit the machine that makes them. -/
theorem Turns.fits (h : s.Turns k) : ∀ c ∈ s.calls k, c.Fits := by
  intro c hc
  obtain ⟨j, hj, hcall⟩ := mem_calls.mp hc
  exact fits_of_callAt (h j hj).1 hcall

/-- **While a run goes on, no call has ended it.** -/
theorem Turns.not_stops (h : s.Turns k) (hr : (s.after k).machine.running = true) :
    ∀ c ∈ s.calls k, c.stops = false := by
  intro c hc
  obtain ⟨j, hj, hcall⟩ := mem_calls.mp hc
  refine not_stops_of_running ?_ hcall
  rcases Nat.lt_or_ge (j + 1) k with hlt | hge
  · exact (h (j + 1) hlt).1
  · obtain rfl : j + 1 = k := by omega
    exact hr

/-- **A run that has stopped was ended by its last call.** -/
theorem Turns.stops_last (h : s.Turns k) (hstart : s.machine.running = true)
    (hr : (s.after k).machine.running = false) :
    ∃ j c, k = j + 1 ∧ s.callAt j = some c ∧ c.stops = true ∧ s.calls k = s.calls j ++ [c] ∧
      ∀ b ∈ s.calls j, b.stops = false := by
  cases k with
  | zero =>
    rw [after_zero, hstart] at hr
    cases hr
  | succ j =>
    have hj := (h j (Nat.lt_succ_self j)).1
    have hbefore : s.Turns j := fun i hi => h i (Nat.lt_succ_of_lt hi)
    rw [running_after_succ, hj] at hr
    cases hc : s.callAt j with
    | none =>
      rw [hc] at hr
      cases hr
    | some c =>
      rw [hc] at hr
      refine ⟨j, c, rfl, hc, by simpa using hr, ?_, hbefore.not_stops hj⟩
      rw [calls_succ, hc]
      rfl

/-- **On a recording device a run goes the same way** and records the calls of its turns. -/
theorem Ends.recorded (h : s.Ends k e t) :
    s.recorded.Ends k e ⟨t.machine, ⟨t.device, (s.calls k).toArray⟩⟩ := by
  obtain ⟨u, hu, hrel⟩ := mirrors_recorded.alike.flip.ends (t := s.recorded) ⟨rfl, rfl⟩ h
  have hcalls : u.device.calls = (s.calls k).toArray := by
    rw [hu.device, after_recorded]
  obtain ⟨machine, device, calls⟩ := u
  obtain ⟨rfl, rfl⟩ := hrel
  obtain rfl : calls = (s.calls k).toArray := hcalls
  exact hu

/-- So does a run without a bound. -/
theorem runsTo_recorded (h : s.RunsTo (fun _ d => d) e t) (hk : s.start.Ends k e t) :
    s.recorded.RunsTo (fun _ d => d) e ⟨t.machine, ⟨t.device, (s.start.calls k).toArray⟩⟩ :=
  runsTo_iff_ends.mpr ⟨(runsTo_iff_ends.mp h).1, k, hk.recorded⟩

/-- **A run makes a call exactly if it comes to a PRN or an HLT.** -/
theorem Ends.calls_ne_nil_iff (h : s.Ends k e t) (he : e ≠ .limit) :
    s.calls k ≠ [] ↔ ∃ j, s.Turns j ∧ (s.after j).machine.running = true ∧
      (s.executed j = some .hlt ∨ ∃ a, s.executed j = some (.prn a)) := by
  constructor
  · intro hne
    obtain ⟨c, hc⟩ := List.exists_mem_of_ne_nil _ hne
    obtain ⟨j, hj, hcall⟩ := mem_calls.mp hc
    exact ⟨j, fun i hi => h.turns i (Nat.lt_trans hi hj), (h.turns j hj).1,
      exists_callAt_iff.mp ⟨c, hcall⟩⟩
  · rintro ⟨j, hturns, hr, hexec⟩
    obtain ⟨c, hcall⟩ := exists_callAt_iff.mpr hexec
    have hok : (s.after j).step.1 = .ok () := by
      rcases hexec with hi | ⟨a, hi⟩
      · exact step_fst_ok_iff.mpr ⟨_, hi⟩
      · exact step_fst_ok_iff.mpr ⟨_, hi⟩
    rcases Nat.lt_or_eq_of_le (h.le_of_turns he hturns) with hlt | rfl
    · exact List.ne_nil_of_mem (mem_calls.mpr ⟨j, hlt, hcall⟩)
    · cases h with
      | stopped _ hstop =>
        rw [hr] at hstop
        cases hstop
      | fault _ _ hf =>
        rw [hok] at hf
        cases hf
      | limit => exact absurd rfl he

/-- A run comes to a fault exactly if it comes to a byte that is no instruction. -/
theorem Ends.fault_iff (h : s.Ends k e t) (he : e ≠ .limit) :
    (∃ f, e = .fault f) ↔ ∃ j, s.Turns j ∧ (s.after j).machine.running = true ∧
      Opcode.ofByte? ((s.after j).machine.read (s.after j).machine.pc) = none := by
  constructor
  · rintro ⟨f, rfl⟩
    obtain ⟨hr, hf, -⟩ := h.of_fault
    exact ⟨k, h.turns, hr, step_fst_error_iff.mp ⟨f, hf⟩⟩
  · rintro ⟨j, hturns, hr, hbyte⟩
    cases h with
    | fault _ _ _ => exact ⟨_, rfl⟩
    | limit _ _ => exact absurd rfl he
    | stopped hk hstop =>
      -- no turn before the end fails, and at the end the machine has stopped
      obtain ⟨f, hf⟩ := step_fst_error_iff.mpr hbyte
      rcases Nat.lt_or_eq_of_le (Ends.le_of_turns (.stopped hk hstop) he hturns) with hlt | rfl
      · rw [(hk j hlt).2] at hf
        cases hf
      · rw [hr] at hstop
        cases hstop

/-- **The device protocol of a run.** Every run that comes to its end makes one call for every PRN
and HLT that it executes, in order, and no other call. The calls fit the machine that makes them,
and all but the last are prints that are accepted. The run stops exactly if its last call is a halt
or a refused print, and then it is behind that instruction; it ends with a fault exactly if it
comes to a byte that is no instruction, and then no call was a halt or a refused print. -/
theorem device_protocol {s t : System δ} {e : Ending} (h : s.RunsTo (fun _ d => d) e t) :
    ∃ k, s.start.Ends k e t ∧
      let calls := s.start.calls k
      s.recorded.RunsTo (fun _ d => d) e ⟨t.machine, ⟨t.device, calls.toArray⟩⟩ ∧
      (∀ c ∈ calls, c.Fits) ∧
      (∀ c ∈ calls.dropLast, ∃ m v, c = .print m v true) ∧
      (e = .stopped ↔ ∃ c, calls.getLast? = some c ∧ c.stops = true) ∧
      (∀ c, calls.getLast? = some c → c.stops = true →
        t.machine.pc = c.next ∧ t.machine.running = false) ∧
      ((∃ f, e = .fault f) ↔ ∃ j, s.start.Turns j ∧ (s.start.after j).machine.running = true ∧
        Opcode.ofByte? ((s.start.after j).machine.read (s.start.after j).machine.pc) = none) ∧
      ((∃ f, e = .fault f) → ∀ c ∈ calls, c.stops = false) := by
  obtain ⟨he, k, hk⟩ := runsTo_iff_ends.mp h
  refine ⟨k, hk, runsTo_recorded h hk, hk.turns.fits, ?_⟩
  have hfault := hk.fault_iff he
  cases e with
  | limit => exact absurd rfl he
  | stopped =>
    obtain ⟨hr, rfl⟩ := hk.of_stopped
    obtain ⟨j, c, rfl, hcall, hstops, hcalls, hbefore⟩ := hk.turns.stops_last rfl hr
    have hlast : (s.start.calls (j + 1)).getLast? = some c := by rw [hcalls, List.getLast?_concat]
    refine ⟨?_, ⟨fun _ => ⟨c, hlast, hstops⟩, fun _ => rfl⟩, ?_, hfault, ?_⟩
    · rw [hcalls, List.dropLast_concat]
      exact fun b hb => Call.eq_print_of_not_stops (hbefore b hb)
    · intro b hb _
      obtain rfl := Option.some.inj (hlast.symm.trans hb)
      exact ⟨pc_of_callAt hcall, hr⟩
    · exact nofun
  | fault f =>
    obtain ⟨hr, -, -⟩ := hk.of_fault
    have hgoes := hk.turns.not_stops hr
    have hnone : ∀ c, (s.start.calls k).getLast? = some c → c.stops ≠ true := by
      intro c hc
      rw [hgoes c (List.mem_of_getLast? hc)]
      exact Bool.false_ne_true
    refine ⟨?_, ⟨nofun, ?_⟩, ?_, hfault, fun _ => hgoes⟩
    · exact fun c hc => Call.eq_print_of_not_stops (hgoes c (List.dropLast_subset _ hc))
    · rintro ⟨c, hc, hstops⟩
      exact absurd hstops (hnone c hc)
    · exact fun c hc hstops => absurd hstops (hnone c hc)

/-- A machine that prints two values in a row, on a device that takes one. -/
def twoPrints : System Quota where
  device := ⟨some 1⟩
  machine := { Machine.initial with
    memory := Memory.zeroed.store <|
      [Instruction.ldi 9 65, .prn 1, .prn 7, .hlt].flatMap Instruction.bytes }

/-- The second print is refused, and the run stops in front of the halt. -/
theorem device_protocol_twoPrints :
    ∃ t k c, twoPrints.RunsTo (fun _ d => d) .stopped t ∧ twoPrints.start.Ends k .stopped t ∧
      (twoPrints.start.calls k).getLast? = some c ∧ c.stops = true ∧ c.next = 7 := by
  have hrun : twoPrints.RunsTo (fun _ d => d) .stopped (twoPrints.run 3).2 :=
    ⟨by decide, 3, Prod.ext (by decide +kernel) rfl⟩
  obtain ⟨k, hk, -, -, -, hstopped, hbehind, -⟩ := device_protocol hrun
  obtain ⟨c, hlast, hstops⟩ := hstopped.mp rfl
  have hpc : (twoPrints.run 3).2.machine.pc = 7 := by decide +kernel
  exact ⟨_, k, c, hrun, hk, hlast, hstops, (hbehind c hlast hstops).1.symm.trans hpc⟩

end System

end ByteMachine
