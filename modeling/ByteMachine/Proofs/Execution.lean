import ByteMachine.Proofs.Calls

/-!
# The execution behind all runs

A machine learns from its device whether a run goes on, and nothing else. So what it executes, step
by step, is the same on every device, and so is what it hands over to the device. The answers of a
device only decide where runs stop: a run is a stretch of the one execution, and the next run goes
on with the instruction behind it.

* `Machine.Agrees m n`: two machines differ in the running mark at most.
* `Call.delivery` is what a call hands over to the device, whatever the device answers.
* `System.StopsAt s k`: step `k` executes an HLT, or a PRN whose value the device refuses.
* `System.instructions s k` lists the instructions of the first `k` steps with their addresses.
* `Machine.Runs m ls n`: runs one after the other lead from `m` to `n` and execute `ls`.

Results:
* `Agrees.step`, `Agrees.after`: machines that agree go on to agree, on whatever devices.
* `Agrees.answers`, `Agrees.deliveries`, `Agrees.instructions`: their steps give the same answers,
  hand over the same values and execute the same instructions.
* `flows_iff`, `ends_stopped_iff`, `ends_fault_iff`: where a run stops.
* `Runs.exists_instructions`: runs one after the other execute an initial segment of the execution.
* `device_decides_stops`: all of it together.
-/

namespace ByteMachine

/-! ## Machines that differ in the running mark -/

namespace Machine

/-- The machines differ in the running mark at most. -/
structure Agrees (m n : Machine) : Prop where
  memory : m.memory = n.memory
  registers : m.registers = n.registers
  pc : m.pc = n.pc
  flags : m.flags = n.flags

variable {l m n : Machine}

theorem Agrees.refl (m : Machine) : m.Agrees m := ⟨rfl, rfl, rfl, rfl⟩

theorem Agrees.trans (h : l.Agrees m) (h' : m.Agrees n) : l.Agrees n :=
  ⟨h.memory.trans h'.memory, h.registers.trans h'.registers, h.pc.trans h'.pc,
    h.flags.trans h'.flags⟩

theorem agrees_start (m : Machine) : m.start.Agrees m := ⟨rfl, rfl, rfl, rfl⟩

theorem agrees_stop (m : Machine) : m.stop.Agrees m := ⟨rfl, rfl, rfl, rfl⟩

theorem Agrees.reg (h : m.Agrees n) (a : UInt8) : m.reg a = n.reg a :=
  congrArg (Registers.get · a) h.registers

/-- The row of an instruction does not look at the running mark. -/
theorem Agrees.row (h : m.Agrees n) (i : Instruction) : (Table.row i m).Agrees (Table.row i n) := by
  obtain ⟨memory, registers, pc, flags, running⟩ := m
  obtain ⟨memory', registers', pc', flags', running'⟩ := n
  obtain ⟨rfl, rfl, rfl, rfl⟩ := h
  cases i <;> exact ⟨rfl, rfl, rfl, rfl⟩

end Machine

/-- What a call hands over to the device. -/
inductive Delivery
  | print (value : UInt8)
  | halt
deriving DecidableEq

/-- What the call hands over. -/
def Call.delivery : Call → Delivery
  | print _ value _ => .print value
  | halt _ => .halt

namespace System

variable {δ ε : Type} [Device δ] [Device ε] {s : System δ} {t : System ε}

/-- The instructions that the first `k` steps execute, each with its address. -/
def instructions (s : System δ) (k : Nat) : List (UInt8 × Instruction) :=
  (List.range k).filterMap fun j => (s.executed j).map ((s.after j).machine.pc, ·)

theorem instructions_add (s : System δ) (m n : Nat) :
    s.instructions (m + n) = s.instructions m ++ (s.after m).instructions n := by
  unfold instructions executed
  rw [List.range_add, List.filterMap_append, List.filterMap_map]
  simp only [Function.comp_def, after_add]

/-- The answers of a number of steps, one by one. -/
theorem repeated_fst (s : System δ) (n : Nat) :
    (repeated step n s).1 = (List.range n).map fun k => (s.after k).step.1 := by
  induction n with
  | zero => rfl
  | succ n ih =>
    rw [List.range_succ, List.map_append, ← ih]
    rfl

end System

/-! ## One execution on all devices -/

namespace Machine.Agrees

open ByteMachine.System

variable {δ ε : Type} [Device δ] [Device ε] {s : System δ} {t : System ε}

omit [Device δ] [Device ε] in
theorem instruction? (h : s.machine.Agrees t.machine) : s.instruction? = t.instruction? := by
  rw [System.instruction?, System.instruction?, h.memory, h.pc]

/-- **A step goes the same way on every device**, but for the running mark. -/
theorem step (h : s.machine.Agrees t.machine) :
    s.step.1 = t.step.1 ∧ s.step.2.machine.Agrees t.step.2.machine := by
  cases hi : t.instruction? with
  | none =>
    rw [step_of_not_instruction? (h.instruction?.trans hi), step_of_not_instruction? hi]
    refine ⟨?_, h⟩
    rw [Machine.read, Machine.read, h.memory, h.pc]
  | some i =>
    rw [step_of_instruction? (h.instruction?.trans hi), step_of_instruction? hi]
    obtain ⟨running, hs⟩ := Table.perform_machine i s
    obtain ⟨running', ht⟩ := Table.perform_machine i t
    obtain ⟨hmemory, hregisters, hpc, hflags⟩ := h.row i
    refine ⟨rfl, ?_⟩
    rw [hs, ht]
    exact ⟨hmemory, hregisters, hpc, hflags⟩

/-- **So do any number of steps.** -/
theorem after (h : s.machine.Agrees t.machine) (k : Nat) :
    (s.after k).machine.Agrees (t.after k).machine := by
  induction k with
  | zero => exact h
  | succ k ih => exact (step ih).2

theorem executed (h : s.machine.Agrees t.machine) (k : Nat) : s.executed k = t.executed k :=
  instruction? (h.after k)

/-- The steps give the same answers. -/
theorem answers (h : s.machine.Agrees t.machine) (n : Nat) :
    (repeated System.step n s).1 = (repeated System.step n t).1 := by
  rw [repeated_fst, repeated_fst]
  exact List.map_congr_left fun k _ => (step (h.after k)).1

/-- The steps execute the same instructions at the same addresses. -/
theorem instructions (h : s.machine.Agrees t.machine) (k : Nat) :
    s.instructions k = t.instructions k := by
  unfold System.instructions
  congr 1
  funext j
  rw [h.executed j, (h.after j).pc]

theorem delivery (h : s.machine.Agrees t.machine) (k : Nat) :
    (s.callAt k).map Call.delivery = (t.callAt k).map Call.delivery := by
  unfold callAt
  rw [h.executed k]
  cases t.executed k with
  | none => rfl
  | some i =>
    cases i with
    | prn a => exact congrArg (fun v => some (Delivery.print v)) ((h.after k).reg a)
    | _ => rfl

/-- The steps hand over the same to the device. -/
theorem deliveries (h : s.machine.Agrees t.machine) (k : Nat) :
    (s.calls k).map Call.delivery = (t.calls k).map Call.delivery := by
  rw [calls, calls, List.map_filterMap, List.map_filterMap, funext h.delivery]

end Machine.Agrees

/-! ## Where a run stops -/

namespace System

variable {δ ε : Type} [Device δ] [Device ε] {s u : System δ} {t : System ε} {k : Nat}

/-- Step `k` executes an HLT, or a PRN whose value the device refuses. -/
def StopsAt (s : System δ) (k : Nat) : Prop :=
  s.executed k = some .hlt ∨ ∃ a, s.executed k = some (.prn a) ∧
    (Device.print (s.after k).machine ((s.after k).machine.reg a) (s.after k).device).1 = false

theorem stopsAt_iff : s.StopsAt k ↔ ∃ c, s.callAt k = some c ∧ c.stops = true := by
  constructor
  · rintro (he | ⟨a, he, hrefused⟩)
    · exact ⟨_, by simp only [callAt, he]; rfl, rfl⟩
    · refine ⟨_, by simp only [callAt, he]; rfl, ?_⟩
      rw [Call.stops, hrefused]
      rfl
  · rintro ⟨c, hc, hstops⟩
    rcases callAt_eq_some hc with ⟨he, rfl⟩ | ⟨a, he, rfl⟩
    · exact .inl he
    · exact .inr ⟨a, he, by simpa [Call.stops] using hstops⟩

/-- A running machine goes on running up to the first step that stops it. -/
theorem running_after_iff (hr : s.machine.running = true) (k : Nat) :
    (s.after k).machine.running = true ↔ ∀ j < k, ¬s.StopsAt j := by
  induction k with
  | zero => exact ⟨fun _ j hj => absurd hj (Nat.not_lt_zero j), fun _ => hr⟩
  | succ k ih =>
    have hstops : (s.callAt k).any Call.stops = true ↔ s.StopsAt k := by
      rw [stopsAt_iff, Option.any_eq_true]
    rw [running_after_succ, Bool.and_eq_true, ih, Bool.not_eq_true', ← Bool.not_eq_true, hstops]
    exact Nat.forall_lt_succ_right.symm

/-- **The turns of a run that goes on** are steps that succeed and do not stop it. -/
theorem flows_iff (hr : s.machine.running = true) :
    s.Turns k ∧ (s.after k).machine.running = true ↔
      ∀ j < k, (∃ i, s.executed j = some i) ∧ ¬s.StopsAt j := by
  constructor
  · rintro ⟨hturns, hrunning⟩ j hj
    exact ⟨step_fst_ok_iff.mp (hturns j hj).2, (running_after_iff hr k).mp hrunning j hj⟩
  · intro h
    refine ⟨fun j hj => ⟨?_, step_fst_ok_iff.mpr (h j hj).1⟩, ?_⟩
    · exact (running_after_iff hr j).mpr fun i hi => (h i (Nat.lt_trans hi hj)).2
    · exact (running_after_iff hr k).mpr fun j hj => (h j hj).2

/-- **A run stops right behind the first step that stops it.** -/
theorem ends_stopped_iff (hr : s.machine.running = true) :
    (∃ k, s.Ends k .stopped u) ↔ ∃ k, (∀ j < k, (∃ i, s.executed j = some i) ∧ ¬s.StopsAt j) ∧
      s.StopsAt k ∧ u = s.after (k + 1) := by
  constructor
  · rintro ⟨k, hends⟩
    obtain ⟨hstop, rfl⟩ := hends.of_stopped
    obtain ⟨j, c, rfl, hcall, hstops, -, -⟩ := hends.turns.stops_last hr hstop
    have hbefore : s.Turns j := hends.turns.of_le (Nat.le_succ j)
    exact ⟨j, (flows_iff hr).mp ⟨hbefore, (hends.turns j (Nat.lt_succ_self j)).1⟩,
      stopsAt_iff.mpr ⟨c, hcall, hstops⟩, rfl⟩
  · rintro ⟨k, hflows, hstop, rfl⟩
    obtain ⟨hturns, hrunning⟩ := (flows_iff hr).mpr hflows
    have hok : (s.after k).step.1 = .ok () := by
      rcases hstop with he | ⟨a, he, -⟩
      · exact step_fst_ok_iff.mpr ⟨_, he⟩
      · exact step_fst_ok_iff.mpr ⟨_, he⟩
    refine ⟨k + 1, .stopped (fun j hj => ?_) ?_⟩
    · rcases Nat.lt_succ_iff_lt_or_eq.mp hj with hj | rfl
      · exact hturns j hj
      · exact ⟨hrunning, hok⟩
    · rw [← Bool.not_eq_true, running_after_iff hr]
      exact fun h => h k (Nat.lt_succ_self k) hstop

/-- **A run ends with a fault where a step fails** and none before it has stopped the run. -/
theorem ends_fault_iff (hr : s.machine.running = true) {f : Fault} :
    (∃ k, s.Ends k (.fault f) u) ↔
      ∃ k, (∀ j < k, (∃ i, s.executed j = some i) ∧ ¬s.StopsAt j) ∧
        (s.after k).step.1 = .error f ∧ u = (s.after k).stop := by
  constructor
  · rintro ⟨k, hends⟩
    obtain ⟨hrunning, hf, rfl⟩ := hends.of_fault
    exact ⟨k, (flows_iff hr).mp ⟨hends.turns, hrunning⟩, hf, rfl⟩
  · rintro ⟨k, hflows, hf, rfl⟩
    obtain ⟨hturns, hrunning⟩ := (flows_iff hr).mpr hflows
    exact ⟨k, .fault hturns hrunning hf⟩

theorem Turns.succeeds (h : s.Turns k) : s.Succeeds k := fun j hj => (h j hj).2

end System

/-! ## Runs one after the other -/

/-- Runs that come to their ends, one after the other, and the instructions that each of them
executes. Every run may have a device of its own, in any state; so it may also have the device that
the run before it has left. -/
inductive Machine.Runs : Machine → List (List (UInt8 × Instruction)) → Machine → Prop
  | none (m : Machine) : Runs m [] m
  | next {δ : Type} [Device δ] {s t : System δ} {k : Nat} {e : Ending} {n : Machine}
      {ls : List (List (UInt8 × Instruction))} (he : e ≠ .limit) (run : s.start.Ends k e t)
      (rest : Runs t.machine ls n) : Runs s.machine (s.start.instructions k :: ls) n

namespace System

variable {δ ε : Type} [Device δ] [Device ε] {s : System δ} {t : System ε}

/-- A run that begins at a system ends after its turns. -/
theorem ends_run (s : System δ) (n : Nat) :
    s.start.Ends (turns n s.start) (s.run n).1 (s.run n).2 :=
  (ends_turns n s.start).1

/-- The machine at the end of a run is where its turns have led. -/
theorem Ends.agrees {s t : System δ} {k : Nat} {e : Ending} (h : s.Ends k e t) :
    t.machine.Agrees (s.after k).machine := by
  cases h with
  | stopped => exact .refl _
  | fault => exact Machine.agrees_stop _
  | limit => exact .refl _

theorem Succeeds.add {m n : Nat} (h : s.Succeeds m) (h' : (s.after m).Succeeds n) :
    s.Succeeds (m + n) :=
  forall_after_add (P := fun t => t.step.1 = .ok ()) h h'

theorem Succeeds.agrees {n : Nat} (hs : s.Succeeds n) (h : s.machine.Agrees t.machine) :
    t.Succeeds n := fun k hk => (h.after k).step.1 ▸ hs k hk

end System

/-- **Runs one after the other execute an initial segment of the execution**: none of its
instructions is left out, and none is executed twice. -/
theorem Machine.Runs.exists_instructions {m n : Machine} {ls : List (List (UInt8 × Instruction))}
    (h : m.Runs ls n) {ε : Type} [Device ε] {t : System ε} (ht : m.Agrees t.machine) :
    ∃ k, t.Succeeds k ∧ ls.flatten = t.instructions k ∧ n.Agrees (t.after k).machine := by
  induction h generalizing t with
  | none m => exact ⟨0, fun j hj => absurd hj (Nat.not_lt_zero j), rfl, ht⟩
  | @next _ _ s u k e n ls he run _ ih =>
    have hstart : s.start.machine.Agrees t.machine := (Machine.agrees_start s.machine).trans ht
    obtain ⟨j, hok, hls, hn⟩ := ih (t := t.after k) (run.agrees.trans (hstart.after k))
    refine ⟨k + j, (run.turns.succeeds.agrees hstart).add hok, ?_, ?_⟩
    · rw [List.flatten_cons, hls, System.instructions_add, hstart.instructions k]
    · rwa [System.after_add]

namespace System

variable {δ ε : Type} [Device δ] [Device ε] {s : System δ} {t : System ε}

/-- **A device decides where runs stop and nothing else.** On any two devices, machines that differ
in the running mark at most take the same steps: any number of them gives the same answers, hands
over the same values and halts in the same order, and leads to machines that differ in the running
mark at most.

So a run stops right behind the first step of this execution that is an HLT or a refused PRN, when
the device has got the value and the program counter is behind the instruction, and it ends with a
fault where the execution does if there is no such step before. Runs one after the other, on
whatever devices, execute an initial segment of the execution. -/
theorem device_decides_stops (h : s.machine.Agrees t.machine) :
    (∀ n, (repeated step n s).1 = (repeated step n t).1 ∧
      (s.after n).machine.Agrees (t.after n).machine ∧
      (s.calls n).map Call.delivery = (t.calls n).map Call.delivery) ∧
    (∀ u, s.RunsTo (fun _ d => d) .stopped u ↔
      ∃ k, (∀ j < k, (∃ i, t.executed j = some i) ∧ ¬s.start.StopsAt j) ∧ s.start.StopsAt k ∧
        u = s.start.after (k + 1) ∧
        (s.start.calls (k + 1)).map Call.delivery = (t.calls (k + 1)).map Call.delivery ∧
        ∃ i, t.executed k = some i ∧
          u.machine.pc = (t.after k).machine.pc + UInt8.ofNat i.size) ∧
    (∀ f u, s.RunsTo (fun _ d => d) (.fault f) u ↔
      ∃ k, (∀ j < k, (∃ i, t.executed j = some i) ∧ ¬s.start.StopsAt j) ∧
        (t.after k).step.1 = .error f ∧ u = (s.start.after k).stop) ∧
    ∀ ls m, s.machine.Runs ls m →
      ∃ k, t.Succeeds k ∧ ls.flatten = t.instructions k ∧ m.Agrees (t.after k).machine := by
  have hstart : s.start.machine.Agrees t.machine := (Machine.agrees_start s.machine).trans h
  refine ⟨fun n => ⟨h.answers n, h.after n, h.deliveries n⟩, fun u => ?_, fun f u => ?_,
    fun ls m hruns => hruns.exists_instructions h⟩
  · rw [runsTo_iff_ends, ends_stopped_iff rfl]
    simp only [← hstart.executed]
    constructor
    · rintro ⟨-, k, hflows, hstop, rfl⟩
      refine ⟨k, hflows, hstop, rfl, hstart.deliveries (k + 1), ?_⟩
      rw [← (hstart.after k).pc]
      rcases hstop with hi | ⟨a, hi, -⟩
      · exact ⟨_, hi, pc_after_succ hi⟩
      · exact ⟨_, hi, pc_after_succ hi⟩
    · rintro ⟨k, hflows, hstop, rfl, -⟩
      exact ⟨nofun, k, hflows, hstop, rfl⟩
  · rw [runsTo_iff_ends, ends_fault_iff rfl]
    simp only [← hstart.executed, ← ((hstart.after _).step).1]
    exact ⟨fun hends => hends.2, fun hends => ⟨nofun, hends⟩⟩

/-- The second of two prints is refused, and the next run goes on with the halt behind it. -/
theorem device_decides_stops_twoPrints :
    let silent : System Silent := ⟨twoPrints.machine, Silent.mk⟩
    ∃ m k, twoPrints.machine.Runs [[(0, .ldi 9 65), (3, .prn 1), (5, .prn 7)], [(7, .hlt)]] m ∧
      silent.instructions k = [(0, .ldi 9 65), (3, .prn 1), (5, .prn 7), (7, .hlt)] ∧
      m.Agrees (silent.after k).machine := by
  intro silent
  let behind := (twoPrints.run 3).2
  have hfirst : twoPrints.start.instructions (turns 3 twoPrints.start) =
      [(0, .ldi 9 65), (3, .prn 1), (5, .prn 7)] := by decide +kernel
  have hsecond : behind.start.instructions (turns 1 behind.start) = [(7, .hlt)] := by
    decide +kernel
  have hruns : twoPrints.machine.Runs
      [[(0, .ldi 9 65), (3, .prn 1), (5, .prn 7)], [(7, .hlt)]] (behind.run 1).2.machine := by
    rw [← hfirst, ← hsecond]
    exact .next (by decide +kernel) (twoPrints.ends_run 3)
      (.next (by decide +kernel) (behind.ends_run 1) (.none _))
  have hagrees : twoPrints.machine.Agrees silent.machine := .refl _
  obtain ⟨-, -, -, hall⟩ := device_decides_stops hagrees
  obtain ⟨k, -, hinstructions, hm⟩ := hall _ _ hruns
  exact ⟨_, k, hruns, hinstructions.symm, hm⟩

end System

end ByteMachine
