import ByteMachine.Proofs.BoundedRuns

/-!
# Faults

A step fails exactly at a byte that stands for no instruction, and then nothing has changed. So a
run that ends with a fault leaves the machine where its last instruction has left it, but for the
running mark; and whatever is tried on that machine next fails again, in the same way.

* `Machine.FaultsWith m f`: no opcode has the byte at the program counter, and `f` names this byte
  and its address.
* `Machine.Refuses m f`: a step and a run, on whatever device, fail with `f` and leave the machine
  as it is. A step does nothing to what is attached to the machine, and a run lets its watcher see
  the machine once.
* `Machine.Retried m n`: steps and runs one after the other lead from `m` to `n`. Every one of them
  may have a device and a watcher of its own, in any state; so it may also have those that the one
  before it has left.
* `Machine.Lost m f`: whatever machine is reached by trying again is `m`, and refuses.

Results:
* `step_fst_eq_error_iff`, `step_of_faultsWith`: when a step fails, with what, and what it leaves.
* `Ends.faultsWith`: what a run that ends with a fault leaves.
* `runsTo_of_faultsWith`: how every run from there ends.
* `Machine.FaultsWith.refuses`, `Machine.Refuses.retried`, `Machine.FaultsWith.lost`: nothing is
  gained by trying again.
* `faults_persist`: all this for every step and every run.
-/

namespace ByteMachine

/-- The bytes that stand for no instruction. -/
theorem Opcode.ofByte?_eq_none_iff {b : UInt8} : ofByte? b = none ↔ ∀ op : Opcode, b ≠ op.byte := by
  rw [Option.eq_none_iff_forall_ne_some]
  exact forall_congr' fun op => not_congr ofByte?_eq_some_iff

namespace Machine

/-- The byte at the program counter is no opcode's, and the fault names it and its address. -/
structure FaultsWith (m : Machine) (f : Fault) : Prop where
  unknown : ∀ op : Opcode, m.read m.pc ≠ op.byte
  named : f = .unknownOpcode (m.read m.pc) m.pc

/-- Steps and runs on any device fail with the fault and leave the machine as it is. The watcher of
a run has seen the machine once. -/
structure Refuses (m : Machine) (f : Fault) : Prop where
  step : ∀ {δ : Type} [Device δ] (d : δ), System.step ⟨m, d⟩ = (.error f, ⟨m, d⟩)
  run : ∀ {δ : Type} [Device δ] (d : δ) (before : Machine → δ → δ) (e : Ending) (t : System δ),
    System.RunsTo before ⟨m, d⟩ e t ↔ e = .fault f ∧ t = ⟨m, before m.start d⟩

/-- Steps and runs that come to their ends, one after the other, lead from the one machine to the
other. -/
inductive Retried (m : Machine) : Machine → Prop
  | none : Retried m m
  | step {δ : Type} [Device δ] {n : Machine} (h : Retried m n) (d : δ) :
      Retried m (System.step ⟨n, d⟩).2.machine
  | run {δ : Type} [Device δ] {n : Machine} (h : Retried m n) (d : δ) {before : Machine → δ → δ}
      {e : Ending} {t : System δ} (hrun : System.RunsTo before ⟨n, d⟩ e t) : Retried m t.machine

/-- The machine fails with the fault, and whatever is tried on it does so, too, and changes nothing,
however often. -/
structure Lost (m : Machine) (f : Fault) : Prop where
  faults : m.FaultsWith f
  retried : ∀ n, m.Retried n → n = m ∧ n.Refuses f

end Machine

namespace System

variable {δ η : Type} [Device δ] {s t : System δ} {f : Fault} {k : Nat}

/-! ## One step -/

theorem step_of_faultsWith (h : s.machine.FaultsWith f) : s.step = (.error f, s) := by
  rw [step_of_none (Opcode.ofByte?_eq_none_iff.mpr h.unknown), h.named]

/-- **A step fails exactly at a byte that is no opcode's**, and names that byte and its address. -/
theorem step_fst_eq_error_iff : s.step.1 = .error f ↔ s.machine.FaultsWith f := by
  constructor
  · intro h
    have hnone := step_fst_error_iff.mp ⟨f, h⟩
    rw [step_of_none hnone] at h
    exact ⟨Opcode.ofByte?_eq_none_iff.mp hnone, (Except.error.inj h).symm⟩
  · intro h
    rw [step_of_faultsWith h]

/-! ## Runs -/

/-- **A run that ends with a fault leaves the machine at the byte that it failed at.** -/
theorem Ends.faultsWith (h : s.Ends k (Ending.fault f) t) :
    t = (s.after k).stop ∧ t.machine.FaultsWith f := by
  obtain ⟨-, hf, rfl⟩ := h.of_fault
  obtain ⟨hunknown, hnamed⟩ := step_fst_eq_error_iff.mp hf
  exact ⟨rfl, hunknown, hnamed⟩

/-- A machine that runs and stands at such a byte fails there, behind one look of its watcher. -/
theorem loop_of_faultsWith (h : s.machine.FaultsWith f) (hr : s.machine.running = true)
    (before : Machine → δ → δ) (n : Nat) :
    loop before (n + 1) s = (.fault f, ⟨s.machine.stop, before s.machine s.device⟩) := by
  have hstep : System.step { s with device := before s.machine s.device } =
      (.error f, { s with device := before s.machine s.device }) := step_of_faultsWith h
  rw [loop_succ_running before n hr, hstep]
  rfl

/-- **Every run that begins at such a byte fails there.** -/
theorem runsTo_of_faultsWith (h : s.machine.FaultsWith f) (before : Machine → δ → δ) (e : Ending)
    (t : System δ) : s.RunsTo before e t ↔
      e = .fault f ∧ t = ⟨s.machine.stop, before s.machine.start s.device⟩ := by
  have hstart : s.start.machine.FaultsWith f := ⟨h.unknown, h.named⟩
  have hloop : ∀ n, loop before (n + 1) s.start =
      (.fault f, ⟨s.machine.stop, before s.machine.start s.device⟩) :=
    loop_of_faultsWith hstart rfl before
  constructor
  · rintro ⟨he, n, hn⟩
    cases n with
    | zero =>
      rw [loop_zero before (s := s.start) rfl] at hn
      exact absurd (Prod.mk.inj hn).1.symm he
    | succ n =>
      obtain ⟨rfl, rfl⟩ := Prod.mk.inj ((hloop n).symm.trans hn)
      exact ⟨rfl, rfl⟩
  · rintro ⟨rfl, rfl⟩
    exact ⟨nofun, 1, hloop 0⟩

end System

/-! ## Trying again -/

namespace Machine

variable {m n : Machine} {f : Fault}

theorem stop_of_not_running (h : m.running = false) : m.stop = m := by
  obtain ⟨memory, registers, pc, flags, running⟩ := m
  obtain rfl : running = false := h
  rfl

/-- A machine that has stopped at such a byte refuses a step and a run. -/
theorem FaultsWith.refuses (h : m.FaultsWith f) (hr : m.running = false) : m.Refuses f where
  step d := System.step_of_faultsWith (s := ⟨m, d⟩) h
  run d before e t := by
    have hrun := System.runsTo_of_faultsWith (s := ⟨m, d⟩) h before e t
    rwa [stop_of_not_running hr] at hrun

/-- It stays as it is, whatever is tried on it and however often. -/
theorem Refuses.retried (h : m.Refuses f) (hn : m.Retried n) : n = m := by
  induction hn with
  | none => rfl
  | step _ d ih =>
    subst ih
    rw [h.step d]
  | run _ d hrun ih =>
    subst ih
    rw [((h.run d _ _ _).mp hrun).2]

/-- **A machine that has stopped at such a byte is lost.** -/
theorem FaultsWith.lost (h : m.FaultsWith f) (hr : m.running = false) : m.Lost f := by
  refine ⟨h, fun n hn => ?_⟩
  obtain rfl := (h.refuses hr).retried hn
  exact ⟨rfl, h.refuses hr⟩

end Machine

namespace System

variable {δ : Type} [Device δ]

/-- **Faults persist.** A step fails exactly at a byte that no opcode has; the fault names this byte
and its address, and nothing has changed.

Where a run ends with a fault, watched or not, it has left machine and device as its last
successful instruction has left them, but that the machine has stopped. The fault names the byte at
the program counter and its address, and the machine is lost: steps and runs from there, in any
number and order, do not change it, and each of them fails with the same fault. None of them does
anything to its device, and a run lets its watcher see the machine once. -/
theorem faults_persist (s : System δ) :
    ((∃ f, s.step.1 = .error f) ↔ ∀ op : Opcode, s.machine.read s.machine.pc ≠ op.byte) ∧
    (∀ f, s.step.1 = .error f →
      f = .unknownOpcode (s.machine.read s.machine.pc) s.machine.pc ∧ s.step.2 = s) ∧
    (∀ f t, s.RunsTo (fun _ d => d) (.fault f) t →
      ∃ k, s.start.Turns k ∧ t = (s.start.after k).stop ∧ t.machine.Lost f) ∧
    ∀ (η : Type) (watch : Machine → η → η) (x : η) (f : Fault) (w : System (Watched δ η)),
      RunsTo (fun m d => { d with seen := watch m d.seen }) ⟨s.machine, ⟨s.device, x⟩⟩
        (.fault f) w →
      ∃ k, s.start.Turns k ∧ w.map Watched.device = (s.start.after k).stop ∧ w.machine.Lost f := by
  have hlost : ∀ {k f t}, s.start.Ends k (Ending.fault f) t →
      s.start.Turns k ∧ t = (s.start.after k).stop ∧ t.machine.Lost f := by
    intro k f t hends
    obtain ⟨rfl, hfaults⟩ := hends.faultsWith
    exact ⟨hends.turns, rfl, hfaults.lost rfl⟩
  refine ⟨?_, fun f hf => ?_, fun f t hrun => ?_, fun η watch x f w hrun => ?_⟩
  · rw [step_fst_error_iff, Opcode.ofByte?_eq_none_iff]
  · have hfaults := step_fst_eq_error_iff.mp hf
    exact ⟨hfaults.named, congrArg Prod.snd (step_of_faultsWith hfaults)⟩
  · obtain ⟨-, k, hends⟩ := runsTo_iff_ends.mp hrun
    exact ⟨k, hlost hends⟩
  · obtain ⟨-, n, hn⟩ := hrun
    obtain ⟨k, hends, -, -⟩ := (runWith_eq_iff (s := s)).mp hn
    exact ⟨k, hlost hends⟩

/-- A machine that pushes a zero over the halt in front of it. -/
def overwritten : System Silent where
  device := {}
  machine := { Machine.initial with
    memory := Memory.zeroed.store <|
      [Instruction.ldi 7 6, .push 0, .hlt].flatMap Instruction.bytes }

/-- The run fails at the zero, and so do a step and another run from there. -/
theorem faults_persist_overwritten :
    ∃ t, overwritten.RunsTo (fun _ d => d) (.fault (.unknownOpcode 0 5)) t ∧
      t.step = (.error (.unknownOpcode 0 5), t) ∧
      t.RunsTo (fun _ d => d) (.fault (.unknownOpcode 0 5)) t := by
  have hrun : overwritten.RunsTo (fun _ d => d) (.fault (.unknownOpcode 0 5))
      (overwritten.run 3).2 :=
    ⟨nofun, 3, Prod.ext (by decide +kernel) rfl⟩
  obtain ⟨k, -, -, hlost⟩ := (faults_persist overwritten).2.2.1 _ _ hrun
  have hrefuses := (hlost.retried _ .none).2
  exact ⟨_, hrun, hrefuses.step _, (hrefuses.run _ _ _ _).mpr ⟨rfl, rfl⟩⟩

end System

end ByteMachine
