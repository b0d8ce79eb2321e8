import ByteMachine.Image.Load
import ByteMachine.Proofs.Devices
import ByteMachine.Proofs.Instruction.Effect

/-!
# The flags and the latest comparison

Whatever is done to a machine from its initial state on, its flags are the mark of the latest
comparison, or cleared if nothing has been compared. So the two tests that the conditional jumps
make, one for the whole mark and one for its equal bit, are one test.

* `Operation` is what can be done to a machine from outside.
* `History` is a machine together with the pairs of values that have been compared, the latest one
  first. They are noted when the comparison is made, so later writes to the registers do not count.
* `Comparisons.mark` is what the flags should be, `Comparisons.endEqual` what the jumps should test.

Results:
* `flags_step`, `flags_loop`: a step and a run keep the flags the mark of the latest comparison.
* `Reports.next`: so does every operation.
* `reports_latest_comparison`: so do all finite sequences of operations, and after them the two
  conditional jumps are complements.
-/

namespace ByteMachine

/-- The pair of values that an instruction compares. -/
def Instruction.compared? (i : Instruction) (m : Machine) : Option (UInt8 × UInt8) :=
  match i with
  | cmp a b => some (m.reg a, m.reg b)
  | _ => none

/-- The pair of values that the instruction at the program counter compares. -/
def Machine.comparison? (m : Machine) : Option (UInt8 × UInt8) :=
  (m.memory.instruction? m.pc).bind (Instruction.compared? · m)

/-- The pairs of values that have been compared, the latest one first. -/
abbrev Comparisons := List (UInt8 × UInt8)

namespace Comparisons

/-- The mark of the latest comparison. -/
def mark : Comparisons → Flags
  | [] => .cleared
  | (x, y) :: _ => Table.mark x y

/-- The latest comparison was of equal values. -/
def endEqual (cs : Comparisons) : Bool := cs.head?.any fun c => c.1 == c.2

/-- Notes the comparison that the machine is about to make. -/
def note (m : Machine) (cs : Comparisons) : Comparisons := m.comparison?.toList ++ cs

theorem note_of_none {m : Machine} (h : m.memory.instruction? m.pc = none) (cs : Comparisons) :
    cs.note m = cs := by
  simp [note, Machine.comparison?, h]

theorem note_of_some {m : Machine} {i : Instruction} (h : m.memory.instruction? m.pc = some i)
    (cs : Comparisons) : cs.note m = (i.compared? m).toList ++ cs := by
  simp [note, Machine.comparison?, h]

theorem mark_mem (cs : Comparisons) :
    cs.mark = .cleared ∨ cs.mark = .less ∨ cs.mark = .greater ∨ cs.mark = .equal := by
  match cs with
  | [] => exact .inl rfl
  | (x, y) :: _ =>
    rw [mark, Table.mark_eq_compare]
    exact .inr (Flags.compare_mem x y)

theorem mark_eq_equal_iff (cs : Comparisons) : cs.mark = .equal ↔ cs.endEqual = true := by
  match cs with
  | [] => decide
  | (x, y) :: _ =>
    rw [mark, Table.mark_eq_compare, Flags.compare_eq_equal_iff]
    simp [endEqual]

end Comparisons

/-! ## Operations -/

/-- What can be done to a machine from outside. A step or a run brings its own device, and a watched
run its own watcher, each in any state. -/
inductive Operation : Type 1
  | load (text : List Char)
  | loadBytes (bytes : List UInt8)
  | write (a v : UInt8)
  | setReg (r v : UInt8)
  | jump (a : UInt8)
  | alu (op : AluOp) (a b : UInt8)
  | step {δ : Type} [Device δ] (d : δ)
  | run {δ : Type} [Device δ] (n : Nat) (d : δ)
  | runWith {δ η : Type} [Device δ] (watch : Machine → η → η) (n : Nat) (seen : η) (d : δ)

namespace Operation

/-- The machine after the operation, also when it fails. -/
def perform (m : Machine) : Operation → Machine
  | load text => (m.load text).2
  | loadBytes bytes => (m.loadBytes bytes).2
  | write a v => m.write a v
  | setReg r v => m.setReg r v
  | jump a => m.jump a
  | alu op a b => m.alu op a b
  | step d => (System.step ⟨m, d⟩).2.machine
  | run n d => (System.run n ⟨m, d⟩).2.machine
  | runWith watch n seen d => (System.runWith watch n seen ⟨m, d⟩).2.machine

/-- The comparisons after the operation. A run notes them before each of its instructions. -/
def compared (m : Machine) (cs : Comparisons) : Operation → Comparisons
  | alu .cmp a b => (m.reg a, m.reg b) :: cs
  | step _ => cs.note m
  | run n d => (System.runWith (fun m cs => cs.note m) n cs ⟨m, d⟩).2.device.seen
  | runWith _ n _ d => (System.runWith (fun m cs => cs.note m) n cs ⟨m, d⟩).2.device.seen
  | _ => cs

end Operation

/-- A machine and what it has compared. -/
structure History where
  machine : Machine
  compared : Comparisons

namespace History

/-- The initial machine has compared nothing. -/
def initial : History := ⟨.initial, []⟩

/-- What an operation makes of a history. -/
def next (h : History) (o : Operation) : History :=
  ⟨o.perform h.machine, o.compared h.machine h.compared⟩

/-- After a sequence of operations from the initial machine on. -/
def after (os : List Operation) : History := os.foldl next initial

/-- The flags report the latest comparison. -/
def Reports (h : History) : Prop := h.machine.flags = h.compared.mark

end History

/-! ## Steps and runs -/

namespace System

variable {δ η : Type} [Device δ]

/-- **A step reports its comparison**, and keeps the report if it compares nothing. -/
theorem flags_step {s : System δ} {cs : Comparisons} (h : s.machine.flags = cs.mark) :
    s.step.2.machine.flags = (cs.note s.machine).mark := by
  cases hi : s.instruction? with
  | none =>
    rw [step_of_not_instruction? hi, Comparisons.note_of_none hi]
    exact h
  | some i =>
    obtain ⟨running, hm⟩ := Table.perform_machine i s
    rw [step_of_instruction? hi, hm, Comparisons.note_of_some hi]
    change (Table.row i s.machine).flags = _
    rw [Table.row_flags]
    cases i with
    | cmp a b => exact (Table.mark_eq_compare _ _).symm
    | _ => exact h

/-- One turn of a run that notes its comparisons before each step. -/
theorem flags_turn {m : Machine} {cs : Comparisons} (h : m.flags = cs.mark) (d : δ) :
    (System.step ⟨m, (⟨d, cs.note m⟩ : Watched δ Comparisons)⟩).2.machine.flags =
      (System.step ⟨m, (⟨d, cs.note m⟩ : Watched δ Comparisons)⟩).2.device.seen.mark := by
  rw [seen_step]
  exact flags_step h

/-- **A run reports the comparisons that are noted along the way.** -/
theorem flags_loop (n : Nat) {s : System (Watched δ Comparisons)}
    (h : s.machine.flags = s.device.seen.mark) :
    (loop (fun m d => { d with seen := d.seen.note m }) n s).2.machine.flags =
      (loop (fun m d => { d with seen := d.seen.note m }) n s).2.device.seen.mark := by
  induction n generalizing s with
  | zero =>
    cases hr : s.machine.running with
    | false => rwa [loop_not_running _ 0 hr]
    | true => rwa [loop_zero _ hr]
  | succ n ih =>
    cases hr : s.machine.running with
    | false => rwa [loop_not_running _ _ hr]
    | true =>
      rw [loop_succ_running _ n hr]
      have hturn := flags_turn h s.device.device
      generalize System.step (δ := Watched δ Comparisons)
        ⟨s.machine, ⟨s.device.device, s.device.seen.note s.machine⟩⟩ = r at hturn ⊢
      obtain ⟨result, t⟩ := r
      cases result with
      | error f => exact hturn
      | ok u => exact ih hturn

/-- So does a run with any watcher. -/
theorem flags_runWith (watch : Machine → η → η) (n : Nat) (e : η) {m : Machine} {cs : Comparisons}
    (h : m.flags = cs.mark) (d : δ) :
    (System.runWith watch n e ⟨m, d⟩).2.machine.flags =
      (System.runWith (fun m cs => cs.note m) n cs ⟨m, d⟩).2.device.seen.mark := by
  have hw := congrArg (fun r => r.2.machine.flags) (runWith_eq_run watch n e ⟨m, d⟩)
  have hn := congrArg (fun r => r.2.machine.flags)
    (runWith_eq_run (fun m (cs : Comparisons) => cs.note m) n cs ⟨m, d⟩)
  exact (hw.symm.trans hn).trans (flags_loop (s := ⟨m.start, ⟨d, cs⟩⟩) n h)

/-! ## Conditional jumps -/

variable {m : Machine} {cs : Comparisons}

/-- Where the flags report the latest comparison, JEQ goes by it. -/
theorem step_of_jeq (h : m.flags = cs.mark) {r : UInt8}
    (hi : m.memory.instruction? m.pc = some (.jeq r)) (d : δ) :
    System.step ⟨m, d⟩ =
      (.ok (), ⟨m.jump (if cs.endEqual then m.reg r else m.pc + 2), d⟩) := by
  rw [step_of_instruction? (s := ⟨m, d⟩) hi]
  have htest : m.flags.bits = 1 ↔ cs.endEqual = true := by
    rw [Table.bits_eq_one_iff, h, Comparisons.mark_eq_equal_iff]
  simp only [Table.perform, Table.row, Table.value_eq_reg, htest]
  rfl

/-- And so does JNE, the other way round, although it tests one bit of the flags only. -/
theorem step_of_jne (h : m.flags = cs.mark) {r : UInt8}
    (hi : m.memory.instruction? m.pc = some (.jne r)) (d : δ) :
    System.step ⟨m, d⟩ =
      (.ok (), ⟨m.jump (if cs.endEqual then m.pc + 2 else m.reg r), d⟩) := by
  rw [step_of_instruction? (s := ⟨m, d⟩) hi]
  have htest : m.flags.isEqual = true ↔ cs.endEqual = true := by
    rw [h, Flags.isEqual_iff_eq_equal cs.mark_mem, Comparisons.mark_eq_equal_iff]
  simp only [Table.perform, Table.row, Table.value_eq_reg, Table.ite_bits_and_one, htest]
  rfl

end System

/-! ## All operations -/

namespace History

theorem reports_initial : initial.Reports := rfl

/-- **Every operation keeps the report.** -/
theorem Reports.next {h : History} (hr : h.Reports) (o : Operation) : (h.next o).Reports := by
  unfold Reports at hr ⊢
  unfold History.next
  cases o with
  | alu op a b =>
    cases op with
    | cmp => exact (Table.mark_eq_compare _ _).symm
    | add => exact hr
    | mul => exact hr
    | and => exact hr
  | step d => exact System.flags_step (s := ⟨h.machine, d⟩) hr
  | run n d =>
    have hw := congrArg (fun r => r.2.machine.flags)
      (System.runWith_eq_run (fun _ (e : Unit) => e) n () ⟨h.machine, d⟩)
    exact hw.trans (System.flags_runWith _ n () hr d)
  | runWith watch n seen d => exact System.flags_runWith watch n seen hr d
  | load text => exact hr
  | loadBytes bytes => exact hr
  | write a v => exact hr
  | setReg r v => exact hr
  | jump a => exact hr

/-- Every sequence of operations keeps the report. -/
theorem Reports.foldl {h : History} (hr : h.Reports) (os : List Operation) :
    (os.foldl History.next h).Reports := by
  induction os generalizing h with
  | nil => exact hr
  | cons o os ih => exact ih (hr.next o)

/-- **The flags always report the latest comparison**, after any finite sequence of operations on
the initial machine, and JEQ and JNE are complements there: whatever is put in memory, a JEQ at the
program counter jumps exactly if the latest comparison was of equal values, and a JNE at the program
counter goes on to the instruction behind it exactly then. Nothing else changes. -/
theorem reports_latest_comparison (os : List Operation) :
    let h := after os
    h.machine.flags = h.compared.mark ∧
    ∀ (δ : Type) [Device δ] (d : δ) (memory : Memory) (r : UInt8),
      let m := { h.machine with memory }
      (memory.instruction? m.pc = some (.jeq r) → System.step ⟨m, d⟩ =
        (.ok (), ⟨m.jump (if h.compared.endEqual then m.reg r else m.pc + 2), d⟩)) ∧
      (memory.instruction? m.pc = some (.jne r) → System.step ⟨m, d⟩ =
        (.ok (), ⟨m.jump (if h.compared.endEqual then m.pc + 2 else m.reg r), d⟩)) := by
  intro h
  have hr : h.Reports := reports_initial.foldl os
  refine ⟨hr, fun δ _ d memory r => ⟨fun hi => ?_, fun hi => ?_⟩⟩
  · exact System.step_of_jeq (m := { h.machine with memory }) hr hi d
  · exact System.step_of_jne (m := { h.machine with memory }) hr hi d

/-- Two comparisons, the first from outside and the second in a run, with a write in between and a
step that fails. -/
def twice : List Operation :=
  [.setReg 1 7, .alu .cmp 0 1, .setReg 0 7, .step Silent.mk,
    .loadBytes ([Instruction.cmp 0 1, .hlt].flatMap Instruction.bytes), .run 9 Silent.mk]

/-- The second comparison is the one that counts: a JEQ jumps. -/
theorem reports_latest_comparison_twice :
    let h := after twice
    let memory := (h.machine.memory.set 4 Opcode.jeq.byte).set 5 1
    h.compared = [(7, 7), (0, 7)] ∧ h.machine.flags = Table.mark 7 7 ∧
      (System.step ⟨{ h.machine with memory }, Silent.mk⟩).2.machine.pc = 7 := by
  intro h memory
  have hcompared : h.compared = [(7, 7), (0, 7)] := by decide +kernel
  obtain ⟨hflags, hjumps⟩ := reports_latest_comparison twice
  have hstep := (hjumps Silent Silent.mk memory 1).1 (by decide +kernel)
  refine ⟨hcompared, ?_, ?_⟩
  · exact hflags.trans (congrArg Comparisons.mark hcompared)
  · refine (congrArg (fun t => t.2.machine.pc) hstep).trans ?_
    decide +kernel

end History

end ByteMachine
