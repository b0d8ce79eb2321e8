import ByteMachine.Proofs.Execution
import Mathlib.Data.List.Basic
import Mathlib.Data.Set.Basic

/-!
# Memory that is not read

Before each instruction the machine fetches three bytes, and how many of them belong to the
instruction is up to its opcode. So a step fetches more than it looks at. The cells that can make a
difference are the ones of the instruction itself and, for a pop or a return, the top of the stack.
A cell outside of these may hold anything, and so may a cell that a push or a call has written
before it is read.

* `Machine.AgreesOff X m n`: two machines differ in the cells of `X` at most.
* `Machine.footprint m` lists the cells that the next step looks at.
* `System.unwritten s X k` are the cells of `X` that no push and no call among the first `k` steps
  has written.
* `Device.IgnoresMemory δ`: the device does not look at the memory, `Call.forgetMemory` is a call
  without it.

Results:
* `AgreesOff.instruction?`, `AgreesOff.row`: machines that agree on the footprint execute the same
  instruction, and to the same effect.
* `agreesOff_after_succ`, `agreesOff_after`: what a step keeps, and what any number of steps keep.
* `perform_congr`: operand bytes that an opcode does not declare have no effect.
* `unread_cells_have_no_effect`: all this for any number of steps.
-/

namespace ByteMachine

/-! ## Machines that differ in some cells -/

namespace Machine

/-- The machines differ in the cells of `X` at most. -/
structure AgreesOff (X : Set UInt8) (m n : Machine) : Prop where
  memory : ∀ a ∉ X, m.read a = n.read a
  registers : m.registers = n.registers
  pc : m.pc = n.pc
  flags : m.flags = n.flags
  running : m.running = n.running

/-- The cells that the next step looks at: those of the instruction at the program counter, and the
top of the stack if the instruction takes it. A byte that is no instruction is all it looks at. -/
def footprint (m : Machine) : List UInt8 :=
  match m.memory.instruction? m.pc with
  | none => [m.pc]
  | some i =>
    (List.range i.size).map (m.pc + UInt8.ofNat ·) ++ if i.closes then [m.sp] else []

variable {X : Set UInt8} {m n : Machine} {i : Instruction}

theorem footprint_of_instruction? (h : m.memory.instruction? m.pc = some i) :
    m.footprint =
      (List.range i.size).map (m.pc + UInt8.ofNat ·) ++ if i.closes then [m.sp] else [] := by
  simp only [footprint, h]

theorem pc_mem_footprint (m : Machine) : m.pc ∈ m.footprint := by
  cases h : m.memory.instruction? m.pc with
  | none => simp [footprint, h]
  | some i =>
    rw [footprint_of_instruction? h]
    exact List.mem_append_left _
      (List.mem_map.mpr ⟨0, List.mem_range.mpr i.size_pos, UInt8.add_zero m.pc⟩)

theorem sp_mem_footprint (h : m.memory.instruction? m.pc = some i) (hc : i.closes = true) :
    m.sp ∈ m.footprint := by
  rw [footprint_of_instruction? h, if_pos hc]
  exact List.mem_append_right _ (List.mem_singleton_self m.sp)

theorem AgreesOff.sp (h : m.AgreesOff X n) : m.sp = n.sp :=
  congrArg (Registers.get · stackRegister) h.registers

/-- **Machines that agree on the footprint execute the same instruction.** -/
theorem AgreesOff.instruction? (h : m.AgreesOff X n) (hX : ∀ a ∈ m.footprint, a ∉ X) :
    m.memory.instruction? m.pc = n.memory.instruction? n.pc := by
  rw [← h.pc]
  cases hi : m.memory.instruction? m.pc with
  | none =>
    have hbyte : m.memory.get m.pc = n.memory.get m.pc :=
      h.memory _ (hX _ m.pc_mem_footprint)
    rw [Memory.instruction?_eq_map, Option.map_eq_none_iff] at hi
    rw [Memory.instruction?_eq_map, ← hbyte, hi]
    rfl
  | some i =>
    symm
    rw [Memory.instruction?_eq_some_iff] at hi ⊢
    rw [← hi]
    refine List.map_congr_left fun k hk => (h.memory _ (hX _ ?_)).symm
    rw [footprint_of_instruction? (Memory.instruction?_eq_some_iff.mpr hi)]
    exact List.mem_append_left _ (List.mem_map_of_mem hk)

/-- What an instruction stores does not depend on the memory. -/
theorem AgreesOff.stored (h : m.AgreesOff X n) (i : Instruction) : i.stored m = i.stored n := by
  obtain ⟨memory, registers, pc, flags, running⟩ := m
  obtain ⟨memory', registers', pc', flags', running'⟩ := n
  obtain ⟨-, rfl, rfl, rfl, rfl⟩ := h
  cases i <;> rfl

/-- **An instruction has the same effect** if it finds the same on top of the stack, and the cell
that it writes does not differ any more. -/
theorem AgreesOff.row (h : m.AgreesOff X n) (htop : i.closes = true → m.top = n.top) :
    (Table.row i m).AgreesOff {a ∈ X | i.opens = true → a ≠ m.sp - 1} (Table.row i n) := by
  have hmemory : ∀ a ∉ {a ∈ X | i.opens = true → a ≠ m.sp - 1},
      (Table.row i m).read a = (Table.row i n).read a := by
    intro a ha
    rw [read, read, Table.row_memory, Table.row_memory]
    cases ho : i.opens with
    | false => exact h.memory a fun hX => ha ⟨hX, by simp [ho]⟩
    | true =>
      rw [if_pos rfl, if_pos rfl, ← h.sp, h.stored i, Memory.get_set, Memory.get_set]
      split
      · rfl
      · rename_i hne
        exact h.memory a fun hX => ha ⟨hX, fun _ => Ne.symm hne⟩
  obtain ⟨memory, registers, pc, flags, running⟩ := m
  obtain ⟨memory', registers', pc', flags', running'⟩ := n
  obtain ⟨-, rfl, rfl, rfl, rfl⟩ := h
  cases i with
  | pop a =>
    have hread : memory.get (Table.value registers 7) = memory'.get (Table.value registers 7) :=
      htop rfl
    exact ⟨hmemory, by simp only [Table.row, hread], rfl, rfl, rfl⟩
  | ret =>
    have hread : memory.get (Table.value registers 7) = memory'.get (Table.value registers 7) :=
      htop rfl
    exact ⟨hmemory, rfl, hread, rfl, rfl⟩
  | _ => exact ⟨hmemory, rfl, rfl, rfl, rfl⟩

/-- The same machine with all of its memory zeroed. -/
def forgetMemory (m : Machine) : Machine := { m with memory := .zeroed }

theorem AgreesOff.forgetMemory_eq (h : m.AgreesOff X n) : m.forgetMemory = n.forgetMemory :=
  Machine.ext rfl h.registers h.pc h.flags h.running

end Machine

/-! ## Devices that do not look at the memory -/

/-- The device does the same whatever the memory holds. -/
structure Device.IgnoresMemory (δ : Type) [Device δ] : Prop where
  print : ∀ m v (d : δ), Device.print m.forgetMemory v d = Device.print m v d
  halt : ∀ m (d : δ), Device.halt m.forgetMemory d = Device.halt m d

theorem ignoresMemory_quota : Device.IgnoresMemory Quota := ⟨fun _ _ _ => rfl, fun _ _ => rfl⟩

namespace Call

/-- The call without the memory that the device sees. -/
def forgetMemory : Call → Call
  | print m value accepted => print m.forgetMemory value accepted
  | halt m => halt m.forgetMemory

theorem stops_forgetMemory (c : Call) : c.forgetMemory.stops = c.stops := by
  cases c <;> rfl

theorem act_forgetMemory {δ : Type} [Device δ] (h : Device.IgnoresMemory δ) (c : Call) (d : δ) :
    c.forgetMemory.act d = c.act d := by
  cases c with
  | print m v accepted => exact congrArg Prod.snd (h.print m v d)
  | halt m => exact h.halt m d

end Call

/-! ## Steps on different memories -/

namespace System

variable {δ : Type} [Device δ] {s t : System δ} {X : Set UInt8} {k n : Nat}

/-- The machines differ in the cells of `X` at most, and the devices not at all. -/
structure AgreesOff (X : Set UInt8) (s t : System δ) : Prop where
  machine : s.machine.AgreesOff X t.machine
  device : s.device = t.device

/-- The cells of `X` that no push and no call among the first `k` steps has written. -/
def unwritten (s : System δ) (X : Set UInt8) (k : Nat) : Set UInt8 :=
  {a ∈ X | ∀ j < k, s.opensAt j = true → a ≠ (s.after j).machine.sp - 1}

@[simp] theorem unwritten_zero (s : System δ) (X : Set UInt8) : s.unwritten X 0 = X := by
  ext a
  exact ⟨And.left, fun h => ⟨h, fun j hj => absurd hj (Nat.not_lt_zero j)⟩⟩

theorem unwritten_succ (s : System δ) (X : Set UInt8) (k : Nat) :
    s.unwritten X (k + 1) =
      {a ∈ s.unwritten X k | s.opensAt k = true → a ≠ (s.after k).machine.sp - 1} := by
  ext a
  exact (and_congr_right fun _ => Nat.forall_lt_succ_right).trans and_assoc.symm

theorem AgreesOff.executed (h : AgreesOff X (s.after k) (t.after k))
    (hX : ∀ a ∈ (s.after k).machine.footprint, a ∉ X) : s.executed k = t.executed k :=
  h.machine.instruction? hX

/-- The step makes the same call. -/
theorem AgreesOff.callAt (hδ : Device.IgnoresMemory δ) (h : AgreesOff X (s.after k) (t.after k))
    (he : s.executed k = t.executed k) :
    (s.callAt k).map Call.forgetMemory = (t.callAt k).map Call.forgetMemory := by
  have hm := h.machine.forgetMemory_eq
  have hreg : ∀ a, (s.after k).machine.reg a = (t.after k).machine.reg a :=
    fun a => congrArg (Registers.get · a) h.machine.registers
  unfold System.callAt
  rw [he]
  cases t.executed k with
  | none => rfl
  | some i =>
    cases i with
    | prn a =>
      have hprint :
          Device.print (s.after k).machine ((s.after k).machine.reg a) (s.after k).device =
            Device.print (t.after k).machine ((t.after k).machine.reg a) (t.after k).device := by
        rw [← hδ.print, ← hδ.print (t.after k).machine, hm, hreg, h.device]
      simp only [Option.map_some, Call.forgetMemory, hm, hreg a, ← hprint]
    | hlt =>
      have hstop : (s.after k).machine.stop.forgetMemory = (t.after k).machine.stop.forgetMemory :=
        congrArg Machine.stop hm
      simp only [Option.map_some, Call.forgetMemory, hstop]
    | _ => rfl

/-- **A step keeps machines apart in no more cells**, and in one less if it writes one of them. -/
theorem agreesOff_after_succ (hδ : Device.IgnoresMemory δ)
    (h : AgreesOff X (s.after k) (t.after k))
    (hX : ∀ a ∈ (s.after k).machine.footprint, a ∉ X) :
    AgreesOff {a ∈ X | s.opensAt k = true → a ≠ (s.after k).machine.sp - 1}
      (s.after (k + 1)) (t.after (k + 1)) := by
  have he := h.executed hX
  have hcall := h.callAt hδ he
  have hdevice : (s.after (k + 1)).device = (t.after (k + 1)).device := by
    rw [device_after_succ, device_after_succ, h.device]
    generalize s.callAt k = c at hcall ⊢
    generalize t.callAt k = c' at hcall ⊢
    match c, c', hcall with
    | none, none, _ => rfl
    | some c, some c', hcall =>
      have hc : c.forgetMemory = c'.forgetMemory := Option.some.inj hcall
      simp only [Option.elim]
      rw [← Call.act_forgetMemory hδ, hc, Call.act_forgetMemory hδ]
  have hrunning : (s.after (k + 1)).machine.running = (t.after (k + 1)).machine.running := by
    have hstops : ∀ o : Option Call, o.any Call.stops = (o.map Call.forgetMemory).any Call.stops :=
      fun o => by cases o with
        | none => rfl
        | some c => exact (Call.stops_forgetMemory c).symm
    rw [running_after_succ, running_after_succ, h.machine.running, hstops, hcall, ← hstops]
  refine ⟨?_, hdevice⟩
  cases hi : s.executed k with
  | none =>
    rw [after_succ_of_not_executed hi, after_succ_of_not_executed (he.symm.trans hi)]
    simpa [opensAt, hi] using h.machine
  | some i =>
    have htop : i.closes = true → (s.after k).machine.top = (t.after k).machine.top := fun hc => by
      rw [Machine.top, Machine.top, ← h.machine.sp]
      exact h.machine.memory _ (hX _ (Machine.sp_mem_footprint hi hc))
    have hrow := h.machine.row htop
    obtain ⟨running, hs⟩ := machine_after_succ hi
    obtain ⟨running', ht⟩ := machine_after_succ (he.symm.trans hi)
    rw [opensAt_of_executed hi]
    rw [hs, ht] at hrunning ⊢
    exact ⟨hrow.memory, hrow.registers, hrow.pc, hrow.flags, hrunning⟩

/-- **So do any number of steps.** -/
theorem agreesOff_after (hδ : Device.IgnoresMemory δ) (h : AgreesOff X s t)
    (hX : ∀ k < n, ∀ a ∈ (s.after k).machine.footprint, a ∉ s.unwritten X k) :
    ∀ k ≤ n, AgreesOff (s.unwritten X k) (s.after k) (t.after k) := by
  intro k
  induction k with
  | zero => exact fun _ => (unwritten_zero s X).symm ▸ h
  | succ k ih =>
    intro hk
    rw [unwritten_succ]
    exact agreesOff_after_succ hδ (ih (Nat.le_of_succ_le hk)) (hX k hk)

theorem AgreesOff.step_fst (h : AgreesOff X s t) (hX : ∀ a ∈ s.machine.footprint, a ∉ X) :
    s.step.1 = t.step.1 := by
  have hi : s.instruction? = t.instruction? := h.machine.instruction? hX
  cases hs : s.instruction? with
  | none =>
    rw [step_of_not_instruction? hs, step_of_not_instruction? (hi.symm.trans hs), ← h.machine.pc,
      h.machine.memory _ (hX _ s.machine.pc_mem_footprint)]
  | some i => rw [step_of_instruction? hs, step_of_instruction? (hi.symm.trans hs)]

/-- Operand bytes that the layout bits of an opcode do not declare have no effect. -/
theorem perform_congr {op : Opcode} {a b a' b' : UInt8}
    (h : [a, b].take op.operands.toNat = [a', b'].take op.operands.toNat) (s : System δ) :
    s.perform op a b = s.perform op a' b' := by
  rw [← Opcode.arity_eq_operands] at h
  cases op
  case hlt | ret => rfl
  case ldi | add | mul | cmp | and =>
    obtain ⟨rfl, rfl⟩ : a = a' ∧ b = b' := by simpa [Opcode.arity] using h
    rfl
  all_goals
    obtain rfl : a = a' := by simpa [Opcode.arity] using h
    rfl

/-- **Memory that is not read has no effect.** Let two machines differ in the cells of `X` at most,
on a device that does not look at the memory. As long as no step looks at a cell of `X` before a
push or a call has written it, the steps from both give the same answers, make the same calls but
for the memory that the device sees, and leave the device and everything else of the machine the
same, and the memory but for the cells of `X` that have not been written.

Of the two bytes behind an opcode, the ones that the opcode does not declare have no effect on any
device. -/
theorem unread_cells_have_no_effect (hδ : Device.IgnoresMemory δ) (h : AgreesOff X s t)
    (hX : ∀ k < n, ∀ a ∈ (s.after k).machine.footprint, a ∉ s.unwritten X k) :
    (repeated step n s).1 = (repeated step n t).1 ∧
      (s.calls n).map Call.forgetMemory = (t.calls n).map Call.forgetMemory ∧
      AgreesOff (s.unwritten X n) (s.after n) (t.after n) ∧
      ∀ (op : Opcode) (a b a' b' : UInt8),
        [a, b].take op.operands.toNat = [a', b'].take op.operands.toNat →
        ∀ u : System δ, u.perform op a b = u.perform op a' b' := by
  have hall := agreesOff_after hδ h hX
  refine ⟨?_, ?_, hall n (Nat.le_refl n), fun op a b a' b' hab u => perform_congr hab u⟩
  · rw [repeated_fst, repeated_fst]
    refine List.map_congr_left fun k hk => ?_
    have hk := List.mem_range.mp hk
    exact (hall k (Nat.le_of_lt hk)).step_fst (hX k hk)
  · rw [calls, calls, List.map_filterMap, List.map_filterMap]
    refine List.filterMap_congr fun k hk => ?_
    have hk := List.mem_range.mp hk
    have hagrees := hall k (Nat.le_of_lt hk)
    exact hagrees.callAt hδ (hagrees.executed (hX k hk))

/-- A machine that pushes a register, pops it into another one, prints that and halts. -/
def pushPopPrint : System Quota where
  device := ⟨none⟩
  machine := { Machine.initial with
    memory := Memory.zeroed.store <|
      [Instruction.push 7, .pop 1, .prn 1, .hlt].flatMap Instruction.bytes }

/-- The byte behind the halt is fetched but not declared, and the cell below the stack is written
before the pop reads it. -/
theorem unread_cells_have_no_effect_pushPopPrint :
    let t : System Quota :=
      { pushPopPrint with machine := (pushPopPrint.machine.write 7 0xFF).write 0xF3 0x63 }
    (pushPopPrint.calls 4).map Call.forgetMemory = (t.calls 4).map Call.forgetMemory ∧
      (t.calls 4).map Call.delivery = [.print 0xF3, .halt] ∧
      (pushPopPrint.after 4).machine.read 0xF3 = (t.after 4).machine.read 0xF3 ∧
      (pushPopPrint.after 4).machine.read 7 ≠ (t.after 4).machine.read 7 := by
  intro t
  have hagrees : AgreesOff {a | a = 7 ∨ a = 0xF3} pushPopPrint t := by
    refine ⟨⟨fun a ha => ?_, rfl, rfl, rfl, rfl⟩, rfl⟩
    rw [Set.mem_ofPred_eq, not_or] at ha
    rw [Machine.read_write, Machine.read_write, if_neg (Ne.symm ha.2), if_neg (Ne.symm ha.1)]
  have hunread : ∀ k < 4, ∀ a ∈ (pushPopPrint.after k).machine.footprint,
      a ∉ pushPopPrint.unwritten {a | a = 7 ∨ a = 0xF3} k := by
    simp only [unwritten, Set.mem_ofPred_eq]
    decide +kernel
  obtain ⟨-, hcalls, hafter, -⟩ :=
    unread_cells_have_no_effect ignoresMemory_quota hagrees hunread
  refine ⟨hcalls, by decide +kernel, hafter.machine.memory 0xF3 ?_, by decide +kernel⟩
  simp only [unwritten, Set.mem_ofPred_eq]
  decide +kernel

end System

end ByteMachine
