import ByteMachine.Image.Load
import ByteMachine.Proofs.Devices
import ByteMachine.Proofs.Instruction.Effect

/-!
# Programs as lists of instructions

A `Program` is a list of instructions whose bytes fill at most 255 cells. Loaded into a machine, it
is executed as that list: the machine never reads an instruction that is not in it.

* `Program.offset P i` is the address of the `i`-th instruction, the number of bytes before it, and
  `P.At pc i x` says that the program counter stands there and the instruction is `x`.
* `Memory.Carries` says that a list of bytes lies from address 0 on.
* `P.Keeps s k` are the conditions up to step `k`: the program counter has always stood at an
  instruction, and nothing has been pushed into the program.

Results:
* `at_unique`: an address belongs to at most one instruction.
* `instruction?_of_carries`: what is read at the offset of an instruction is that instruction.
* `Keeps.carries`: under the conditions the program is still in memory.
* `Keeps.executed`, `Keeps.pc_after_succ`: what is executed under the conditions, and where that
  leads.
* `simulates_instructions`: under the conditions every step executes the instruction at the program
  counter and goes on to the next one, unless it branches; no run meets an unknown opcode.
-/

namespace ByteMachine

/-- A list of instructions that fits below address 255. -/
structure Program where
  instructions : List Instruction
  fits : (instructions.flatMap Instruction.bytes).length ≤ 255

namespace Program

variable (P : Program)

/-- The bytes of the program. -/
def code : List UInt8 := P.instructions.flatMap Instruction.bytes

/-- The address of an instruction: how many bytes stand before it. -/
def offset (i : Nat) : Nat := ((P.instructions.take i).flatMap Instruction.bytes).length

/-- The program counter stands at the `i`-th instruction, which is `x`. -/
def At (pc : UInt8) (i : Nat) (x : Instruction) : Prop :=
  P.instructions[i]? = some x ∧ pc.toNat = P.offset i

variable {P}

/-! ## Layout -/

theorem code_split {i : Nat} {x : Instruction} (h : P.instructions[i]? = some x) :
    P.code = (P.instructions.take i).flatMap Instruction.bytes ++
      (x.bytes ++ (P.instructions.drop (i + 1)).flatMap Instruction.bytes) := by
  obtain ⟨hi, rfl⟩ := List.getElem?_eq_some_iff.mp h
  rw [← List.flatMap_cons, ← List.drop_eq_getElem_cons hi, ← List.flatMap_append,
    List.take_append_drop, code]

theorem offset_succ {i : Nat} {x : Instruction} (h : P.instructions[i]? = some x) :
    P.offset (i + 1) = P.offset i + x.size := by
  obtain ⟨hi, rfl⟩ := List.getElem?_eq_some_iff.mp h
  rw [offset, List.take_succ_eq_append_getElem hi, List.flatMap_append, List.length_append,
    List.flatMap_singleton, Instruction.length_bytes, offset]

theorem offset_le (i : Nat) : P.offset i ≤ P.code.length := by
  have h : P.code = (P.instructions.take i).flatMap Instruction.bytes ++
      (P.instructions.drop i).flatMap Instruction.bytes := by
    rw [← List.flatMap_append, List.take_append_drop, code]
  rw [h, List.length_append, offset]
  exact Nat.le_add_right _ _

/-- The bytes from the offset of an instruction on are its bytes. -/
theorem getElem?_code {i k : Nat} {x : Instruction} (h : P.instructions[i]? = some x)
    (hk : k < x.bytes.length) : P.code[P.offset i + k]? = x.bytes[k]? := by
  rw [code_split h, offset, List.getElem?_append_right (Nat.le_add_right _ _),
    Nat.add_sub_cancel_left, List.getElem?_append_left hk]

theorem offset_lt_of_lt {i j : Nat} (hij : i < j) (hj : j < P.instructions.length) :
    P.offset i < P.offset j := by
  induction j with
  | zero => exact absurd hij (Nat.not_lt_zero i)
  | succ j ih =>
    obtain ⟨x, hx⟩ : ∃ x, P.instructions[j]? = some x := ⟨_, List.getElem?_eq_getElem (by omega)⟩
    have hpos := x.size_pos
    rw [offset_succ hx]
    rcases Nat.lt_or_ge i j with hlt | hge
    · have := ih hlt (by omega)
      omega
    · have : i = j := by omega
      subst this
      omega

/-- **An address belongs to at most one instruction.** -/
theorem at_unique {pc : UInt8} {i j : Nat} {x y : Instruction} (hi : P.At pc i x)
    (hj : P.At pc j y) : i = j := by
  obtain ⟨hx, hpi⟩ := hi
  obtain ⟨hy, hpj⟩ := hj
  have hilt := (List.getElem?_eq_some_iff.mp hx).1
  have hjlt := (List.getElem?_eq_some_iff.mp hy).1
  rcases Nat.lt_trichotomy i j with h | h | h
  · have := offset_lt_of_lt h hjlt
    omega
  · exact h
  · have := offset_lt_of_lt h hilt
    omega

end Program

/-! ## The program in memory -/

namespace Memory

/-- The bytes lie from address 0 on. -/
def Carries (m : Memory) (bs : List UInt8) : Prop := ∀ a v, bs[a.toNat]? = some v → m.get a = v

theorem carries_store (m : Memory) {bs : List UInt8} (h : bs.length ≤ 256) :
    (m.store bs).Carries bs := by
  intro a v ha
  rw [get_store m bs h, ha, Option.getD_some]

/-- A write behind the bytes leaves them alone. -/
theorem Carries.set {m : Memory} {bs : List UInt8} (h : m.Carries bs) {a : UInt8}
    (ha : bs.length ≤ a.toNat) (v : UInt8) : (m.set a v).Carries bs := by
  intro b w hb
  have hlt := (List.getElem?_eq_some_iff.mp hb).1
  have hne : a ≠ b := by
    rintro rfl
    omega
  rw [get_set_of_ne m v hne]
  exact h b w hb

end Memory

namespace System

variable {δ : Type} [Device δ] {s : System δ} {k : Nat}

/-- A step that stores nothing in the bytes leaves them in memory. -/
theorem carries_after_succ {bs : List UInt8} (hm : (s.after k).machine.memory.Carries bs)
    (hs : s.opensAt k = true → bs.length ≤ ((s.after k).machine.sp - 1).toNat) :
    (s.after (k + 1)).machine.memory.Carries bs := by
  cases hi : s.executed k with
  | none => rwa [after_succ_of_not_executed hi]
  | some x =>
    rw [memory_after_succ hi, Table.row_memory]
    rw [opensAt_of_executed hi] at hs
    split
    · exact hm.set (hs ‹_›) _
    · exact hm

end System

namespace Program

variable {P : Program}

/-- **What is read at the offset of an instruction is that instruction.** -/
theorem instruction?_of_carries {m : Memory} (hm : m.Carries P.code) {pc : UInt8} {i : Nat}
    {x : Instruction} (h : P.At pc i x) : m.instruction? pc = some x := by
  obtain ⟨hx, hpc⟩ := h
  rw [Memory.instruction?_eq_some_iff]
  have hend : P.offset i + x.size ≤ 255 := by
    rw [← offset_succ hx]
    exact Nat.le_trans (P.offset_le (i + 1)) P.fits
  apply List.ext_getElem
  · simp
  · intro k hk hk'
    have hlt : k < x.size := by simpa using hk
    -- the operands do not come round the end of memory
    have ha : (pc + UInt8.ofNat k).toNat = P.offset i + k := by
      rw [UInt8.toNat_add, UInt8.toNat_ofNat']
      omega
    have hget := getElem?_code hx hk'
    rw [← ha, List.getElem?_eq_getElem hk'] at hget
    simp only [Memory.slice, List.getElem_map, List.getElem_range]
    exact hm _ _ hget

/-! ## Execution -/

variable {δ : Type} [Device δ]

/-- The conditions up to step `k`: the program counter has stood at an instruction before every
step, and what has been stored on the stack lies behind the program. -/
structure Keeps (P : Program) (s : System δ) (k : Nat) : Prop where
  stands : ∀ j ≤ k, ∃ i x, P.At (s.after j).machine.pc i x
  spares : ∀ j < k, s.opensAt j = true → P.code.length ≤ ((s.after j).machine.sp - 1).toNat

variable {s : System δ} {k : Nat}

theorem Keeps.mono (h : P.Keeps s k) {j : Nat} (hjk : j ≤ k) : P.Keeps s j :=
  ⟨fun l hl => h.stands l (by omega), fun l hl => h.spares l (by omega)⟩

/-- **Under the conditions the program is still in memory.** -/
theorem Keeps.carries (hm : s.machine.memory.Carries P.code) (h : P.Keeps s k) :
    (s.after k).machine.memory.Carries P.code := by
  induction k with
  | zero => exact hm
  | succ k ih =>
    have hprev := ih (h.mono (Nat.le_succ k))
    exact System.carries_after_succ hprev (h.spares k (Nat.lt_succ_self k))

/-- **Under the conditions the instruction at the program counter is executed.** -/
theorem Keeps.executed (hm : s.machine.memory.Carries P.code) (h : P.Keeps s k) {i : Nat}
    {x : Instruction} (hx : P.At (s.after k).machine.pc i x) : s.executed k = some x :=
  instruction?_of_carries (h.carries hm) hx

/-- An instruction of the program that does not branch goes on to the next one. -/
theorem pc_row_of_not_branch {m : Machine} {i : Nat} {x : Instruction} (h : P.At m.pc i x)
    (hb : x.branch? m = none) : (Table.row x m).pc.toNat = P.offset (i + 1) := by
  obtain ⟨hx, hpc⟩ := h
  -- the end of the program is an address, too
  have hend : P.offset (i + 1) ≤ 255 := Nat.le_trans (P.offset_le (i + 1)) P.fits
  rw [offset_succ hx] at hend ⊢
  rw [Table.row_pc, hb, Option.getD_none, UInt8.toNat_add, UInt8.toNat_ofNat']
  omega

/-- **Under the conditions the program goes on to the next instruction**, or to the address that
the instruction branches to. -/
theorem Keeps.pc_after_succ (hm : s.machine.memory.Carries P.code) (h : P.Keeps s k) {i : Nat}
    {x : Instruction} (hx : P.At (s.after k).machine.pc i x) :
    match x.branch? (s.after k).machine with
    | none => (s.after (k + 1)).machine.pc.toNat = P.offset (i + 1)
    | some t => (s.after (k + 1)).machine.pc = t := by
  rw [System.pc_after_succ (h.executed hm hx)]
  split
  · rename_i hb
    exact pc_row_of_not_branch hx hb
  · rename_i t hb
    rw [Table.row_pc, hb, Option.getD_some]

/-- A run under the conditions ends without a fault. -/
theorem run_ne_fault (hm : s.machine.memory.Carries P.code) {n : Nat}
    (h : ∀ k < n, s.start.Turns k → (s.start.after k).machine.running = true →
      P.Keeps s.start k) (f : Fault) : (s.run n).1 ≠ .fault f := by
  intro he
  obtain ⟨hends, hallows⟩ := System.ends_turns n s.start
  unfold System.run at he
  rw [he] at hends hallows
  obtain ⟨hrun, hfault, -⟩ := hends.of_fault
  have hk := h _ hallows hends.turns hrun
  obtain ⟨i, x, hx⟩ := hk.stands _ (Nat.le_refl _)
  rw [System.step_of_instruction? (Keeps.executed (s := s.start) hm hk hx)] at hfault
  cases hfault

theorem length_code_le (P : Program) : P.code.length ≤ 256 := Nat.le_succ_of_le P.fits

theorem loadBytes_code (P : Program) (m : Machine) :
    m.loadBytes P.code = (.ok P.code.length, { m with memory := m.memory.store P.code }) := by
  rw [Machine.loadBytes, Image.loadBytes_of_le P.length_code_le]

/-- **A program is executed as its list of instructions.** It is loaded as a whole, and for every
device, as long as the program counter stands at instructions of the list and nothing is stored in
the program, every step succeeds: it performs the one instruction of the list that stands at the
program counter, and goes on to the next one of the list, unless that instruction branches. No run
under these conditions ends with a fault, watched or not. -/
theorem simulates_instructions (P : Program) (m : Machine) (d : δ) :
    let s : System δ := ⟨(m.loadBytes P.code).2, d⟩
    (m.loadBytes P.code).1 = .ok P.code.length ∧ s.machine.pc = m.pc ∧
    (∀ k, P.Keeps s k → ∃ i x, P.At (s.after k).machine.pc i x ∧
      (∀ j y, P.At (s.after k).machine.pc j y → j = i) ∧ s.executed k = some x ∧
      (s.after k).step = (.ok (), Table.perform x (s.after k)) ∧
      match x.branch? (s.after k).machine with
      | none => (s.after (k + 1)).machine.pc.toNat = P.offset (i + 1)
      | some t => (s.after (k + 1)).machine.pc = t) ∧
    ∀ n, (∀ k < n, s.start.Turns k → (s.start.after k).machine.running = true →
        P.Keeps s.start k) → ∀ f, (s.run n).1 ≠ .fault f ∧
      ∀ (η : Type) (watch : Machine → η → η) (e : η), (s.runWith watch n e).1 ≠ .fault f := by
  intro s
  have hload := P.loadBytes_code m
  have hm : s.machine.memory.Carries P.code := by
    change (m.loadBytes P.code).2.memory.Carries P.code
    rw [hload]
    exact Memory.carries_store m.memory P.length_code_le
  refine ⟨congrArg Prod.fst hload, ?_, fun k hk => ?_, fun n hn f => ⟨run_ne_fault hm hn f, ?_⟩⟩
  · change (m.loadBytes P.code).2.pc = m.pc
    rw [hload]
  · obtain ⟨i, x, hx⟩ := hk.stands k (Nat.le_refl k)
    have hexec := hk.executed hm hx
    exact ⟨i, x, hx, fun j y hy => at_unique hy hx, hexec, System.step_of_instruction? hexec,
      hk.pc_after_succ hm hx⟩
  · intro η watch e
    have hrun := congrArg Prod.fst (System.runWith_eq_run watch n e s)
    exact fun h => run_ne_fault hm hn f (hrun.trans h)

instance (pc : UInt8) (i : Nat) (x : Instruction) : Decidable (P.At pc i x) :=
  inferInstanceAs (Decidable (_ ∧ _))

/-- A program that pushes 3, 2 and 1. -/
def countdown : Program where
  instructions := [.ldi 0 3, .ldi 1 255, .ldi 3 9, .push 0, .add 0 1, .cmp 0 2, .jne 3, .hlt]
  fits := by decide

/-- The countdown keeps the conditions to its end, where it executes the last instruction. -/
theorem simulates_countdown :
    let s : System Silent := ⟨(Machine.initial.start.loadBytes countdown.code).2, {}⟩
    countdown.Keeps s 15 ∧ s.executed 15 = some .hlt ∧ (s.after 15).step.1 = .ok () ∧
      ∀ f, (s.run 16).1 ≠ .fault f := by
  intro s
  have hstands : ∀ j ≤ 15, ∃ i < 8, (s.after j).machine.pc.toNat = countdown.offset i := by
    decide +kernel
  have hk : countdown.Keeps s 15 := by
    refine ⟨fun j hj => ?_, by decide +kernel⟩
    obtain ⟨i, hi, hpc⟩ := hstands j hj
    exact ⟨i, _, List.getElem?_eq_getElem hi, hpc⟩
  obtain ⟨-, -, hstep, hrun⟩ := simulates_instructions countdown Machine.initial.start Silent.mk
  obtain ⟨i, x, hx, hunique, hexec, hok, -⟩ := hstep 15 hk
  obtain rfl : 7 = i := hunique 7 .hlt (by decide +kernel)
  obtain rfl := Option.some.inj hx.1
  refine ⟨hk, hexec, congrArg Prod.fst hok, fun f => (hrun 16 (fun k hlt _ _ => ?_) f).1⟩
  exact hk.mono (Nat.le_of_lt_succ hlt)

end Program

end ByteMachine
