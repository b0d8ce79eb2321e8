import ByteMachine.Proofs.Instruction.Effect

/-!
# The stack discipline

A push or a call opens, a pop or a return closes. Over a run in which nothing else moves the stack
pointer, the bytes above the stack pointer are a list that grows and shrinks at one end, although
they lie in the memory that the program lies in, under a pointer that wraps around.

* `System.depth` counts opens minus closes, `System.pending` lists the opens that are not closed
  yet, the latest one first, and `System.contents` the bytes that these have stored.
* `System.Matches i j` says that step `j` closes what step `i` has opened: the depth is the same
  before the one and after the other, and greater in between.
* `Machine.Stacks` is the simulation: a list of bytes lies from the stack pointer on.

Results:
* `sp_after`: the stack pointer is its start minus the depth, modulo 256, for any depth.
* `stacks_after`: at depths from 0 to 256 the contents lie from the stack pointer on.
* `matches_of_pending`, `Matches.unique`: every close has one matching open, the latest one pending.
* `top_of_pending`: a close takes what its matching open has stored.
* `stack_discipline`: all this for every run.
-/

namespace ByteMachine

namespace Instruction

/-- How much deeper the instruction makes the stack. -/
def shift (i : Instruction) : Int :=
  (if i.opens then 1 else 0) - (if i.closes then 1 else 0)

theorem not_closes_of_opens {i : Instruction} (h : i.opens = true) : i.closes = false := by
  cases i <;> first | rfl | contradiction

theorem not_opens_of_closes {i : Instruction} (h : i.closes = true) : i.opens = false := by
  cases i <;> first | rfl | contradiction

theorem shift_of_opens {i : Instruction} (h : i.opens = true) : i.shift = 1 := by
  simp [shift, h, not_closes_of_opens h]

theorem shift_of_closes {i : Instruction} (h : i.closes = true) : i.shift = -1 := by
  simp [shift, h, not_opens_of_closes h]

theorem shift_of_neither {i : Instruction} (ho : i.opens = false) (hc : i.closes = false) :
    i.shift = 0 := by
  simp [shift, ho, hc]

theorem toNat_moved (i : Instruction) (v : UInt8) :
    ((i.moved v).toNat : Int) = (v.toNat - i.shift) % 256 := by
  have hlt := v.toNat_lt
  unfold moved
  cases ho : i.opens with
  | true =>
    rw [if_pos rfl, shift_of_opens ho, UInt8.toNat_sub]
    simp only [UInt8.reduceToNat]
    omega
  | false =>
    cases hc : i.closes with
    | true =>
      simp only [Bool.false_eq_true, if_false, if_true]
      rw [shift_of_closes hc, UInt8.toNat_add]
      simp only [UInt8.reduceToNat]
      omega
    | false =>
      simp only [Bool.false_eq_true, if_false]
      rw [shift_of_neither ho hc]
      omega

end Instruction

/-! ## A list of bytes on the stack -/

/-- The bytes `vs` lie from the stack pointer on. -/
def Machine.Stacks (m : Machine) (vs : List UInt8) : Prop :=
  ∀ p v, vs[p]? = some v → m.read (m.sp + UInt8.ofNat p) = v

theorem add_ofNat_zero (a : UInt8) : a + UInt8.ofNat 0 = a := UInt8.add_zero a

theorem sub_one_add_succ (a : UInt8) (p : Nat) :
    a - 1 + UInt8.ofNat (p + 1) = a + UInt8.ofNat p := by
  rw [UInt8.ofNat_add]
  grind

theorem add_one_add (a : UInt8) (p : Nat) : a + 1 + UInt8.ofNat p = a + UInt8.ofNat (p + 1) := by
  rw [UInt8.ofNat_add]
  grind

/-- The cell below an address is none of the 255 cells from the address on. -/
theorem sub_one_ne_add (a : UInt8) {p : Nat} (h : p < 255) : a - 1 ≠ a + UInt8.ofNat p := by
  intro e
  have ht := congrArg UInt8.toNat e
  rw [UInt8.toNat_sub, UInt8.toNat_add, UInt8.toNat_ofNat'] at ht
  simp only [UInt8.reduceToNat] at ht
  have := a.toNat_lt
  omega

namespace Table

/-- The stack pointer moves by the shift of the instruction. -/
theorem row_sp_toNat {i : Instruction} (h : i.sparesStack = true) (m : Machine) :
    ((row i m).sp.toNat : Int) = (m.sp.toNat - i.shift) % 256 := by
  rw [row_sp h]
  exact i.toNat_moved m.sp

/-- **An open puts its byte on top.** There is room as long as the list has not come round. -/
theorem stacks_row_of_opens {i : Instruction} {m : Machine} {vs : List UInt8}
    (hs : i.sparesStack = true) (ho : i.opens = true) (h : m.Stacks vs) (hlen : vs.length < 256) :
    (row i m).Stacks (i.stored m :: vs) := by
  intro p v hp
  have hsp : (row i m).sp = m.sp - 1 := by rw [row_sp hs, if_pos ho]
  have hmem : (row i m).memory = m.memory.set (m.sp - 1) (i.stored m) := by
    rw [row_memory, if_pos ho]
  rw [hsp, Machine.read, hmem]
  cases p with
  | zero =>
    rw [List.getElem?_cons_zero, Option.some.injEq] at hp
    rw [← hp, add_ofNat_zero]
    exact Memory.get_set_self _ _ _
  | succ p =>
    rw [List.getElem?_cons_succ] at hp
    have hlt := (List.getElem?_eq_some_iff.mp hp).1
    rw [sub_one_add_succ, Memory.get_set_of_ne _ _ (sub_one_ne_add m.sp (by omega))]
    exact h p v hp

/-- **A close takes the byte on top** and leaves the rest. -/
theorem stacks_row_of_closes {i : Instruction} {m : Machine} {v : UInt8} {vs : List UInt8}
    (hs : i.sparesStack = true) (hc : i.closes = true) (h : m.Stacks (v :: vs)) :
    m.top = v ∧ (row i m).Stacks vs := by
  have ho : i.opens = false := Instruction.not_opens_of_closes hc
  constructor
  · have := h 0 v rfl
    rwa [add_ofNat_zero] at this
  · intro p w hp
    have hsp : (row i m).sp = m.sp + 1 := by
      rw [row_sp hs, ho, hc]
      rfl
    have hmem : (row i m).memory = m.memory := by
      rw [row_memory, ho]
      rfl
    rw [hsp, add_one_add, Machine.read, hmem]
    exact h (p + 1) w hp

/-- Everything else leaves the stack as it is. -/
theorem stacks_row_of_neither {i : Instruction} {m : Machine} {vs : List UInt8}
    (hs : i.sparesStack = true) (ho : i.opens = false) (hc : i.closes = false) (h : m.Stacks vs) :
    (row i m).Stacks vs := by
  have hsp : (row i m).sp = m.sp := by
    rw [row_sp hs, ho, hc]
    rfl
  have hmem : (row i m).memory = m.memory := by
    rw [row_memory, ho]
    rfl
  intro p v hp
  rw [hsp, Machine.read, hmem]
  exact h p v hp

end Table

/-! ## Depth and matching -/

namespace System

variable {δ : Type} [Device δ]

/-- Opens minus closes among the first `k` steps. -/
def depth (s : System δ) : Nat → Int
  | 0 => 0
  | k + 1 => s.depth k + (s.executed k).elim 0 Instruction.shift

/-- Step `j` closes what step `i` has opened. -/
structure Matches (s : System δ) (i j : Nat) : Prop where
  lt : i < j
  opens : s.opensAt i = true
  closes : s.closesAt j = true
  same : s.depth i = s.depth (j + 1)
  between : ∀ k, i < k → k ≤ j → s.depth i < s.depth k

/-- A close matches at most one open. -/
theorem Matches.unique {s : System δ} {i i' j : Nat} (h : s.Matches i j) (h' : s.Matches i' j) :
    i = i' := by
  rcases Nat.lt_trichotomy i i' with hlt | rfl | hlt
  · have := h.between i' hlt (Nat.le_of_lt h'.lt)
    rw [h.same, h'.same] at this
    omega
  · rfl
  · have := h'.between i hlt (Nat.le_of_lt h.lt)
    rw [h.same, h'.same] at this
    omega

/-- The steps that have opened and are not closed after `k` steps, the latest one first. -/
def pending (s : System δ) : Nat → List Nat
  | 0 => []
  | k + 1 =>
    if s.opensAt k then k :: s.pending k
    else if s.closesAt k then (s.pending k).tail
    else s.pending k

/-- The byte that step `k` stores, if it opens. -/
def storedAt (s : System δ) (k : Nat) : UInt8 :=
  (s.executed k).elim 0 fun i => i.stored (s.after k).machine

/-- The list of bytes that the stack holds after `k` steps. -/
def contents (s : System δ) (k : Nat) : List UInt8 := (s.pending k).map s.storedAt

/-- A run of `n` successful steps in which no result goes to the stack pointer and the depth stays
within the size of memory. -/
structure KeepsStack (s : System δ) (n : Nat) : Prop where
  succeeds : s.Succeeds n
  spares : ∀ k < n, (s.executed k).all Instruction.sparesStack = true
  bounded : ∀ k ≤ n, 0 ≤ s.depth k ∧ s.depth k ≤ 256

variable {s : System δ} {n : Nat}

theorem storedAt_of_executed {k : Nat} {i : Instruction} (h : s.executed k = some i) :
    s.storedAt k = i.stored (s.after k).machine := by
  simp [storedAt, h]

theorem depth_succ_of_executed {k : Nat} {i : Instruction} (h : s.executed k = some i) :
    s.depth (k + 1) = s.depth k + i.shift := by
  simp [depth, h]

/-- **The stack pointer is its start minus the depth**, modulo 256, as long as no result goes to
it. -/
theorem sp_after (h : ∀ k < n, (s.executed k).all Instruction.sparesStack = true) :
    ∀ k ≤ n, ((s.after k).machine.sp.toNat : Int) = (s.machine.sp.toNat - s.depth k) % 256 := by
  intro k
  induction k with
  | zero =>
    intro _
    have hlt := s.machine.sp.toNat_lt
    rw [after_zero, depth]
    omega
  | succ k ih =>
    intro hk
    have hprev := ih (by omega)
    cases hi : s.executed k with
    | none =>
      rw [after_succ_of_not_executed hi, hprev, depth, hi, Option.elim_none, Int.add_zero]
    | some i =>
      have hs : i.sparesStack = true := by
        have := h k hk
        rwa [hi] at this
      rw [sp_after_succ hi, depth_succ_of_executed hi, Table.row_sp_toNat hs, hprev]
      omega

/-- The executed instruction at a step of such a run. -/
theorem KeepsStack.executed (h : s.KeepsStack n) {k : Nat} (hk : k < n) :
    ∃ i, s.executed k = some i ∧ i.sparesStack = true := by
  obtain ⟨i, hi⟩ := step_fst_ok_iff.mp (h.succeeds k hk)
  have hs := h.spares k hk
  have he : s.executed k = some i := hi
  rw [he] at hs
  exact ⟨i, he, hs⟩

/-- As many opens are pending as the stack is deep. -/
theorem KeepsStack.length_pending (h : s.KeepsStack n) :
    ∀ k ≤ n, ((s.pending k).length : Int) = s.depth k := by
  intro k
  induction k with
  | zero => intro _; rfl
  | succ k ih =>
    intro hk
    have hprev := ih (by omega)
    have hnext := (h.bounded (k + 1) hk).1
    obtain ⟨i, hi, -⟩ := h.executed (k := k) (by omega)
    rw [depth_succ_of_executed hi] at hnext ⊢
    rw [pending, opensAt_of_executed hi, closesAt_of_executed hi]
    cases ho : i.opens with
    | true =>
      rw [if_pos rfl, List.length_cons, Instruction.shift_of_opens ho]
      omega
    | false =>
      cases hc : i.closes with
      | true =>
        rw [Instruction.shift_of_closes hc] at hnext ⊢
        simp only [Bool.false_eq_true, if_false, if_true, List.length_tail]
        omega
      | false =>
        rw [Instruction.shift_of_neither ho hc]
        simp only [Bool.false_eq_true, if_false]
        omega

theorem pending_of_opensAt {k : Nat} (h : s.opensAt k = true) :
    s.pending (k + 1) = k :: s.pending k := if_pos h

theorem pending_of_neither {k : Nat} (ho : s.opensAt k = false) (hc : s.closesAt k = false) :
    s.pending (k + 1) = s.pending k := by
  rw [pending, ho, hc]
  rfl

/-- A close has something to close. -/
theorem KeepsStack.pending_of_closesAt (h : s.KeepsStack n) {k : Nat} (hk : k < n)
    (hc : s.closesAt k = true) : ∃ i, s.pending k = i :: s.pending (k + 1) := by
  obtain ⟨i, hi, -⟩ := h.executed hk
  rw [closesAt_of_executed hi] at hc
  have ho := Instruction.not_opens_of_closes hc
  have hlen := h.length_pending k (by omega)
  have hnext := (h.bounded (k + 1) hk).1
  rw [depth_succ_of_executed hi, Instruction.shift_of_closes hc] at hnext
  rw [pending, opensAt_of_executed hi, closesAt_of_executed hi, ho, hc]
  cases hp : s.pending k with
  | nil =>
    rw [hp, List.length_nil] at hlen
    omega
  | cons i rest => exact ⟨i, rfl⟩

/-- **The contents lie from the stack pointer on**, after every step of such a run. -/
theorem KeepsStack.stacks_after (h : s.KeepsStack n) :
    ∀ k ≤ n, (s.after k).machine.Stacks (s.contents k) := by
  intro k
  induction k with
  | zero =>
    intro _ p v hp
    exact absurd hp (by simp [contents, pending])
  | succ k ih =>
    intro hk
    have hprev := ih (by omega)
    obtain ⟨i, hi, hs⟩ := h.executed (k := k) (by omega)
    obtain ⟨running, hm⟩ := machine_after_succ hi
    rw [hm]
    change (Table.row i (s.after k).machine).Stacks _
    unfold contents at hprev ⊢
    cases ho : i.opens with
    | true =>
      rw [pending_of_opensAt ((opensAt_of_executed hi).trans ho), List.map_cons,
        storedAt_of_executed hi]
      apply Table.stacks_row_of_opens hs ho hprev
      -- one more byte is still within the bound
      have hlen := h.length_pending k (by omega)
      have hnext := (h.bounded (k + 1) hk).2
      rw [depth_succ_of_executed hi, Instruction.shift_of_opens ho] at hnext
      rw [List.length_map]
      omega
    | false =>
      cases hc : i.closes with
      | true =>
        obtain ⟨j, hj⟩ := h.pending_of_closesAt hk ((closesAt_of_executed hi).trans hc)
        rw [hj, List.map_cons] at hprev
        exact (Table.stacks_row_of_closes hs hc hprev).2
      | false =>
        rw [pending_of_neither ((opensAt_of_executed hi).trans ho)
          ((closesAt_of_executed hi).trans hc)]
        exact Table.stacks_row_of_neither hs ho hc hprev

/-! ## Brackets -/

/-- Every open that is pending was made at its own depth, and has been pending ever since. -/
theorem suffix_pending : ∀ k i rest, i :: rest <:+ s.pending k →
    i < k ∧ s.opensAt i = true ∧ s.pending i = rest ∧
      ∀ l, i < l → l ≤ k → i :: rest <:+ s.pending l := by
  intro k
  induction k with
  | zero =>
    intro i rest h
    exact absurd (List.suffix_nil.mp h) (by simp)
  | succ k ih =>
    intro i rest h
    -- what was pending before the step stays pending up to it
    have old : i :: rest <:+ s.pending k → i < k + 1 ∧ s.opensAt i = true ∧ s.pending i = rest ∧
        ∀ l, i < l → l ≤ k + 1 → i :: rest <:+ s.pending l := by
      intro hk
      obtain ⟨hlt, ho, hrest, hall⟩ := ih i rest hk
      refine ⟨by omega, ho, hrest, fun l hl hle => ?_⟩
      rcases Nat.lt_or_ge k l with hlk | hlk
      · have : l = k + 1 := by omega
        exact this ▸ h
      · exact hall l hl hlk
    cases ho : s.opensAt k with
    | true =>
      rw [pending_of_opensAt ho] at h
      rcases List.suffix_cons_iff.mp h with heq | hk
      · obtain ⟨rfl, rfl⟩ := List.cons.inj heq
        refine ⟨Nat.lt_succ_self i, ho, rfl, fun l hl hle => ?_⟩
        obtain rfl : l = i + 1 := by omega
        exact ⟨[], (pending_of_opensAt ho).symm⟩
      · exact old hk
    | false =>
      cases hc : s.closesAt k with
      | true =>
        apply old
        have hp : s.pending (k + 1) = (s.pending k).tail := by
          rw [pending, ho, hc]
          rfl
        rw [hp] at h
        exact h.trans (List.tail_suffix _)
      | false =>
        rw [pending_of_neither ho hc] at h
        exact old h

/-- **The open on top of the pending ones is the one that a close matches.** -/
theorem KeepsStack.matches_of_pending (h : s.KeepsStack n) {i j : Nat} (hj : j < n)
    (hc : s.closesAt j = true) (hp : s.pending j = i :: s.pending (j + 1)) : s.Matches i j := by
  have hsuffix : i :: s.pending (j + 1) <:+ s.pending j := ⟨[], hp.symm⟩
  obtain ⟨hlt, ho, hrest, hall⟩ := suffix_pending j i _ hsuffix
  have hi := h.length_pending i (by omega)
  rw [hrest] at hi
  refine ⟨hlt, ho, hc, hi.symm.trans (h.length_pending (j + 1) hj), fun k hik hkj => ?_⟩
  have hk := h.length_pending k (by omega)
  have hle := (hall k hik hkj).length_le
  rw [List.length_cons] at hle
  omega

/-- What a close takes is the byte on top of the contents. -/
theorem KeepsStack.top_of_pending (h : s.KeepsStack n) {i j : Nat} (hj : j < n)
    (hp : s.pending j = i :: s.pending (j + 1)) :
    (s.after j).machine.top = s.storedAt i ∧ s.contents j = s.storedAt i :: s.contents (j + 1) := by
  have hcons : s.contents j = s.storedAt i :: s.contents (j + 1) := by
    rw [contents, hp, List.map_cons, contents]
  have hstack := h.stacks_after j (by omega)
  rw [hcons] at hstack
  have htop := hstack 0 (s.storedAt i) rfl
  rw [add_ofNat_zero] at htop
  exact ⟨htop, hcons⟩

/-- A pop delivers the byte on top to its register. -/
theorem KeepsStack.reg_of_pop (h : s.KeepsStack n) {j : Nat} {a : UInt8} (hj : j < n)
    (he : s.executed j = some (.pop a)) :
    (s.after (j + 1)).machine.reg a = (s.after j).machine.top := by
  obtain ⟨i, hi, hs⟩ := h.executed hj
  obtain rfl := Option.some.inj (hi.symm.trans he)
  have hne : Registers.slot Machine.stackRegister ≠ Registers.slot a := by
    have : Registers.slot a ≠ Registers.slot Machine.stackRegister := by
      simpa [Instruction.sparesStack, Instruction.target?] using hs
    exact this.symm
  rw [Machine.reg, registers_after_succ he, Table.row_registers]
  exact (Registers.get_set_of_ne _ _ hne).trans (Registers.get_set_self _ _ _)

/-- A return delivers the byte on top to the program counter. -/
theorem pc_of_ret {j : Nat} (he : s.executed j = some .ret) :
    (s.after (j + 1)).machine.pc = (s.after j).machine.top := by
  rw [pc_after_succ he, Table.row_pc]
  rfl

/-- **The stack discipline.** In every run of successful steps in which no result goes to the stack
pointer and the depth stays between 0 and 256, the stack pointer is its start minus the depth, the
contents lie from it on, and every close has exactly one matching open: it takes what that open has
stored, off the top of the contents, and delivers it to the register of a pop or to the program
counter. So a return that matches a call goes to the instruction behind the call. -/
theorem stack_discipline (h : s.KeepsStack n) :
    (∀ k ≤ n, ((s.after k).machine.sp.toNat : Int) = (s.machine.sp.toNat - s.depth k) % 256) ∧
    (∀ k ≤ n, ((s.contents k).length : Int) = s.depth k ∧
      (s.after k).machine.Stacks (s.contents k)) ∧
    ∀ j < n, s.closesAt j = true →
      ∃ i, s.Matches i j ∧ (∀ i', s.Matches i' j → i' = i) ∧
        (s.after j).machine.top = s.storedAt i ∧
        s.contents j = s.storedAt i :: s.contents (j + 1) ∧
        (∀ a, s.executed j = some (.pop a) → (s.after (j + 1)).machine.reg a = s.storedAt i) ∧
        (s.executed j = some .ret → (s.after (j + 1)).machine.pc = s.storedAt i ∧
          ∀ a, s.executed i = some (.call a) →
            (s.after (j + 1)).machine.pc = (s.after i).machine.pc + 2) := by
  refine ⟨sp_after h.spares, fun k hk => ⟨?_, h.stacks_after k hk⟩, fun j hj hc => ?_⟩
  · rw [contents, List.length_map]
    exact h.length_pending k hk
  · obtain ⟨i, hp⟩ := h.pending_of_closesAt hj hc
    have hm := h.matches_of_pending hj hc hp
    obtain ⟨htop, hcons⟩ := h.top_of_pending hj hp
    refine ⟨i, hm, fun i' hm' => hm'.unique hm, htop, hcons, fun a he => ?_, fun he => ⟨?_, ?_⟩⟩
    · rw [h.reg_of_pop hj he, htop]
    · rw [pc_of_ret he, htop]
    · intro a hcall
      rw [pc_of_ret he, htop, storedAt_of_executed hcall]
      rfl

/-- A machine that calls a subroutine, which pushes a value and the stack pointer and pops both. -/
def nestedCall : System Silent where
  device := {}
  machine := { Machine.initial with
    memory := Memory.zeroed.store <| [Instruction.ldi 1 8, .call 1, .prn 0, .hlt, .ldi 0 77,
      .push 0, .push 7, .pop 2, .pop 3, .ret].flatMap Instruction.bytes }

/-- The discipline at work: the return, step 7, goes behind the call, step 1. -/
theorem stack_discipline_nestedCall :
    nestedCall.KeepsStack 10 ∧ nestedCall.Matches 1 7 ∧
      (nestedCall.after 8).machine.pc = (nestedCall.after 1).machine.pc + 2 := by
  have hk : nestedCall.KeepsStack 10 :=
    ⟨succeeds_iff.mpr (by decide +kernel), by decide +kernel, by decide +kernel⟩
  have hbetween : ∀ k ≤ 7, 1 < k → nestedCall.depth 1 < nestedCall.depth k := by decide +kernel
  have hm : nestedCall.Matches 1 7 :=
    ⟨by decide, by decide +kernel, by decide +kernel, by decide +kernel,
      fun k h1 h7 => hbetween k h7 h1⟩
  obtain ⟨i, -, hunique, -, -, -, hret⟩ := (stack_discipline hk).2.2 7 (by decide) hm.closes
  obtain rfl : 1 = i := hunique 1 hm
  exact ⟨hk, hm, (hret (by decide +kernel)).2 1 (by decide +kernel)⟩

end System

end ByteMachine
