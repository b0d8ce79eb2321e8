import ByteMachine.Proofs.Execution
import ByteMachine.Proofs.Program
import ByteMachine.Proofs.Stack

/-!
# Programs below the stack

A program lies from address 0 on, and the stack of a fresh machine grows down towards it from
`stackStart`. Both ends of the memory meet: a program that takes more from the stack than it has put
there moves the stack pointer up, past the last address and on to the first one. So a push can run
into the program from either side, and the depth of the stack says when.

* `System.StaysBetween low high n`: over `n` steps no result goes to the stack pointer and the depth
  stays between two bounds.
* `System.imaged bytes running d`: a fresh machine with a raw image in memory.

Results:
* `toNat_below_sp`: which cell the next push or call writes, by the depth.
* `StaysBetween.carries`: between the bounds no push or call writes into the program.
* `memory_of_opens_imaged`: the cell that a push or call writes behind a run of a fresh machine.
* `program_below_stack`: the program stays in memory between the bounds, and no others would do.
-/

namespace ByteMachine.System

variable {δ : Type} [Device δ] {s : System δ} {n : Nat}

/-- In the first `n` steps no result goes to the stack pointer, and after each of them the depth is
between `low` and `high`. -/
structure StaysBetween (s : System δ) (low high : Int) (n : Nat) : Prop where
  spares : ∀ k < n, (s.executed k).all Instruction.sparesStack = true
  bounded : ∀ k ≤ n, low ≤ s.depth k ∧ s.depth k ≤ high

/-! ## The cell below the stack -/

/-- **The next push or call writes the cell that the depth says**, at any depth. -/
theorem toNat_below_sp (h : ∀ k < n, (s.executed k).all Instruction.sparesStack = true) :
    (((s.after n).machine.sp - 1).toNat : Int) = (s.machine.sp.toNat - s.depth n - 1) % 256 := by
  have hsp := sp_after h n (Nat.le_refl n)
  have hlt := (s.after n).machine.sp.toNat_lt
  rw [UInt8.toNat_sub]
  simp only [UInt8.reduceToNat]
  omega

/-- **Between the bounds no push or call writes into the bytes** that lie from address 0 on: at the
greatest depth it writes the cell behind them, and at the least one the last cell of all. -/
theorem StaysBetween.carries {low high : Int} {bs : List UInt8}
    (hm : s.machine.memory.Carries bs) (hhigh : high + bs.length ≤ s.machine.sp.toNat)
    (hlow : (s.machine.sp.toNat : Int) - low ≤ 256) (h : s.StaysBetween low high n) :
    (s.after n).machine.memory.Carries bs := by
  suffices hall : ∀ k ≤ n, (s.after k).machine.memory.Carries bs from hall n (Nat.le_refl n)
  intro k
  induction k with
  | zero => exact fun _ => hm
  | succ k ih =>
    intro hk
    refine carries_after_succ (ih (by omega)) fun ho => ?_
    have hcell := toNat_below_sp fun j hj => h.spares j (Nat.lt_of_lt_of_le hj (by omega : k ≤ n))
    -- the depth is within the bounds before the step, and one more after it
    have hbefore := (h.bounded k (by omega)).1
    have hbehind := (h.bounded (k + 1) hk).2
    obtain ⟨i, hi, hopens⟩ := (Option.any_eq_true _ _).mp ho
    rw [depth_succ_of_executed hi, Instruction.shift_of_opens hopens] at hbehind
    omega

/-! ## Fresh machines -/

/-- A fresh machine with a raw image in memory, on a device; `running` says whether it runs. -/
def imaged (bytes : List UInt8) (running : Bool) (d : δ) : System δ :=
  ⟨{ (Machine.initial.loadBytes bytes).2 with running }, d⟩

variable {bytes : List UInt8} {running : Bool} {d : δ}

omit [Device δ] in
theorem sp_imaged (bytes : List UInt8) (running : Bool) (d : δ) :
    (imaged bytes running d).machine.sp.toNat = 0xF4 :=
  congrArg UInt8.toNat Machine.sp_initial

omit [Device δ] in
theorem carries_imaged (hlen : bytes.length ≤ 256) (running : Bool) (d : δ) :
    (imaged bytes running d).machine.memory.Carries bytes := by
  have hload : Machine.initial.loadBytes bytes =
      (.ok bytes.length, { Machine.initial with memory := Memory.zeroed.store bytes }) := by
    rw [Machine.loadBytes, Image.loadBytes_of_le hlen]
    rfl
  simp only [imaged, hload]
  exact Memory.carries_store _ hlen

/-- What a push or a call writes behind a run of a fresh machine, and where. -/
theorem memory_of_opens_imaged {i : Instruction}
    (h : ∀ k < n, ((imaged bytes running d).executed k).all Instruction.sparesStack = true)
    (hi : (imaged bytes running d).executed n = some i) (ho : i.opens = true) {c : Nat}
    (hc : (c : Int) = (0xF3 - (imaged bytes running d).depth n) % 256) :
    ((imaged bytes running d).after (n + 1)).machine.memory =
      ((imaged bytes running d).after n).machine.memory.set (UInt8.ofNat c)
        (i.stored ((imaged bytes running d).after n).machine) := by
  have hcell := toNat_below_sp h
  rw [sp_imaged] at hcell
  have haddress : ((imaged bytes running d).after n).machine.sp - 1 = UInt8.ofNat c := by
    rw [← UInt8.toNat_inj, UInt8.toNat_ofNat']
    omega
  rw [memory_after_succ hi, Table.row_memory, if_pos ho, haddress]

/-- **A program stays in memory as long as the stack keeps its bounds.** On a fresh machine with an
image of at most 0xF4 bytes, over any steps in which no result goes to the stack pointer and the
depth stays between -12 and what the image leaves of 0xF4, the image is still in memory; so it is
at the end of a run.

The bounds are exact. At the upper one the next push or call writes the last cell of the image, and
one below the lower one it writes the first cell. -/
theorem program_below_stack (hlen : bytes.length ≤ 0xF4) (running : Bool) (d : δ) :
    let s := imaged bytes running d
    let top : Int := 0xF4 - bytes.length
    (Machine.initial.loadBytes bytes).1 = .ok bytes.length ∧ s.machine.memory.Carries bytes ∧
    (∀ n, s.StaysBetween (-12) top n → (s.after n).machine.memory.Carries bytes) ∧
    (∀ n, s.start.StaysBetween (-12) top (turns n s.start) →
      (s.run n).2.machine.memory.Carries bytes) ∧
    (0 < bytes.length → ∀ n i, (∀ k < n, (s.executed k).all Instruction.sparesStack = true) →
      s.executed n = some i → i.opens = true →
      (s.depth n = top → (s.after (n + 1)).machine.memory =
        (s.after n).machine.memory.set (UInt8.ofNat (bytes.length - 1))
          (i.stored (s.after n).machine)) ∧
      (s.depth n = -13 → (s.after (n + 1)).machine.memory =
        (s.after n).machine.memory.set 0 (i.stored (s.after n).machine))) := by
  intro s top
  have hkept : ∀ running n, (imaged bytes running d).StaysBetween (-12) top n →
      ((imaged bytes running d).after n).machine.memory.Carries bytes := by
    intro running n h
    refine h.carries (carries_imaged (by omega) running d) ?_ ?_
    · rw [sp_imaged]
      omega
    · rw [sp_imaged]
      decide
  refine ⟨?_, carries_imaged (by omega) running d, hkept running, fun n h => ?_,
    fun hpos n i hspares hi ho => ⟨fun hdepth => ?_, fun hdepth => ?_⟩⟩
  · rw [Machine.loadBytes, Image.loadBytes_of_le (by omega)]
  · rw [(ends_run s n).agrees.memory]
    exact hkept true _ h
  · refine memory_of_opens_imaged hspares hi ho ?_
    rw [hdepth]
    omega
  · refine memory_of_opens_imaged hspares hi ho (c := 0) ?_
    rw [hdepth]
    decide

/-- An image that fills 240 cells and pushes the stack pointer five times. -/
def fivePushes : List UInt8 :=
  (List.replicate 5 (Instruction.push 7)).flatMap Instruction.bytes ++ List.replicate 230 0

/-- An image that pops thirteen times and then pushes the stack pointer. -/
def thirteenPops : List UInt8 :=
  (List.replicate 13 (Instruction.pop 0) ++ [Instruction.push 7]).flatMap Instruction.bytes

/-- Both bounds are met: four pushes and twelve pops leave the images in memory, the fifth push
writes the last cell of the one, and the push behind the thirteenth pop the first cell of the
other. -/
theorem program_below_stack_both :
    ((imaged fivePushes true Silent.mk).after 4).machine.memory.Carries fivePushes ∧
      ((imaged fivePushes true Silent.mk).after 5).machine.read 239 = 239 ∧
      fivePushes[239]? = some 0 ∧
      ((imaged thirteenPops true Silent.mk).after 12).machine.memory.Carries thirteenPops ∧
      ((imaged thirteenPops true Silent.mk).after 14).machine.read 0 = 0 ∧
      thirteenPops[0]? = some Opcode.pop.byte := by
  have hlen : fivePushes.length = 240 := by decide +kernel
  obtain ⟨-, -, hpushes, -, hlast⟩ :=
    program_below_stack (show fivePushes.length ≤ 0xF4 by decide +kernel) true Silent.mk
  obtain ⟨-, -, hpops, -, hfirst⟩ :=
    program_below_stack (show thirteenPops.length ≤ 0xF4 by decide +kernel) true Silent.mk
  have hfifth := (hlast (by decide +kernel) 4 (.push 7) (by decide +kernel) (by decide +kernel)
    rfl).1 (by decide +kernel)
  have hbehind := (hfirst (by decide +kernel) 13 (.push 7) (by decide +kernel) (by decide +kernel)
    rfl).2 (by decide +kernel)
  have hfour := hpushes 4 ⟨by decide +kernel, by decide +kernel⟩
  have htwelve := hpops 12 ⟨by decide +kernel, by decide +kernel⟩
  refine ⟨hfour, ?_, by decide +kernel, htwelve, ?_, by decide +kernel⟩
  · rw [Machine.read, hfifth, hlen, Memory.get_set, if_pos (by decide)]
    decide +kernel
  · rw [Machine.read, hbehind, Memory.get_set_self]
    decide +kernel

end ByteMachine.System
