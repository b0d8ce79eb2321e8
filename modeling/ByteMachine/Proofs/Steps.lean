import ByteMachine.System.Run

/-!
# Sequences of steps

`repeated f n s` calls a step function `n` times. `System.after` is where `n` steps of the machine
lead; a step that fails leaves the system as it is, so this is defined for every `n`. A run is a
sequence of steps, too: `System.turns` counts them, and `System.Ends` says what comes behind them.

Results:
* `after_add`: sequences of steps compose.
* `ends_turns`: a run of at most `n` instructions executes `turns n s ≤ n` of them, each one a
  successful step of a running machine, and then the machine has stopped, or the next step fails,
  or the bound is used up.
* `runsTo_iff_ends`: an unbounded run comes to its end after some number of turns.
* `loop_of_turns`: a run goes on behind its first turns.
-/

namespace ByteMachine

/-- `n` calls of a step function, one after the other: the answers in order, and where they lead. -/
def repeated {σ ρ : Type} (f : σ → ρ × σ) : Nat → σ → List ρ × σ
  | 0, s => ([], s)
  | n + 1, s =>
    let before := repeated f n s
    (before.1 ++ [(f before.2).1], (f before.2).2)

/-- How many turns a run of at most `n` can have had when it has come to an ending. -/
def Ending.Allows (n k : Nat) : Ending → Prop
  | .stopped => k ≤ n
  | .fault _ => k < n
  | .limit => k = n

namespace System

variable {δ : Type} [Device δ]

/-- The system after `n` steps. -/
def after (s : System δ) (n : Nat) : System δ := (repeated step n s).2

/-- The first `n` steps succeed. -/
def Succeeds (s : System δ) (n : Nat) : Prop := ∀ k < n, (s.after k).step.1 = .ok ()

/-- A step that fails changes nothing. -/
theorem step_snd_of_error {s : System δ} {f : Fault} (h : s.step.1 = .error f) : s.step.2 = s := by
  rw [step_of_none (step_fst_error_iff.mp ⟨f, h⟩)]

@[simp] theorem after_zero (s : System δ) : s.after 0 = s := rfl

theorem after_succ (s : System δ) (n : Nat) : s.after (n + 1) = (s.after n).step.2 := rfl

/-- **Sequences of steps compose.** -/
theorem after_add (s : System δ) (m : Nat) : ∀ n, s.after (m + n) = (s.after m).after n
  | 0 => rfl
  | n + 1 => by
    rw [← Nat.add_assoc, after_succ, after_succ, after_add s m n]

theorem after_succ' (s : System δ) (n : Nat) : s.after (n + 1) = s.step.2.after n := by
  rw [Nat.add_comm, after_add]
  rfl

/-- What holds along two sequences of steps, one after the other, holds along both. -/
theorem forall_after_add {P : System δ → Prop} {s : System δ} {m n : Nat}
    (h : ∀ k < m, P (s.after k)) (h' : ∀ k < n, P ((s.after m).after k)) :
    ∀ k < m + n, P (s.after k) := by
  intro k hk
  rcases Nat.lt_or_ge k m with hlt | hge
  · exact h k hlt
  · obtain ⟨j, rfl⟩ := Nat.exists_eq_add_of_le hge
    rw [after_add]
    exact h' j (Nat.lt_of_add_lt_add_left hk)

/-! ## Runs as sequences of steps -/

/-- The first `k` steps are turns of a run: the machine is running before each, and each
succeeds. -/
def Turns (s : System δ) (k : Nat) : Prop :=
  ∀ j < k, (s.after j).machine.running = true ∧ (s.after j).step.1 = .ok ()

theorem Turns.succ {s : System δ} {k : Nat} (hr : s.machine.running = true)
    (hok : s.step.1 = .ok ()) (h : s.step.2.Turns k) : s.Turns (k + 1) := by
  intro j hj
  cases j with
  | zero => exact ⟨hr, hok⟩
  | succ j =>
    rw [after_succ']
    exact h j (by omega)

theorem Turns.of_le {s : System δ} {k n : Nat} (h : s.Turns n) (hk : k ≤ n) : s.Turns k :=
  fun j hj => h j (Nat.lt_of_lt_of_le hj hk)

theorem turns_zero (s : System δ) : s.Turns 0 := fun j hj => absurd hj (Nat.not_lt_zero j)

/-- After `k` turns a run from `s` has come to an ending and leads to `t`. -/
inductive Ends (s : System δ) (k : Nat) : Ending → System δ → Prop
  | stopped (turns : s.Turns k) (hr : (s.after k).machine.running = false) :
      Ends s k .stopped (s.after k)
  | fault {f : Fault} (turns : s.Turns k) (hr : (s.after k).machine.running = true)
      (hf : (s.after k).step.1 = .error f) : Ends s k (.fault f) (s.after k).stop
  | limit (turns : s.Turns k) (hr : (s.after k).machine.running = true) :
      Ends s k .limit (s.after k)

theorem Ends.turns {s t : System δ} {k : Nat} {e : Ending} (h : s.Ends k e t) : s.Turns k := by
  cases h <;> assumption

theorem Ends.of_stopped {s t : System δ} {k : Nat} (h : s.Ends k .stopped t) :
    (s.after k).machine.running = false ∧ t = s.after k := by
  cases h
  exact ⟨‹_›, rfl⟩

theorem Ends.of_fault {s t : System δ} {k : Nat} {f : Fault} (h : s.Ends k (.fault f) t) :
    (s.after k).machine.running = true ∧ (s.after k).step.1 = .error f ∧
      t = (s.after k).stop := by
  cases h
  exact ⟨‹_›, ‹_›, rfl⟩

/-- A run leaves the device as its last turn has left it. -/
theorem Ends.device {s t : System δ} {k : Nat} {e : Ending} (h : s.Ends k e t) :
    t.device = (s.after k).device := by
  cases h <;> rfl

/-- There are no turns behind the end of a run. -/
theorem Ends.le_of_turns {s t : System δ} {j k : Nat} {e : Ending} (h : s.Ends k e t)
    (he : e ≠ .limit) (hj : s.Turns j) : j ≤ k := by
  refine Nat.le_of_not_lt fun hkj => ?_
  obtain ⟨hr, hok⟩ := hj k hkj
  cases h with
  | stopped _ hstop =>
    rw [hr] at hstop
    cases hstop
  | fault _ _ hf =>
    rw [hok] at hf
    cases hf
  | limit => exact he rfl

/-- **A run comes to one end only.** -/
theorem Ends.unique {s t t' : System δ} {k k' : Nat} {e e' : Ending} (h : s.Ends k e t)
    (h' : s.Ends k' e' t') (he : e ≠ .limit) (he' : e' ≠ .limit) : k = k' ∧ e = e' ∧ t = t' := by
  obtain rfl : k = k' := Nat.le_antisymm (h'.le_of_turns he' h.turns) (h.le_of_turns he h'.turns)
  refine ⟨rfl, ?_⟩
  cases h with
  | limit => exact absurd rfl he
  | stopped _ hr =>
    cases h' with
    | limit => exact absurd rfl he'
    | stopped => exact ⟨rfl, rfl⟩
    | fault _ hr' _ =>
      rw [hr] at hr'
      cases hr'
  | fault _ hr hf =>
    cases h' with
    | limit => exact absurd rfl he'
    | stopped _ hr' =>
      rw [hr] at hr'
      cases hr'
    | fault _ _ hf' =>
      rw [hf] at hf'
      cases hf'
      exact ⟨rfl, rfl⟩

/-- One turn more in front. -/
theorem Ends.succ {s t : System δ} {k : Nat} {e : Ending} (hr : s.machine.running = true)
    (hok : s.step.1 = .ok ()) (h : s.step.2.Ends k e t) : s.Ends (k + 1) e t := by
  have hturns : s.Turns (k + 1) := .succ hr hok h.turns
  cases h with
  | stopped _ hstop => exact after_succ' s k ▸ .stopped hturns (after_succ' s k ▸ hstop)
  | fault _ hrun hf =>
    exact after_succ' s k ▸ .fault hturns (after_succ' s k ▸ hrun) (after_succ' s k ▸ hf)
  | limit _ hrun => exact after_succ' s k ▸ .limit hturns (after_succ' s k ▸ hrun)

/-- How many instructions a run of at most `n` executes. -/
def turns : Nat → System δ → Nat
  | 0, _ => 0
  | n + 1, s =>
    if s.machine.running then
      match s.step with
      | (.ok (), t) => turns n t + 1
      | (.error _, _) => 0
    else 0

/-- **A run is a sequence of steps**: it ends after its turns, of which there are no more than the
bound allows. -/
theorem ends_turns (n : Nat) (s : System δ) :
    s.Ends (turns n s) (loop (fun _ d => d) n s).1 (loop (fun _ d => d) n s).2 ∧
      (loop (fun _ d => d) n s).1.Allows n (turns n s) := by
  induction n generalizing s with
  | zero =>
    cases h : s.machine.running with
    | false =>
      rw [loop_not_running _ 0 h]
      exact ⟨.stopped (turns_zero s) h, Nat.le_refl 0⟩
    | true =>
      rw [loop_zero _ h]
      exact ⟨.limit (turns_zero s) h, rfl⟩
  | succ n ih =>
    cases h : s.machine.running with
    | false =>
      rw [loop_not_running _ _ h, turns, if_neg (by simp [h])]
      exact ⟨.stopped (turns_zero s) h, Nat.zero_le _⟩
    | true =>
      rw [loop_succ_running _ n h, turns, if_pos h]
      obtain ⟨r, hr⟩ : ∃ r, s.step = r := ⟨_, rfl⟩
      have hfst : s.step.1 = r.1 := congrArg Prod.fst hr
      have hsnd : s.step.2 = r.2 := congrArg Prod.snd hr
      rw [hr]
      obtain ⟨result, t⟩ := r
      cases result with
      | error f =>
        -- a step that fails has changed nothing
        obtain rfl : s = t := (step_snd_of_error hfst).symm.trans hsnd
        exact ⟨.fault (turns_zero s) h hfst, Nat.succ_pos n⟩
      | ok u =>
        obtain ⟨hends, hallows⟩ := ih t
        refine ⟨.succ h hfst (hsnd ▸ hends), ?_⟩
        cases he : (loop (fun _ d => d) n t).1 with
        | stopped => exact Nat.succ_le_succ (by simpa [he, Ending.Allows] using hallows)
        | fault f => exact Nat.succ_lt_succ (by simpa [he, Ending.Allows] using hallows)
        | limit => exact congrArg Nat.succ (by simpa [he, Ending.Allows] using hallows)

/-- A run goes on behind its first turns. -/
theorem loop_of_turns {s : System δ} {k : Nat} (h : s.Turns k) (n : Nat) :
    loop (fun _ d => d) (k + n) s = loop (fun _ d => d) n (s.after k) := by
  induction k generalizing s with
  | zero => rw [Nat.zero_add, after_zero]
  | succ k ih =>
    have hr : s.machine.running = true := (h 0 (Nat.succ_pos k)).1
    have hstep : s.step = (.ok (), s.step.2) := Prod.ext (h 0 (Nat.succ_pos k)).2 rfl
    have hrest : s.step.2.Turns k := fun j hj => after_succ' s j ▸ h (j + 1) (Nat.succ_lt_succ hj)
    rw [Nat.succ_add, loop_succ_running _ (k + n) hr, hstep, after_succ']
    exact ih hrest

/-- **An unbounded run comes to its end after some number of turns.** -/
theorem runsTo_iff_ends {s t : System δ} {e : Ending} :
    s.RunsTo (fun _ d => d) e t ↔ e ≠ .limit ∧ ∃ k, s.start.Ends k e t := by
  refine and_congr_right fun he => ⟨fun ⟨n, hn⟩ => ?_, fun ⟨k, hk⟩ => ⟨k + 1, ?_⟩⟩
  · have hends := (ends_turns n s.start).1
    rw [hn] at hends
    exact ⟨_, hends⟩
  · rw [loop_of_turns hk.turns]
    cases hk with
    | stopped _ hr => exact loop_not_running _ _ hr
    | fault _ hr hf =>
      have hstep : (s.start.after k).step = (.error _, s.start.after k) :=
        Prod.ext hf (step_snd_of_error hf)
      rw [loop_succ_running _ _ hr, hstep]
    | limit => exact absurd rfl he

end System

end ByteMachine
