import ByteMachine.Monitor
import ByteMachine.Proofs.Calls

/-!
# Runs with a bound

A watched run sees the machine before every instruction it begins. So a run that counts the
instructions counts one more than its turns if the last of them fails, and its trace lines are those
of the machines that its turns lead through. From this, runs with a bound compose, and what a bound
cuts off is a part at the end.

* `Ending.begun k e`: how many instructions have begun when a run has come to `e` after `k` turns.
* `System.machines s k` lists the machines before the first `k` steps.
* `Tally.of keep ms` is the tally of a run that has seen the machines `ms`.
* `System.counted keep n s` is a run of at most `n` instructions: how it ends, where it leads, and
  its tally.

Results:
* `loop_eq_iff`: a run with a bound comes to the end that its bound allows.
* `seen_loop`: what a watcher has seen.
* `counted_eq_iff`: both together, for a run that counts.
* `counted_composes`: runs with a bound compose, and they agree with the run without one.
-/

namespace ByteMachine

/-! ## The instructions that a run begins -/

/-- How many instructions have begun when a run has come to an ending after `k` turns. An
instruction that fails has begun and is no turn. -/
def Ending.begun (k : Nat) : Ending → Nat
  | .fault _ => k + 1
  | _ => k

namespace Ending

theorem allows_iff {e : Ending} (he : e ≠ .limit) {n k : Nat} :
    e.Allows n k ↔ e.begun k ≤ n := by
  cases e with
  | stopped => rfl
  | fault => rfl
  | limit => exact absurd rfl he

/-- How many turns a bound leaves behind the end of a run. -/
theorem Allows.exists_add {e : Ending} {n k : Nat} (h : e.Allows n k) :
    ∃ j, n = k + j ∧ e.Allows j 0 := by
  cases e with
  | stopped =>
    obtain ⟨j, rfl⟩ := Nat.exists_eq_add_of_le h
    exact ⟨j, rfl, Nat.zero_le j⟩
  | fault =>
    obtain ⟨j, rfl⟩ := Nat.exists_eq_add_of_le (Nat.le_of_lt h)
    exact ⟨j, rfl, Nat.pos_of_lt_add_right h⟩
  | limit => exact ⟨0, h.symm, rfl⟩

theorem begun_add (m k : Nat) (e : Ending) : e.begun (m + k) = m + e.begun k := by
  cases e <;> rfl

theorem begun_succ (k : Nat) (e : Ending) : e.begun (k + 1) = e.begun k + 1 := by
  cases e <;> rfl

theorem Allows.add {e : Ending} {n k : Nat} (h : e.Allows n k) (m : Nat) :
    e.Allows (m + n) (m + k) := by
  cases e with
  | stopped => exact Nat.add_le_add_left h m
  | fault => exact Nat.add_lt_add_left h m
  | limit => exact congrArg (m + ·) h

end Ending

namespace System

variable {δ η : Type} [Device δ] {s t u : System δ} {e : Ending} {m n k : Nat}

/-! ## The end that a bound allows -/

omit [Device δ] in
theorem start_of_running (h : s.machine.running = true) : s.start = s := by
  obtain ⟨⟨memory, registers, pc, flags, running⟩, device⟩ := s
  obtain rfl : running = true := h
  rfl

theorem Turns.add (h : s.Turns m) (h' : (s.after m).Turns n) : s.Turns (m + n) :=
  forall_after_add (P := fun t => t.machine.running = true ∧ t.step.1 = .ok ()) h h'

/-- Turns in front of a run put off its end. -/
theorem Ends.add (h : s.Turns m) (h' : (s.after m).Ends k e t) : s.Ends (m + k) e t := by
  have hturns : s.Turns (m + k) := h.add h'.turns
  cases h' with
  | stopped _ hr => exact after_add s m k ▸ .stopped hturns (after_add s m k ▸ hr)
  | fault _ hr hf =>
    exact after_add s m k ▸ .fault hturns (after_add s m k ▸ hr) (after_add s m k ▸ hf)
  | limit _ hr => exact after_add s m k ▸ .limit hturns (after_add s m k ▸ hr)

theorem Ends.of_limit (h : s.Ends k .limit t) :
    (s.after k).machine.running = true ∧ t = s.after k := by
  cases h
  exact ⟨‹_›, rfl⟩

/-- The machine is running before each instruction that begins. -/
theorem Ends.running_of_lt_begun (h : s.Ends k e t) (hm : m < e.begun k) :
    (s.after m).machine.running = true := by
  rcases Nat.lt_or_ge m k with hlt | hge
  · exact (h.turns m hlt).1
  · cases h with
    | fault _ hr =>
      obtain rfl : k = m := Nat.le_antisymm hge (Nat.le_of_lt_succ hm)
      exact hr
    | stopped => exact absurd hm (Nat.not_lt_of_ge hge)
    | limit => exact absurd hm (Nat.not_lt_of_ge hge)

/-- **A smaller bound cuts a run off** before an instruction it would have begun. -/
theorem Ends.cut (h : s.Ends k e t) (hm : m < e.begun k) : s.Ends m .limit (s.after m) := by
  have hle : m ≤ k := by
    cases e with
    | fault => exact Nat.le_of_lt_succ hm
    | stopped => exact Nat.le_of_lt hm
    | limit => exact Nat.le_of_lt hm
  exact .limit (h.turns.of_le hle) (h.running_of_lt_begun hm)

theorem Ends.loop_eq (h : s.Ends k e t) (hn : e.Allows n k) :
    loop (fun _ d => d) n s = (e, t) := by
  obtain ⟨j, rfl, hj⟩ := hn.exists_add
  rw [loop_of_turns h.turns]
  cases h with
  | stopped _ hr => exact loop_not_running _ j hr
  | fault _ hr hf =>
    obtain ⟨i, rfl⟩ : ∃ i, j = i + 1 := Nat.exists_eq_succ_of_ne_zero (Nat.ne_of_gt hj)
    have hstep : (s.after k).step = (.error _, s.after k) := Prod.ext hf (step_snd_of_error hf)
    rw [loop_succ_running _ i hr, hstep]
  | limit _ hr =>
    obtain rfl : 0 = j := hj
    exact loop_zero _ hr

theorem Ends.turns_eq (h : s.Ends k e t) (hn : e.Allows n k) : System.turns n s = k := by
  obtain ⟨hends, hallows⟩ := ends_turns n s
  rw [h.loop_eq hn] at hends hallows
  cases he : e with
  | limit =>
    rw [he] at hn hallows
    exact hallows.trans hn.symm
  | stopped => exact (hends.unique h (he ▸ nofun) (he ▸ nofun)).1
  | fault => exact (hends.unique h (he ▸ nofun) (he ▸ nofun)).1

/-- **A run with a bound comes to the end that its bound allows.** -/
theorem loop_eq_iff :
    loop (fun _ d => d) n s = (e, t) ↔ ∃ k, s.Ends k e t ∧ e.Allows n k := by
  constructor
  · intro h
    have hends := ends_turns n s
    rw [h] at hends
    exact ⟨_, hends⟩
  · rintro ⟨k, hends, hallows⟩
    exact hends.loop_eq hallows

/-! ## What a watcher sees -/

/-- The machines before the first `k` steps, in order. -/
def machines (s : System δ) (k : Nat) : List Machine :=
  (List.range k).map fun j => (s.after j).machine

theorem machines_add (s : System δ) (m n : Nat) :
    s.machines (m + n) = s.machines m ++ (s.after m).machines n := by
  unfold machines
  rw [List.range_add, List.map_append, List.map_map]
  simp only [Function.comp_def, after_add]

@[simp] theorem length_machines (s : System δ) (k : Nat) : (s.machines k).length = k := by
  simp [machines]

theorem machines_succ' (s : System δ) (k : Nat) :
    s.machines (k + 1) = s.machine :: s.step.2.machines k := by
  rw [Nat.add_comm, machines_add]
  rfl

/-- **A watcher sees the machine before every instruction that begins**, and nothing else. -/
theorem seen_loop {w : System (Watched δ η)} (h : Related (fun d e => d.device = e) w s)
    (watch : Machine → η → η) (n : Nat) :
    (loop (fun m d => { d with seen := watch m d.seen }) n w).2.device.seen =
      (s.machines ((loop (fun _ d => d) n s).1.begun (turns n s))).foldl
        (fun x m => watch m x) w.device.seen := by
  induction n generalizing w s with
  | zero =>
    cases hr : s.machine.running with
    | false =>
      rw [loop_not_running _ 0 (h.machine ▸ hr), loop_not_running _ 0 hr]
      rfl
    | true =>
      rw [loop_zero _ (h.machine ▸ hr), loop_zero _ hr]
      rfl
  | succ n ih =>
    cases hr : s.machine.running with
    | false =>
      rw [loop_not_running _ _ (h.machine ▸ hr), loop_not_running _ _ hr, turns,
        if_neg (by simp [hr])]
      rfl
    | true =>
      have hshown : Related (fun d e => d.device = e)
          (⟨w.machine, ⟨w.device.device, watch w.machine w.device.seen⟩⟩ : System (Watched δ η))
          s := ⟨h.machine, h.device⟩
      obtain ⟨hresult, hnext⟩ := mirrors_watched.alike.step hshown
      have hseen : (System.step (⟨w.machine, ⟨w.device.device, watch w.machine w.device.seen⟩⟩ :
          System (Watched δ η))).2.device.seen = watch w.machine w.device.seen := seen_step _
      have hmachines := machines_succ' s
      rw [loop_succ_running _ n (h.machine ▸ hr), loop_succ_running _ n hr, turns, if_pos hr]
      generalize System.step (⟨w.machine, ⟨w.device.device, watch w.machine w.device.seen⟩⟩ :
        System (Watched δ η)) = r at hresult hnext hseen ⊢
      generalize s.step = r' at hresult hnext hmachines ⊢
      obtain ⟨result, x⟩ := r
      obtain ⟨result', y⟩ := r'
      obtain rfl : result = result' := hresult
      cases result with
      | error f =>
        rw [Ending.begun, hmachines]
        exact hseen.trans (congrArg (watch · _) h.machine)
      | ok _ =>
        rw [Ending.begun_succ, hmachines, List.foldl_cons, ← h.machine, ← hseen]
        exact ih hnext

/-- How a watched run ends, where it leads, and what its watcher has seen. -/
theorem runWith_eq_iff {watch : Machine → η → η} {x : η} {w : System (Watched δ η)} :
    s.runWith watch n x = (e, w) ↔ ∃ k, s.start.Ends k e (w.map Watched.device) ∧ e.Allows n k ∧
      w.device.seen = (s.start.machines (e.begun k)).foldl (fun x m => watch m x) x := by
  have hrun := runWith_eq_run watch n x s
  have hseen : (s.runWith watch n x).2.device.seen = _ :=
    seen_loop (w := ⟨s.machine.start, ⟨s.device, x⟩⟩) (s := s.start) ⟨rfl, rfl⟩ watch n
  constructor
  · intro h
    rw [h] at hrun hseen
    obtain ⟨k, hends, hallows⟩ := loop_eq_iff.mp hrun
    refine ⟨k, hends, hallows, ?_⟩
    rw [hseen, hends.turns_eq hallows, hends.loop_eq hallows]
  · rintro ⟨k, hends, hallows, hw⟩
    rw [hends.turns_eq hallows, hends.loop_eq hallows, ← hw] at hseen
    have hloop : s.run n = (e, w.map Watched.device) := hends.loop_eq hallows
    rw [hloop] at hrun
    obtain ⟨rfl, hmap⟩ := Prod.mk.inj hrun
    generalize s.runWith watch n x = r at hmap hseen ⊢
    obtain ⟨e, ⟨machine, ⟨device, seen⟩⟩⟩ := r
    obtain ⟨machine', ⟨device', seen'⟩⟩ := w
    obtain ⟨rfl, rfl⟩ := System.mk.inj hmap
    obtain rfl : seen = seen' := hseen
    rfl

/-- The same for the parts of the result. -/
theorem runWith_parts_eq_iff {watch : Machine → η → η} {x y : η} :
    ((s.runWith watch n x).1, (s.runWith watch n x).2.map Watched.device,
        (s.runWith watch n x).2.device.seen) = (e, t, y) ↔
      ∃ k, s.start.Ends k e t ∧ e.Allows n k ∧
        y = (s.start.machines (e.begun k)).foldl (fun x m => watch m x) x := by
  have hparts : ((s.runWith watch n x).1, (s.runWith watch n x).2.map Watched.device,
      (s.runWith watch n x).2.device.seen) = (e, t, y) ↔
      s.runWith watch n x = (e, ⟨t.machine, ⟨t.device, y⟩⟩) := by
    generalize s.runWith watch n x = r
    obtain ⟨e', ⟨machine, ⟨device, seen⟩⟩⟩ := r
    obtain ⟨machine', device'⟩ := t
    simp [System.map, and_assoc]
  rw [hparts, runWith_eq_iff]
  rfl

end System

/-! ## Runs that count -/

namespace Monitor.Tally

/-- Two tallies one after the other. -/
def join (t u : Tally) : Tally := ⟨t.count + u.count, t.traces ++ u.traces⟩

/-- The tally of a run that has seen these machines. -/
def of (keep : Bool) (ms : List Machine) : Tally where
  count := ms.length
  traces := if keep then (ms.map Machine.trace).toArray else #[]

theorem of_append (keep : Bool) (ms ms' : List Machine) :
    of keep (ms ++ ms') = (of keep ms).join (of keep ms') := by
  cases keep <;> simp [of, join]

theorem note_of (keep : Bool) (m : Machine) (ms : List Machine) :
    note keep m (of keep ms) = of keep (ms ++ [m]) := by
  cases keep <;> simp [of, note]

theorem foldl_note (keep : Bool) (ms : List Machine) :
    ms.foldl (fun t m => note keep m t) ⟨0, #[]⟩ = of keep ms := by
  have hfrom : ∀ before, ms.foldl (fun t m => note keep m t) (of keep before) =
      of keep (before ++ ms) := by
    induction ms with
    | nil => simp
    | cons m ms ih =>
      intro before
      rw [List.foldl_cons, note_of, ih, List.append_assoc, List.singleton_append]
  have hnone : of keep [] = ⟨0, #[]⟩ := by cases keep <;> rfl
  simpa [hnone] using hfrom []

/-- The tally of the machines in front. -/
theorem of_take (keep : Bool) (ms : List Machine) {n : Nat} (hn : n ≤ ms.length) :
    of keep (ms.take n) = ⟨n, (of keep ms).traces.extract 0 n⟩ := by
  cases keep <;> simp [of, hn]

end Monitor.Tally

namespace System

open Monitor (Tally)

variable {δ η : Type} [Device δ] {s t u : System δ} {e : Ending} {m n k : Nat}

/-- Runs the machine for at most `n` instructions, counts them, and keeps their trace lines if
`keep`: how the run ends, where it leads, and the tally. -/
def counted (keep : Bool) (n : Nat) (s : System δ) : Ending × System δ × Tally :=
  let r := s.runWith (Tally.note keep) n ⟨0, #[]⟩
  (r.1, r.2.map Watched.device, r.2.device.seen)

theorem counted_eq_iff {keep : Bool} {tally : Tally} :
    s.counted keep n = (e, t, tally) ↔
      ∃ k, s.start.Ends k e t ∧ e.Allows n k ∧
        tally = .of keep (s.start.machines (e.begun k)) := by
  unfold counted
  rw [runWith_parts_eq_iff]
  simp only [Tally.foldl_note]

/-! ## Bounds -/

variable {keep : Bool} {tally : Tally}

/-- A run that has used up its bound has begun that many instructions, and its machine is about to
execute the next one. -/
theorem of_counted_limit (h : s.counted keep n = (.limit, t, tally)) :
    s.start.Turns n ∧ t = s.start.after n ∧ t.machine.running = true ∧
      tally = .of keep (s.start.machines n) := by
  obtain ⟨k, hends, hk, rfl⟩ := counted_eq_iff.mp h
  obtain rfl : k = n := hk
  obtain ⟨hr, rfl⟩ := hends.of_limit
  exact ⟨hends.turns, rfl, hr, rfl⟩

/-- **A run that has used up its bound goes on** with the next one. -/
theorem counted_add {v : System δ} {tally' : Tally} (h : s.counted keep m = (.limit, u, tally))
    (h' : u.counted keep k = (e, v, tally')) :
    s.counted keep (m + k) = (e, v, tally.join tally') := by
  obtain ⟨hturns, rfl, hr, rfl⟩ := of_counted_limit h
  obtain ⟨j, hends, hj, rfl⟩ := counted_eq_iff.mp h'
  rw [start_of_running hr] at hends ⊢
  refine counted_eq_iff.mpr ⟨m + j, .add hturns hends, hj.add m, ?_⟩
  rw [Ending.begun_add, machines_add, Tally.of_append]

/-- **A run that has come to its end does so under every bound it keeps to.** -/
theorem counted_of_le (h : s.counted keep n = (e, t, tally)) (he : e ≠ .limit)
    (hm : tally.count ≤ m) : s.counted keep m = (e, t, tally) := by
  obtain ⟨k, hends, -, rfl⟩ := counted_eq_iff.mp h
  exact counted_eq_iff.mpr
    ⟨k, hends, (Ending.allows_iff he).mpr (by simpa [Tally.of] using hm), rfl⟩

/-- **A smaller bound cuts off a part at the end.** -/
theorem counted_of_lt (h : s.counted keep n = (e, t, tally)) (hm : m < tally.count) :
    s.counted keep m = (.limit, s.start.after m, ⟨m, tally.traces.extract 0 m⟩) := by
  obtain ⟨k, hends, -, rfl⟩ := counted_eq_iff.mp h
  have hbegun : m < e.begun k := by simpa [Tally.of] using hm
  refine counted_eq_iff.mpr ⟨m, hends.cut hbegun, rfl, ?_⟩
  obtain ⟨j, hj⟩ := Nat.exists_eq_add_of_le (Nat.le_of_lt hbegun)
  have htake : (s.start.machines (e.begun k)).take m = s.start.machines m := by
    rw [hj, machines_add, List.take_append_of_le_length (by simp), List.take_of_length_le (by simp)]
  rw [← Tally.of_take keep _ (by simpa using Nat.le_of_lt hbegun), htake]
  rfl

/-- **Runs with a bound compose.** A run that has used up its bound has begun that many
instructions, its machine still runs, and a second run goes on from there to where one run with both
bounds leads; the counts add up, and the trace lines follow on each other.

A run that comes to its end does so under every bound that is not below the number of instructions
it has begun, so also when the last of them is the last that the bound allows. A bound below cuts
the run off, and what it has noted by then is the beginning of all it would note. Whatever watches
it, a run that is not cut off goes the way of the run that nobody watches. -/
theorem counted_composes (keep : Bool) (s : System δ) :
    (∀ m u tally, s.counted keep m = (.limit, u, tally) →
      u = s.start.after m ∧ u.machine.running = true ∧ tally.count = m ∧
        ∀ k e v tally', u.counted keep k = (e, v, tally') →
          s.counted keep (m + k) = (e, v, tally.join tally')) ∧
    (∀ m e t tally, s.counted keep m = (e, t, tally) → e ≠ .limit →
      (∀ n, tally.count ≤ n → s.counted keep n = (e, t, tally)) ∧
      ∀ n < tally.count,
        s.counted keep n = (.limit, s.start.after n, ⟨n, tally.traces.extract 0 n⟩) ∧
          (keep = true → (tally.traces.extract 0 n).size = n)) ∧
    ∀ (η : Type) (watch : Machine → η → η) (x : η) n e w, s.runWith watch n x = (e, w) →
      e ≠ .limit → ∀ e' t, s.RunsTo (fun _ d => d) e' t ↔ e' = e ∧ t = w.map Watched.device := by
  refine ⟨fun m u tally h => ?_, fun m e t tally h he => ?_, fun η watch x n e w h he e' t => ?_⟩
  · obtain ⟨-, hu, hr, rfl⟩ := of_counted_limit h
    exact ⟨hu, hr, by simp [Tally.of], fun k e v tally' h' => counted_add h h'⟩
  · refine ⟨fun n hn => counted_of_le h he hn, fun n hn => ⟨counted_of_lt h hn, ?_⟩⟩
    rintro rfl
    obtain ⟨k, -, -, rfl⟩ := counted_eq_iff.mp h
    have hbegun : n < e.begun k := by simpa [Tally.of] using hn
    simp [Tally.of, Nat.le_of_lt hbegun]
  · obtain ⟨k, hends, -, -⟩ := runWith_eq_iff.mp h
    rw [runsTo_iff_ends]
    constructor
    · rintro ⟨he', k', hends'⟩
      exact (hends'.unique hends he' he).2
    · rintro ⟨rfl, rfl⟩
      exact ⟨he, k, hends⟩

/-- Two instructions and then one more are three, and the third one stops the machine: so a bound of
three is enough, and a bound of one cuts the run off. -/
theorem counted_composes_twoPrints :
    ∃ u v tally tally', twoPrints.counted true 2 = (.limit, u, tally) ∧
      twoPrints.counted true 3 = (.stopped, v, tally.join tally') ∧
      twoPrints.counted true 4 = (.stopped, v, tally.join tally') ∧
      (twoPrints.counted true 1).1 = .limit ∧ twoPrints.RunsTo (fun _ d => d) .stopped v := by
  let first := twoPrints.counted true 2
  let second := first.2.1.counted true 1
  obtain ⟨hlimit, hend, hwatched⟩ := counted_composes true twoPrints
  have hfirst : twoPrints.counted true 2 = (.limit, first.2) :=
    Prod.ext (by decide +kernel) rfl
  have hsecond : first.2.1.counted true 1 = (.stopped, second.2) :=
    Prod.ext (by decide +kernel) rfl
  obtain ⟨-, -, -, hgoes⟩ := hlimit 2 _ _ hfirst
  have hall : twoPrints.counted true 3 = (.stopped, second.2.1, first.2.2.join second.2.2) :=
    hgoes 1 _ _ _ hsecond
  have hcount : (first.2.2.join second.2.2).count = 3 := by decide +kernel
  obtain ⟨hlarger, hsmaller⟩ := hend 3 _ _ _ hall nofun
  refine ⟨_, _, _, _, hfirst, hall, hlarger 4 (by rw [hcount]; decide), ?_, ?_⟩
  · rw [(hsmaller 1 (by rw [hcount]; decide)).1]
  · have hseen : twoPrints.runWith (Tally.note true) 3 ⟨0, #[]⟩ =
        (.stopped, (twoPrints.runWith (Tally.note true) 3 ⟨0, #[]⟩).2) :=
      Prod.ext (by decide +kernel) rfl
    exact (hwatched _ _ _ _ _ _ hseen nofun _ _).mpr ⟨rfl, (congrArg (·.2.1) hall).symm⟩

end System

end ByteMachine
