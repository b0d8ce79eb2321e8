import ByteMachine.Proofs.Steps

/-!
# Machines on different devices

A machine learns nothing from its device but the answers to its prints. So two devices that answer
alike, whatever they do besides, make steps and runs go the same way.

* `System.Alike R` says that devices which stand in the relation `R` answer alike and keep standing
  in it, and `System.Related R` that two systems have the same machine and related devices.
* `System.Mirrors φ` is the case in which one device is the other seen through a map.

Results:
* `Alike.step`, `Alike.after`, `Alike.loop`: steps and runs keep systems related.
* `Alike.turns`, `Alike.ends`: related systems make the same number of turns, to the same end.
* `Mirrors.loop`: a run on a device seen through a map.
* `runWith_eq_run`: a watched run goes the way of the run without the watcher.
-/

namespace ByteMachine.System

variable {δ ε η : Type} [Device δ] [Device ε]

/-! ## Related devices -/

/-- Devices that stand in a relation answer alike, and keep standing in it. -/
structure Alike (R : δ → ε → Prop) : Prop where
  print : ∀ m v d e, R d e → (Device.print m v d).1 = (Device.print m v e).1 ∧
    R (Device.print m v d).2 (Device.print m v e).2
  halt : ∀ m d e, R d e → R (Device.halt m d) (Device.halt m e)

/-- The same machine on related devices. -/
structure Related (R : δ → ε → Prop) (s : System δ) (t : System ε) : Prop where
  machine : s.machine = t.machine
  device : R s.device t.device

variable {R : δ → ε → Prop} {s : System δ} {t : System ε}

omit [Device δ] [Device ε] in
theorem Related.start (h : Related R s t) : Related R s.start t.start :=
  ⟨congrArg Machine.start h.machine, h.device⟩

omit [Device δ] [Device ε] in
theorem Related.stop (h : Related R s t) : Related R s.stop t.stop :=
  ⟨congrArg Machine.stop h.machine, h.device⟩

theorem Alike.flip (h : Alike R) : Alike fun e d => R d e :=
  ⟨fun m v e d hde => ⟨(h.print m v d e hde).1.symm, (h.print m v d e hde).2⟩,
    fun m e d => h.halt m d e⟩

theorem Alike.perform (h : Alike R) (hst : Related R s t) (op : Opcode) (a b : UInt8) :
    Related R (s.perform op a b) (t.perform op a b) := by
  obtain ⟨hm, hd⟩ := hst
  by_cases hp : op = .prn
  · subst hp
    obtain ⟨hanswer, hnext⟩ := h.print t.machine (t.machine.reg a) _ _ hd
    simp only [System.perform, hm, hanswer]
    exact ⟨rfl, hnext⟩
  by_cases hh : op = .hlt
  · subst hh
    exact ⟨congrArg Machine.stop hm, by simpa only [System.perform, hm] using h.halt _ _ _ hd⟩
  · rw [perform_of_ne hp hh, perform_of_ne hp hh]
    exact ⟨congrArg (Machine.execute op a b) hm, hd⟩

/-- **A step goes the same way on related devices.** -/
theorem Alike.step (h : Alike R) (hst : Related R s t) :
    s.step.1 = t.step.1 ∧ Related R s.step.2 t.step.2 := by
  have hm := hst.machine
  cases ho : Opcode.ofByte? (s.machine.read s.machine.pc) with
  | none =>
    rw [step_of_none ho, step_of_none (hm ▸ ho), hm]
    exact ⟨rfl, hst⟩
  | some op =>
    rw [step_of_some ho, step_of_some (hm ▸ ho), ← hm]
    obtain ⟨hpm, hpd⟩ := h.perform hst op (s.machine.read (s.machine.pc + 1))
      (s.machine.read (s.machine.pc + 2))
    exact ⟨rfl, congrArg (Machine.advance op.byte) hpm, hpd⟩

/-- So do any number of steps. -/
theorem Alike.after (h : Alike R) (hst : Related R s t) (k : Nat) :
    Related R (s.after k) (t.after k) := by
  induction k with
  | zero => exact hst
  | succ k ih =>
    rw [after_succ, after_succ]
    exact (h.step ih).2

/-- **A run goes the same way on related devices**, whatever watches it. -/
theorem Alike.loop (h : Alike R) {before : Machine → δ → δ} {before' : Machine → ε → ε}
    (hb : ∀ m d e, R d e → R (before m d) (before' m e)) (n : Nat) (hst : Related R s t) :
    (System.loop before n s).1 = (System.loop before' n t).1 ∧
      Related R (System.loop before n s).2 (System.loop before' n t).2 := by
  have hrunning : s.machine.running = t.machine.running := congrArg Machine.running hst.machine
  induction n generalizing s t with
  | zero =>
    cases hr : t.machine.running with
    | false =>
      rw [loop_not_running _ 0 (hrunning.trans hr), loop_not_running _ 0 hr]
      exact ⟨rfl, hst⟩
    | true =>
      rw [loop_zero _ (hrunning.trans hr), loop_zero _ hr]
      exact ⟨rfl, hst⟩
  | succ n ih =>
    cases hr : t.machine.running with
    | false =>
      rw [loop_not_running _ _ (hrunning.trans hr), loop_not_running _ _ hr]
      exact ⟨rfl, hst⟩
    | true =>
      rw [loop_succ_running _ n (hrunning.trans hr), loop_succ_running _ n hr]
      have hwatched : Related R (⟨s.machine, before s.machine s.device⟩ : System δ)
          ⟨t.machine, before' t.machine t.device⟩ :=
        ⟨hst.machine, hst.machine ▸ hb _ _ _ hst.device⟩
      obtain ⟨hresult, hnext⟩ := h.step hwatched
      generalize System.step (⟨s.machine, before s.machine s.device⟩ : System δ) = r
        at hresult hnext ⊢
      generalize System.step (⟨t.machine, before' t.machine t.device⟩ : System ε) = r'
        at hresult hnext ⊢
      obtain ⟨result, u⟩ := r
      obtain ⟨result', u'⟩ := r'
      obtain rfl : result = result' := hresult
      cases result with
      | error f => exact ⟨rfl, hnext.stop⟩
      | ok _ => exact ih hnext (congrArg Machine.running hnext.machine)

theorem Alike.turns_iff (h : Alike R) (hst : Related R s t) {k : Nat} : s.Turns k ↔ t.Turns k := by
  unfold Turns
  refine forall_congr' fun j => imp_congr_right fun _ => ?_
  have hj := h.after hst j
  rw [hj.machine, (h.step hj).1]

/-- **Runs on related devices end after as many turns**, and alike. -/
theorem Alike.ends (h : Alike R) (hst : Related R s t) {k : Nat} {e : Ending} {u : System δ}
    (hs : s.Ends k e u) : ∃ v, t.Ends k e v ∧ Related R u v := by
  have hturns := (h.turns_iff hst).mp hs.turns
  have hk := h.after hst k
  have hrunning := congrArg Machine.running hk.machine
  cases hs with
  | stopped _ hr => exact ⟨t.after k, .stopped hturns (hrunning.symm.trans hr), hk⟩
  | fault _ hr hf =>
    exact ⟨(t.after k).stop,
      .fault hturns (hrunning.symm.trans hr) ((h.step hk).1.symm.trans hf), hk.stop⟩
  | limit _ hr => exact ⟨t.after k, .limit hturns (hrunning.symm.trans hr), hk⟩

/-- Runs on related devices make as many turns. -/
theorem Alike.turns (h : Alike R) (hst : Related R s t) (n : Nat) : turns n s = turns n t := by
  induction n generalizing s t with
  | zero => rfl
  | succ n ih =>
    obtain ⟨hresult, hnext⟩ := h.step hst
    rw [System.turns, System.turns, hst.machine]
    generalize s.step = r at hresult hnext ⊢
    generalize t.step = r' at hresult hnext ⊢
    obtain ⟨result, u⟩ := r
    obtain ⟨result', u'⟩ := r'
    obtain rfl : result = result' := hresult
    cases result with
    | error f => rfl
    | ok _ => simp only [ih hnext]

/-! ## Devices seen through a map -/

/-- A map of devices that gives and takes the same answers. -/
structure Mirrors (φ : δ → ε) : Prop where
  print : ∀ m v d, Device.print m v (φ d) = ((Device.print m v d).1, φ (Device.print m v d).2)
  halt : ∀ m d, Device.halt m (φ d) = φ (Device.halt m d)

/-- The same machine with the device seen through a map. -/
def map (φ : δ → ε) (s : System δ) : System ε := ⟨s.machine, φ s.device⟩

variable {φ : δ → ε}

theorem Mirrors.alike (h : Mirrors φ) : Alike fun d e => φ d = e where
  print m v d e hde := by
    subst hde
    rw [h.print]
    exact ⟨rfl, rfl⟩
  halt m d e hde := by
    subst hde
    exact (h.halt m d).symm

omit [Device δ] [Device ε] in
theorem related_map (φ : δ → ε) (s : System δ) : Related (fun d e => φ d = e) s (s.map φ) :=
  ⟨rfl, rfl⟩

omit [Device δ] [Device ε] in
theorem Related.map_eq (h : Related (fun d e => φ d = e) s t) : s.map φ = t :=
  System.ext h.machine h.device

/-- **A run goes the same way on a device that mirrors another**, whatever watches it. -/
theorem Mirrors.loop (h : Mirrors φ) {before : Machine → δ → δ} {before' : Machine → ε → ε}
    (hb : ∀ m d, before' m (φ d) = φ (before m d)) (n : Nat) (s : System δ) :
    System.loop before' n (s.map φ) =
      ((System.loop before n s).1, (System.loop before n s).2.map φ) := by
  have hwatch : ∀ m d e, φ d = e → φ (before m d) = before' m e := by
    rintro m d _ rfl
    exact (hb m d).symm
  obtain ⟨hending, hnext⟩ := h.alike.loop hwatch n (related_map φ s)
  exact Prod.ext hending.symm hnext.map_eq.symm

/-! ## Watched runs -/

theorem mirrors_watched : Mirrors (Watched.device : Watched δ η → δ) :=
  ⟨fun _ _ _ => rfl, fun _ _ => rfl⟩

/-- A step shows the watcher nothing. -/
theorem seen_step (s : System (Watched δ η)) : s.step.2.device.seen = s.device.seen := by
  cases ho : Opcode.ofByte? (s.machine.read s.machine.pc) with
  | none => rw [step_of_none ho]
  | some op =>
    rw [step_of_some ho]
    cases op <;> rfl

/-- **A watched run goes the way of the run without the watcher.** -/
theorem runWith_eq_run (watch : Machine → η → η) (n : Nat) (e : η) (s : System δ) :
    s.run n = ((s.runWith watch n e).1, (s.runWith watch n e).2.map Watched.device) :=
  mirrors_watched.loop (fun _ _ => rfl) n ⟨s.machine.start, ⟨s.device, e⟩⟩

end ByteMachine.System
