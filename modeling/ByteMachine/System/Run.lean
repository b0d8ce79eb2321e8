import ByteMachine.System.Step

/-!
# Runs

A run executes instructions as long as the machine is running. Before each instruction a watcher
may look at the machine. A bound on the number of instructions makes the run total: a machine that
still runs when the bound is used up is left as it is, and the run ends with `Ending.limit`.

* `System.loop` goes on from where the machine is; `before` acts on what is attached to the machine.
* `System.run`, the operation `run`, begins a run and watches nothing.
* `System.runWith`, the operation `run_with`, begins a run and lets a watcher collect something from
  every machine it sees.
* `System.RunsTo` says how an unbounded run ends.

## Results

* `loop_zero`, `loop_succ_running`, `loop_not_running`: one turn of the loop.
-/

namespace ByteMachine

/-- How a bounded run ends. -/
inductive Ending
  /-- The machine stopped: it halted, or the device refused a byte. -/
  | stopped
  /-- The machine could not go on. -/
  | fault (f : Fault)
  /-- The machine still runs, and the bound is used up. -/
  | limit
deriving DecidableEq

/-- A device together with what a watcher has collected. -/
structure Watched (δ η : Type) where
  device : δ
  seen : η

instance {δ η : Type} [Device δ] : Device (Watched δ η) where
  print m v d :=
    let (accepted, device) := Device.print m v d.device
    (accepted, { d with device })
  halt m d := { d with device := Device.halt m d.device }

namespace System

variable {δ η : Type} [Device δ]

/-- Executes instructions while the machine runs, at most `n` of them. -/
def loop (before : Machine → δ → δ) : Nat → System δ → Ending × System δ
  | n, s =>
    if s.machine.running then
      match n with
      | 0 => (.limit, s)
      | n + 1 =>
        let s := { s with device := before s.machine s.device }
        match s.step with
        | (.error f, s) => (.fault f, s.stop)
        | (.ok (), s) => loop before n s
    else (.stopped, s)

/-- Runs the machine for at most `n` instructions. -/
def run (n : Nat) (s : System δ) : Ending × System δ := loop (fun _ d => d) n s.start

/-- Runs the machine for at most `n` instructions; `watch` sees the machine before each of them. -/
def runWith (watch : Machine → η → η) (n : Nat) (seen : η) (s : System δ) :
    Ending × System (Watched δ η) :=
  loop (fun m d => { d with seen := watch m d.seen }) n ⟨s.machine.start, ⟨s.device, seen⟩⟩

/-- The unbounded run from `s` comes to its end, in `ending` and `t`. -/
def RunsTo (before : Machine → δ → δ) (s : System δ) (ending : Ending) (t : System δ) : Prop :=
  ending ≠ .limit ∧ ∃ n, loop before n s.start = (ending, t)

/-! ## One turn of the loop -/

theorem loop_not_running (before : Machine → δ → δ) (n : Nat) {s : System δ}
    (h : s.machine.running = false) : loop before n s = (.stopped, s) := by
  unfold loop
  simp [h]

theorem loop_zero (before : Machine → δ → δ) {s : System δ} (h : s.machine.running = true) :
    loop before 0 s = (.limit, s) := by
  unfold loop
  simp [h]

theorem loop_succ_running (before : Machine → δ → δ) (n : Nat) {s : System δ}
    (h : s.machine.running = true) :
    loop before (n + 1) s =
      match System.step { s with device := before s.machine s.device } with
      | (.error f, t) => (.fault f, t.stop)
      | (.ok (), t) => loop before n t := by
  rw [loop.eq_def]
  simp [h]

end System

end ByteMachine
