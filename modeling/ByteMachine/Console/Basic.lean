import ByteMachine.Console.Sink
import ByteMachine.Device.Basic
import ByteMachine.Text.Utf8

/-!
# Consoles

A console is a device that writes a line to a sink for every byte printed, and a farewell line when
the machine halts. The first write that fails is remembered as the pending error. While an error
is pending, the console takes nothing and leaves its sink alone; a halt then still asks for the
exit. `Console.writeLine` is `write_line`, and the calls of the device are `print` and `halt`.

`Console.check`, the operation `check`, reports what happened: the pending error if there is one,
which is thereby done with; else a flush that fails; else the exit, if one was asked for.

## Results

* `writeLine_of_pending`, `writeLine_of_ok`, `writeLine_of_error`, `writeLine_cases`: how a line can
  fare.
* `writeLine_fst_iff`: a line is taken exactly if no error is pending behind it.
* `check_of_pending`, `check_of_flush_error`, `check_of_flushed`, `check_cases`: how a check can
  turn out.
* `check_eq_exit_iff`, `check_eq_proceed_iff`: when it ends the process, and when it goes on.
-/

namespace ByteMachine

/-- A console over a sink with state `σ`. -/
structure Console (σ : Type) where
  sink : σ
  /-- The exit status that a halt asked for. -/
  exitCode : Option UInt8
  /-- The error of the last failed write, until a check reports it. -/
  pending : Option SinkError

/-- What a check of a console comes to. -/
inductive Verdict
  /-- Nothing failed and nobody asked for an exit. -/
  | proceed
  /-- A write or the flush failed. -/
  | failed (e : SinkError)
  /-- The process is to end with this status. -/
  | exit (code : UInt8)
deriving DecidableEq

namespace Console

variable {σ : Type}

/-- The line that is written when the machine halts. -/
def farewell : String := "Shutting Down... Goodbye"

/-- The bytes of a line, its line feed included. -/
def lineBytes (line : String) : List UInt8 := Text.Utf8.encode (line ++ "\n")

theorem length_lineBytes_pos (line : String) : 0 < (lineBytes line).length := by
  rw [lineBytes, Text.Utf8.length_encode, String.utf8ByteSize_append]
  exact Nat.lt_add_left _ (by decide)

/-- The line that is written for a printed byte. -/
def decimal (v : UInt8) : String := toString v.toNat

/-- A console over a sink, with nothing pending and no exit asked for. -/
def fresh (s : σ) : Console σ := ⟨s, none, none⟩

variable [Sink σ]

/-- Writes a line; the answer says whether all of it has been taken. -/
def writeLine (line : String) (c : Console σ) : Bool × Console σ :=
  match c.pending with
  | some _ => (false, c)
  | none =>
    match Sink.writeAll (lineBytes line) c.sink with
    | (.ok (), sink) => (true, { c with sink })
    | (.error e, sink) => (false, { c with sink, pending := some e })

instance : Device (Console σ) where
  print _ v c := c.writeLine (decimal v)
  halt _ c := { (c.writeLine farewell).2 with exitCode := some 0 }

/-- Reports the pending error, or else flushes the sink, or else asks for the exit. -/
def check (c : Console σ) : Verdict × Console σ :=
  match c.pending with
  | some e => (.failed e, { c with pending := none })
  | none =>
    match Sink.flush c.sink with
    | (.error e, sink) => (.failed e, { c with sink })
    | (.ok (), sink) =>
      match c.exitCode with
      | some code => (.exit code, { c with sink })
      | none => (.proceed, { c with sink })

/-! ## Lines -/

theorem writeLine_of_pending {c : Console σ} {e : SinkError} (h : c.pending = some e)
    (line : String) : c.writeLine line = (false, c) := by
  simp only [writeLine, h]

theorem writeLine_of_ok {c : Console σ} {line : String} {t : σ} (h : c.pending = none)
    (hw : Sink.writeAll (lineBytes line) c.sink = (.ok (), t)) :
    c.writeLine line = (true, { c with sink := t }) := by
  simp only [writeLine, h, hw]

theorem writeLine_of_error {c : Console σ} {line : String} {t : σ} {e : SinkError}
    (h : c.pending = none) (hw : Sink.writeAll (lineBytes line) c.sink = (.error e, t)) :
    c.writeLine line = (false, { c with sink := t, pending := some e }) := by
  simp only [writeLine, h, hw]

/-- The ways a line can fare. -/
theorem writeLine_cases (line : String) (c : Console σ) :
    (∃ e, c.pending = some e ∧ c.writeLine line = (false, c)) ∨
    (∃ t, c.pending = none ∧ Sink.writeAll (lineBytes line) c.sink = (.ok (), t) ∧
      c.writeLine line = (true, { c with sink := t })) ∨
    ∃ e t, c.pending = none ∧ Sink.writeAll (lineBytes line) c.sink = (.error e, t) ∧
      c.writeLine line = (false, { c with sink := t, pending := some e }) := by
  rcases Option.eq_none_or_eq_some c.pending with hp | ⟨e, hp⟩
  · obtain ⟨⟨answer, t⟩, hwrite⟩ : ∃ r, Sink.writeAll (lineBytes line) c.sink = r := ⟨_, rfl⟩
    cases answer with
    | ok _ => exact .inr (.inl ⟨t, hp, hwrite, writeLine_of_ok hp hwrite⟩)
    | error e => exact .inr (.inr ⟨e, t, hp, hwrite, writeLine_of_error hp hwrite⟩)
  · exact .inl ⟨e, hp, writeLine_of_pending hp line⟩

/-- A line is taken exactly if no error is pending behind it. -/
theorem writeLine_fst_iff (line : String) (c : Console σ) :
    (c.writeLine line).1 = true ↔ (c.writeLine line).2.pending = none := by
  rcases writeLine_cases line c with ⟨e, hp, hline⟩ | ⟨t, hp, -, hline⟩ | ⟨e, t, -, -, hline⟩
  · simp [hline, hp]
  · simp [hline, hp]
  · simp [hline]

theorem exitCode_writeLine (line : String) (c : Console σ) :
    (c.writeLine line).2.exitCode = c.exitCode := by
  rcases writeLine_cases line c with ⟨e, -, hline⟩ | ⟨t, -, -, hline⟩ | ⟨e, t, -, -, hline⟩
  all_goals rw [hline]

/-! ## Checks -/

theorem check_of_pending {c : Console σ} {e : SinkError} (h : c.pending = some e) :
    c.check = (.failed e, { c with pending := none }) := by
  simp only [check, h]

theorem check_of_flush_error {c : Console σ} {e : SinkError} {t : σ} (h : c.pending = none)
    (hf : Sink.flush c.sink = (.error e, t)) : c.check = (.failed e, { c with sink := t }) := by
  simp only [check, h, hf]

theorem check_of_flushed {c : Console σ} {t : σ} (h : c.pending = none)
    (hf : Sink.flush c.sink = (.ok (), t)) :
    c.check = ((c.exitCode.elim .proceed .exit), { c with sink := t }) := by
  simp only [check, h, hf]
  cases c.exitCode <;> rfl

/-- The ways a check can turn out. -/
theorem check_cases (c : Console σ) :
    (∃ e, c.pending = some e ∧ c.check = (.failed e, { c with pending := none })) ∨
    (∃ e t, c.pending = none ∧ Sink.flush c.sink = (.error e, t) ∧
      c.check = (.failed e, { c with sink := t })) ∨
    ∃ t, c.pending = none ∧ Sink.flush c.sink = (.ok (), t) ∧
      c.check = (c.exitCode.elim .proceed .exit, { c with sink := t }) := by
  rcases Option.eq_none_or_eq_some c.pending with hp | ⟨e, hp⟩
  · obtain ⟨⟨answer, t⟩, hflush⟩ : ∃ r, Sink.flush c.sink = r := ⟨_, rfl⟩
    cases answer with
    | error e => exact .inr (.inl ⟨e, t, hp, hflush, check_of_flush_error hp hflush⟩)
    | ok _ => exact .inr (.inr ⟨t, hp, hflush, check_of_flushed hp hflush⟩)
  · exact .inl ⟨e, hp, check_of_pending hp⟩

theorem check_snd_of_clean {c : Console σ} (h : c.pending = none) :
    c.check.2 = { c with sink := (Sink.flush c.sink).2 } := by
  rcases check_cases c with ⟨e, hp, -⟩ | ⟨e, t, -, hflush, hcheck⟩ | ⟨t, -, hflush, hcheck⟩
  · rw [h] at hp
    cases hp
  · rw [hcheck, hflush]
  · rw [hcheck, hflush]

/-- A check ends the process exactly if nothing is pending, the flush succeeds, and an exit was
asked for. -/
theorem check_eq_exit_iff (c : Console σ) (code : UInt8) :
    c.check.1 = .exit code ↔
      c.pending = none ∧ (Sink.flush c.sink).1 = .ok () ∧ c.exitCode = some code := by
  rcases check_cases c with ⟨e, hp, hcheck⟩ | ⟨e, t, hp, hflush, hcheck⟩ | ⟨t, hp, hflush, hcheck⟩
  · simp [hcheck, hp]
  · simp [hcheck, hflush]
  · rw [hcheck, hflush, hp]
    cases c.exitCode <;> simp

/-- A check finds nothing to do exactly if nothing is pending, the flush succeeds, and no exit was
asked for. -/
theorem check_eq_proceed_iff (c : Console σ) :
    c.check.1 = .proceed ↔
      c.pending = none ∧ (Sink.flush c.sink).1 = .ok () ∧ c.exitCode = none := by
  rcases check_cases c with ⟨e, hp, hcheck⟩ | ⟨e, t, hp, hflush, hcheck⟩ | ⟨t, hp, hflush, hcheck⟩
  · simp [hcheck, hp]
  · simp [hcheck, hflush]
  · rw [hcheck, hflush, hp]
    cases c.exitCode <;> simp

end Console

end ByteMachine
