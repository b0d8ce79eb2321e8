import ByteMachine.SystemError

/-!
# Byte sinks

A sink takes bytes. One write may take only some of the bytes it is offered, so `writeAll` goes on
until all are taken or a write fails; a write that takes nothing counts as failed. That is what is
documented of `write_all`.

## Results

* `writeAll_nil`, `writeAll_of_error`, `writeAll_of_zero`, `writeAll_of_pos`: one turn of
  `writeAll`.
-/

namespace ByteMachine

/-- Why a sink did not take a byte. -/
inductive SinkError
  /-- Nobody reads the other end. -/
  | brokenPipe
  /-- The storage behind the sink is full. -/
  | storageFull
  /-- A write took nothing of what was left. -/
  | writeZero
  /-- The sink did not answer in time. -/
  | timedOut
  /-- The system refused the write. -/
  | system (e : SystemError)
deriving DecidableEq

/-- The error in words. -/
def SinkError.message : SinkError → String
  | brokenPipe => "broken pipe"
  | storageFull => "no storage space"
  | writeZero => "failed to write whole buffer"
  | timedOut => "timed out"
  | system e => e.message

/-- What takes bytes; `σ` is the sink's own state. -/
class Sink (σ : Type) where
  /-- Offers some bytes; the answer says how many of them have been taken. -/
  write : List UInt8 → σ → Except SinkError Nat × σ
  /-- Makes sure that the bytes taken so far have arrived. -/
  flush : σ → Except SinkError Unit × σ

namespace Sink

variable {σ : Type} [Sink σ]

/-- Offers bytes until all are taken or a write fails. -/
def writeAll (bs : List UInt8) (s : σ) : Except SinkError Unit × σ :=
  match bs with
  | [] => (.ok (), s)
  | b :: bs =>
    match write (b :: bs) s with
    | (.error e, s) => (.error e, s)
    | (.ok 0, s) => (.error .writeZero, s)
    | (.ok (n + 1), s) => writeAll (bs.drop n) s
termination_by bs.length
decreasing_by
  simp only [List.length_drop, List.length_cons]
  omega

@[simp] theorem writeAll_nil (s : σ) : writeAll [] s = (.ok (), s) := by
  rw [writeAll]

theorem writeAll_of_error {b : UInt8} {bs : List UInt8} {s t : σ} {e : SinkError}
    (h : write (b :: bs) s = (.error e, t)) : writeAll (b :: bs) s = (.error e, t) := by
  rw [writeAll]
  simp only [h]

theorem writeAll_of_zero {b : UInt8} {bs : List UInt8} {s t : σ}
    (h : write (b :: bs) s = (.ok 0, t)) : writeAll (b :: bs) s = (.error .writeZero, t) := by
  rw [writeAll]
  simp only [h]

theorem writeAll_of_pos {b : UInt8} {bs : List UInt8} {s t : σ} {n : Nat}
    (h : write (b :: bs) s = (.ok (n + 1), t)) :
    writeAll (b :: bs) s = writeAll (bs.drop n) t := by
  rw [writeAll]
  simp only [h]

end Sink

end ByteMachine
