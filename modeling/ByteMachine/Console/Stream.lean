import ByteMachine.Console.Sink

/-!
# Bounded streams

A sink that keeps what it takes, up to a limit. A write takes what still fits, and no more than
one chunk; with no room left it answers as the stream is set up to.

## Results

* `offer_of_full`, `offer_of_room`: a write to a stream without room, and one to a stream with room.
-/

namespace ByteMachine

/-- How a stream answers a write that it has no room for. -/
inductive Refusal
  /-- The write fails. -/
  | fails (e : SinkError)
  /-- The write succeeds, but takes nothing. -/
  | takesNothing
deriving DecidableEq

/-- A stream in memory. -/
structure Stream where
  /-- All bytes taken so far. -/
  received : Array UInt8
  /-- How many bytes the stream holds; with no limit it holds any number. -/
  limit : Option Nat
  /-- How a write is answered when there is no room. -/
  refusal : Refusal
  /-- How many bytes one write takes at most. -/
  chunk : Option Nat
  /-- How a flush fails, if it does. -/
  flushError : Option SinkError

namespace Stream

/-- An empty stream that takes everything. -/
def unbounded : Stream where
  received := #[]
  limit := none
  refusal := .fails .brokenPipe
  chunk := none
  flushError := none

/-- A stream every write to which fails with `e`. -/
def failing (e : SinkError) : Stream := { unbounded with limit := some 0, refusal := .fails e }

/-- The lesser of a number and a bound, if there is one. -/
def capped (n : Nat) : Option Nat → Nat
  | none => n
  | some m => min n m

/-- How many of `n` offered bytes there is room for. -/
def room (s : Stream) (n : Nat) : Nat := capped n (s.limit.map (· - s.received.size))

/-- Offers bytes to the stream. -/
def offer (bs : List UInt8) (s : Stream) : Except SinkError Nat × Stream :=
  if 0 < bs.length ∧ s.room bs.length = 0 then
    match s.refusal with
    | .fails e => (.error e, s)
    | .takesNothing => (.ok 0, s)
  else
    let n := capped (s.room bs.length) s.chunk
    (.ok n, { s with received := s.received ++ (bs.take n).toArray })

theorem offer_of_full {bs : List UInt8} {s : Stream} (hb : 0 < bs.length)
    (hr : s.room bs.length = 0) :
    s.offer bs = match s.refusal with
      | .fails e => (.error e, s)
      | .takesNothing => (.ok 0, s) :=
  if_pos ⟨hb, hr⟩

theorem offer_of_room {bs : List UInt8} {s : Stream} (hr : s.room bs.length ≠ 0) :
    s.offer bs = (.ok (capped (s.room bs.length) s.chunk),
      { s with
        received := s.received ++ (bs.take (capped (s.room bs.length) s.chunk)).toArray }) :=
  if_neg fun h => hr h.2

theorem capped_le (n : Nat) (m : Option Nat) : capped n m ≤ n := by
  cases m with
  | none => exact Nat.le_refl n
  | some m => exact Nat.min_le_left n m

instance : Sink Stream where
  write := offer
  flush s :=
    match s.flushError with
    | none => (.ok (), s)
    | some e => (.error e, s)

end Stream

/-- A change to how a stream behaves; only the given settings change. -/
structure StreamChange where
  limit : Option (Option Nat)
  refusal : Option Refusal
  chunk : Option (Option Nat)
  flushError : Option (Option SinkError)

/-- Changes the settings of a stream and keeps what it has received. -/
def Stream.change (c : StreamChange) (s : Stream) : Stream where
  received := s.received
  limit := c.limit.getD s.limit
  refusal := c.refusal.getD s.refusal
  chunk := c.chunk.getD s.chunk
  flushError := c.flushError.getD s.flushError

end ByteMachine
