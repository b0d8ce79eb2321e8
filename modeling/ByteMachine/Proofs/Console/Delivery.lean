import ByteMachine.Console.Basic
import ByteMachine.Console.Stream

/-!
# Delivery to a stream

What a stream keeps of the bytes that are written to it until all are taken or a write fails. It is
always a front part of them, and it is all of them exactly if the write succeeds.

Results:
* `offer_cases`, `offer_eq_put`: what a single write takes.
* `writeAll_eq`: a stream whose writes take something as long as there is room is filled up to its
  limit, whatever the size of its chunks.
* `writeAll_cases`: how writing all can end on any stream.
-/

namespace ByteMachine

/-- The error that a write of several bytes ends with when the stream refuses. -/
def Refusal.error : Refusal → SinkError
  | fails e => e
  | takesNothing => .writeZero

namespace Stream

/-- The stream with some more bytes in it. -/
def put (bs : List UInt8) (s : Stream) : Stream := { s with received := s.received ++ bs.toArray }

variable {s : Stream}

@[simp] theorem put_nil (s : Stream) : s.put [] = s := by
  simp [put]

theorem put_append (bs cs : List UInt8) (s : Stream) : s.put (bs ++ cs) = (s.put bs).put cs := by
  simp [put, Array.append_assoc]

@[simp] theorem toList_received_put (bs : List UInt8) (s : Stream) :
    (s.put bs).received.toList = s.received.toList ++ bs := by
  simp [put]

theorem flush_of_none (h : s.flushError = none) : Sink.flush s = (.ok (), s) := by
  simp only [Sink.flush, h]

theorem flush_of_some {e : SinkError} (h : s.flushError = some e) :
    Sink.flush s = (.error e, s) := by
  simp only [Sink.flush, h]

theorem room_le (s : Stream) (n : Nat) : s.room n ≤ n := capped_le n _

/-- What there is room for after some of it has been taken. -/
theorem room_put {n k : Nat} {bs : List UInt8} (hn : n ≤ s.room k) (hbs : bs.length = n) :
    (s.put bs).room (k - n) = s.room k - n := by
  unfold room at hn ⊢
  simp only [put, Array.size_append, List.size_toArray, hbs]
  cases hl : s.limit with
  | none => simp [capped]
  | some l =>
    simp only [hl, Option.map_some, capped] at hn ⊢
    omega

/-- A write that fails takes nothing; else it takes a front part of what it is offered. -/
theorem offer_cases (bs : List UInt8) (s : Stream) :
    (∃ e, s.offer bs = (.error e, s)) ∨
      ∃ n ≤ bs.length, s.offer bs = (.ok n, s.put (bs.take n)) := by
  by_cases hfull : 0 < bs.length ∧ s.room bs.length = 0
  · rw [offer_of_full hfull.1 hfull.2]
    cases s.refusal with
    | fails e => exact .inl ⟨e, rfl⟩
    | takesNothing => exact .inr ⟨0, Nat.zero_le _, by simp⟩
  · refine .inr ⟨capped (s.room bs.length) s.chunk, ?_, if_neg hfull⟩
    exact Nat.le_trans (capped_le _ _) (s.room_le _)

/-- One write to a stream with room takes something, and leaves as much room as it has not taken. -/
theorem offer_eq_put (hc : s.chunk ≠ some 0) {bs : List UInt8} (hr : s.room bs.length ≠ 0) :
    ∃ n, n + 1 ≤ s.room bs.length ∧ s.offer bs = (.ok (n + 1), s.put (bs.take (n + 1))) := by
  have hle := capped_le (s.room bs.length) s.chunk
  obtain ⟨n, hn⟩ : ∃ n, capped (s.room bs.length) s.chunk = n + 1 := by
    refine Nat.exists_eq_succ_of_ne_zero fun h => ?_
    cases hchunk : s.chunk with
    | none => exact hr (by rwa [hchunk] at h)
    | some m =>
      rw [hchunk] at h hc
      have hm : m ≠ 0 := fun e => hc (congrArg some e)
      simp only [capped] at h
      omega
  exact ⟨n, hn ▸ hle, by rw [offer_of_room hr, hn]; rfl⟩

/-- **Writing all to a stream** fills it up to its limit, in whatever chunks, and fails if not all
bytes fit. -/
theorem writeAll_eq {s : Stream} (hc : s.chunk ≠ some 0) (bs : List UInt8) :
    Sink.writeAll bs s =
      (if s.room bs.length = bs.length then .ok () else .error s.refusal.error,
        s.put (bs.take (s.room bs.length))) := by
  match bs with
  | [] =>
    have hroom : s.room 0 = 0 := Nat.le_zero.mp (s.room_le 0)
    simp [hroom]
  | b :: bs =>
    by_cases hfull : s.room (b :: bs).length = 0
    · have hoffer : s.offer (b :: bs) = _ := offer_of_full (Nat.succ_pos _) hfull
      rw [hfull, if_neg (by simp), List.take_zero, put_nil]
      cases hr : s.refusal with
      | fails e =>
        rw [hr] at hoffer
        exact Sink.writeAll_of_error hoffer
      | takesNothing =>
        rw [hr] at hoffer
        exact Sink.writeAll_of_zero hoffer
    · obtain ⟨n, hn, hoffer⟩ := offer_eq_put hc hfull
      have hlen : ((b :: bs).take (n + 1)).length = n + 1 := by
        have := s.room_le (b :: bs).length
        rw [List.length_take]
        omega
      -- the rest is written to a stream that is fuller by what has been taken
      have hroom := room_put hn hlen
      have hrest : bs.drop n = (b :: bs).drop (n + 1) := rfl
      have hle := s.room_le (b :: bs).length
      have hsub : n + 1 + (s.room (b :: bs).length - (n + 1)) = s.room (b :: bs).length := by omega
      have hiff : (s.room (b :: bs).length - (n + 1) = (b :: bs).length - (n + 1)) =
          (s.room (b :: bs).length = (b :: bs).length) := by
        apply propext
        omega
      rw [Sink.writeAll_of_pos hoffer, hrest,
        writeAll_eq (s := s.put _) hc ((b :: bs).drop (n + 1)), List.length_drop, hroom,
        ← put_append, ← List.take_add, hsub]
      simp only [hiff]
      rfl
termination_by bs.length

/-- **Writing all takes a front part of the bytes**, and all of them exactly if it succeeds. -/
theorem writeAll_cases (bs : List UInt8) (s : Stream) :
    ∃ n ≤ bs.length, (Sink.writeAll bs s).2 = s.put (bs.take n) ∧
      ((Sink.writeAll bs s).1 = .ok () ↔ n = bs.length) := by
  match bs with
  | [] => exact ⟨0, Nat.le_refl 0, by simp, by simp⟩
  | b :: bs =>
    have hstuck : ∀ e, Sink.writeAll (b :: bs) s = (.error e, s) →
        ∃ n ≤ (b :: bs).length, (Sink.writeAll (b :: bs) s).2 = s.put ((b :: bs).take n) ∧
          ((Sink.writeAll (b :: bs) s).1 = .ok () ↔ n = (b :: bs).length) := by
      intro e he
      rw [he]
      exact ⟨0, Nat.zero_le _, by simp, nofun, nofun⟩
    rcases offer_cases (b :: bs) s with ⟨e, he⟩ | ⟨n, hn, hoffer⟩
    · exact hstuck e (Sink.writeAll_of_error he)
    · cases n with
      | zero => exact hstuck _ (Sink.writeAll_of_zero (hoffer.trans (by simp)))
      | succ n =>
        obtain ⟨k, hk, hput, hok⟩ := writeAll_cases (bs.drop n) (s.put ((b :: bs).take (n + 1)))
        rw [List.length_drop] at hk hok
        rw [List.length_cons] at hn ⊢
        refine ⟨n + 1 + k, by omega, ?_, ?_⟩
        · rw [Sink.writeAll_of_pos hoffer, hput, ← put_append,
            List.take_add (l := b :: bs) (i := n + 1)]
          rfl
        · rw [Sink.writeAll_of_pos hoffer, hok]
          omega
termination_by bs.length

end Stream

end ByteMachine
