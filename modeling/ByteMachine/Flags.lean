/-!
# Condition flags

A comparison leaves one of three marks: less, greater or equal. The flags are kept as the bits that
the machine shows, so the mark of a machine that has compared nothing yet is a fourth value.
`Flags.isEqual` is the operation `is_equal`.

## Results

* `compare_cases`: each order of two bytes has its mark.
* `compare_eq_equal_iff`: the equal mark tells that the bytes are equal.
* `isEqual_iff_eq_equal`: on the marks a comparison leaves, and on the cleared flags, the equal bit
  is set exactly for the equal mark.
-/

namespace ByteMachine

/-- The condition flags, as bits. -/
structure Flags where
  bits : UInt8
deriving DecidableEq

namespace Flags

/-- Nothing has been compared. -/
def cleared : Flags := ⟨0⟩

/-- The first value was less than the second. -/
def less : Flags := ⟨0b0100⟩

/-- The first value was greater than the second. -/
def greater : Flags := ⟨0b0010⟩

/-- The values were equal. -/
def equal : Flags := ⟨0b0001⟩

/-- Whether the equal bit is set. -/
def isEqual (f : Flags) : Bool := f.bits &&& equal.bits != 0

/-- The mark that comparing `x` with `y` leaves, both taken without sign. -/
def compare (x y : UInt8) : Flags :=
  if x < y then less else if y < x then greater else equal

/-! ## What the marks say -/

theorem compare_of_lt {x y : UInt8} (h : x.toNat < y.toNat) : compare x y = less :=
  if_pos (UInt8.lt_iff_toNat_lt.mpr h)

theorem compare_of_gt {x y : UInt8} (h : y.toNat < x.toNat) : compare x y = greater := by
  rw [compare, if_neg fun e => by have := UInt8.lt_iff_toNat_lt.mp e; omega,
    if_pos (UInt8.lt_iff_toNat_lt.mpr h)]

@[simp] theorem compare_self (x : UInt8) : compare x x = equal := by
  simp [compare]

/-- Any two bytes are ordered one of three ways, and each way has its mark. -/
theorem compare_cases (x y : UInt8) :
    (x.toNat < y.toNat ∧ compare x y = less) ∨ (y.toNat < x.toNat ∧ compare x y = greater) ∨
      (x = y ∧ compare x y = equal) := by
  rcases Nat.lt_trichotomy x.toNat y.toNat with h | h | h
  · exact .inl ⟨h, compare_of_lt h⟩
  · have e := UInt8.toNat_inj.mp h
    subst e
    exact .inr (.inr ⟨rfl, compare_self x⟩)
  · exact .inr (.inl ⟨h, compare_of_gt h⟩)

theorem compare_eq_equal_iff {x y : UInt8} : compare x y = equal ↔ x = y := by
  rcases compare_cases x y with ⟨h, e⟩ | ⟨h, e⟩ | ⟨rfl, -⟩
  · rw [e]
    exact ⟨fun c => absurd c (by decide), fun c => absurd (congrArg UInt8.toNat c) (by omega)⟩
  · rw [e]
    exact ⟨fun c => absurd c (by decide), fun c => absurd (congrArg UInt8.toNat c) (by omega)⟩
  · simp

/-- A comparison leaves one of the three marks. -/
theorem compare_mem (x y : UInt8) :
    compare x y = less ∨ compare x y = greater ∨ compare x y = equal := by
  rcases compare_cases x y with ⟨-, e⟩ | ⟨-, e⟩ | ⟨-, e⟩
  · exact .inl e
  · exact .inr (.inl e)
  · exact .inr (.inr e)

/-- **On the marks the machine uses, the equal bit and the equal mark are one test.** -/
theorem isEqual_iff_eq_equal {f : Flags}
    (h : f = cleared ∨ f = less ∨ f = greater ∨ f = equal) : f.isEqual = true ↔ f = equal := by
  rcases h with rfl | rfl | rfl | rfl <;> decide

end Flags

end ByteMachine
