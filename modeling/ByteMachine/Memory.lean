/-!
# Main memory

A memory holds 256 bytes and is addressed by a byte, so every address is in range and address
arithmetic wraps around. `Memory.get` and `Memory.set` are the operations `ram_read` and
`ram_write`.

## Results

* `get_set`, `get_set_self`, `get_set_of_ne`: a write changes the written cell and no other.
* `get_store`: storing a list writes its bytes from address 0 on.
-/

namespace ByteMachine

/-- The 256 bytes of main memory. -/
structure Memory where
  cells : Vector UInt8 256
deriving DecidableEq

namespace Memory

/-- How many cells there are. -/
def size : Nat := 256

/-- Every cell holds `v`. -/
def filled (v : UInt8) : Memory := ⟨Vector.replicate 256 v⟩

/-- Every cell is zero. -/
def zeroed : Memory := filled 0

/-- The byte at an address. -/
def get (m : Memory) (a : UInt8) : UInt8 := m.cells.get a.toFin

/-- Puts a byte at an address. -/
def set (m : Memory) (a v : UInt8) : Memory := ⟨m.cells.set a.toNat v a.toNat_lt⟩

/-- All cells in the order of their addresses. -/
def toList (m : Memory) : List UInt8 := m.cells.toList

/-- All addresses in ascending order. -/
def addresses : List UInt8 := (List.range 256).map UInt8.ofNat

/-- Stores bytes one after the other, from cell `start` on. -/
def storeFrom (m : Memory) (start : Nat) : List UInt8 → Memory
  | [] => m
  | v :: vs => (m.set (UInt8.ofNat start) v).storeFrom (start + 1) vs

/-- Stores bytes one after the other, from address 0 on. -/
def store (m : Memory) (vs : List UInt8) : Memory := m.storeFrom 0 vs

/-- The cells that differ, by ascending address, each with its value in the second memory. -/
def changes (before after : Memory) : List (UInt8 × UInt8) :=
  (addresses.filter fun a => before.get a != after.get a).map fun a => (a, after.get a)

/-! ## Reading after writing -/

theorem get_eq_getElem (m : Memory) (a : UInt8) (h : a.toNat < 256) :
    m.get a = m.cells[a.toNat] := rfl

@[simp] theorem get_set_self (m : Memory) (a v : UInt8) : (m.set a v).get a = v := by
  simp [get_eq_getElem _ _ a.toNat_lt, set]

theorem get_set_of_ne (m : Memory) {a b : UInt8} (v : UInt8) (h : a ≠ b) :
    (m.set a v).get b = m.get b := by
  have h' : a.toNat ≠ b.toNat := fun e => h (UInt8.toNat_inj.mp e)
  simp [get_eq_getElem _ _ b.toNat_lt, set, h']

theorem get_set (m : Memory) (a b v : UInt8) :
    (m.set a v).get b = if a = b then v else m.get b := by
  by_cases h : a = b
  · subst h; simp
  · rw [get_set_of_ne m v h, if_neg h]

/-! ## Storing a list -/

/-- What a stored list reads: its own bytes where it lies, the earlier contents elsewhere. -/
theorem get_storeFrom (m : Memory) (start : Nat) (vs : List UInt8)
    (h : start + vs.length ≤ 256) (a : UInt8) :
    (m.storeFrom start vs).get a =
      if start ≤ a.toNat then (vs[a.toNat - start]?).getD (m.get a) else m.get a := by
  induction vs generalizing m start with
  | nil => simp [storeFrom]
  | cons v vs ih =>
    have hlt : start < 256 := by
      simp only [List.length_cons] at h
      omega
    have hnat : (UInt8.ofNat start).toNat = start := by
      rw [UInt8.toNat_ofNat']
      omega
    have hle : start + 1 + vs.length ≤ 256 := by
      simp only [List.length_cons] at h
      omega
    rw [storeFrom, ih _ _ hle, get_set]
    by_cases h1 : UInt8.ofNat start = a
    · have e : a.toNat = start := by rw [← h1, hnat]
      have h2 : ¬ start + 1 ≤ a.toNat := by omega
      have h3 : start ≤ a.toNat := by omega
      simp only [h1, if_true, if_neg h2, if_pos h3]
      simp [e]
    · have hne : a.toNat ≠ start := fun e => h1 (UInt8.toNat_inj.mp (by rw [hnat, e]))
      simp only [h1, if_false]
      by_cases h2 : start + 1 ≤ a.toNat
      · have h3 : start ≤ a.toNat := by omega
        have e : a.toNat - start = (a.toNat - (start + 1)) + 1 := by omega
        rw [if_pos h2, if_pos h3, e, List.getElem?_cons_succ]
      · have h3 : ¬ start ≤ a.toNat := by omega
        rw [if_neg h2, if_neg h3]

/-- **Storing a list writes its bytes from address 0 on** and leaves the rest as it is. -/
theorem get_store (m : Memory) (vs : List UInt8) (h : vs.length ≤ 256) (a : UInt8) :
    (m.store vs).get a = (vs[a.toNat]?).getD (m.get a) := by
  rw [store, get_storeFrom m 0 vs (by omega)]
  simp

end Memory

end ByteMachine
