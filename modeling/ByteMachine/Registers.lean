/-!
# The register file

Eight byte registers. A register operand is a whole byte of which only the low three bits count,
so every operand names a register: `Registers.slot` is `reg_index`.

## Results

* `get_set`: a write changes the named register and no other.
* `ext_get`: a register file is known by what its operands read.
-/

namespace ByteMachine

/-- The eight registers. -/
structure Registers where
  cells : Vector UInt8 8
deriving DecidableEq

namespace Registers

/-- How many registers there are. -/
def count : Nat := 8

/-- The register that a register operand names. -/
def slot (i : UInt8) : Fin 8 := ⟨i.toNat % 8, Nat.mod_lt _ (by decide)⟩

/-- Every register holds zero. -/
def zeroed : Registers := ⟨Vector.replicate 8 0⟩

/-- The value of the register named by `i`. -/
def get (r : Registers) (i : UInt8) : UInt8 := r.cells.get (slot i)

/-- Puts a value into the register named by `i`. -/
def set (r : Registers) (i v : UInt8) : Registers := ⟨r.cells.set (slot i).val v (slot i).isLt⟩

/-- The registers in order. -/
def toList (r : Registers) : List UInt8 := r.cells.toList

/-! ## Which register an operand names -/

/-- The register number is the operand's low three bits. -/
theorem slot_val_eq_and (i : UInt8) : (slot i).val = (i &&& 7).toNat := by
  rw [UInt8.toNat_and]
  exact (Nat.and_two_pow_sub_one_eq_mod i.toNat 3).symm

/-! ## Reading after writing -/

theorem get_eq_getElem (r : Registers) (i : UInt8) (h : (slot i).val < 8) :
    r.get i = r.cells[(slot i).val] := rfl

@[simp] theorem get_set_self (r : Registers) (i v : UInt8) : (r.set i v).get i = v := by
  simp [get_eq_getElem _ _ (slot i).isLt, set]

theorem get_set (r : Registers) (i j v : UInt8) :
    (r.set i v).get j = if slot i = slot j then v else r.get j := by
  simp [get_eq_getElem _ _ (slot j).isLt, set, Vector.getElem_set, Fin.ext_iff]

theorem get_set_of_ne (r : Registers) {i j : UInt8} (v : UInt8) (h : slot i ≠ slot j) :
    (r.set i v).get j = r.get j := by
  rw [get_set, if_neg h]

/-- **A register file is known by what its operands read.** -/
@[ext] theorem ext_get {r s : Registers} (h : ∀ i, r.get i = s.get i) : r = s := by
  obtain ⟨rc⟩ := r
  obtain ⟨sc⟩ := s
  congr 1
  apply Vector.ext
  intro i hi
  have hnat : (slot (UInt8.ofNat i)).val = i := by
    simp only [slot, UInt8.toNat_ofNat']
    omega
  have := h (UInt8.ofNat i)
  simpa [get_eq_getElem _ _ (slot (UInt8.ofNat i)).isLt, hnat] using this

end Registers

end ByteMachine
