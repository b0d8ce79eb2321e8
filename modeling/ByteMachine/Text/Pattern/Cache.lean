import Std.Data.HashMap

/-!
# Tables that forget

A cache remembers numbers for keys. It has a fixed number of slots, the slot of a key goes by a hash
of it, and what is put into a slot takes the place of what was there. So equal keys may be given
different numbers if another key has come between.
-/

namespace ByteMachine.Text.Pattern

/-- The number that a slot holds, and its key. -/
structure Slot where
  key : List Nat
  number : Nat

/-- A table with a fixed number of slots. -/
structure Cache where
  slots : Nat
  filled : Std.HashMap Nat Slot

namespace Cache

/-- A table with nothing in its slots. -/
def empty (slots : Nat) : Cache := ⟨slots, {}⟩

/-- A hash of some numbers: each is mixed in by an exclusive or and a product. -/
def hash (key : List Nat) : UInt64 :=
  key.foldl (fun h n => (h ^^^ n.toUInt64) * 1099511628211) 14695981039346656037

/-- The slot of a key. -/
def slotOf (c : Cache) (key : List Nat) : Nat := (hash key % c.slots.toUInt64).toNat

/-- The number that is known for a key. -/
def get? (c : Cache) (key : List Nat) : Option Nat :=
  (c.filled[c.slotOf key]?).bind fun s => if s.key == key then some s.number else none

/-- Puts a number in. -/
def put (c : Cache) (key : List Nat) (number : Nat) : Cache :=
  { c with filled := c.filled.insert (c.slotOf key) ⟨key, number⟩ }

end Cache

end ByteMachine.Text.Pattern
