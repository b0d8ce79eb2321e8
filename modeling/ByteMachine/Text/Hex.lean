/-!
# Bytes in hexadecimal

A byte is written with exactly two digits. Upper and lower case differ in the digits above nine.

## Results

* `ofDigits?_upper`: the two digits read back as the byte.
-/

namespace ByteMachine.Text.Hex

/-- The digit of a value below sixteen, in upper case. -/
def upperDigit (n : Nat) : Char := if n < 10 then Char.ofNat (48 + n) else Char.ofNat (55 + n)

/-- The digit of a value below sixteen, in lower case. -/
def lowerDigit (n : Nat) : Char := if n < 10 then Char.ofNat (48 + n) else Char.ofNat (87 + n)

/-- The two upper-case digits of a byte. -/
def upper (b : UInt8) : List Char := [upperDigit (b.toNat / 16), upperDigit (b.toNat % 16)]

/-- The two lower-case digits of a byte. -/
def lower (b : UInt8) : List Char := [lowerDigit (b.toNat / 16), lowerDigit (b.toNat % 16)]

/-- The value of a digit in either case. -/
def digitValue? (c : Char) : Option Nat :=
  if '0' ≤ c ∧ c ≤ '9' then some (c.toNat - 48)
  else if 'A' ≤ c ∧ c ≤ 'F' then some (c.toNat - 55)
  else if 'a' ≤ c ∧ c ≤ 'f' then some (c.toNat - 87)
  else none

/-- The byte that two digits stand for. -/
def ofDigits? (hi lo : Char) : Option UInt8 := do
  let h ← digitValue? hi
  let l ← digitValue? lo
  return UInt8.ofNat (16 * h + l)

/-- Bytes as digit pairs in lower case. -/
def encode (bs : List UInt8) : List Char := bs.flatMap lower

/-! ## Reading back -/

theorem digitValue?_upperDigit : ∀ n : Fin 16, digitValue? (upperDigit n) = some n.val := by
  decide

private theorem byte_of_halves (b : UInt8) :
    UInt8.ofNat (16 * (b.toNat / 16) + b.toNat % 16) = b := by
  rw [Nat.div_add_mod, UInt8.ofNat_toNat]

private theorem high_half_lt (b : UInt8) : b.toNat / 16 < 16 := by
  have := b.toNat_lt
  omega

theorem ofDigits?_upper (b : UInt8) :
    ofDigits? (upperDigit (b.toNat / 16)) (upperDigit (b.toNat % 16)) = some b := by
  have h1 := digitValue?_upperDigit ⟨b.toNat / 16, high_half_lt b⟩
  have h2 := digitValue?_upperDigit ⟨b.toNat % 16, Nat.mod_lt _ (by decide)⟩
  simp only at h1 h2
  rw [ofDigits?, h1, h2]
  exact congrArg some (byte_of_halves b)

end ByteMachine.Text.Hex
