import ByteMachine.Text.Blank

/-!
# Lines of a program image

A line of a program image may hold one byte. What stands from the first `#` on is a comment; the
blanks around the rest do not count. A rest that begins with a binary digit is a literal, of which
only the first eight characters are read; every other line holds nothing. `Line.read` is
`decode_line`.

## Results

* `read_eq_skipped_iff`, `read_eq_byte_iff`, `read_eq_malformed_iff`: when a line reads how.
* `value_literal_lt`: a literal always fits in a byte.
-/

namespace ByteMachine.Image

/-- What a line holds. -/
inductive Reading
  /-- The line holds no byte. -/
  | skipped
  /-- The line holds the byte `v`. -/
  | byte (v : UInt8)
  /-- The line begins like a literal but is none. -/
  | malformed
deriving DecidableEq

namespace Line

/-- Whether a character is a binary digit. -/
def isBit (c : Char) : Bool := c == '0' || c == '1'

/-- The line without its comment and without blanks at its ends. -/
def code (line : List Char) : List Char := Text.trim (line.takeWhile (· != '#'))

/-- The characters of the code that are read as a literal. -/
def literal (line : List Char) : List Char := (code line).take 8

/-- The value of binary digits, the leftmost one most significant. -/
def value (bits : List Char) : Nat := bits.foldl (fun n c => 2 * n + if c = '1' then 1 else 0) 0

/-- Whether the code begins with a binary digit. -/
def isLiteral (line : List Char) : Bool := (code line).head?.any isBit

/-- Reads a line. -/
def read (line : List Char) : Reading :=
  if isLiteral line then
    if (literal line).all isBit then .byte (UInt8.ofNat (value (literal line))) else .malformed
  else .skipped

theorem isBit_iff {c : Char} : isBit c = true ↔ c = '0' ∨ c = '1' := by
  rw [isBit, Bool.or_eq_true, beq_iff_eq, beq_iff_eq]

/-! ## Values -/

theorem value_append (bits : List Char) (c : Char) :
    value (bits ++ [c]) = 2 * value bits + if c = '1' then 1 else 0 := by
  simp [value]

/-- `n` binary digits have a value below the `n`-th power of two. -/
theorem value_lt (bits : List Char) : value bits < Nat.pow 2 bits.length := by
  rw [← List.reverse_reverse bits]
  induction bits.reverse with
  | nil => decide
  | cons c cs ih =>
    rw [List.reverse_cons, value_append, List.length_append, List.length_singleton]
    have double : Nat.pow 2 (cs.reverse.length + 1) = Nat.pow 2 cs.reverse.length * 2 := rfl
    rw [double]
    split <;> omega

/-- **A literal always fits in a byte.** -/
theorem value_literal_lt (line : List Char) : value (literal line) < 256 := by
  have short : (literal line).length ≤ 8 := by
    rw [literal, List.length_take]
    exact Nat.min_le_left 8 _
  exact Nat.lt_of_lt_of_le (value_lt (literal line)) (Nat.pow_le_pow_right (by decide) short)

/-! ## When a line reads how -/

theorem read_eq_skipped_iff {line : List Char} : read line = .skipped ↔ isLiteral line = false := by
  unfold read
  split
  · split <;> simp [*]
  · simp [*]

theorem read_eq_byte_iff {line : List Char} {v : UInt8} :
    read line = .byte v ↔ isLiteral line = true ∧ (literal line).all isBit = true ∧
      v.toNat = value (literal line) := by
  have key : UInt8.ofNat (value (literal line)) = v ↔ v.toNat = value (literal line) := by
    rw [← UInt8.toNat_inj, UInt8.toNat_ofNat', Nat.mod_eq_of_lt (value_literal_lt line), eq_comm]
  unfold read
  split
  · split
    · simp [*]
    · simp [*]
  · simp [*]

theorem read_eq_malformed_iff {line : List Char} :
    read line = .malformed ↔ isLiteral line = true ∧ (literal line).all isBit = false := by
  unfold read
  split
  · split <;> simp [*]
  · simp [*]

end Line

end ByteMachine.Image
