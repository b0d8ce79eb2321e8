/-!
# Blank characters

The characters with the Unicode property White_Space, and removing them from both ends of a text.

## Results

* `isBlank_iff_mem_blanks`: the property holds of exactly the characters of `blanks`.
* `trim_cons_blank`, `trim_append_blank`: a blank at either end makes no difference.
-/

namespace ByteMachine.Text

/-- Whether a character has the property White_Space. -/
def isBlank (c : Char) : Bool :=
  let n := c.toNat
  (0x09 ≤ n && n ≤ 0x0D) || n == 0x20 || n == 0x85 || n == 0xA0 || n == 0x1680 ||
    (0x2000 ≤ n && n ≤ 0x200A) || n == 0x2028 || n == 0x2029 || n == 0x202F || n == 0x205F ||
    n == 0x3000

/-- The blank characters in ascending order. -/
def blanks : List Char :=
  [0x09, 0x0A, 0x0B, 0x0C, 0x0D, 0x20, 0x85, 0xA0, 0x1680, 0x2000, 0x2001, 0x2002, 0x2003, 0x2004,
    0x2005, 0x2006, 0x2007, 0x2008, 0x2009, 0x200A, 0x2028, 0x2029, 0x202F, 0x205F,
    0x3000].map Char.ofNat

/-- The text without the blanks it begins with. -/
def trimStart (cs : List Char) : List Char := cs.dropWhile isBlank

/-- The text without the blanks it ends with. -/
def trimEnd (cs : List Char) : List Char := (cs.reverse.dropWhile isBlank).reverse

/-- The text without the blanks at its ends. -/
def trim (cs : List Char) : List Char := trimEnd (trimStart cs)

/-! ## The table -/

/-- **The property holds of exactly the blanks in the table.** -/
theorem isBlank_iff_mem_blanks {c : Char} : isBlank c = true ↔ c ∈ blanks := by
  constructor
  · intro h
    refine List.mem_map.mpr ⟨c.toNat, ?_, Char.ofNat_toNat c⟩
    simp only [isBlank, Bool.or_eq_true, Bool.and_eq_true, decide_eq_true_eq, beq_iff_eq] at h
    simp only [List.mem_cons, List.not_mem_nil, or_false]
    omega
  · intro h
    have table : blanks.all isBlank = true := by decide
    exact List.all_eq_true.mp table c h

/-! ## Trimming -/

theorem trimStart_cons_blank {c : Char} (h : isBlank c = true) (cs : List Char) :
    trimStart (c :: cs) = trimStart cs := by
  simp [trimStart, h]

theorem trimStart_of_head {c : Char} (h : isBlank c = false) (cs : List Char) :
    trimStart (c :: cs) = c :: cs := by
  simp [trimStart, h]

theorem trimEnd_append_blank {c : Char} (h : isBlank c = true) (cs : List Char) :
    trimEnd (cs ++ [c]) = trimEnd cs := by
  simp [trimEnd, h]

theorem trim_cons_blank {c : Char} (h : isBlank c = true) (cs : List Char) :
    trim (c :: cs) = trim cs := by
  rw [trim, trimStart_cons_blank h, trim]

/-- A blank at the end makes no difference. -/
theorem trim_append_blank {c : Char} (h : isBlank c = true) (cs : List Char) :
    trim (cs ++ [c]) = trim cs := by
  have key : trimStart (cs ++ [c]) = trimStart cs ++ [c] ∨
      (trimStart (cs ++ [c]) = [] ∧ trimStart cs = []) := by
    induction cs with
    | nil => right; simp [trimStart, h]
    | cons d ds ih =>
      cases hd : isBlank d with
      | true => simpa [trimStart_cons_blank hd] using ih
      | false => left; simp [trimStart_of_head hd]
  rcases key with e | ⟨e, e'⟩
  · rw [trim, e, trimEnd_append_blank h, trim]
  · rw [trim, e, trim, e']

end ByteMachine.Text
