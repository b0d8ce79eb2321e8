/-!
# Sets of characters

A set of characters is a list of ranges of code points, in ascending order. A union merges ranges
that overlap or touch, and the other operations go through the ranges of both sets side by side.

The surrogates are no characters, so the character behind U+D7FF is U+E000. Where a set has a range
that ends with the one and a range that begins with the other, there is no gap between them, and the
complement has the range of the two instead.
-/

namespace ByteMachine.Text

/-- The number of the character behind the one with this number. -/
def codeBehind (n : Nat) : Nat := if n = 0xD7FF then 0xE000 else n + 1

/-- The number of the character before the one with this number. -/
def codeBefore (n : Nat) : Nat := if n = 0xE000 then 0xD7FF else n - 1

/-- A range of code points: the first and the last one. -/
abbrev CodeRange := Nat × Nat

namespace CodeRange

/-- Whether a range holds a code point. -/
def holds (r : CodeRange) (n : Nat) : Bool := r.1 ≤ n && n ≤ r.2

/-- The range from one code point to another, whichever comes first. -/
def between (m n : Nat) : CodeRange := (min m n, max m n)

/-- How many code points a range has. -/
def size (r : CodeRange) : Nat := r.2 + 1 - r.1

/-- What two ranges have in common. -/
def common (r q : CodeRange) : List CodeRange :=
  if max r.1 q.1 ≤ min r.2 q.2 then [(max r.1 q.1, min r.2 q.2)] else []

/-- The other cases of the ASCII letters in a range. -/
def otherCases (r : CodeRange) : List CodeRange :=
  (if max r.1 0x41 ≤ min r.2 0x5A then [(max r.1 0x41 + 32, min r.2 0x5A + 32)] else []) ++
    if max r.1 0x61 ≤ min r.2 0x7A then [(max r.1 0x61 - 32, min r.2 0x7A - 32)] else []

end CodeRange

/-- A set of characters. -/
structure CharSet where
  ranges : List CodeRange
deriving DecidableEq

namespace CharSet

/-- Whether a set holds a code point. -/
def holdsCode (s : CharSet) (n : Nat) : Bool := s.ranges.any (·.holds n)

/-- Whether a set holds a character. -/
def holds (s : CharSet) (c : Char) : Bool := s.holdsCode c.toNat

/-- The set that holds nothing. -/
def nothing : CharSet := ⟨[]⟩

/-- The greatest code point. -/
def greatest : Nat := 0x10FFFF

/-- The set of all characters. -/
def everything : CharSet := ⟨[(0, greatest)]⟩

/-- The set of the code points from one to another. -/
def range (first last : Char) : CharSet := ⟨[(first.toNat, last.toNat)]⟩

/-- The set of one character. -/
def single (c : Char) : CharSet := range c c

/-- Merges each range with those behind it that it overlaps or touches. -/
def mergeFrom (r : CodeRange) : List CodeRange → List CodeRange
  | [] => [r]
  | q :: qs => if q.1 ≤ r.2 + 1 then mergeFrom (r.1, max r.2 q.2) qs else r :: mergeFrom q qs

/-- Merges ranges that are in ascending order. -/
def mergeRanges : List CodeRange → List CodeRange
  | [] => []
  | r :: rs => mergeFrom r rs

/-- The set of the code points in some ranges. -/
def ofRanges (rs : List CodeRange) : CharSet := ⟨mergeRanges (rs.mergeSort fun r q => r.1 ≤ q.1)⟩

/-- What any of several sets holds. -/
def unionAll (sets : List CharSet) : CharSet := ofRanges (sets.flatMap ranges)

/-- What one of two sets holds. -/
def union (s t : CharSet) : CharSet := ofRanges (s.ranges ++ t.ranges)

/-- What some ranges hold and others do not. -/
def minus (rs qs : List CodeRange) : List CodeRange :=
  match rs, qs with
  | [], _ => []
  | rs, [] => rs
  | r :: rs, q :: qs =>
    if q.2 < r.1 then minus (r :: rs) qs
    else if r.2 < q.1 then r :: minus rs (q :: qs)
    else
      (if r.1 < q.1 then [(r.1, codeBefore q.1)] else []) ++
        if r.2 ≤ q.2 then minus rs (q :: qs) else minus ((codeBehind q.2, r.2) :: rs) qs
termination_by rs.length + qs.length

/-- What the first of two sets holds and the second does not. -/
def difference (s t : CharSet) : CharSet := ⟨minus s.ranges t.ranges⟩

/-- What some ranges and others both hold. -/
def meet (rs qs : List CodeRange) : List CodeRange :=
  match rs, qs with
  | [], _ => []
  | _, [] => []
  | r :: rs, q :: qs =>
    r.common q ++ if r.2 < q.2 then meet rs (q :: qs) else meet (r :: rs) qs
termination_by rs.length + qs.length

/-- What both of two sets hold. -/
def intersection (s t : CharSet) : CharSet := ⟨meet s.ranges t.ranges⟩

/-- What exactly one of two sets holds. -/
def symmetric (s t : CharSet) : CharSet := (s.union t).difference (s.intersection t)

/-- What lies behind a range and between the ranges behind it. -/
def gapsBehind (r : CodeRange) : List CodeRange → List CodeRange
  | [] => if r.2 < greatest then [.between (codeBehind r.2) greatest] else []
  | q :: qs => .between (codeBehind r.2) (codeBefore q.1) :: gapsBehind q qs

/-- What lies before, between and behind some ranges. -/
def gaps : List CodeRange → List CodeRange
  | [] => [(0, greatest)]
  | r :: rs => (if 0 < r.1 then [.between 0 (codeBefore r.1)] else []) ++ gapsBehind r rs

/-- What a set does not hold. -/
def complement (s : CharSet) : CharSet := ⟨gaps s.ranges⟩

/-- The set with the other case of each of its ASCII letters. -/
def bothCases (s : CharSet) : CharSet := s.union ⟨s.ranges.flatMap CodeRange.otherCases⟩

/-- Whether a set holds ASCII characters only. -/
def isAscii (s : CharSet) : Bool := s.ranges.all (·.2 < 0x80)

/-- How many code points a set holds. -/
def size (s : CharSet) : Nat := s.ranges.foldl (fun n r => n + r.size) 0

/-- The code points of a set. -/
def codes (s : CharSet) : List Nat := s.ranges.flatMap fun r => List.range' r.1 r.size

/-- The only code point of a set, if there is just one. -/
def onlyCode? (s : CharSet) : Option Nat :=
  match s.ranges with
  | [(first, last)] => if first = last then some first else none
  | _ => none

end CharSet

end ByteMachine.Text
