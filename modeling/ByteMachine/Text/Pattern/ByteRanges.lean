import ByteMachine.Text.Pattern.CharSet

/-!
# Ranges of characters as ranges of bytes

The UTF-8 bytes of the characters of a range are covered by a few sequences, each with a range of
bytes for every place. A sequence for characters of several bytes begins with a range of lead bytes.
Sequences side by side that begin alike share their beginnings in a tree.
-/

namespace ByteMachine.Text

/-- Ranges of digits to the base 64 for the numbers from `least` to `greatest`: the leading digit,
which may be greater, and `more` digits behind it. -/
def digitSequences : (more : Nat) → (least greatest : Nat) → List (List CodeRange)
  | 0, least, greatest => [[(least, greatest)]]
  | more + 1, least, greatest =>
    let unit := Nat.pow 64 (more + 1)
    let (a, x) := (least / unit, least % unit)
    let (b, y) := (greatest / unit, greatest % unit)
    if a = b then (digitSequences more x y).map ((a, a) :: ·)
    else
      let first := if x = 0 then [] else (digitSequences more x (unit - 1)).map ((a, a) :: ·)
      let last := if y = unit - 1 then [] else (digitSequences more 0 y).map ((b, b) :: ·)
      let start := if x = 0 then a else a + 1
      let stop := if y = unit - 1 then b else b - 1
      let middle :=
        if start ≤ stop then [(start, stop) :: List.replicate (more + 1) (0, 63)] else []
      first ++ middle ++ last

/-- The code points of characters of one length, without surrogates: their range, the number of
bytes behind the lead byte, and what is added to the leading digit. -/
def lengthClasses : List (CodeRange × Nat × Nat) :=
  [((0, 0x7F), 0, 0), ((0x80, 0x7FF), 1, 0xC0), ((0x800, 0xD7FF), 2, 0xE0),
    ((0xE000, 0xFFFF), 2, 0xE0), ((0x10000, 0x10FFFF), 3, 0xF0)]

/-- Digits as bytes; the leading one is a lead byte, the others are continuation bytes. -/
def asBytes (lead : Nat) : List CodeRange → List CodeRange
  | [] => []
  | r :: rs => (r.1 + lead, r.2 + lead) :: rs.map fun s => (s.1 + 0x80, s.2 + 0x80)

/-- The sequences of byte ranges for the characters of a range. -/
def byteSequences (r : CodeRange) : List (List CodeRange) :=
  lengthClasses.flatMap fun (c, more, lead) =>
    let least := max r.1 c.1
    let greatest := min r.2 c.2
    if least ≤ greatest then (digitSequences more least greatest).map (asBytes lead) else []

/-- How many UTF-8 bytes the character with this number takes. -/
def byteCount (n : Nat) : Nat :=
  if n < 0x80 then 1 else if n < 0x800 then 2 else if n < 0x10000 then 3 else 4

/-- How many UTF-8 bytes a text takes. -/
def textByteCount (cs : List Char) : Nat := cs.foldl (fun n c => n + c.utf8Size) 0

/-- Sequences of byte ranges as a tree. -/
inductive ByteTree
  /-- No way leads on. -/
  | leaf
  /-- A way with a range, what follows on it, and the other ways. -/
  | way (r : CodeRange) (next others : ByteTree)

namespace ByteTree

/-- Puts a sequence in front of those of a tree. -/
def push : List CodeRange → ByteTree → ByteTree
  | [], t => t
  | r :: rs, leaf => way r (push rs leaf) leaf
  | r :: rs, way q next others =>
    if r = q then way q (push rs next) others else way r (push rs leaf) (way q next others)

/-- The tree of some sequences. -/
def ofSequences (sequences : List (List CodeRange)) : ByteTree := sequences.foldr push leaf

end ByteTree

end ByteMachine.Text
