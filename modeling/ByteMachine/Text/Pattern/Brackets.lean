import ByteMachine.Text.Pattern.Escape

/-!
# Sets in brackets

Between `[` and `]` stand the members of a set: characters, ranges `a-z`, escapes, sets within sets,
and ASCII sets with a name such as `[:alpha:]`. A `^` in front means all other characters. The signs
`&&`, `--` and `~~` join the members before and behind them, from left to right.

Minus signs in front stand for themselves, and so does `]` as the first member.
-/

namespace ByteMachine.Text.Pattern

/-! ## ASCII sets with names -/

/-- The ranges of the ASCII set with this name, in ascending order. -/
def asciiRanges? (name : List Char) : Option (List CodeRange) :=
  match String.ofList name with
  | "alnum" => some [(0x30, 0x39), (0x41, 0x5A), (0x61, 0x7A)]
  | "alpha" => some [(0x41, 0x5A), (0x61, 0x7A)]
  | "ascii" => some [(0x00, 0x7F)]
  | "blank" => some [(0x09, 0x09), (0x20, 0x20)]
  | "cntrl" => some [(0x00, 0x1F), (0x7F, 0x7F)]
  | "digit" => some [(0x30, 0x39)]
  | "graph" => some [(0x21, 0x7E)]
  | "lower" => some [(0x61, 0x7A)]
  | "print" => some [(0x20, 0x7E)]
  | "punct" => some [(0x21, 0x2F), (0x3A, 0x40), (0x5B, 0x60), (0x7B, 0x7E)]
  | "space" => some [(0x09, 0x0D), (0x20, 0x20)]
  | "upper" => some [(0x41, 0x5A)]
  | "word" => some [(0x30, 0x39), (0x41, 0x5A), (0x5F, 0x5F), (0x61, 0x7A)]
  | "xdigit" => some [(0x30, 0x39), (0x41, 0x46), (0x61, 0x66)]
  | _ => none

/-- An ASCII set that some characters begin with: the set, whether all other characters are meant,
and how many characters it is written in. -/
def asciiSet? (cs : List Char) : Option (CharSet × Bool × Nat) :=
  match cs with
  | '[' :: ':' :: cs =>
    let negated := cs.head? == some '^'
    let inner := if negated then cs.drop 1 else cs
    let name := inner.takeWhile (· != ':')
    match inner.dropWhile (· != ':'), asciiRanges? name with
    | ':' :: ']' :: _, some ranges =>
      some (⟨ranges⟩, negated, name.length + if negated then 5 else 4)
    | _, _ => none
  | _ => none

/-! ## Members -/

namespace Members

/-- Several members, read from `place` on, as one. -/
def ofItems (place : Position) : List Members → Members
  | [] => union (.empty place) []
  | [m] => m
  | m :: ms => union ⟨m.span.start, ((m :: ms).getLast (by simp)).span.stop⟩ (m :: ms)

end Members

/-- A part of a pattern as a member of a set, if it can be one. -/
def Tree.asMember? : Tree → Option Members
  | literal l => some (.literal l)
  | letter span ascii negated => some (.letter span ascii negated)
  | property span name => some (.property span name)
  | _ => none

/-- The sign of an operation on sets. -/
def operationOf? : Char → Char → Option SetOperation
  | '&', '&' => some .intersection
  | '-', '-' => some .difference
  | '~', '~' => some .symmetric
  | _, _ => none

/-- A set that is being read. -/
structure OpenSet where
  start : Position
  /-- The stretch that is at fault if the set is never closed. -/
  opening : Span
  negated : Bool

/-- Finds the flaw that a set is never closed. -/
def OpenSet.unclosed {α : Type} (s : OpenSet) : Reader α := Reader.fail .unclosedClass s.opening

/-- Reads the minus signs that the members begin with, at most `most` of them. -/
def readMinusSigns (start : Position) : (most : Nat) → Reader (List Members)
  | 0 => return []
  | most + 1 => do
    if (← Reader.next?) = some '-' then
      let span := Span.character (← Reader.here) '-'
      if (← Reader.advance).isNone then Reader.fail .unclosedClass (.empty start)
      return .literal ⟨'-', span, false⟩ :: (← readMinusSigns start most)
    else return []

/-- Reads the start of a set, with the cursor at its bracket: the set and the members that it
begins with, of which at most `most` are minus signs. -/
def readSetStart (most : Nat) : Reader (OpenSet × List Members) := do
  let start ← Reader.here
  let first ← Reader.advance
  if first.isNone then Reader.failSince .unclosedClass start
  let negated := first == some '^'
  if negated then
    if (← Reader.advance).isNone then Reader.failSince .unclosedClass start
  let mut items ← readMinusSigns start most
  if items.isEmpty ∧ (← Reader.next?) = some ']' then
    items := [.literal ⟨']', .character (← Reader.here) ']', false⟩]
    if (← Reader.advance).isNone then Reader.failSince .unclosedClass start
  return (⟨start, ⟨start, ← Reader.here⟩, negated⟩, items)

/-- Reads a character or an escape. -/
def readCharacter : Reader Tree := do
  let start ← Reader.here
  match ← Reader.next? with
  | some '\\' => readEscape
  | some c =>
    Reader.move
    return .literal ⟨c, .character start c, false⟩
  | none => return .empty (.empty start)

/-- The literal at an end of a range. -/
def rangeEnd : Tree → Reader Literal
  | .literal l => return l
  | t => Reader.fail .classRangeOfSets t.span

/-- Reads a member or a range. -/
def readMember (s : OpenSet) : Reader Members := do
  let first ← readCharacter
  Reader.skip
  let c ← Reader.next?
  if c.isNone then s.unclosed
  let second := (← get).second?
  if c ≠ some '-' ∨ second = some ']' ∨ second = some '-' then
    match first.asMember? with
    | some m => return m
    | none => Reader.fail .badClassEscape first.span
  else
    if (← Reader.advance).isNone then s.unclosed
    let last ← readCharacter
    let first ← rangeEnd first
    let last ← rangeEnd last
    if last.char < first.char then
      Reader.fail .badClassRange ⟨first.span.start, last.span.stop⟩
    return .range first last

/-- What stands in a set behind its last sign. -/
structure Operand where
  /-- Where it begins, right behind the sign. -/
  start : Position
  /-- The members before the sign and the operation it stands for, if there has been one. -/
  left : Option (Members × SetOperation)

/-- Does the operation that has been waiting for the members behind its sign, the latest first. -/
def Operand.finish (o : Operand) (items : List Members) : Members :=
  let right := Members.ofItems o.start items.reverse
  match o.left with
  | none => right
  | some (left, op) => .operation op left right

/-- Reads the remaining members of a set and its closing bracket. `items` holds the members behind
the last sign, the latest first; every call reads at least one character, so `fuel` need not exceed
their number by more than one. -/
def readMembers : (fuel : Nat) → OpenSet → Operand → List Members → Reader Members
  | 0, s, _, _ => s.unclosed
  | fuel + 1, s, operand, items => do
    Reader.skip
    let place ← Reader.here
    let rest := (← get).rest
    match asciiSet? rest, rest with
    | some (set, negated, length), _ =>
      Reader.moves length
      let m := .named ⟨place, ← Reader.here⟩ set negated
      readMembers fuel s operand (m :: items)
    | none, [] => s.unclosed
    | none, ']' :: _ =>
      Reader.move
      return operand.finish items
    | none, '[' :: _ =>
      let (inner, first) ← readSetStart fuel
      let m ← readMembers fuel inner ⟨← Reader.here, none⟩ first.reverse
      let m := .bracketed ⟨place, ← Reader.here⟩ inner.negated m
      readMembers fuel s operand (m :: items)
    | none, c :: cs =>
      match cs.head?.bind (operationOf? c) with
      | some op =>
        Reader.moves 2
        readMembers fuel s ⟨← Reader.here, some (operand.finish items, op)⟩ []
      | none => do
        let m ← readMember s
        readMembers fuel s operand (m :: items)

/-- Reads a set, with the cursor at its bracket; `fuel` is as for its members. -/
def readSet (fuel : Nat) : Reader Tree := do
  let (s, first) ← readSetStart fuel
  let members ← readMembers fuel s ⟨← Reader.here, none⟩ first.reverse
  return .set ⟨s.start, ← Reader.here⟩ s.negated members

end ByteMachine.Text.Pattern
