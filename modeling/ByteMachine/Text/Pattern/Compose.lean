import ByteMachine.Text.Pattern.ByteRanges
import ByteMachine.Text.Pattern.Basic

/-!
# Putting patterns together

What is put together is kept simple. Sequences do not lie in sequences, nor alternatives in
alternatives, texts side by side are one text, and what need not be repeated is not. Alternatives
that are characters or sets are one set. What all alternatives begin with stands in front of them;
only whole parts of sequences are taken out so.
-/

namespace ByteMachine.Text.Pattern

/-! ## How many bytes a stretch takes -/

/-- The sum of several numbers. -/
def sumOf (ns : List Nat) : Nat := ns.foldl (· + ·) 0

mutual

/-- The most bytes that a stretch takes which matches, if there is a bound that can be told. -/
def longest? : Pattern → Option Nat
  | empty | assertion _ => some 0
  | text cs => some (textByteCount cs)
  | one s _ => s.ranges.getLast?.map (byteCount ·.2)
  | seq ps => (longestOf? ps).map sumOf
  | either ps => (longestOf? ps).bind List.max?
  | times p _ most _ => do return (← p.longest?) * (← most)
  | group _ p => p.longest?

/-- The most bytes that each of some patterns takes. -/
def longestOf? : List Pattern → Option (List Nat)
  | [] => some []
  | p :: ps => do return (← p.longest?) :: (← longestOf? ps)

end

mutual

/-- The least number of bytes that a stretch takes which matches, if it can be told. -/
def shortest? : Pattern → Option Nat
  | empty | assertion _ => some 0
  | text cs => some (textByteCount cs)
  | one s _ => s.ranges.head?.map (byteCount ·.1)
  | seq ps => (shortestOf? ps).map sumOf
  | either ps => (shortestOf? ps).bind List.min?
  | times p least _ _ => p.shortest?.map (· * least)
  | group _ p => p.shortest?

/-- The least number of bytes that each of some patterns takes. -/
def shortestOf? : List Pattern → Option (List Nat)
  | [] => some []
  | p :: ps => do return (← p.shortest?) :: (← shortestOf? ps)

end

/-- Whether only the empty stretch can match. -/
def isEmptyOnly (p : Pattern) : Bool := p.longest? = some 0

/-! ## One after the other -/

/-- The parts of a sequence; the empty stretch has none. -/
def parts : Pattern → List Pattern
  | empty => []
  | seq ps => ps
  | p => [p]

/-- Puts a part in front of others. -/
def pushPart : Pattern → List Pattern → List Pattern
  | text cs, text ds :: ps => text (cs ++ ds) :: ps
  | p, ps => p :: ps

/-- The sequence of some parts. -/
def ofParts : List Pattern → Pattern
  | [] => empty
  | [p] => p
  | ps => seq ps

/-- Several stretches, one after the other. -/
def all (ps : List Pattern) : Pattern := ofParts ((ps.flatMap parts).foldr pushPart [])

/-! ## One of several -/

/-- The alternatives that a pattern is. -/
def branches : Pattern → List Pattern
  | either ps => ps
  | p => [p]

/-- The character that a pattern is, if it is one. -/
def char? : Pattern → Option Char
  | text [c] => some c
  | _ => none

/-- The set that a pattern matches one character of, if it is such a pattern. -/
def set? : Pattern → Option CharSet
  | one s _ => some s
  | _ => none

/-- The set that alternatives are, if all of them are characters or all of them are sets. -/
def sets? (ps : List Pattern) : Option CharSet :=
  match ps.mapM char? with
  | some cs => some (.unionAll (cs.map .single))
  | none => (ps.mapM set?).map .unionAll

/-- One of several patterns with nothing taken out in front. -/
def oneOf (ps : List Pattern) : Pattern :=
  match ps.flatMap branches with
  | [p] => p
  | ps =>
    match sets? ps with
    | some s => ofSet s .characters
    | none => either ps

/-- The parts of a sequence, if a pattern is one. -/
def sequence? : Pattern → Option (List Pattern)
  | seq ps => some ps
  | _ => none

/-- What two lists of parts begin with. -/
def commonParts : List Pattern → List Pattern → List Pattern
  | p :: ps, q :: qs => if p.same q then p :: commonParts ps qs else []
  | _, _ => []

/-- One of several patterns with what all of them begin with in front, if there is such a thing. -/
def factored? (ps : List Pattern) : Option Pattern := do
  let sequences ← ps.mapM sequence?
  let common := sequences.tail.foldl commonParts (sequences.headD [])
  if common.isEmpty then none
  else all (common ++ [oneOf (sequences.map fun qs => all (qs.drop common.length))])

/-- One of several patterns, the first one first. -/
def anyOf (ps : List Pattern) : Pattern :=
  match oneOf ps with
  | either qs => (factored? qs).getD (either qs)
  | p => p

/-! ## A number of times -/

/-- At least `least` stretches and at most `most`. To repeat what only matches the empty stretch
makes no difference after the first time. -/
def repeated (p : Pattern) (least : Nat) (most : Option Nat) (isLazy : Bool) : Pattern :=
  let (least, most) :=
    if p.isEmptyOnly then (min least 1, some (min (most.getD 1) 1)) else (least, most)
  if most = some 0 then empty
  else if least = 1 ∧ most = some 1 then p
  else times p least most isLazy

end ByteMachine.Text.Pattern
