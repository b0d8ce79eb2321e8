/-!
# Graphs of states

A pattern is recognised by a graph of states that goes through a text byte by byte. A state takes 32
bytes, and more if it knows several ways that lead on: 8 for every range of bytes that it goes by,
and 4 for every way that takes no byte. The size of a graph is limited.

What a part of a pattern does to a graph is a `Growth`. It adds states behind those that are there.
The last of them may be a branch, from which one more way leads to whatever comes behind.
-/

namespace ByteMachine.Text.Pattern

/-- The greatest size of a graph, in bytes. -/
def sizeLimit : Nat := 10485760

/-- A graph of states. -/
structure Graph where
  /-- How many states there are; the next one gets this number. -/
  states : Nat
  /-- What the states take beyond 32 bytes each. -/
  extra : Nat
  /-- The last part ends with a branch. -/
  endsInBranch : Bool
deriving DecidableEq

namespace Graph

/-- No states. -/
def empty : Graph := ⟨0, 0, false⟩

/-- The size of a graph. -/
def bytes (g : Graph) : Nat := 32 * g.states + g.extra

/-- Whether a graph is larger than allowed. -/
def isTooLarge (g : Graph) : Bool := sizeLimit < g.bytes

/-- The graph with more states, of which the last one may be a branch; their ways take `extra`
bytes. -/
def add (g : Graph) (states extra : Nat) (endsInBranch : Bool) : Graph :=
  ⟨g.states + states, g.extra + extra, endsInBranch⟩

theorem bytes_add (g : Graph) (states extra : Nat) (endsInBranch : Bool) :
    (g.add states extra endsInBranch).bytes = g.bytes + 32 * states + extra := by
  simp only [bytes, add]
  omega

end Graph

/-- What a part of a pattern adds to a graph. -/
structure Growth where
  run : Graph → Graph
  /-- No growth makes a graph smaller. -/
  le_run : ∀ g, g.bytes ≤ (run g).bytes

namespace Growth

/-! ## States and ways -/

/-- Some states with one way each. -/
def states (n : Nat) : Growth where
  run g := g.add n 0 false
  le_run g := by rw [Graph.bytes_add]; omega

/-- A state; its ways take `extra` bytes. -/
def state (extra : Nat) : Growth where
  run g := g.add 1 extra false
  le_run g := by rw [Graph.bytes_add]; omega

/-- A branch; its ways take `extra` bytes, but for the one that leads on. -/
def branch (extra : Nat) : Growth where
  run g := g.add 1 extra true
  le_run g := by rw [Graph.bytes_add]; omega

/-- Back to a branch that is there, from which one more way will lead on. -/
def back : Growth where
  run g := g.add 0 0 true
  le_run g := by rw [Graph.bytes_add]; omega

/-- Ways of states that are there. -/
def ways (extra : Nat) : Growth where
  run g := g.add 0 extra g.endsInBranch
  le_run g := by rw [Graph.bytes_add]; omega

/-- The way that leads on from the last part. -/
def link : Growth where
  run g := g.add 0 (if g.endsInBranch then 4 else 0) false
  le_run g := by rw [Graph.bytes_add]; omega

/-! ## Several growths -/

/-- Several growths, one after the other. -/
def inOrder (ps : List Growth) : Growth where
  run g := ps.foldl (fun g p => p.run g) g
  le_run g := by
    induction ps generalizing g with
    | nil => exact Nat.le_refl _
    | cons p ps ih => exact Nat.le_trans (p.le_run g) (ih _)

/-- Adds copies of a part, one behind the other, until the graph is too large. -/
def addCopies (p : Growth) : (n : Nat) → Graph → Graph
  | 0, g => g
  | n + 1, g => if g.isTooLarge then g else addCopies p n (p.run (link.run g))

theorem le_addCopies (p : Growth) (n : Nat) (g : Graph) : g.bytes ≤ (p.addCopies n g).bytes := by
  induction n generalizing g with
  | zero => exact Nat.le_refl _
  | succ n ih =>
    rw [addCopies]
    split
    · exact Nat.le_refl _
    · exact Nat.le_trans (Nat.le_trans (link.le_run g) (p.le_run _)) (ih _)

/-- Copies of a part, one behind the other. -/
def copies (p : Growth) (n : Nat) : Growth := ⟨p.addCopies n, p.le_addCopies n⟩

/-! ## Parts of patterns -/

/-- Parts, one behind the other. -/
def chain (ps : List Growth) : Growth := inOrder (ps.flatMap ([link, ·]))

/-- A part as an alternative: a way leads to it and one leads on from it. -/
def alternative (p : Growth) : Growth := inOrder [p, link, ways 4]

/-- Several parts to choose from. The two states where they begin and end are behind the second
part. -/
def beside (ps : List Growth) : Growth :=
  inOrder ((ps.take 2).map alternative ++ states 2 :: (ps.drop 2).map alternative)

/-- A part of which it is remembered where it begins and ends. -/
def remembered (p : Growth) : Growth := inOrder [state 0, p, link, state 0]

/-- A part that may be passed by. -/
def atMostOnce (p : Growth) : Growth := inOrder [state 8, p, link, state 0]

/-- A part that may be gone through any number of times. If it may take no byte, two more states
keep apart the first time and the others. -/
def anyTimes (p : Growth) (takesBytes : Bool) : Growth :=
  if takesBytes then inOrder [state 4, p, link, back]
  else inOrder [p, link, states 3, ways 16]

/-- A part with a way back from its end to its start. -/
def withLoop (p : Growth) : Growth := inOrder [p, link, branch 4]

/-- A part and copies of another one behind it, from each of which a way leads to the end. -/
def withOptional (first p : Growth) (n : Nat) : Growth :=
  inOrder [first, link, state 0, (inOrder [state 8, p]).copies n, link]

/-- A part at least `least` times and at most `most` times. -/
def times (p : Growth) (takesBytes : Bool) (least : Nat) (most : Option Nat) : Growth :=
  match least, most with
  | 0, none => p.anyTimes takesBytes
  | 0, some 1 => p.atMostOnce
  | 0, some most => (state 0).withOptional p most
  | least, none => (p.copies least).withLoop
  | least, some most =>
    if most = least then p.copies least else (p.copies least).withOptional p (most - least)

end Growth

end ByteMachine.Text.Pattern
