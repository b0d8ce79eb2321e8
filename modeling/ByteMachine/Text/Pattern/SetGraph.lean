import ByteMachine.Text.Pattern.ByteRanges
import ByteMachine.Text.Pattern.Cache
import ByteMachine.Text.Pattern.Graph

/-!
# Graphs for sets

One character of a set takes a state for where it ends and one that goes by its first byte. If the
set has characters of several bytes, the states in between are shared as far as a cache of limited
size remembers them.

* In a text that is read forwards, states that know the same ways are one state. A state is known by
  the ranges of its ways and the states where these lead to.
* In a text that is read backwards every sequence of byte ranges has ways of its own, but those that
  begin alike share the states of their beginnings, which are read last.

## Results

* `le_share`, `le_addTo`, `le_addBackwards`: sharing states does not make a graph smaller.
-/

namespace ByteMachine.Text.Pattern

/-- Which way a text is read. -/
inductive Direction
  | forwards
  | backwards
deriving DecidableEq

/-- A graph that grows, and the states that are remembered to be shared. -/
structure Sharing where
  graph : Graph
  known : Cache

namespace Sharing

/-- The state with this key, which is added unless it is remembered; its ways take `extra` bytes. -/
def share (s : Sharing) (key : List Nat) (extra : Nat) : Nat × Sharing :=
  match s.known.get? key with
  | some n => (n, s)
  | none =>
    (s.graph.states, ⟨s.graph.add 1 extra false, s.known.put key s.graph.states⟩)

theorem le_share (s : Sharing) (key : List Nat) (extra : Nat) :
    s.graph.bytes ≤ (s.share key extra).2.graph.bytes := by
  rw [share]
  split
  · exact Nat.le_refl _
  · rw [Graph.bytes_add]
    omega

/-! ## Forwards -/

/-- The state with some ways. -/
def node (s : Sharing) (ways : List Nat) : Nat × Sharing := s.share ways (8 * (ways.length / 3))

/-- Adds the states that the ways of a tree lead to; the last of them lead to `stop`. Each way is
given by the ends of its range and the number of the state; `seen` holds those that come before,
turned round. -/
def addTo (stop : Nat) : ByteTree → (seen : List Nat) → Sharing → List Nat × Sharing
  | .leaf, seen, s => (seen.reverse, s)
  | .way r .leaf others, seen, s => addTo stop others (stop :: r.2 :: r.1 :: seen) s
  | .way r (.way q next others') others, seen, s =>
    let (ways, s) := addTo stop (.way q next others') [] s
    let (n, s) := s.node ways
    addTo stop others (n :: r.2 :: r.1 :: seen) s

theorem le_addTo (stop : Nat) (t : ByteTree) (seen : List Nat) (s : Sharing) :
    s.graph.bytes ≤ (addTo stop t seen s).2.graph.bytes := by
  fun_induction addTo stop t seen s with
  | case1 => exact Nat.le_refl _
  | case2 r others seen s ih => exact ih
  | case3 r q next others' others seen s ways s' e n s'' e' ihn iho =>
    have h := le_share s' ways (8 * (ways.length / 3))
    rw [e] at ihn
    rw [node] at e'
    rw [e'] at h
    exact Nat.le_trans ihn (Nat.le_trans h iho)

/-! ## Backwards -/

/-- Adds the ways of a sequence, from its first range on, before the state `stop`. -/
def addSequence (stop : Nat) (s : Sharing) (sequence : List CodeRange) : Sharing :=
  (sequence.foldl (fun (stop, s) r => s.share [stop, r.1, r.2] 0) (stop, s)).2

theorem le_addSequence (stop : Nat) (s : Sharing) (sequence : List CodeRange) :
    s.graph.bytes ≤ (addSequence stop s sequence).graph.bytes := by
  rw [addSequence]
  induction sequence generalizing stop s with
  | nil => exact Nat.le_refl _
  | cons r rs ih => exact Nat.le_trans (le_share s _ 0) (ih _ _)

/-- Adds several sequences. -/
def addBackwards (stop : Nat) (s : Sharing) (sequences : List (List CodeRange)) : Sharing :=
  sequences.foldl (addSequence stop) s

theorem le_addBackwards (stop : Nat) (s : Sharing) (sequences : List (List CodeRange)) :
    s.graph.bytes ≤ (addBackwards stop s sequences).graph.bytes := by
  rw [addBackwards]
  induction sequences generalizing s with
  | nil => exact Nat.le_refl _
  | cons q qs ih => exact Nat.le_trans (le_addSequence stop s q) (ih _)

end Sharing

namespace Growth

open Sharing

/-- How many states are remembered forwards. -/
def forwardSlots : Nat := 10000

/-- How many states are remembered backwards. -/
def backwardSlots : Nat := 1000

/-- The states of a tree, in a text that is read forwards. -/
def ofTree (t : ByteTree) : Growth where
  run g :=
    let (ways, s) := addTo g.states t [] ⟨g.add 1 0 false, .empty forwardSlots⟩
    (s.node ways).2.graph
  le_run g := by
    have h := le_addTo g.states t [] ⟨g.add 1 0 false, .empty forwardSlots⟩
    rw [Graph.bytes_add] at h
    exact Nat.le_trans (Nat.le_trans (by omega) h) (le_share _ _ _)

/-- The states of some sequences, in a text that is read backwards. -/
def ofSequences (sequences : List (List CodeRange)) : Growth where
  run g :=
    (addBackwards (g.states + 1) ⟨g.add 2 (4 * sequences.length) false, .empty backwardSlots⟩
      sequences).graph
  le_run g := by
    refine Nat.le_trans ?_ (le_addBackwards _ _ _)
    rw [Graph.bytes_add]
    omega

/-- The states for one character of a set. -/
def ofSet (d : Direction) (s : CharSet) : Growth :=
  if s.isAscii then inOrder [state 0, state (8 * s.ranges.length)]
  else
    let sequences := s.ranges.flatMap byteSequences
    match d with
    | .forwards => ofTree (.ofSequences sequences)
    | .backwards => ofSequences sequences

end Growth

end ByteMachine.Text.Pattern
