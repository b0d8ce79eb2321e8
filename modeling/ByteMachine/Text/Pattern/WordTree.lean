import ByteMachine.Text.Pattern.Graph

/-!
# Trees of words

Alternatives that are all texts are a tree of bytes, in which words share their beginnings. Where a
word ends, the ways behind it come after it in order, so no later word shares a way with those
before that end.

The ways of a node are kept as a list, the latest ends first: ways in ascending order of their
bytes, then an end, then the ways before that end, and so on.

## Results

* `le_addWays`: the states of a tree do not make a graph smaller.
-/

namespace ByteMachine.Text.Pattern

/-- Words as a tree. -/
inductive WordTree
  /-- No word goes on. -/
  | leaf
  /-- A way with a byte, what follows on it, and what else there is. -/
  | way (b : UInt8) (next others : WordTree)
  /-- The end of a word, and what comes before it. -/
  | stop (earlier : WordTree)
deriving DecidableEq

namespace WordTree

/-- Changes what follows on a byte, behind the latest end of a word. -/
def change (b : UInt8) (f : WordTree → WordTree) : WordTree → WordTree
  | leaf => way b (f leaf) leaf
  | stop earlier => way b (f leaf) (stop earlier)
  | way c next others =>
    if b < c then way b (f leaf) (way c next others)
    else if b = c then way c (f next) others
    else way c next (change b f others)

/-- Adds a word. Where a word has ended and none goes on, nothing is added by another end. -/
def add : List UInt8 → WordTree → WordTree
  | [], t => if t = stop leaf then t else stop t
  | b :: bs, t => t.change b (add bs)

/-- The tree of some words. -/
def ofWords (words : List (List UInt8)) : WordTree := words.foldl (fun t w => t.add w) leaf

/-- Whether a word goes on. -/
def hasWays : WordTree → Bool
  | leaf => false
  | way _ _ _ => true
  | stop earlier => earlier.hasWays

/-! ## States -/

/-- Adds the state that goes by the next byte, for `count` ways, and the way that leads to it. -/
def addChoice (count : Nat) (g : Graph) : Graph :=
  if count = 0 then g else g.add 1 (if count = 1 then 4 else 8 * count + 4) false

/-- Adds the states for what follows a node; `count` says how many ways have been seen since the
latest end of a word. A way that leads on from a node takes a state for the choice between the ways
and the ends there; otherwise it leads to the end of all words. -/
def addWays : WordTree → (count : Nat) → Graph → Graph
  | leaf, count, g => addChoice count g
  | stop earlier, count, g => earlier.addWays 0 ((addChoice count g).add 0 4 false)
  | way _ next others, count, g =>
    others.addWays (count + 1) (if next.hasWays then (next.addWays 0 g).add 1 0 false else g)

theorem le_addChoice (count : Nat) (g : Graph) : g.bytes ≤ (addChoice count g).bytes := by
  rw [addChoice]
  split
  · exact Nat.le_refl _
  · rw [Graph.bytes_add]
    omega

theorem le_addWays (t : WordTree) (count : Nat) (g : Graph) :
    g.bytes ≤ (t.addWays count g).bytes := by
  induction t generalizing count g with
  | leaf => exact le_addChoice count g
  | stop earlier ih =>
    have h := le_addChoice count g
    refine Nat.le_trans ?_ (ih 0 _)
    rw [Graph.bytes_add]
    omega
  | way b next others ihn iho =>
    rw [addWays]
    refine Nat.le_trans ?_ (iho _ _)
    split
    · have h := ihn 0 g
      rw [Graph.bytes_add]
      omega
    · exact Nat.le_refl _

end WordTree

/-- The states of a tree of words: the end of all words, and those where they begin. -/
def Growth.ofWords (t : WordTree) : Growth where
  run g := (t.addWays 0 (g.add 1 0 false)).add 1 0 false
  le_run g := by
    have h := t.le_addWays 0 (g.add 1 0 false)
    rw [Graph.bytes_add] at h ⊢
    omega

end ByteMachine.Text.Pattern
