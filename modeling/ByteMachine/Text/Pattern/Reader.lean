import ByteMachine.Text.Pattern.Brackets
import ByteMachine.Text.Pattern.Group

/-!
# Reading patterns

A pattern is written in the usual way: a character stands for itself, `.` for any character within a
line, `[...]` for a set, `^` and `$` for the ends of the text, `|` separates alternatives, `(...)`
groups, and `*`, `+`, `?`, `{n}`, `{n,}` and `{n,m}` repeat what stands before them; a question mark
behind a repetition says that it takes as little as it can.

Of the groups that are never closed the innermost one is at fault. The depth is looked at when the
whole pattern has been read.
-/

namespace ByteMachine.Text.Pattern

/-! ## Counts -/

/-- The value of decimal digits. -/
def decimalValue (ds : List Char) : Nat := ds.foldl (fun n d => 10 * n + (d.toNat - 48)) 0

/-- The greatest number that may be given. -/
def greatestCount : Nat := 4294967295

/-- Reads a number with blanks around it. What is wrong with it need not matter. -/
def readDecimal : Reader (Except Flaw Nat) := do
  let _ ← Reader.readWhile isBlank
  let start ← Reader.here
  let ds ← Reader.readWhile Char.isDigit
  let span := ⟨start, ← Reader.here⟩
  let _ ← Reader.readWhile isBlank
  if ds = [] then return .error (.single .noCount span)
  else if greatestCount < decimalValue ds then return .error (.single .badNumber span)
  else return .ok (decimalValue ds)

/-- Reads the numbers of a count up to its closing brace: the least and, if there is one, the
greatest. -/
def readCountBounds (start : Position) : Reader (Nat × Option Nat) := do
  let unclosed {α : Type} : Reader α := Reader.failSince .unclosedCount start
  if (← Reader.advance).isNone then unclosed
  let first ← readDecimal
  match ← Reader.next? with
  | none => unclosed
  | some ',' =>
    match ← Reader.advance with
    | none => unclosed
    | some '\x7d' => return (← first, none)
    | some _ =>
      let least ← first
      let most ← (← readDecimal)
      return (least, some most)
  | some _ =>
    let n ← first
    return (n, some n)

/-- How often something is repeated, and whether a question mark stands behind that. -/
structure Count where
  least : Nat
  most : Option Nat
  turned : Bool

/-- Reads a count, with the cursor at its brace. -/
def readCount : Reader Count := do
  let start ← Reader.here
  let (least, most) ← readCountBounds start
  if (← Reader.next?) ≠ some '\x7d' then Reader.failSince .unclosedCount start
  let turned := (← Reader.advance) == some '?'
  if turned then Reader.move
  if most.any (· < least) then Reader.failSince .reversedCount start
  return ⟨least, most, turned⟩

/-- Reads a sign for a repetition. -/
def readRepetition (least : Nat) (most : Option Nat) : Reader Count := do
  Reader.move
  let turned := (← Reader.next?) == some '?'
  if turned then Reader.move
  return ⟨least, most, turned⟩

/-! ## Alternatives -/

/-- Alternatives that are being read. -/
structure Unfinished where
  /-- Where the first alternative begins. -/
  start : Position
  /-- The alternatives that have been read, the latest first. -/
  branches : List Tree
  /-- Where the alternative begins that is being read. -/
  branchStart : Position
  /-- The parts of that alternative, the latest first. -/
  parts : List Tree

namespace Unfinished

/-- Nothing has been read. -/
def fresh (place : Position) : Unfinished := ⟨place, [], place, []⟩

/-- Adds a part. -/
def push (u : Unfinished) (t : Tree) : Unfinished := { u with parts := t :: u.parts }

/-- The alternative that is being read, if it ends here. -/
def branch (u : Unfinished) (stop : Position) : Tree :=
  .ofParts ⟨u.branchStart, stop⟩ u.parts.reverse

/-- Ends an alternative and begins the next one. -/
def next (u : Unfinished) (stop behind : Position) : Unfinished :=
  ⟨u.start, u.branch stop :: u.branches, behind, []⟩

/-- All that has been read, if it ends here. -/
def tree (u : Unfinished) (stop : Position) : Tree :=
  match u.branches with
  | [] => u.branch stop
  | bs => .alternatives ⟨u.start, stop⟩ (u.branch stop :: bs).reverse

/-- Reads how often the latest part is repeated. -/
def readRepeated (u : Unfinished) (count : Reader Count) : Reader Unfinished := do
  match u.parts with
  | [] => Reader.failHere .nothingToRepeat
  | t :: ts =>
    if !t.isRepeatable then Reader.failHere .nothingToRepeat
    let c ← count
    let span := ⟨t.span.start, ← Reader.here⟩
    return { u with parts := .times span t c.least c.most c.turned :: ts }

end Unfinished

/-- Reads one part other than a group: the sign or the character `c`, which is next; `fuel` is as
for sets. -/
def readPart (fuel : Nat) (u : Unfinished) (c : Char) : Reader Unfinished := do
  let span := Span.character (← Reader.here) c
  match c with
  | '*' => u.readRepeated (readRepetition 0 none)
  | '+' => u.readRepeated (readRepetition 1 none)
  | '?' => u.readRepeated (readRepetition 0 (some 1))
  | '\x7b' => u.readRepeated readCount
  | '[' => return u.push (← readSet fuel)
  | '\\' => return u.push (← readEscape)
  | c =>
    Reader.move
    match c with
    | '.' => return u.push (.dot span)
    | '^' => return u.push (.mark span .start)
    | '$' => return u.push (.mark span .stop)
    | c => return u.push (.literal ⟨c, span, false⟩)

/-- Reads alternatives up to a closing parenthesis, which is not read, or to the end. Every call
reads at least one character, so `fuel` need not exceed their number by more than one. -/
def readAlternatives : (fuel : Nat) → Unfinished → Reader Tree
  | 0, u => return u.tree (← Reader.here)
  | fuel + 1, u => do
    Reader.skip
    let place ← Reader.here
    match ← Reader.next? with
    | none => return u.tree place
    | some ')' => return u.tree place
    | some '|' =>
      Reader.move
      readAlternatives fuel (u.next place (← Reader.here))
    | some '(' =>
      match ← readGroupStart fuel with
      | .flags changes =>
        Reader.setVerbose ((changes.of? .verbose).getD (← get).verbose)
        readAlternatives fuel (u.push (.flags ⟨place, ← Reader.here⟩ changes))
      | .group remembered changes =>
        let outside := (← get).verbose
        Reader.setVerbose ((changes.of? .verbose).getD outside)
        let inner ← readAlternatives fuel (.fresh (← Reader.here))
        if (← Reader.next?).isNone then Reader.fail .unclosedGroup (.character place '(')
        Reader.setVerbose outside
        Reader.move
        readAlternatives fuel (u.push (.group ⟨place, ← Reader.here⟩ remembered changes inner))
    | some c => do readAlternatives fuel (← readPart (fuel + 1) u c)

/-! ## The whole -/

/-- How deep the parts of a pattern may lie in each other. -/
def depthLimit : Nat := 250

/-- Reads a written pattern. -/
def Tree.read (text : List Char) : Except Flaw Tree := do
  let (t, c) ← (readAlternatives (text.length + 1) (.fresh .first)).run (.start text)
  match c.rest with
  | [] =>
    match t.tooDeep? depthLimit with
    | some span => throw (.single (.tooDeep depthLimit) span)
    | none => return t
  | d :: _ => throw (.single .unopenedGroup (.character c.place d))

end ByteMachine.Text.Pattern
