import ByteMachine.Text.Blank
import ByteMachine.Text.Pattern.Flaw

/-!
# Cursors

A cursor stands at a place in a text that is being read as a pattern. It knows the characters
behind it, whether blanks and comments stand for nothing there, and the names that groups have been
given so far. A reader moves a cursor, and may find a flaw.

## Results

* `length_skip_le`: passing over blanks and comments never gives characters back.
* `rest_move_lt`: a move leaves fewer characters, unless there are none.
-/

namespace ByteMachine.Text.Pattern

/-- A place in a text that is being read. -/
structure Cursor where
  rest : List Char
  place : Position
  /-- Blanks and comments stand for nothing. -/
  verbose : Bool
  /-- The names of groups so far, and where they are. -/
  names : List (List Char × Span)

namespace Cursor

/-- In front of a text. -/
def start (text : List Char) : Cursor := ⟨text, .first, false, []⟩

/-- Behind the next character. -/
def move (c : Cursor) : Cursor :=
  match c.rest with
  | [] => c
  | d :: ds => { c with rest := ds, place := c.place.past d }

theorem rest_move_lt {c : Cursor} (h : c.rest ≠ []) : c.move.rest.length < c.rest.length := by
  cases e : c.rest with
  | nil => exact absurd e h
  | cons d ds => simp [move, e]

/-- Behind the blanks and comments at some characters; a comment begins with a number sign and ends
with the line. -/
def skipped (inComment : Bool) (place : Position) : List Char → Position × List Char
  | [] => (place, [])
  | c :: cs =>
    if inComment then skipped (c != '\n') (place.past c) cs
    else if isBlank c then skipped false (place.past c) cs
    else if c = '#' then skipped true (place.past c) cs
    else (place, c :: cs)

theorem length_skipped_le (inComment : Bool) (place : Position) (cs : List Char) :
    (skipped inComment place cs).2.length ≤ cs.length := by
  fun_induction skipped inComment place cs <;> simp_all <;> omega

/-- Behind what stands for nothing. -/
def skip (c : Cursor) : Cursor :=
  if c.verbose then
    let (place, rest) := skipped false c.place c.rest
    { c with place, rest }
  else c

theorem length_skip_le (c : Cursor) : c.skip.rest.length ≤ c.rest.length := by
  rw [skip]
  split
  · exact length_skipped_le false c.place c.rest
  · exact Nat.le_refl _

/-- Behind the next characters that are as wanted, and what stands for nothing behind each of them;
with these characters, behind those that have been read before, the latest first. -/
def skipWhile (wanted : Char → Bool) (read : List Char) (c : Cursor) : List Char × Cursor :=
  match h : c.rest with
  | [] => (read, c)
  | d :: _ =>
    have : c.move.skip.rest.length < c.rest.length :=
      Nat.lt_of_le_of_lt c.move.length_skip_le (c.rest_move_lt (by simp [h]))
    if wanted d then skipWhile wanted (d :: read) c.move.skip else (read, c)
termination_by c.rest.length

/-- The character behind the next one. Where blanks stand for nothing they are passed over, and so
is a number sign. -/
def second? (c : Cursor) : Option Char :=
  let cs := c.rest.drop 1
  if c.verbose then
    match cs.dropWhile isBlank with
    | '#' :: ds => (ds.dropWhile isBlank).head?
    | ds => ds.head?
  else cs.head?

end Cursor

/-- Moves a cursor and gives what has been read, or finds a flaw. -/
abbrev Reader := StateT Cursor (Except Flaw)

namespace Reader

/-- The place of the cursor. -/
def here : Reader Position := return (← get).place

/-- The next character, if the text does not end here. -/
def next? : Reader (Option Char) := return (← get).rest.head?

/-- Moves behind the next character. -/
def move : Reader Unit := modify Cursor.move

/-- Moves behind the next `n` characters. -/
def moves : Nat → Reader Unit
  | 0 => return ()
  | n + 1 => do
    move
    moves n

/-- Moves behind what stands for nothing. -/
def skip : Reader Unit := modify Cursor.skip

/-- Moves behind the next character and what stands for nothing behind it, and gives the character
that is next then. -/
def advance : Reader (Option Char) := do
  move
  skip
  next?

/-- Sets whether blanks and comments stand for nothing. -/
def setVerbose (verbose : Bool) : Reader Unit := modify ({ · with verbose })

/-- Finds a flaw. -/
def fail {α : Type} (fault : Fault) (span : Span) : Reader α := throw (.single fault span)

/-- Finds a flaw in the next character. -/
def failAt {α : Type} (fault : Fault) (c : Char) : Reader α := do
  fail fault (.character (← here) c)

/-- Finds a flaw at the place of the cursor. -/
def failHere {α : Type} (fault : Fault) : Reader α := do
  fail fault (.empty (← here))

/-- Finds a flaw in what stands between a place and the cursor. -/
def failSince {α : Type} (fault : Fault) (start : Position) : Reader α := do
  fail fault ⟨start, ← here⟩

/-- Reads characters as long as they are as wanted. -/
def readWhile (wanted : Char → Bool) : Reader (List Char) :=
  modifyGet fun c =>
    let (read, c) := c.skipWhile wanted []
    (read.reverse, c)

end Reader

end ByteMachine.Text.Pattern
