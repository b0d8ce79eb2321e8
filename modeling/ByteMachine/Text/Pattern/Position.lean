/-!
# Positions

A position is a place between two characters of a text. It is given by the line and the column of
the character behind it, both counted from one. A span is a stretch of the text, and may be empty.
-/

namespace ByteMachine.Text

/-- A place between two characters of a text. -/
structure Position where
  line : Nat
  column : Nat
deriving DecidableEq

namespace Position

/-- The place in front of a text. -/
def first : Position := ⟨1, 1⟩

/-- The place behind a character. -/
def past (p : Position) (c : Char) : Position :=
  if c = '\n' then ⟨p.line + 1, 1⟩ else ⟨p.line, p.column + 1⟩

end Position

/-- A stretch of a text. -/
structure Span where
  start : Position
  stop : Position
deriving DecidableEq

namespace Span

/-- The empty stretch at a place. -/
def empty (p : Position) : Span := ⟨p, p⟩

/-- The stretch of one character. -/
def character (p : Position) (c : Char) : Span := ⟨p, p.past c⟩

/-- Whether a stretch begins and ends on one line. -/
def isOneLine (s : Span) : Bool := s.start.line == s.stop.line

/-- How many columns a stretch on one line takes; the empty stretch takes one. -/
def width (s : Span) : Nat := max 1 (s.stop.column - s.start.column)

end Span

end ByteMachine.Text
