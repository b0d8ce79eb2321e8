import ByteMachine.Text.Pattern.Basic
import ByteMachine.Text.Pattern.Position

/-!
# Patterns as they are written

The parts of a written pattern, with the stretches of the text that they were read from. What a part
means may depend on the flags that are in force, so the parts are kept as they are written.

Groups, sets, repetitions, sequences, alternatives and the operations on sets may lie in each other
to a limited depth. `Tree.tooDeep?` gives the first of them beyond the limit.
-/

namespace ByteMachine.Text.Pattern

/-- A way of reading that a letter turns on or off. -/
inductive Flag
  /-- Letters stand for both of their cases. -/
  | anyCase
  /-- The ends of lines count like the ends of the text. -/
  | multiLine
  /-- The point stands for line ends too. -/
  | dotAll
  /-- Repetitions take as little as they can. -/
  | lazy
  /-- Characters are meant, not bytes. -/
  | unicode
  /-- The carriage return is a line end too. -/
  | returnFeed
  /-- Blanks and comments in the pattern stand for nothing. -/
  | verbose
deriving DecidableEq

/-- The flag with this letter. -/
def Flag.ofChar? : Char → Option Flag
  | 'i' => some anyCase
  | 'm' => some multiLine
  | 's' => some dotAll
  | 'U' => some lazy
  | 'u' => some unicode
  | 'R' => some returnFeed
  | 'x' => some verbose
  | _ => none

/-- Flags that are turned on or off together, each at most once. -/
abbrev FlagChanges := List (Flag × Bool)

/-- What a flag is turned to, if anything. -/
def FlagChanges.of? (changes : FlagChanges) (f : Flag) : Option Bool :=
  (changes.find? (·.1 == f)).map (·.2)

/-- A character that stands for itself. -/
structure Literal where
  char : Char
  span : Span
  /-- It is given by two hexadecimal digits, like a byte. -/
  isByte : Bool
deriving DecidableEq

/-- What is done to the members before a sign in a set and those behind it. -/
inductive SetOperation
  | intersection
  | difference
  | symmetric
deriving DecidableEq

/-- Does an operation to two sets. -/
def SetOperation.apply : SetOperation → CharSet → CharSet → CharSet
  | intersection => .intersection
  | difference => .difference
  | symmetric => .symmetric

/-- The members of a set in brackets. -/
inductive Members
  | literal (l : Literal)
  | range (first last : Literal)
  /-- An ASCII set with a name. -/
  | named (span : Span) (s : CharSet) (negated : Bool)
  /-- Digits, blanks or the characters of words; `ascii` are those in ASCII. -/
  | letter (span : Span) (ascii : CharSet) (negated : Bool)
  /-- The characters with a property. -/
  | property (span : Span) (name : List Char)
  | bracketed (span : Span) (negated : Bool) (members : Members)
  /-- What any of some members holds; there are none or several of them. -/
  | union (span : Span) (members : List Members)
  | operation (op : SetOperation) (left right : Members)

/-- The stretch that members were read from. -/
def Members.span : Members → Span
  | literal l => l.span
  | range first last => ⟨first.span.start, last.span.stop⟩
  | named span _ _ | letter span _ _ | property span _ | bracketed span _ _ | union span _ => span
  | operation _ left right => ⟨left.span.start, right.span.stop⟩

/-- A written condition on a place. -/
inductive Mark
  /-- The start of the text or of a line. -/
  | start
  /-- The end of the text or of a line. -/
  | stop
  | textStart
  | textEnd
  | word (e : WordEdge)
deriving DecidableEq

/-- A written pattern. -/
inductive Tree
  | empty (span : Span)
  | flags (span : Span) (changes : FlagChanges)
  | literal (l : Literal)
  | dot (span : Span)
  | mark (span : Span) (m : Mark)
  /-- Digits, blanks or the characters of words; `ascii` are those in ASCII. -/
  | letter (span : Span) (ascii : CharSet) (negated : Bool)
  /-- The characters with a property. -/
  | property (span : Span) (name : List Char)
  | set (span : Span) (negated : Bool) (members : Members)
  /-- A repetition; a question mark behind it turns round whether it takes little or much. -/
  | times (span : Span) (t : Tree) (least : Nat) (most : Option Nat) (turned : Bool)
  /-- A group; `remembered` says that what it matches is. -/
  | group (span : Span) (remembered : Bool) (changes : FlagChanges) (t : Tree)
  /-- Several parts, one after the other. -/
  | sequence (span : Span) (parts : List Tree)
  | alternatives (span : Span) (branches : List Tree)

/-- The stretch that a pattern was read from. -/
def Tree.span : Tree → Span
  | literal l => l.span
  | empty span | flags span _ | dot span | mark span _ | letter span _ _ | property span _ => span
  | set span _ _ | times span _ _ _ _ | group span _ _ _ | sequence span _ | alternatives span _ =>
    span

/-- Several parts, one after the other, as they were read from a stretch. -/
def Tree.ofParts (span : Span) : List Tree → Tree
  | [] => empty span
  | [t] => t
  | ts => sequence span ts

/-- Whether a repetition may follow. -/
def Tree.isRepeatable : Tree → Bool
  | empty _ | flags _ _ => false
  | _ => true

/-! ## Depth -/

/-- One level down, if `room` levels are left; `inside` looks for what is too deep there. -/
def within (room : Nat) (span : Span) (inside : Nat → Option Span) : Option Span :=
  match room with
  | 0 => some span
  | room + 1 => inside room

mutual

/-- The first part of a set that lies too deep, if `room` levels are left. -/
def Members.tooDeep? : Members → (room : Nat) → Option Span
  | literal _, _ | range _ _, _ | named _ _ _, _ | letter _ _ _, _ | property _ _, _ => none
  | bracketed span _ members, room => within room span members.tooDeep?
  | union _ [], _ => none
  | union span (m :: ms), room =>
    within room span fun r => m.tooDeep? r <|> Members.anyTooDeep? ms r
  | operation _ left right, room =>
    within room ⟨left.span.start, right.span.stop⟩ fun r => left.tooDeep? r <|> right.tooDeep? r

/-- The first part of several members that lies too deep. -/
def Members.anyTooDeep? : List Members → (room : Nat) → Option Span
  | [], _ => none
  | m :: ms, room => m.tooDeep? room <|> Members.anyTooDeep? ms room

end

mutual

/-- The first part of a pattern that lies too deep, if `room` levels are left. -/
def Tree.tooDeep? : Tree → (room : Nat) → Option Span
  | empty _, _ | flags _ _, _ | literal _, _ | dot _, _ | mark _ _, _ => none
  | letter _ _ _, _ | property _ _, _ => none
  | set span _ members, room => within room span members.tooDeep?
  | times span t _ _ _, room => within room span t.tooDeep?
  | group span _ _ t, room => within room span t.tooDeep?
  | sequence span parts, room => within room span (Tree.anyTooDeep? parts)
  | alternatives span branches, room => within room span (Tree.anyTooDeep? branches)

/-- The first part of several patterns that lies too deep. -/
def Tree.anyTooDeep? : List Tree → (room : Nat) → Option Span
  | [], _ => none
  | t :: ts, room => t.tooDeep? room <|> Tree.anyTooDeep? ts room

end

end ByteMachine.Text.Pattern
