import ByteMachine.Text.Pattern.CharSet

/-!
# Patterns

A pattern is a regular expression over characters. Its parts match stretches of a text: a text
itself, one character of a set, the empty stretch where an assertion holds, several stretches one
after the other, one of several, or one stretch a number of times.

A log setting may hold a pattern, and a logger that is set up from it writes only the records in
which the pattern occurs. Nothing else goes by patterns: what is said about the command is said for
any logger.
-/

namespace ByteMachine.Text

/-- A place in a text, by the characters before and behind it. -/
structure Place where
  before : Option Char
  behind : Option Char
deriving DecidableEq

/-- Whether a character is one of the ASCII letters and digits or the underscore. -/
def isWordChar (c : Char) : Bool := c.isAlphanum || c == '_'

namespace Place

/-- Whether a word goes on to the left. -/
def wordBefore (p : Place) : Bool := p.before.any isWordChar

/-- Whether a word goes on to the right. -/
def wordBehind (p : Place) : Bool := p.behind.any isWordChar

end Place

/-- What is said of a place with respect to words. -/
inductive WordEdge
  /-- A word begins or ends here. -/
  | edge
  /-- No word begins or ends here. -/
  | noEdge
  | start
  | stop
  /-- No word goes on to the left. -/
  | startHalf
  /-- No word goes on to the right. -/
  | stopHalf
deriving DecidableEq

/-- Whether it is so, given whether words go on to the left and to the right. -/
def WordEdge.holds (e : WordEdge) (left right : Bool) : Bool :=
  match e with
  | edge => left != right
  | noEdge => left == right
  | start => !left && right
  | stop => left && !right
  | startHalf => !left
  | stopHalf => !right

/-- Which line ends count. -/
inductive LineEnds
  /-- The line feed. -/
  | feed
  /-- The line feed, the carriage return, and the two as one. -/
  | returnFeed
deriving DecidableEq

/-- A condition on a place in a text. -/
inductive Assertion
  | textStart
  | textEnd
  | lineStart (ends : LineEnds)
  | lineEnd (ends : LineEnds)
  /-- An edge of words of ASCII characters. -/
  | asciiWord (e : WordEdge)
  /-- An edge of words of any characters, which takes a table of such characters. -/
  | anyWord (e : WordEdge)
deriving DecidableEq

/-- Whether a condition holds at a place. Without a table of the characters of words nothing is
known of their edges. -/
def Assertion.holds (a : Assertion) (p : Place) : Bool :=
  match a with
  | textStart => p.before.isNone
  | textEnd => p.behind.isNone
  | lineStart .feed => p.before.all (· == '\n')
  | lineEnd .feed => p.behind.all (· == '\n')
  | lineStart .returnFeed =>
    p.before.all fun c => c == '\n' || (c == '\r' && p.behind != some '\n')
  | lineEnd .returnFeed =>
    p.behind.all fun c => c == '\r' || (c == '\n' && p.before != some '\r')
  | asciiWord e => e.holds p.wordBefore p.wordBehind
  | anyWord _ => false

/-- What the members of a set are meant as. -/
inductive Units
  | bytes
  | characters
deriving DecidableEq

/-- A regular expression over characters. -/
inductive Pattern
  /-- The empty stretch. -/
  | empty
  /-- A text that stands for itself. -/
  | text (cs : List Char)
  /-- One character of a set. -/
  | one (s : CharSet) (units : Units)
  /-- The empty stretch, where a condition holds. -/
  | assertion (a : Assertion)
  /-- Several stretches, one after the other. -/
  | seq (ps : List Pattern)
  /-- One of several, the first one first. -/
  | either (ps : List Pattern)
  /-- At least `least` stretches, one after the other, and at most `most` if that is given; as few
  as possible if `lazy` is set, and else as many. -/
  | times (p : Pattern) (least : Nat) (most : Option Nat) (lazy : Bool)
  /-- A stretch that is remembered under a number. -/
  | group (index : Nat) (p : Pattern)

namespace Pattern

/-- The pattern that matches nothing. -/
def nothing : Pattern := one .nothing .bytes

/-- One character of a set, in its simplest form. -/
def ofSet (s : CharSet) (units : Units) : Pattern :=
  match s.onlyCode? with
  | some n => text [.ofNat n]
  | none => if s = .nothing then nothing else one s units

/-! ## Equality -/

mutual

/-- Whether two patterns are the same. -/
def same : Pattern → Pattern → Bool
  | empty, empty => true
  | text cs, text ds => cs = ds
  | one s units, one t units' => s = t && units = units'
  | assertion a, assertion b => a = b
  | seq ps, seq qs => sameAll ps qs
  | either ps, either qs => sameAll ps qs
  | times p least most isLazy, times q least' most' isLazy' =>
    (least = least' && most = most' && isLazy = isLazy') && p.same q
  | group index p, group index' q => index = index' && p.same q
  | _, _ => false

/-- Whether two lists of patterns are the same. -/
def sameAll : List Pattern → List Pattern → Bool
  | [], [] => true
  | p :: ps, q :: qs => p.same q && sameAll ps qs
  | _, _ => false

end

/-! ## Parts -/

mutual

/-- Whether a pattern or a part of it passes a test. -/
def anyPart (test : Pattern → Bool) : Pattern → Bool
  | seq ps => test (seq ps) || inAnyPart test ps
  | either ps => test (either ps) || inAnyPart test ps
  | times p least most isLazy => test (times p least most isLazy) || p.anyPart test
  | group index p => test (group index p) || p.anyPart test
  | p => test p

/-- Whether one of some patterns or a part of it passes a test. -/
def inAnyPart (test : Pattern → Bool) : List Pattern → Bool
  | [] => false
  | p :: ps => p.anyPart test || inAnyPart test ps

end

/-- Whether a pattern is an edge of words of any characters. -/
def isAnyWord : Pattern → Bool
  | assertion (.anyWord _) => true
  | _ => false

/-- Whether a pattern goes by the edges of words of any characters. -/
def needsWords (p : Pattern) : Bool := p.anyPart isAnyWord

/-- Whether a pattern is an assertion or remembers a stretch. -/
def isMarked : Pattern → Bool
  | assertion _ | group _ _ => true
  | _ => false

/-- Whether a pattern is about nothing but the characters of a stretch. -/
def isPlain (p : Pattern) : Bool := !p.anyPart isMarked

end Pattern

end ByteMachine.Text
