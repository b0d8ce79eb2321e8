import ByteMachine.Text.Pattern.Compose
import ByteMachine.Text.Pattern.SetGraph
import ByteMachine.Text.Pattern.WordTree

/-!
# Sizes of patterns

A pattern is as large as the graph that recognises it, in a text that is read forwards or backwards.

* A text has a state for each of its bytes, and alternatives that are all texts share states.
* A repetition has as many copies of what it repeats as may be needed.
* Nothing is remembered in a text that is read backwards, but for where the stretch begins.
* In front of the whole stand three states that begin the search anew at every byte, unless the
  pattern can only match at an end of the text.
-/

namespace ByteMachine.Text.Pattern

/-! ## Growth -/

/-- The text that a pattern is, if it is one. -/
def text? : Pattern → Option (List Char)
  | text cs => some cs
  | _ => none

/-- The bytes of a text in the order in which they are read. -/
def bytesOf (d : Direction) (cs : List Char) : List UInt8 :=
  match d with
  | .forwards => cs.flatMap String.utf8EncodeChar
  | .backwards => (cs.flatMap String.utf8EncodeChar).reverse

/-- Things in the order in which they are read. -/
def Direction.order {α : Type} (d : Direction) (xs : List α) : List α :=
  match d with
  | .forwards => xs
  | .backwards => xs.reverse

/-- What alternatives add to a graph, given what each of them adds. -/
def eitherGrowth (d : Direction) (ps : List Pattern) (growths : List Growth) : Growth :=
  match ps.mapM text? with
  | some texts => .ofWords (.ofWords (texts.map (bytesOf d)))
  | none => .beside growths

/-- Whether a stretch that matches takes a byte at least, as far as can be told. -/
def takesBytes (p : Pattern) : Bool := p.shortest?.any (0 < ·)

mutual

/-- What a pattern adds to a graph. -/
def growth (d : Direction) : Pattern → Growth
  | empty | assertion _ => .states 1
  | text cs => .states (textByteCount cs)
  | one s _ => .ofSet d s
  | seq ps => .chain (d.order (growths d ps))
  | either ps => eitherGrowth d ps (growths d ps)
  | times p least most _ => (p.growth d).times p.takesBytes least most
  | group _ p =>
    match d with
    | .forwards => (p.growth d).remembered
    | .backwards => p.growth d

/-- What each of some patterns adds to a graph. -/
def growths (d : Direction) : List Pattern → List Growth
  | [] => []
  | p :: ps => p.growth d :: growths d ps

end

/-! ## The whole -/

/-- Whether the first of some parts, given whether it is so of each and whether it takes no byte,
or one behind parts that take none is such. -/
def amongFirst : List (Bool × Bool) → Bool
  | [] => false
  | (holds, takesNothing) :: parts => holds || (takesNothing && amongFirst parts)

/-- The end of a text where reading begins. -/
def Direction.textEdge : Direction → Assertion
  | .forwards => .textStart
  | .backwards => .textEnd

mutual

/-- Whether a pattern can only match where reading begins, as far as can be told. -/
def isAnchored (d : Direction) : Pattern → Bool
  | empty | text _ | one _ _ => false
  | assertion a => a = d.textEdge
  | seq ps => amongFirst (d.order (areAnchored d ps))
  | either ps => (areAnchored d ps).all (·.1)
  | times p least _ _ => 0 < least && p.isAnchored d
  | group _ p => p.isAnchored d

/-- Whether patterns can only match where reading begins, and whether they take no byte. -/
def areAnchored (d : Direction) : List Pattern → List (Bool × Bool)
  | [] => []
  | p :: ps => (p.isAnchored d, p.isEmptyOnly) :: areAnchored d ps

end

/-- What stands in front of a pattern. -/
def searchGrowth (d : Direction) (p : Pattern) : Growth :=
  if p.isAnchored d then .states 1 else .inOrder [.states 3, .ways 16]

/-- The whole graph for a pattern. -/
def totalGrowth (d : Direction) (p : Pattern) : Growth :=
  let body := p.growth d
  let kept := match d with
    | .forwards => body.remembered
    | .backwards => body
  .inOrder [p.searchGrowth d, kept, .link, .state 0]

/-- The size of the whole graph, as far as it is made: no more is added to one that is too large. -/
def totalBytes (d : Direction) (p : Pattern) : Nat := ((p.totalGrowth d).run .empty).bytes

end ByteMachine.Text.Pattern
