import ByteMachine.Text.Pattern.Meaning
import ByteMachine.Text.Pattern.Openings
import ByteMachine.Text.Pattern.Reader
import ByteMachine.Text.Pattern.Size

/-!
# Patterns in texts

A text is read as a pattern in three steps: it is taken apart, its parts are given their meaning,
and the size of the pattern is looked at. A text that fails in one of them is rejected. Of a pattern
that stands for a few texts only the size does not matter.

A pattern that goes by the edges of words of any characters is rejected too, for want of a table of
such characters. That is noticed after the size forwards, and before the size backwards.
-/

namespace ByteMachine.Text.Pattern

/-- Why a text is no pattern. -/
inductive Rejection
  | flaw (f : Flaw)
  /-- There is no table of the characters of words. -/
  | noWords
  | tooLarge
deriving DecidableEq

/-- The reason in words. -/
def Rejection.message (r : Rejection) (text : String) : String :=
  match r with
  | flaw f => f.message text
  | noWords => "error building NFA"
  | tooLarge => "Compiled regex exceeds size limit of " ++ toString sizeLimit ++ " bytes."

/-- Whether the size of a pattern is no obstacle in a text that is read in one direction. -/
def fits (d : Direction) (p : Pattern) : Bool := p.totalBytes d ≤ sizeLimit || p.isListed

/-- The pattern itself, unless it is too large or needs a table. -/
def checked (p : Pattern) : Except Rejection Pattern :=
  if !p.fits .forwards then .error .tooLarge
  else if p.needsWords then .error .noWords
  else if !p.fits .backwards then .error .tooLarge
  else .ok p

/-- Reads a pattern. -/
def read (text : List Char) : Except Rejection Pattern :=
  match Tree.read text with
  | .error f => .error (.flaw f)
  | .ok tree =>
    match tree.meaning.run .initial with
    | .error f => .error (.flaw f)
    | .ok (p, _) => p.checked

end ByteMachine.Text.Pattern
