import ByteMachine.Text.Lines
import ByteMachine.Text.Pattern.Position

/-!
# Flaws of patterns

What can be wrong with a text that is read as a pattern, and how it is shown: the text with marks
below the stretch that is at fault, and below an earlier one that goes with it. A text of several
lines is shown with their numbers, and a stretch over several lines is described in words.
-/

namespace ByteMachine.Text.Pattern

/-- What is wrong with a text that is read as a pattern. -/
inductive Fault
  | backReference
  | badClassEscape
  | badClassRange
  | badGroupName
  | badHex
  | badHexDigit
  | badNumber
  | badProperty
  | classRangeOfSets
  | danglingNegation
  | duplicateFlag
  | duplicateGroupName
  | emptyGroupName
  | emptyHex
  | flagsWithoutEnd
  | groupNameWithoutEnd
  | lookAround
  | noCount
  | nothingToRepeat
  | repeatedNegation
  | reversedCount
  /-- Groups or sets lie in each other to a depth of more than the limit. -/
  | tooDeep (limit : Nat)
  | unclosedClass
  | unclosedCount
  | unclosedGroup
  | unclosedWordEdge
  | unclosedWordEdgeOrCount
  | unfinishedEscape
  | unknownEscape
  | unknownFlag
  | unknownWordEdge
  | unopenedGroup
  /-- There is no table of the pairs of letters that differ in case only. -/
  | noCaseTable
  /-- There is no table of digits, of blanks or of the characters of words. -/
  | noClassTable
  /-- There is no table of this property. -/
  | noPropertyTable
  /-- There is no table of the values of this property. -/
  | noPropertyValueTable
  /-- A stretch that matches need not be well-formed. -/
  | notUtf8
  /-- A character beyond ASCII stands where bytes are meant. -/
  | notAscii
deriving DecidableEq

/-- The fault in words. -/
def Fault.words : Fault → String
  | backReference => "backreferences are not supported"
  | badClassEscape => "invalid escape sequence found in character class"
  | badClassRange => "invalid character class range, the start must be <= the end"
  | badGroupName => "invalid capture group character"
  | badHex => "hexadecimal literal is not a Unicode scalar value"
  | badHexDigit => "invalid hexadecimal digit"
  | badNumber => "decimal literal invalid"
  | badProperty => "invalid Unicode character class"
  | classRangeOfSets => "invalid range boundary, must be a literal"
  | danglingNegation => "dangling flag negation operator"
  | duplicateFlag => "duplicate flag"
  | duplicateGroupName => "duplicate capture group name"
  | emptyGroupName => "empty capture group name"
  | emptyHex => "hexadecimal literal empty"
  | flagsWithoutEnd => "expected flag but got end of regex"
  | groupNameWithoutEnd => "unclosed capture group name"
  | lookAround => "look-around, including look-ahead and look-behind, is not supported"
  | noCount => "repetition quantifier expects a valid decimal"
  | nothingToRepeat => "repetition operator missing expression"
  | repeatedNegation => "flag negation operator repeated"
  | reversedCount => "invalid repetition count range, the start must be <= the end"
  | tooDeep limit =>
    "exceed the maximum number of nested parentheses/brackets (" ++ toString limit ++ ")"
  | unclosedClass => "unclosed character class"
  | unclosedCount => "unclosed counted repetition"
  | unclosedGroup => "unclosed group"
  | unclosedWordEdge =>
    "special word boundary assertion is either unclosed or contains an invalid character"
  | unclosedWordEdgeOrCount =>
    "found either the beginning of a special word boundary or a bounded repetition on a \\b " ++
      "with an opening brace, but no closing brace"
  | unfinishedEscape => "incomplete escape sequence, reached end of pattern prematurely"
  | unknownEscape => "unrecognized escape sequence"
  | unknownFlag => "unrecognized flag"
  | unknownWordEdge =>
    "unrecognized special word boundary assertion, valid choices are: " ++
      "start, end, start-half or end-half"
  | unopenedGroup => "unopened group"
  | noCaseTable =>
    "Unicode-aware case insensitivity matching is not available " ++
      "(make sure the unicode-case feature is enabled)"
  | noClassTable =>
    "Unicode-aware Perl class not found (make sure the unicode-perl feature is enabled)"
  | noPropertyTable => "Unicode property not found"
  | noPropertyValueTable => "Unicode property value not found"
  | notUtf8 => "pattern can match invalid UTF-8"
  | notAscii => "Unicode not allowed here"

/-- A fault and where it is. -/
structure Flaw where
  fault : Fault
  span : Span
  /-- An earlier stretch that goes with the fault. -/
  earlier : Option Span
deriving DecidableEq

namespace Flaw

/-- A fault in one place. -/
def single (fault : Fault) (span : Span) : Flaw := ⟨fault, span, none⟩

/-- The stretches to mark, in the order of the text. -/
def spans (f : Flaw) : List Span := f.earlier.toList ++ [f.span]

/-! ## Showing a flaw -/

/-- Adds marks for a stretch to a row of marks. -/
def mark (row : String) (s : Span) : String :=
  (row.pushn ' ' (s.start.column - 1 - row.length)).pushn '^' s.width

/-- The row of marks below a line, if there are any. -/
def marks? (f : Flaw) (line : Nat) : Option String :=
  match f.spans.filter fun s => s.isOneLine && s.start.line == line with
  | [] => none
  | ss => some (ss.foldl mark "")

/-- What is said of a stretch over several lines. -/
def describe (s : Span) : String :=
  "on line " ++ toString s.start.line ++ " (column " ++ toString s.start.column ++
    ") through line " ++ toString s.stop.line ++ " (column " ++ toString (s.stop.column - 1) ++ ")"

/-- The lines from the given number on, each with its marks below it. -/
def shown (f : Flaw) (label : Nat → String) (margin : String) : Nat → List (List Char) → List String
  | _, [] => []
  | n, cs :: rest =>
    (label n ++ String.ofList cs) ::
      ((f.marks? n).toList.map (margin ++ ·) ++ f.shown label margin (n + 1) rest)

/-- A number with blanks in front, up to a width. -/
def padded (width n : Nat) : String :=
  "".pushn ' ' (width - (toString n).length) ++ toString n

/-- The flaw in words, with the text and marks below the place. -/
def message (f : Flaw) (text : String) : String :=
  let rows := lines text.toList
  let body :=
    if '\n' ∈ text.toList then
      let count := if text.toList.getLast? = some '\n' then rows.length + 1 else rows.length
      let width := (toString count).length
      let rule := "".pushn '~' 79
      rule :: (f.shown (fun n => padded width n ++ ": ") ("".pushn ' ' (2 + width)) 1 rows ++
        rule :: (f.spans.filter fun s => !s.isOneLine).map describe)
    else f.shown (fun _ => "    ") "    " 1 rows
  "\n".intercalate ("regex parse error:" :: (body ++ ["error: " ++ f.fault.words]))

end Flaw

end ByteMachine.Text.Pattern
