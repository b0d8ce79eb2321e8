import ByteMachine.Text.Hex
import ByteMachine.Text.Pattern.Cursor
import ByteMachine.Text.Pattern.Syntax

/-!
# Escapes in patterns

A backslash takes the meaning of a sign away or gives a letter one:

* `\d`, `\s`, `\w` are digits, blanks and the characters of words, and the capital letters all
  others; `\p` and `\P` go by the name of a property.
* `\x`, `\u` and `\U` are followed by two, four or eight hexadecimal digits, or by any number of
  them in braces.
* `\a`, `\f`, `\n`, `\r`, `\t` and `\v` are control characters.
* `\A` and `\z` are the ends of the text, `\b`, `\B`, `\<` and `\>` go by the edges of words, and so
  does `\b` with a name in braces.
-/

namespace ByteMachine.Text.Pattern

/-! ## What letters and names mean -/

/-- The ASCII digits. -/
def digits : CharSet := .range '0' '9'

/-- The ASCII blanks. -/
def asciiBlanks : CharSet := ⟨[(9, 13), (32, 32)]⟩

/-- The ASCII characters of words. -/
def wordChars : CharSet := ⟨[(0x30, 0x39), (0x41, 0x5A), (0x5F, 0x5F), (0x61, 0x7A)]⟩

/-- The characters that a letter behind a backslash stands for, and whether all others are meant. -/
def letterSet? : Char → Option (CharSet × Bool)
  | 'd' => some (digits, false)
  | 'D' => some (digits, true)
  | 's' => some (asciiBlanks, false)
  | 'S' => some (asciiBlanks, true)
  | 'w' => some (wordChars, false)
  | 'W' => some (wordChars, true)
  | _ => none

/-- The mark that a letter or a sign behind a backslash is. -/
def markOf? : Char → Option Mark
  | 'A' => some .textStart
  | 'z' => some .textEnd
  | 'b' => some (.word .edge)
  | 'B' => some (.word .noEdge)
  | '<' => some (.word .start)
  | '>' => some (.word .stop)
  | _ => none

/-- The edge of words with this name. -/
def wordEdgeOf? (name : List Char) : Option WordEdge :=
  match String.ofList name with
  | "start" => some .start
  | "end" => some .stop
  | "start-half" => some .startHalf
  | "end-half" => some .stopHalf
  | _ => none

/-- Whether a character may stand in the name of an edge of words. -/
def isEdgeNameChar (c : Char) : Bool := c.isAlpha || c == '-'

/-- Whether a sign stands for itself behind a backslash. -/
def isPlainSign (c : Char) : Bool := c.toNat < 0x80 && !c.isAlphanum && c != '<' && c != '>'

/-- The character that a letter or a sign behind a backslash stands for. -/
def characterOf? : Char → Option Char
  | 'a' => some '\x07'
  | 'f' => some '\x0c'
  | 'n' => some '\n'
  | 'r' => some '\r'
  | 't' => some '\t'
  | 'v' => some '\x0b'
  | c => if isPlainSign c then some c else none

/-! ## Characters by number -/

/-- Whether a character is a hexadecimal digit. -/
def isHexDigit (c : Char) : Bool := (Hex.digitValue? c).isSome

/-- The value of hexadecimal digits. -/
def hexValue (ds : List Char) : Nat :=
  ds.foldl (fun n d => 16 * n + (Hex.digitValue? d).getD 0) 0

/-- The character with this number. -/
def characterOfCode? (n : Nat) : Option Char := if n.isValidChar then some (Char.ofNat n) else none

/-- Reads exactly `n` hexadecimal digits. -/
def readHexDigits : (n : Nat) → Reader (List Char)
  | 0 => return []
  | n + 1 => do
    match ← Reader.next? with
    | none => Reader.failHere .unfinishedEscape
    | some c =>
      if isHexDigit c then
        let _ ← Reader.advance
        return c :: (← readHexDigits n)
      else Reader.failAt .badHexDigit c

/-- The literal with this number, read from `start` on; its digits stand in `span`. -/
def literalOfDigits (start : Position) (ds : List Char) (span : Span) ( isByte : Bool) :
    Reader Tree := do
  match characterOfCode? (hexValue ds) with
  | some c => return .literal ⟨c, ⟨start, ← Reader.here⟩, isByte⟩
  | none => Reader.fail .badHex span

/-- Reads hexadecimal digits in braces. -/
def readBracedHex (start : Position) : Reader Tree := do
  let brace ← Reader.here
  let _ ← Reader.advance
  let ds ← Reader.readWhile isHexDigit
  match ← Reader.next? with
  | none => Reader.failSince .unfinishedEscape brace
  | some '\x7d' =>
    let stop ← Reader.here
    let _ ← Reader.advance
    if ds = [] then Reader.failSince .emptyHex brace
    else literalOfDigits start ds ⟨brace.past '\x7b', stop⟩ false
  | some c => Reader.failAt .badHexDigit c

/-- Reads a character by its number, with the cursor at the letter. -/
def readHex (start : Position) (count : Nat) ( isByte : Bool) : Reader Tree := do
  match ← Reader.advance with
  | none => Reader.failHere .unfinishedEscape
  | some '\x7b' => readBracedHex start
  | some _ =>
    let first ← Reader.here
    let ds ← readHexDigits count
    literalOfDigits start ds ⟨first, ← Reader.here⟩ isByte

/-! ## Properties and the edges of words -/

/-- Reads the name of a property, with the cursor at the letter. -/
def readProperty (start : Position) : Reader Tree := do
  match ← Reader.advance with
  | none => Reader.failHere .unfinishedEscape
  | some '\x7b' =>
    let _ ← Reader.advance
    let name ← Reader.readWhile (· != '\x7d')
    if (← Reader.next?).isNone then Reader.failHere .unfinishedEscape
    Reader.move
    return .property ⟨start, ← Reader.here⟩ name
  | some c =>
    if c = '\\' then Reader.failAt .badProperty c
    let _ ← Reader.advance
    return .property ⟨start, ← Reader.here⟩ [c]

/-- Reads the name of an edge of words in braces, if there is one; a count may stand in braces
too. -/
def readEdgeName? (start : Position) : Reader (Option WordEdge) := do
  let before ← get
  let brace ← Reader.here
  match ← Reader.advance with
  | none => Reader.failSince .unclosedWordEdgeOrCount start
  | some c =>
    if isEdgeNameChar c then
      let first ← Reader.here
      let name ← Reader.readWhile isEdgeNameChar
      if (← Reader.next?) ≠ some '\x7d' then Reader.failSince .unclosedWordEdge brace
      let stop ← Reader.here
      Reader.move
      match wordEdgeOf? name with
      | some e => return some e
      | none => Reader.fail .unknownWordEdge ⟨first, stop⟩
    else
      set before
      return none

/-- The mark that has just been read; the edge of words may have its name behind it. -/
def readMark (start : Position) (m : Mark) : Reader Tree := do
  let mut m := m
  if m = .word .edge ∧ (← Reader.next?) = some '\x7b' then
    if let some e ← readEdgeName? start then m := .word e
  return .mark ⟨start, ← Reader.here⟩ m

/-! ## The escape -/

/-- Reads an escape, with the cursor at the backslash. -/
def readEscape : Reader Tree := do
  let start ← Reader.here
  Reader.move
  match ← Reader.next? with
  | none => Reader.failSince .unfinishedEscape start
  | some 'x' => readHex start 2 true
  | some 'u' => readHex start 4 false
  | some 'U' => readHex start 8 false
  | some 'p' => readProperty start
  | some 'P' => readProperty start
  | some c =>
    Reader.move
    let span := ⟨start, ← Reader.here⟩
    if c.isDigit then Reader.fail .backReference span
    else if let some (s, negated) := letterSet? c then return .letter span s negated
    else if let some m := markOf? c then readMark start m
    else if let some d := characterOf? c then return .literal ⟨d, span, false⟩
    else Reader.fail .unknownEscape span

end ByteMachine.Text.Pattern
