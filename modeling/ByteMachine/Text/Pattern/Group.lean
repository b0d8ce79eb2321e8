import ByteMachine.Text.Pattern.Alphabetic
import ByteMachine.Text.Pattern.Cursor
import ByteMachine.Text.Pattern.Syntax

/-!
# The start of a group

A group is remembered if it starts with the bare parenthesis or with a name, `(?<name>` or
`(?P<name>`. With `(?flags:` it is not, and the flags are in force in it; a minus sign turns those
behind it off. `(?flags)` is no group but sets flags from there on.

A name is a letter or an underscore and then letters, digits, underscores, points and brackets, and
no two groups have the same name.
-/

namespace ByteMachine.Text.Pattern

/-- What a parenthesis begins. -/
inductive GroupStart
  /-- It sets flags from here on. -/
  | flags (changes : FlagChanges)
  /-- It begins a group. -/
  | group (remembered : Bool) (changes : FlagChanges)
deriving DecidableEq

/-! ## Names -/

/-- Whether a character may stand in a name, at its beginning or later. -/
def isNameChar ( isFirst : Bool) (c : Char) : Bool :=
  c == '_' || isAlphabetic c || (!isFirst && (isNumeric c || c == '.' || c == '[' || c == ']'))

/-- Reads the characters of a name, at most `most` of them. -/
def readNameChars ( isFirst : Bool) : (most : Nat) → Reader (List Char)
  | 0 => return []
  | most + 1 => do
    match ← Reader.next? with
    | none => Reader.failHere .groupNameWithoutEnd
    | some c =>
      if c = '>' then return []
      else if isNameChar isFirst c then
        Reader.move
        return c :: (← readNameChars false most)
      else Reader.failAt .badGroupName c

/-- Reads the name of a group, of at most `most` characters, and the sign behind it. -/
def readName (most : Nat) : Reader Unit := do
  let start ← Reader.here
  let name ← readNameChars true most
  let span := ⟨start, ← Reader.here⟩
  Reader.move
  if name = [] then Reader.fail .emptyGroupName (.empty start)
  match (← get).names.lookup name with
  | some earlier => throw ⟨.duplicateGroupName, span, some earlier⟩
  | none => modify fun c => { c with names := (name, span) :: c.names }

/-! ## Flags -/

/-- Flags as they are read: with their places, the latest first, and with the place of the minus
sign if there has been one. -/
structure ReadFlags where
  flags : List ((Flag × Bool) × Span)
  minus : Option Span
  /-- The minus sign was read last. -/
  isDangling : Bool

/-- Reads flags up to a closing parenthesis or a colon, which is not read. -/
def readFlags : (fuel : Nat) → ReadFlags → Reader FlagChanges
  | 0, _ => Reader.failHere .flagsWithoutEnd
  | fuel + 1, seen => do
    match ← Reader.next? with
    | none => Reader.failHere .flagsWithoutEnd
    | some c =>
      let span := Span.character (← Reader.here) c
      if c = ':' ∨ c = ')' then
        match seen.minus with
        | some minus => if seen.isDangling then Reader.fail .danglingNegation minus
        | none => pure ()
        return (seen.flags.map (·.1)).reverse
      else if c = '-' then
        if let some minus := seen.minus then throw ⟨.repeatedNegation, span, some minus⟩
        Reader.move
        readFlags fuel { seen with minus := some span, isDangling := true }
      else
        match Flag.ofChar? c with
        | none => Reader.fail .unknownFlag span
        | some f =>
          if let some (_, earlier) := seen.flags.find? (·.1.1 == f) then
            throw ⟨.duplicateFlag, span, some earlier⟩
          Reader.move
          let item := ((f, seen.minus.isNone), span)
          readFlags fuel { seen with flags := item :: seen.flags, isDangling := false }

/-! ## The start -/

/-- Reads what a parenthesis begins, with the cursor at the parenthesis. Every name and every flag
takes a character at least, so `fuel` need not exceed the number of characters by more than one. -/
def readGroupStart (fuel : Nat) : Reader GroupStart := do
  let start ← Reader.here
  Reader.move
  Reader.skip
  match (← get).rest with
  | '?' :: '=' :: _ | '?' :: '!' :: _ =>
    Reader.moves 2
    Reader.failSince .lookAround start
  | '?' :: '<' :: '=' :: _ | '?' :: '<' :: '!' :: _ =>
    Reader.moves 3
    Reader.failSince .lookAround start
  | '?' :: 'P' :: '<' :: _ =>
    Reader.moves 3
    readName fuel
    return .group true []
  | '?' :: '<' :: _ =>
    Reader.moves 2
    readName fuel
    return .group true []
  | '?' :: rest =>
    let sign ← Reader.here
    Reader.move
    if rest.isEmpty then Reader.fail .unclosedGroup (.character start '(')
    let changes ← readFlags fuel ⟨[], none, false⟩
    if (← Reader.next?) = some ')' then
      if changes = [] then Reader.fail .nothingToRepeat (.empty sign)
      Reader.move
      return .flags changes
    Reader.move
    return .group false changes
  | _ => return .group true []

end ByteMachine.Text.Pattern
