import ByteMachine.Text.Pattern.Compose
import ByteMachine.Text.Pattern.Flaw
import ByteMachine.Text.Pattern.Syntax

/-!
# What written patterns mean

The meaning of a written pattern goes by the flags that are in force. Flags that are set stay in
force up to the end of the innermost group, across alternatives too.

Characters are meant unless the flag for them is turned off. There are no tables of the cases of all
letters, of all digits, blanks and characters of words, or of properties, so what needs one has no
meaning. With the flag turned off there are only the characters of ASCII to go by, but then all
others may not be meant either: no stretch may end within a character.
-/

namespace ByteMachine.Text.Pattern

/-! ## Sets that are put together -/

/-- A set that is being put together from members. -/
structure Gathered where
  set : CharSet
  /-- Characters are listed in it, of which the other cases are not. -/
  lacksCases : Bool

namespace Gathered

/-- Whether cases are lacking in a set that is put together from others, given whether it is
everything so far. To list all characters once more makes no difference. -/
def anyLacksCases (isFull : Bool) : List Gathered → Bool
  | [] => false
  | g :: gs =>
    (g.lacksCases && !(isFull && g.set = .everything)) ||
      anyLacksCases (isFull || g.set = .everything) gs

/-- The set that several sets are together. -/
def gather (gs : List Gathered) : Gathered :=
  ⟨.unionAll (gs.map (·.set)), anyLacksCases false gs⟩

end Gathered

/-! ## Flags -/

/-- Which flags are in force. -/
abbrev Mode := Flag → Bool

namespace Mode

/-- At first characters are meant, and no other flag is in force. -/
def initial : Mode := fun f => f == .unicode

/-- Turns flags on or off. -/
def change (mode : Mode) (changes : FlagChanges) : Mode := fun f => (changes.of? f).getD (mode f)

/-- Which line ends count. -/
def lineEnds (mode : Mode) : LineEnds := if mode .returnFeed then .returnFeed else .feed

/-! ## Sets -/

/-- A set with both cases of its letters, if that is wanted. -/
def fold (mode : Mode) (span : Span) (g : Gathered) : Except Flaw CharSet :=
  if !mode .anyCase then .ok g.set
  else if !mode .unicode then .ok g.set.bothCases
  else if g.lacksCases then .error (.single .noCaseTable span)
  else .ok g.set

/-- A set or all other characters. -/
def negate (mode : Mode) (span : Span) (negated : Bool) (s : CharSet) : Except Flaw CharSet :=
  if !negated then .ok s
  else if mode .unicode then .ok s.complement
  else .error (.single .notUtf8 span)

/-- The digits, the blanks or the characters of words. -/
def letterSet (mode : Mode) (span : Span) (ascii : CharSet) (negated : Bool) :
    Except Flaw CharSet :=
  if mode .unicode then .error (.single .noClassTable span) else mode.negate span negated ascii

/-- Why the characters with a property are not known. -/
def propertyFault (mode : Mode) (name : List Char) : Fault :=
  if !mode .unicode then .notAscii
  else
    let isPrefixed := (name.take 2).map Char.toLower = ['i', 's']
    let rest := if isPrefixed then name.drop 2 else name
    let plain := rest.filter fun c => c.toNat < 0x80 && c != ' ' && c != '_' && c != '-'
    if plain.map Char.toLower ∈ [['c', 'f'], ['s', 'c'], ['l', 'c']] then .noPropertyValueTable
    else .noPropertyTable

/-- The character that a literal stands for in a set. -/
def memberChar (mode : Mode) (l : Literal) : Except Flaw Char :=
  if mode .unicode || l.char.toNat < 0x80 then .ok l.char
  else .error (.single (if l.isByte then .notUtf8 else .notAscii) l.span)

end Mode

mutual

/-- The set that the members of a set stand for. -/
def Members.gathered (mode : Mode) : Members → Except Flaw Gathered
  | literal l => return ⟨.single (← mode.memberChar l), true⟩
  | range first last =>
    return ⟨.range (← mode.memberChar first) (← mode.memberChar last), true⟩
  | named span s negated => do
    return ⟨← mode.negate span negated (← mode.fold span ⟨s, true⟩), false⟩
  | letter span ascii negated => return ⟨← mode.letterSet span ascii negated, false⟩
  | property span name => throw (.single (mode.propertyFault name) span)
  | bracketed span negated members => do
    let s ← mode.fold span (← members.gathered mode)
    return .gather [⟨← mode.negate span negated s, false⟩]
  | union _ ms => return .gather (← Members.allGathered mode ms)
  | operation op left right => do
    let s ← left.gathered mode
    let t ← right.gathered mode
    let t ← mode.fold right.span t
    let s ← mode.fold left.span s
    return ⟨op.apply s t, false⟩

/-- The sets that several members stand for. -/
def Members.allGathered (mode : Mode) : List Members → Except Flaw (List Gathered)
  | [] => return []
  | m :: ms => return (← m.gathered mode) :: (← Members.allGathered mode ms)

end

/-! ## Patterns -/

/-- What is in force while meanings are found. -/
structure Scope where
  mode : Mode
  /-- How many groups have been remembered so far. -/
  groups : Nat

/-- At first no group has been remembered. -/
def Scope.initial : Scope := ⟨.initial, 0⟩

/-- Finds a meaning by the flags in force, and may set flags. -/
abbrev Meaning := StateT Scope (Except Flaw)

/-- The flags that are in force. -/
def Meaning.mode : Meaning Mode := return (← get).mode

/-- Sets the flags that are in force. -/
def Meaning.setMode (mode : Mode) : Meaning Unit := modify ({ · with mode })

/-- The number for one more group. -/
def Meaning.nextGroup : Meaning Nat :=
  modifyGet fun s => (s.groups + 1, { s with groups := s.groups + 1 })

/-- What sets stand for. -/
def Mode.units (mode : Mode) : Units := if mode .unicode then .characters else .bytes

/-- The pattern of a character that stands for itself. -/
def Literal.pattern (mode : Mode) (l : Literal) : Except Flaw Pattern :=
  if mode .unicode then
    if mode .anyCase then .error (.single .noCaseTable l.span) else .ok (text [l.char])
  else if l.isByte && 0x80 ≤ l.char.toNat then .error (.single .notUtf8 l.span)
  else if mode .anyCase then .ok (ofSet (CharSet.single l.char).bothCases .bytes)
  else .ok (text [l.char])

/-- The characters that the point stands for. -/
def Mode.dotSet (mode : Mode) (span : Span) : Except Flaw CharSet :=
  if !mode .unicode then .error (.single .notUtf8 span)
  else if mode .dotAll then .ok .everything
  else if mode .returnFeed then .ok (CharSet.mk [(10, 10), (13, 13)]).complement
  else .ok (CharSet.single '\n').complement

/-- The condition that a mark stands for. -/
def Mode.assertion (mode : Mode) : Mark → Assertion
  | .start => if mode .multiLine then .lineStart mode.lineEnds else .textStart
  | .stop => if mode .multiLine then .lineEnd mode.lineEnds else .textEnd
  | .textStart => .textStart
  | .textEnd => .textEnd
  | .word e => if mode .unicode then .anyWord e else .asciiWord e

mutual

/-- What a written pattern means. -/
def Tree.meaning : Tree → Meaning Pattern
  | empty _ => return .empty
  | flags _ changes => do
    Meaning.setMode ((← Meaning.mode).change changes)
    return .empty
  | literal l => do l.pattern (← Meaning.mode)
  | dot span => return ofSet (← (← Meaning.mode).dotSet span) .characters
  | mark _ m => return .assertion ((← Meaning.mode).assertion m)
  | letter span ascii negated =>
    return ofSet (← (← Meaning.mode).letterSet span ascii negated) .bytes
  | property span name => do throw (.single ((← Meaning.mode).propertyFault name) span)
  | set span negated members => do
    let mode ← Meaning.mode
    let s ← mode.fold span (← members.gathered mode)
    return ofSet (← mode.negate span negated s) mode.units
  | times _ t least most turned => do
    let p ← t.meaning
    return p.repeated least most (turned != (← Meaning.mode) .lazy)
  | group _ remembered changes t => do
    let outside ← Meaning.mode
    let index? ← if remembered then some <$> Meaning.nextGroup else pure none
    Meaning.setMode (outside.change changes)
    let p ← t.meaning
    Meaning.setMode outside
    return index?.elim p (.group · p)
  | sequence _ parts => return .all (← Tree.meanings parts)
  | alternatives _ branches => return .anyOf (← Tree.meanings branches)

/-- What several written patterns mean, one after the other. -/
def Tree.meanings : List Tree → Meaning (List Pattern)
  | [] => return []
  | t :: ts => return (← t.meaning) :: (← Tree.meanings ts)

end

end ByteMachine.Text.Pattern
