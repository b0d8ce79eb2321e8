import ByteMachine.Text.Pattern.Basic

/-!
# What stretches begin with

The openings of a pattern are the bytes that a stretch which matches may begin with. They are listed
as long as there are not too many of them, and each is listed only up to some length; an opening is
whole if the stretch is over with it. If all openings are whole, the pattern stands for a few texts,
which are looked for one by one, and no graph of states is needed.

To look for texts it is enough to look for short openings of them, if these are telling. Then texts
that are longer are not whole any more, and a graph has to tell the rest. That is so

* if all of them begin with one to three bytes that are the same, the first of them rare;
* if all of them begin with more than four bytes that are the same, or with more than one while they
  are many;
* if they are more than ten, unless an opening that is left has one or two bytes only, or more than
  64 are left.
-/

namespace ByteMachine.Text.Pattern

/-- What a stretch begins with. -/
structure Opening where
  bytes : List UInt8
  /-- The stretch is over with these bytes. -/
  isWhole : Bool
deriving DecidableEq

namespace Opening

/-- An opening of at most `n` bytes. -/
def cut (n : Nat) (o : Opening) : Opening :=
  if o.bytes.length ≤ n then o else ⟨o.bytes.take n, false⟩

/-- An opening behind which the stretch may go on. -/
def unfinished (o : Opening) : Opening := { o with isWhole := false }

/-- An opening and those that follow if it is whole. -/
def followed (o : Opening) (next : List Opening) : List Opening :=
  if o.isWhole then next.map fun p => ⟨o.bytes ++ p.bytes, p.isWhole⟩ else [o]

/-- Merges an opening with equal ones that come next. -/
def mergeFrom (o : Opening) : List Opening → List Opening
  | [] => [o]
  | p :: ps =>
    if p.bytes = o.bytes then mergeFrom ⟨o.bytes, o.isWhole && p.isWhole⟩ ps
    else o :: mergeFrom p ps

/-- Merges equal openings side by side. -/
def merge : List Opening → List Opening
  | [] => []
  | o :: os => mergeFrom o os

end Opening

/-- The openings of a pattern, unless they are too many to be listed. -/
abbrev Openings := Option (List Opening)

namespace Openings

/-- How many openings are listed. -/
def mostListed : Nat := 250

/-- How long an opening is listed. -/
def longestListed : Nat := 100

/-- How many characters of a set are listed, and how many times a repetition is. -/
def mostTimes : Nat := 10

/-- The stretch begins with nothing in particular and is over. -/
def start : Openings := some [⟨[], true⟩]

/-- Whether it makes no difference what follows. -/
def areUnfinished (os : Openings) : Bool := os.all (·.all (!·.isWhole))

/-- The openings, behind which the stretch may go on. -/
def unfinished (os : Openings) : Openings := os.map (·.map .unfinished)

/-- The openings if it is not listed what follows. -/
def beforeAll (os : List Opening) : Openings :=
  if os.any (·.bytes.isEmpty) then none else some (os.map .unfinished)

/-- The openings of one stretch and then another. -/
def andThen (s t : Openings) : Openings := do
  let os ← s
  let joined ←
    match t with
    | none => beforeAll os
    | some ps =>
      if mostListed < os.length * ps.length then beforeAll os
      else some (Opening.merge (os.flatMap (·.followed ps)))
  return joined.map (.cut longestListed)

/-- The openings of either of two stretches. If they are too many, they are cut short. -/
def beside (s t : Openings) : Openings := do
  let os ← s
  let ps ← t
  if os.length + ps.length ≤ mostListed then return Opening.merge (os ++ ps)
  let os := Opening.merge (os.map (.cut 4))
  let ps := Opening.merge (ps.map (.cut 4))
  if os.length + ps.length ≤ mostListed then return Opening.merge (os ++ ps)
  none

/-- The openings of a stretch and then up to `n` others. -/
def andThenTimes (next : Openings) : (n : Nat) → Openings → Openings
  | 0, s => s
  | n + 1, s => if s.areUnfinished then s else andThenTimes next n (s.andThen next)

/-- The openings of a repetition. -/
def times (s : Openings) (least : Nat) (most : Option Nat) (isLazy : Bool) : Openings :=
  match least, most with
  | 0, _ =>
    let s := if most = some 1 then s else s.unfinished
    if isLazy then start.beside s else s.beside start
  | _, none => s.unfinished
  | least, some most =>
    let repeated := andThenTimes s (min least mostTimes) start
    if least = most ∧ least ≤ mostTimes then repeated else repeated.unfinished

end Openings

mutual

/-- The openings of a pattern. -/
def openings : Pattern → Openings
  | empty | assertion _ => .start
  | text cs => some [.cut Openings.longestListed ⟨cs.flatMap String.utf8EncodeChar, true⟩]
  | one s _ =>
    if Openings.mostTimes < s.size then none
    else some (s.codes.map fun n => ⟨String.utf8EncodeChar (.ofNat n), true⟩)
  | seq ps => openingsOfAll .start ps
  | either ps => openingsOfAny (some []) ps
  | times p least most isLazy => p.openings.times least most isLazy
  | group _ p => p.openings

/-- The openings of a stretch and then of several patterns. -/
def openingsOfAll (s : Openings) : List Pattern → Openings
  | [] => s
  | p :: ps => if s.areUnfinished then s else openingsOfAll (s.andThen p.openings) ps

/-- The openings of a stretch and of several patterns beside it. -/
def openingsOfAny (s : Openings) : List Pattern → Openings
  | [] => s
  | p :: ps => if s.isNone then s else openingsOfAny (s.beside p.openings) ps

end

/-! ## Looking for openings -/

namespace Opening

/-- Whether a byte is found in few texts. The letters, digits and signs that are usual in texts are
not rare, nor are the bytes of characters beyond ASCII. -/
def isRareByte (b : UInt8) : Bool :=
  b < 0x80 && !("\n\r (),-./0129:_abcdefghilmnoprstuvxy|".toList.any (·.toNat == b.toNat))

/-- Openings without those that an earlier one makes needless. -/
def withoutNeedless (os : List Opening) : List Opening :=
  os.foldl (fun kept o => if kept.any (·.bytes.isPrefixOf o.bytes) then kept else kept ++ [o]) []

/-- What two lists begin with. -/
def commonStart : List UInt8 → List UInt8 → List UInt8
  | b :: bs, c :: cs => if b = c then b :: commonStart bs cs else []
  | _, _ => []

/-- What all openings begin with. -/
def sharedStart : List Opening → List UInt8
  | [] => []
  | o :: os => os.foldl (fun start o => commonStart start o.bytes) o.bytes

/-- Cuts openings shorter and shorter as long as they are too many; each step has a length and how
many openings need not be cut to it. -/
def shortened (os : List Opening) : (steps : List (Nat × Nat)) → List Opening
  | [] => os
  | (n, most) :: steps =>
    if os.length ≤ most then os else shortened (withoutNeedless (os.map (.cut n))) steps

/-- Whether openings are still whole if they are cut short where that helps to find them. -/
def stayWhole (os : List Opening) : Bool :=
  let kept := withoutNeedless os
  let shared := sharedStart kept
  if 1 < os.length && shared.length ≤ 3 && shared.head?.any isRareByte then
    kept.all fun o => (o.cut 1).isWhole
  else
    let areFew := kept.length ≤ 16 && kept.all (·.isWhole)
    let kept :=
      if 4 < shared.length || (1 < shared.length && !areFew) then
        merge (kept.map (.cut shared.length))
      else kept
    let short := shortened kept [(5, 10), (4, 10), (3, 64), (2, 64), (1, 10)]
    let helps := short.length ≤ 64 && short.all (2 < ·.bytes.length)
    short.all (·.isWhole) || (kept.all (·.isWhole) && !helps)

end Opening

/-- Whether the openings of a pattern are all it takes to find a stretch that matches. -/
def openingsSuffice (p : Pattern) : Bool :=
  match p.openings.map Opening.merge with
  | none => false
  | some os => !os.isEmpty && os.all (!·.bytes.isEmpty) && Opening.stayWhole os

/-- Whether a pattern stands for texts that are looked for one by one. -/
def isListed (p : Pattern) : Bool := p.isPlain && p.openingsSuffice

end ByteMachine.Text.Pattern
