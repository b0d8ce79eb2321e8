import ByteMachine.Text.Pattern.Basic

/-!
# Searching with patterns

A pattern occurs in a text if it matches some stretch of it.

A set of places in a text is a number: its binary digits tell which places are in it, the lowest
digit for the place in front of the text. `Pattern.step` leads from the places where stretches begin
to those where they may end if they match. It goes by whole sets: a character moves the places that
it stands behind on by one, an assertion keeps those where it holds, and a repetition goes on until
it leads nowhere new.
-/

namespace ByteMachine.Text

/-- The places of a text, given the character before it. -/
def placesBehind (before : Option Char) : List Char → List Place
  | [] => [⟨before, none⟩]
  | c :: cs => ⟨before, some c⟩ :: placesBehind (some c) cs

/-- The places of a text. -/
def places (text : List Char) : List Place := placesBehind none text

/-! ## Sets of places -/

/-- The set of the places that pass a test, of a few places. -/
def selectFew (test : Place → Bool) : List Place → Nat
  | [] => 0
  | p :: ps => 2 * selectFew test ps + (test p).toNat

/-- The set of the places that pass a test. It is put together from sets of 32 places each. -/
def select (test : Place → Bool) (ps : List Place) : Nat :=
  match ps with
  | [] => 0
  | p :: ps =>
    (select test ((p :: ps).drop 32) <<< 32) + selectFew test ((p :: ps).take 32)
termination_by ps.length

/-! ## Steps -/

/-- What leads from places to places. -/
structure Step where
  run : Nat → Nat
  /-- What begins at places of two sets ends where it does from one of them. -/
  run_or : ∀ s t, run (s ||| t) = run s ||| run t

namespace Step

/-- Stays where it is. -/
def stay : Step := ⟨fun s => s, fun _ _ => rfl⟩

/-- Keeps the places of a set. -/
def keep (set : Nat) : Step := ⟨(· &&& set), fun s t => Nat.and_or_distrib_right s t set⟩

/-- Moves on by one from the places of a set. -/
def move (set : Nat) : Step where
  run s := (s &&& set) <<< 1
  run_or s t := by rw [Nat.and_or_distrib_right, Nat.shiftLeft_or_distrib]

/-- One step and then another. -/
def andThen (a b : Step) : Step := ⟨fun s => b.run (a.run s), fun s t => by rw [a.run_or, b.run_or]⟩

/-- Either of two steps. -/
def beside (a b : Step) : Step where
  run s := a.run s ||| b.run s
  run_or s t := by
    rw [a.run_or, b.run_or]
    ac_rfl

/-- One step after the other. -/
def all (steps : List Step) : Step where
  run s := steps.foldl (fun s a => a.run s) s
  run_or s t := by
    induction steps generalizing s t with
    | nil => rfl
    | cons a as ih => rw [List.foldl_cons, a.run_or, ih, List.foldl_cons, List.foldl_cons]

/-- Where any of several steps leads, and what has been reached before. -/
def runAny (steps : List Step) (reached s : Nat) : Nat :=
  steps.foldl (fun r a => r ||| a.run s) reached

theorem runAny_or (steps : List Step) (q r s t : Nat) :
    runAny steps (q ||| r) (s ||| t) = runAny steps q s ||| runAny steps r t := by
  rw [runAny, runAny, runAny]
  induction steps generalizing q r with
  | nil => rfl
  | cons a as ih =>
    rw [List.foldl_cons, List.foldl_cons, List.foldl_cons, ← ih, a.run_or]
    congr 1
    ac_rfl

/-- Any of several steps. -/
def any (steps : List Step) : Step := ⟨runAny steps 0, runAny_or steps 0 0⟩

/-! ## Repeating a step -/

/-- Takes a step `n` times, or until it leads nowhere else. -/
def runTimes (a : Step) : (n : Nat) → Nat → Nat
  | 0, s => s
  | n + 1, s =>
    let t := a.run s
    if t = s then s else a.runTimes n t

theorem runTimes_of_fixed {a : Step} {s : Nat} (h : a.run s = s) (n : Nat) :
    a.runTimes n s = s := by
  cases n <;> simp [runTimes, h]

theorem runTimes_succ (a : Step) (n s : Nat) : a.runTimes (n + 1) s = a.runTimes n (a.run s) := by
  rw [runTimes]
  by_cases h : a.run s = s
  · rw [if_pos h, h, runTimes_of_fixed h]
  · rw [if_neg h]

/-- A step `n` times. -/
def exactly (a : Step) (n : Nat) : Step where
  run := a.runTimes n
  run_or s t := by
    induction n generalizing s t with
    | zero => rfl
    | succ n ih => rw [runTimes_succ, runTimes_succ, runTimes_succ, a.run_or, ih]

/-- A step at most `n` times. -/
def upTo (a : Step) (n : Nat) : Step := (stay.beside a).exactly n

/-! ## Texts -/

/-- Behind a character that passes a test. -/
def char (ps : List Place) (test : Char → Bool) : Step := move (select (·.behind.any test) ps)

/-- Behind a text, from the places of a set, if there are any. -/
def runText (ps : List Place) : List Char → Nat → Nat
  | [], s => s
  | c :: cs, s => if s = 0 then 0 else runText ps cs ((char ps (· == c)).run s)

theorem runText_zero (ps : List Place) (cs : List Char) : runText ps cs 0 = 0 := by
  cases cs <;> simp [runText]

theorem runText_cons (ps : List Place) (c : Char) (cs : List Char) (s : Nat) :
    runText ps (c :: cs) s = runText ps cs ((char ps (· == c)).run s) := by
  rw [runText]
  split
  · next h => simp [h, char, move, runText_zero]
  · rfl

/-- Behind a text. -/
def text (ps : List Place) (cs : List Char) : Step where
  run := runText ps cs
  run_or s t := by
    induction cs generalizing s t with
    | nil => rfl
    | cons c cs ih => rw [runText_cons, Step.run_or, ih, runText_cons, runText_cons]

end Step

/-! ## Patterns -/

namespace Pattern

mutual

/-- Leads from the places of a text where stretches begin to those where they may end if they match
a pattern. A repetition without an upper bound takes no more steps than there are places. -/
def step (ps : List Place) : Pattern → Step
  | empty => .stay
  | text cs => .text ps cs
  | one set _ => .char ps set.holds
  | assertion a => .keep (select a.holds ps)
  | seq qs => .all (steps ps qs)
  | either qs => .any (steps ps qs)
  | times p least most _ =>
    let a := p.step ps
    (a.exactly least).andThen (a.upTo (most.elim ps.length (· - least)))
  | group _ p => p.step ps

/-- The steps for several patterns. -/
def steps (ps : List Place) : List Pattern → List Step
  | [] => []
  | q :: qs => q.step ps :: steps ps qs

end

/-- Whether some stretch of a text matches. -/
def occursIn (p : Pattern) (text : List Char) : Bool :=
  (p.step (places text)).run (select (fun _ => true) (places text)) != 0

end Pattern

end ByteMachine.Text
