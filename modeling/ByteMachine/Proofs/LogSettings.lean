import ByteMachine.CommandLine.Log
import ByteMachine.Text.Blank

/-!
# Log settings

A log setting says which records are written: those up to a level, or for every target those up to a
level of its own. It is given as a text, which a logger is set up from. The logger is none of the
command's own parts, so what it makes of the text is not defined here. It is an assumption about the
logger, `Logger.Follows`, that it goes by the level and the target of a record alone, in the way of
`Setting.Allows`.

* `Limit` is a level, or `off`; `Directive` a limit for the targets that begin with a name.
* `Setting` is a limit, or a list of directives; the empty list is the empty text.
* `Setting.Allows s r`: the setting lets the record through. Of the directives for its target the
  one with the longest name decides, and of several with this name the last one.
* `Setting.allows` decides that.

Results:
* `deciding_eq_some_iff`: which directive decides.
* `allows_iff`: which records a setting lets through.
-/

namespace ByteMachine.CommandLine

/-! ## Limits and directives -/

/-- Up to what records are let through. -/
inductive Limit
  | off
  | upTo (l : Level)
deriving DecidableEq

namespace Limit

/-- The limit lets the records of a level through. -/
def allows : Limit → Level → Bool
  | off, _ => false
  | upTo l, k => k.rank ≤ l.rank

/-- The last level lets everything through. -/
theorem allows_trace (k : Level) : (upTo .trace).allows k = true := by
  cases k <;> rfl

/-- The word for a limit. -/
def word : Limit → String
  | off => "off"
  | upTo .error => "error"
  | upTo .warn => "warn"
  | upTo .info => "info"
  | upTo .debug => "debug"
  | upTo .trace => "trace"

end Limit

/-- A limit for the targets that begin with a name. The name has none of the signs that part a
setting, and it does not begin with a blank. -/
structure Directive where
  name : String
  limit : Limit
  separated : ∀ c ∈ name.toList, c ∉ [',', '=', '/']
  begun : ∀ c ∈ name.toList.head?, Text.isBlank c = false

namespace Directive

/-- The text of a directive. -/
def text (d : Directive) : String := d.name ++ "=" ++ d.limit.word

/-- The directive is for a target. -/
def Covers (d : Directive) (target : String) : Prop := d.name.toList <+: target.toList

instance (d : Directive) (target : String) : Decidable (d.Covers target) :=
  inferInstanceAs (Decidable (_ <+: _))

/-- The directive that decides about a target, if there is one. -/
def deciding (target : String) : List Directive → Option Directive
  | [] => none
  | d :: ds =>
    match deciding target ds with
    | none => if d.Covers target then some d else none
    | some e => if d.Covers target ∧ e.name.length < d.name.length then some d else some e

variable {target : String} {ds : List Directive} {d : Directive}

/-- The directive at a place of a list decides about a target: no directive for this target has a
longer name, and none behind it has a name as long. -/
def Decides (target : String) (front : List Directive) (d : Directive) (back : List Directive) :
    Prop :=
  d.Covers target ∧ (∀ e ∈ front, e.Covers target → e.name.length ≤ d.name.length) ∧
    ∀ e ∈ back, e.Covers target → e.name.length < d.name.length

theorem deciding_eq_none_iff : deciding target ds = none ↔ ∀ d ∈ ds, ¬d.Covers target := by
  induction ds with
  | nil => simp [deciding]
  | cons d ds ih =>
    rw [List.forall_mem_cons, ← ih, deciding]
    cases hds : deciding target ds with
    | none => simp
    | some e =>
      dsimp only
      split <;> simp

/-- The directive that has been found decides. -/
theorem exists_decides_of_deciding (h : deciding target ds = some d) :
    ∃ front back, ds = front ++ d :: back ∧ Decides target front d back := by
  induction ds generalizing d with
  | nil => cases h
  | cons e ds ih =>
    rw [deciding] at h
    cases hds : deciding target ds with
    | none =>
      have hnone := deciding_eq_none_iff.mp hds
      simp only [hds, Option.ite_none_right_eq_some, Option.some.injEq] at h
      obtain ⟨hcovers, rfl⟩ := h
      exact ⟨[], ds, rfl, hcovers, nofun, fun e he hc => absurd hc (hnone e he)⟩
    | some b =>
      obtain ⟨front, back, rfl, hcovers, hfront, hback⟩ := ih hds
      simp only [hds] at h
      by_cases hlonger : e.Covers target ∧ b.name.length < e.name.length
      · rw [if_pos hlonger] at h
        obtain rfl := Option.some.inj h
        refine ⟨[], front ++ b :: back, rfl, hlonger.1, nofun, fun c hc hctarget => ?_⟩
        rcases List.mem_append.mp hc with hc | hc
        · exact Nat.lt_of_le_of_lt (hfront c hc hctarget) hlonger.2
        · rcases List.mem_cons.mp hc with rfl | hc
          · exact hlonger.2
          · exact Nat.lt_trans (hback c hc hctarget) hlonger.2
      · rw [if_neg hlonger] at h
        obtain rfl := Option.some.inj h
        refine ⟨e :: front, back, rfl, hcovers, fun c hc hctarget => ?_, hback⟩
        rcases List.mem_cons.mp hc with rfl | hc
        · exact Nat.le_of_not_lt fun hlt => hlonger ⟨hctarget, hlt⟩
        · exact hfront c hc hctarget

/-- A directive that decides is found. -/
theorem deciding_of_decides {front back : List Directive} (h : Decides target front d back) :
    deciding target (front ++ d :: back) = some d := by
  obtain ⟨hcovers, hfront, hback⟩ := h
  induction front with
  | nil =>
    rw [List.nil_append, deciding]
    cases hds : deciding target back with
    | none => exact if_pos hcovers
    | some b =>
      obtain ⟨front', back', hsplit, hb, -⟩ := exists_decides_of_deciding hds
      have hmem : b ∈ back := by
        rw [hsplit]
        exact List.mem_append_right front' List.mem_cons_self
      exact if_pos ⟨hcovers, hback b hmem hb⟩
  | cons e front ih =>
    obtain ⟨he, hrest⟩ := List.forall_mem_cons.mp hfront
    rw [List.cons_append, deciding, ih hrest]
    exact if_neg fun hlonger => Nat.not_lt_of_le (he hlonger.1) hlonger.2

/-- **Which directive decides about a target.** -/
theorem deciding_eq_some_iff :
    deciding target ds = some d ↔
      ∃ front back, ds = front ++ d :: back ∧ Decides target front d back := by
  refine ⟨exists_decides_of_deciding, ?_⟩
  rintro ⟨front, back, rfl, h⟩
  exact deciding_of_decides h

end Directive

/-! ## Settings -/

/-- A log setting. -/
inductive Setting
  | limit (l : Limit)
  | directives (ds : List Directive)

namespace Setting

/-- The text of a setting: that of the limit, or those of the directives with commas in between. -/
def text : Setting → String
  | limit l => l.word
  | directives ds => ",".intercalate (ds.map Directive.text)

/-- The records that a setting lets through. -/
inductive Allows : Setting → Record → Prop
  | limit {l : Limit} {r : Record} (hl : l.allows r.level = true) : Allows (.limit l) r
  /-- Without any directive, errors only. -/
  | empty {r : Record} (hl : r.level = .error) : Allows (.directives []) r
  /-- The directive that decides about the target lets the level through. -/
  | directive {front back : List Directive} {d : Directive} {r : Record}
      (hd : Directive.Decides r.target front d back) (hl : d.limit.allows r.level = true) :
      Allows (.directives (front ++ d :: back)) r

/-- Whether a setting lets a record through. -/
def allows : Setting → Record → Bool
  | limit l, r => l.allows r.level
  | directives [], r => r.level = .error
  | directives (d :: ds), r =>
    (Directive.deciding r.target (d :: ds)).any (·.limit.allows r.level)

/-- **Which records a setting lets through.** -/
theorem allows_iff (s : Setting) (r : Record) : s.allows r = true ↔ s.Allows r := by
  match s with
  | limit l => exact ⟨.limit, fun h => by cases h; assumption⟩
  | directives [] =>
    rw [allows, decide_eq_true_iff]
    refine ⟨.empty, fun h => ?_⟩
    generalize hnil : Setting.directives [] = s at h
    cases h with
    | limit hl => cases hnil
    | empty hl => exact hl
    | directive hd hl => simp at hnil
  | directives (e :: ds) =>
    rw [allows, Option.any_eq_true]
    constructor
    · rintro ⟨d, hd, hl⟩
      obtain ⟨front, back, hsplit, hdecides⟩ := Directive.deciding_eq_some_iff.mp hd
      rw [hsplit]
      exact .directive hdecides hl
    · intro h
      generalize hcons : Setting.directives (e :: ds) = s at h
      cases h with
      | limit hl => cases hcons
      | empty hl => cases hcons
      | @directive front back d r hd hl =>
        obtain hsplit := Setting.directives.inj hcons
        exact ⟨d, Directive.deciding_eq_some_iff.mpr ⟨front, back, hsplit, hd⟩, hl⟩

end Setting

/-- **What is assumed of a logger** that has been set up from the text of a setting. It has nothing
to complain about; it drops the records that the setting does not let through, and writes every
other record as a line. -/
structure Logger.Follows (g : Logger) (line : Record → String) (s : Setting) : Prop where
  opening : g.opening = []
  passes : ∀ r, g.passes r = s.allows r
  line : g.line = line

end ByteMachine.CommandLine
