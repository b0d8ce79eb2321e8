import ByteMachine.Image.Load
import Mathlib.Data.List.Induction

/-!
# What loading a text does

Loading reads a text line by line. A line that cannot be read ends it, and so does a byte for which
there is no cell left. Whichever of the two comes first decides about the result, and the bytes
before it stay in memory.

* `Image.alone l` is what a line holds, by what loading it alone does; `Reading.loaded` is the
  effect of such a loading on any machine.
* `Image.bytesOf rs` lists the bytes of lines that read as `rs`.
* `Image.Stops rs before result` says that loading lines which read as `rs` stops behind `before`
  with the result.

Results:
* `load_line`, `alone_eq_read`: a line alone is read like a line of a text.
* `loadLines_append`: loading goes on behind lines that can be read and fit.
* `exists_stops`, `loadText_of_stops`: loading always stops somewhere, and there decides everything.
* `result_and_memory_of_load`: the results one by one, and the machine behind the loading.
-/

namespace ByteMachine.Image

/-- The byte that a line holds, if any. -/
def Reading.byte? : Reading → Option UInt8
  | byte v => some v
  | _ => none

/-- What loading a single line that reads so does to a machine. -/
def Reading.loaded (r : Reading) (m : Machine) : Except LoadError Nat × Machine :=
  match r with
  | skipped => (.ok 0, m)
  | byte v => (.ok 1, m.write 0 v)
  | malformed => (.error (.invalidLiteral 1), m)

/-- What a line holds, by what loading it alone does. -/
def alone (l : List Char) : Reading :=
  match Machine.initial.load l with
  | (.ok 0, _) => .skipped
  | (.ok _, m) => .byte (m.read 0)
  | (.error _, _) => .malformed

/-- The bytes of lines, in order. -/
def bytesOf (rs : List Reading) : List UInt8 := rs.filterMap Reading.byte?

/-- Loading lines that read as the first list stops behind the lines of the second, with the
result. -/
inductive Stops : List Reading → List Reading → Except LoadError Nat → Prop
  /-- At a line that cannot be read. -/
  | malformed {before after : List Reading} (hgood : .malformed ∉ before)
      (hfits : (bytesOf before).length ≤ 256) :
      Stops (before ++ .malformed :: after) before (.error (.invalidLiteral (before.length + 1)))
  /-- At a byte for which there is no cell. -/
  | tooLarge {before after : List Reading} {v : UInt8} (hgood : .malformed ∉ before)
      (hfull : (bytesOf before).length = 256) :
      Stops (before ++ .byte v :: after) before (.error .tooLarge)
  /-- Behind the last line. -/
  | all {rs : List Reading} (hgood : .malformed ∉ rs) (hfits : (bytesOf rs).length ≤ 256) :
      Stops rs rs (.ok (bytesOf rs).length)

variable {rs before : List Reading} {result : Except LoadError Nat}

/-! ## A line alone -/

theorem load_line {l : List Char} (h : '\n' ∉ l) (m : Machine) :
    m.load l = (Line.read l).loaded m := by
  have hloads : loadText l m.memory = loadLines 1 0 m.memory [l] := by
    cases l with
    | nil => rfl
    | cons c cs => rw [loadText, Text.lines_of_not_mem h (List.cons_ne_nil c cs)]
  rw [Machine.load, hloads, loadLines]
  cases Line.read l <;> rfl

/-- **A line alone is read like a line of a text.** -/
theorem alone_eq_read {l : List Char} (h : '\n' ∉ l) : alone l = Line.read l := by
  rw [alone, load_line h]
  cases Line.read l with
  | byte v => simp [Reading.loaded]
  | _ => rfl

/-! ## Lines that can be read and fit -/

/-- **Loading goes on behind lines that can be read and fit.** -/
theorem loadLines_append {ls : List (List Char)} (hgood : .malformed ∉ ls.map Line.read)
    {count : Nat} (hfits : count + (bytesOf (ls.map Line.read)).length ≤ 256) (line : Nat)
    (m : Memory) (rest : List (List Char)) :
    loadLines line count m (ls ++ rest) =
      loadLines (line + ls.length) (count + (bytesOf (ls.map Line.read)).length)
        (m.storeFrom count (bytesOf (ls.map Line.read))) rest := by
  induction ls generalizing line count m with
  | nil => rfl
  | cons l ls ih =>
    rw [List.map_cons, List.mem_cons, not_or] at hgood
    rw [List.cons_append, loadLines, List.map_cons, List.length_cons, Nat.add_comm ls.length,
      ← Nat.add_assoc]
    cases hl : Line.read l with
    | malformed => exact absurd hl.symm hgood.1
    | skipped =>
      rw [List.map_cons, hl] at hfits
      exact ih hgood.2 hfits (line + 1) m
    | byte v =>
      have hbytes : bytesOf (.byte v :: ls.map Line.read) = v :: bytesOf (ls.map Line.read) := rfl
      rw [List.map_cons, hl, hbytes, List.length_cons] at hfits
      have hroom : count < Memory.size := by
        rw [Memory.size]
        omega
      simp only [if_pos hroom]
      rw [ih hgood.2 (by omega) (line + 1), hbytes, List.length_cons, Nat.add_assoc count,
        Nat.add_comm 1]
      rfl

/-! ## Where loading stops -/

theorem Stops.length_le (h : Stops rs before result) : (bytesOf before).length ≤ 256 := by
  cases h with
  | malformed _ hfits => exact hfits
  | tooLarge _ hfull => exact Nat.le_of_eq hfull
  | all _ hfits => exact hfits

/-- More lines behind the stop do not matter. -/
theorem Stops.append {e : LoadError} (h : Stops rs before (.error e)) (more : List Reading) :
    Stops (rs ++ more) before (.error e) := by
  cases h with
  | malformed hgood hfits =>
    rw [List.append_assoc]
    exact .malformed hgood hfits
  | tooLarge hgood hfull =>
    rw [List.append_assoc]
    exact .tooLarge hgood hfull

theorem bytesOf_append (rs rs' : List Reading) : bytesOf (rs ++ rs') = bytesOf rs ++ bytesOf rs' :=
  List.filterMap_append

/-- **Loading always stops somewhere.** The induction is on the lines from the last one back: an
error stays where it is, and only behind lines that all have been loaded the last one decides. -/
theorem exists_stops (rs : List Reading) : ∃ before result, Stops rs before result := by
  induction rs using List.reverseRecOn with
  | nil => exact ⟨[], _, .all List.not_mem_nil (Nat.zero_le 256)⟩
  | append_singleton rs r ih =>
    obtain ⟨before, result, h⟩ := ih
    cases result with
    | error e => exact ⟨before, _, h.append [r]⟩
    | ok n =>
      cases h with
      | all hgood hfits =>
        cases r with
        | malformed => exact ⟨rs, _, .malformed hgood hfits⟩
        | skipped =>
          have hbytes : bytesOf (rs ++ [.skipped]) = bytesOf rs := by
            rw [bytesOf_append]
            exact List.append_nil _
          exact ⟨_, _, .all (by simpa using hgood) (hbytes ▸ hfits)⟩
        | byte v =>
          rcases Nat.lt_or_eq_of_le hfits with hlt | hfull
          · refine ⟨_, _, .all (by simpa using hgood) ?_⟩
            rw [bytesOf_append, List.length_append]
            exact hlt
          · exact ⟨rs, _, .tooLarge hgood hfull⟩

theorem stops_invalidLiteral_iff {i : Nat} :
    (∃ before, Stops rs before (.error (.invalidLiteral i))) ↔
      ∃ before after, rs = before ++ .malformed :: after ∧ .malformed ∉ before ∧
        (bytesOf before).length ≤ 256 ∧ i = before.length + 1 := by
  constructor
  · rintro ⟨before, h⟩
    cases h with
    | malformed hgood hfits => exact ⟨_, _, rfl, hgood, hfits, rfl⟩
  · rintro ⟨before, after, rfl, hgood, hfits, rfl⟩
    exact ⟨before, .malformed hgood hfits⟩

theorem stops_tooLarge_iff :
    (∃ before, Stops rs before (.error .tooLarge)) ↔
      ∃ before v after, rs = before ++ .byte v :: after ∧ .malformed ∉ before ∧
        (bytesOf before).length = 256 := by
  constructor
  · rintro ⟨before, h⟩
    cases h with
    | tooLarge hgood hfull => exact ⟨_, _, _, rfl, hgood, hfull⟩
  · rintro ⟨before, v, after, rfl, hgood, hfull⟩
    exact ⟨before, .tooLarge hgood hfull⟩

theorem stops_ok_iff {n : Nat} :
    (∃ before, Stops rs before (.ok n)) ↔
      .malformed ∉ rs ∧ (bytesOf rs).length = n ∧ n ≤ 256 := by
  constructor
  · rintro ⟨before, h⟩
    cases h with
    | all hgood hfits => exact ⟨hgood, rfl, hfits⟩
  · rintro ⟨hgood, rfl, hfits⟩
    exact ⟨rs, .all hgood hfits⟩

/-- **Where loading stops decides the result and the memory.** -/
theorem loadText_of_stops {text : List Char}
    (h : Stops ((Text.lines text).map Line.read) before result) (m : Memory) :
    loadText text m = (result, m.store (bytesOf before)) := by
  rw [loadText]
  generalize hrs : (Text.lines text).map Line.read = rs at h
  cases h with
  | malformed hgood hfits =>
    obtain ⟨ls, rest, hls, rfl, hrest⟩ := List.map_eq_append_iff.mp hrs
    obtain ⟨l, after, rfl, hl, -⟩ := List.map_eq_cons_iff.mp hrest
    rw [hls, loadLines_append hgood (by simpa using hfits), loadLines, hl, List.length_map,
      Nat.add_comm 1]
    rfl
  | tooLarge hgood hfull =>
    obtain ⟨ls, rest, hls, rfl, hrest⟩ := List.map_eq_append_iff.mp hrs
    obtain ⟨l, after, rfl, hl, -⟩ := List.map_eq_cons_iff.mp hrest
    rw [hls, loadLines_append hgood (by omega), loadLines, hl, hfull]
    rfl
  | all hgood hfits =>
    subst hrs
    have hall := loadLines_append hgood (show 0 + _ ≤ 256 by omega) 1 m []
    rw [List.append_nil] at hall
    rw [hall, loadLines, Nat.zero_add]
    rfl

/-- A result is what loading gives exactly if loading stops somewhere with it. -/
theorem load_fst_eq_iff (m : Machine) (text : List Char) :
    (m.load text).1 = result ↔
      ∃ before, Stops ((Text.lines text).map Line.read) before result := by
  have hfst : ∀ {before result}, Stops ((Text.lines text).map Line.read) before result →
      (m.load text).1 = result := by
    intro before result h
    rw [Machine.load, loadText_of_stops h]
  constructor
  · rintro rfl
    obtain ⟨before, result, h⟩ := exists_stops ((Text.lines text).map Line.read)
    exact ⟨before, (hfst h).symm ▸ h⟩
  · rintro ⟨before, h⟩
    exact hfst h

theorem map_alone_lines (text : List Char) :
    (Text.lines text).map alone = (Text.lines text).map Line.read :=
  List.map_congr_left fun _ hl => alone_eq_read (Text.not_mem_of_mem_lines hl)

/-- **The result of loading a text, and the machine behind it.** Each line is taken as what loading
it alone makes of it. A line that cannot be read gives the error, with its number, if it is the
first such line and no more than 256 bytes stand before it; the image is too large if there is a
257th byte and no such line before it; and otherwise every byte is loaded. In all cases the bytes
before the stop are in the first cells, and nothing else of the machine changes. -/
theorem result_and_memory_of_load (m : Machine) (text : List Char) :
    let rs := (Text.lines text).map alone
    (∀ l ∈ Text.lines text, ∀ n : Machine, n.load l = (alone l).loaded n) ∧
    (∀ i, (m.load text).1 = .error (.invalidLiteral i) ↔
      ∃ before after, rs = before ++ .malformed :: after ∧ .malformed ∉ before ∧
        (bytesOf before).length ≤ 256 ∧ i = before.length + 1) ∧
    ((m.load text).1 = .error .tooLarge ↔
      ∃ before v after, rs = before ++ .byte v :: after ∧ .malformed ∉ before ∧
        (bytesOf before).length = 256) ∧
    (∀ n, (m.load text).1 = .ok n ↔
      .malformed ∉ rs ∧ (bytesOf rs).length = n ∧ n ≤ 256) ∧
    ∃ before, Stops rs before (m.load text).1 ∧ (bytesOf before).length ≤ 256 ∧
      (∀ a, (m.load text).2.read a = ((bytesOf before)[a.toNat]?).getD (m.read a)) ∧
      (m.load text).2.registers = m.registers ∧ (m.load text).2.pc = m.pc ∧
      (m.load text).2.flags = m.flags ∧ (m.load text).2.running = m.running := by
  intro rs
  have hrs : rs = (Text.lines text).map Line.read := map_alone_lines text
  have hfst : ∀ result, (m.load text).1 = result ↔ ∃ before, Stops rs before result :=
    fun result => hrs ▸ load_fst_eq_iff m text
  refine ⟨fun l hl n => ?_, fun i => (hfst _).trans stops_invalidLiteral_iff,
    (hfst _).trans stops_tooLarge_iff, fun n => (hfst _).trans stops_ok_iff, ?_⟩
  · have hfeed := Text.not_mem_of_mem_lines hl
    rw [alone_eq_read hfeed, load_line hfeed]
  · obtain ⟨before, h⟩ := (hfst _).mp rfl
    have hload := loadText_of_stops (hrs ▸ h) m.memory
    refine ⟨before, h, h.length_le, fun a => ?_, rfl, rfl, rfl, rfl⟩
    rw [Machine.load, hload]
    exact Memory.get_store m.memory _ h.length_le a

end ByteMachine.Image
