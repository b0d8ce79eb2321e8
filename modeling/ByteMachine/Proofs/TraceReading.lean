import ByteMachine.Proofs.Execution
import ByteMachine.Proofs.Faults

/-!
# Reading a trace

A trace line has every field at a place of its own, so the fields can be read back, and two lines
are equal exactly if they show the same snapshot. A run shows a snapshot before each instruction
that begins, and what the instruction does beyond the machine can be read off this snapshot: what it
hands over to the device, and the fault it fails with. So the lines of a run are enough to tell what
the device gets and how the run ends.

* `Snapshot.Field` are the fields of a line, with their places and their values; `Field.read?` reads
  a field of a line.
* `Snapshot.delivery?` is what the instruction of a snapshot hands over, and `Snapshot.fault?` is
  its fault.
* `Snapshot.Tell xs e ds` says that a run with the snapshots `xs` hands over `ds` and ends in `e`.
* `System.traced n s` is a run of at most `n` instructions that collects its lines, and
  `System.observation n s` is what there is to observe of it.

Results:
* `read?_render`, `render_injective`: the fields of a line, and that nothing else is in it.
* `delivery_callAt`, `fault?_snapshot_eq_some_iff`: what a step does, told by the snapshot.
* `Ends.tell`, `Tell.unique`: what a whole run does, told by its snapshots.
* `lines_tell_run`: both together, for the lines.
-/

namespace ByteMachine

/-! ## Fields of a line -/

namespace Text.Hex

/-- The byte whose two digits stand at a place of a text. -/
def byteAt? (place : Nat) (cs : List Char) : Option UInt8 :=
  match cs.drop place with
  | hi :: lo :: _ => ofDigits? hi lo
  | _ => none

theorem byteAt?_upper (b : UInt8) (cs : List Char) : byteAt? 0 (upper b ++ cs) = some b :=
  ofDigits?_upper b

theorem byteAt?_append (front : List Char) (place : Nat) (cs : List Char) :
    byteAt? (front.length + place) (front ++ cs) = byteAt? place cs := by
  unfold byteAt?
  rw [List.drop_length_add_append]

end Text.Hex

namespace Snapshot

open Text.Hex (byteAt? byteAt?_upper byteAt?_append)

/-- The fields of a trace line, from left to right:

```text
TRACE: PC | IR A  B  | R0 R1 R2 R3 R4 R5 R6 R7
       7    12 15 18   23 26 29 32 35 38 41 44
``` -/
inductive Field
  | pc
  | opcode
  | first
  | second
  | register (i : Fin 8)
deriving DecidableEq

namespace Field

/-- The place at which the two digits of the field begin. -/
def place : Field → Nat
  | pc => 7
  | opcode => 12
  | first => 15
  | second => 18
  | register i => 23 + 3 * i

/-- The byte that a line shows in the field. -/
def read? (f : Field) (line : String) : Option UInt8 := byteAt? f.place line.toList

/-- The byte that a snapshot has in the field. -/
def value (f : Field) (x : Snapshot) : UInt8 :=
  match f with
  | pc => x.pc
  | opcode => x.fetched.opcode
  | first => x.fetched.first
  | second => x.fetched.second
  | register i => x.registers.cells.get i

end Field

theorem fields_cons_cons (v w : UInt8) (vs : List UInt8) :
    fields (v :: w :: vs) = Text.Hex.upper v ++ [' '] ++ fields (w :: vs) :=
  List.intercalate_cons_cons

/-- In a row of fields, each one begins three places behind the one before. -/
theorem byteAt?_fields {vs : List UInt8} {i : Nat} {v : UInt8} (h : vs[i]? = some v)
    (cs : List Char) : byteAt? (3 * i) (fields vs ++ cs) = some v := by
  induction vs generalizing i with
  | nil => cases h
  | cons w vs ih =>
    cases i with
    | zero =>
      obtain rfl : w = v := Option.some.inj h
      cases vs with
      | nil => exact byteAt?_upper w cs
      | cons w' vs =>
        rw [fields_cons_cons, List.append_assoc, List.append_assoc]
        exact byteAt?_upper w _
    | succ i =>
      cases vs with
      | nil => cases h
      | cons w' vs =>
        have hplace : (Text.Hex.upper w ++ [' ']).length + 3 * i = 3 * (i + 1) :=
          Nat.add_comm 3 (3 * i)
        rw [fields_cons_cons, List.append_assoc, ← hplace, byteAt?_append]
        exact ih h

theorem byteAt?_of_fields {cs front back : List Char} {vs : List UInt8} {i place : Nat} {v : UInt8}
    (h : front ++ (fields vs ++ back) = cs) (hplace : front.length + 3 * i = place)
    (hv : vs[i]? = some v) : byteAt? place cs = some v := by
  rw [← h, ← hplace, byteAt?_append, byteAt?_fields hv]

/-- **Every field is read back from its place.** -/
theorem read?_render (f : Field) (x : Snapshot) : f.read? x.render = some (f.value x) := by
  -- a line has three rows of fields; `front` is what stands before the first one, and so on
  let bar := " | ".toList
  let fetched := fields [x.fetched.opcode, x.fetched.first, x.fetched.second]
  let front := "TRACE: ".toList
  let front' := front ++ fields [x.pc] ++ bar
  let front'' := front' ++ fetched ++ bar
  have hpc : front ++ (fields [x.pc] ++ (bar ++ fetched ++ bar ++ fields x.registers.toList)) =
      x.chars := by
    unfold chars
    simp only [List.append_assoc, front, bar, fetched]
  have hfetched : front' ++ (fetched ++ (bar ++ fields x.registers.toList)) = x.chars := by
    unfold chars
    simp only [List.append_assoc, front', front, bar, fetched]
  have hregisters : front'' ++ (fields x.registers.toList ++ []) = x.chars := by
    rw [List.append_nil]
    rfl
  unfold Field.read?
  rw [toList_render]
  cases f with
  | pc => exact byteAt?_of_fields (i := 0) hpc rfl rfl
  | opcode => exact byteAt?_of_fields (i := 0) hfetched rfl rfl
  | first => exact byteAt?_of_fields (i := 1) hfetched rfl rfl
  | second => exact byteAt?_of_fields (i := 2) hfetched rfl rfl
  | register i =>
    have hi : x.registers.toList[i.val]? = some (x.registers.cells.get i) := by
      unfold Registers.toList
      rw [List.getElem?_eq_getElem (by simp), Vector.getElem_toList]
      rfl
    exact byteAt?_of_fields hregisters rfl hi

example :
    (Field.register 7).read? "TRACE: 03 | 01 00 00 | 0A 00 00 00 00 00 00 F4" = some 0xF4 := by
  decide

/-- A snapshot is known by its fields. -/
theorem ext_value {x y : Snapshot} (h : ∀ f : Field, f.value x = f.value y) : x = y := by
  obtain ⟨pc, ⟨opcode, first, second⟩, registers⟩ := x
  obtain ⟨pc', ⟨opcode', first', second'⟩, registers'⟩ := y
  obtain rfl : pc = pc' := h .pc
  obtain rfl : opcode = opcode' := h .opcode
  obtain rfl : first = first' := h .first
  obtain rfl : second = second' := h .second
  obtain rfl : registers = registers' :=
    Registers.ext_get fun r => h (.register (Registers.slot r))
  rfl

/-- **A line shows one snapshot only.** -/
theorem render_injective {x y : Snapshot} (h : x.render = y.render) : x = y := by
  refine ext_value fun f => ?_
  have hx := read?_render f x
  rw [h, read?_render] at hx
  exact (Option.some.inj hx).symm

end Snapshot

namespace Machine

theorem snapshot_eq_iff {m n : Machine} : m.snapshot = n.snapshot ↔
    m.pc = n.pc ∧ m.read m.pc = n.read n.pc ∧ m.read (m.pc + 1) = n.read (n.pc + 1) ∧
      m.read (m.pc + 2) = n.read (n.pc + 2) ∧ ∀ r, m.reg r = n.reg r := by
  constructor
  · intro h
    have hfetch : m.fetch = n.fetch := congrArg Snapshot.fetched h
    have hregisters : m.registers = n.registers := congrArg Snapshot.registers h
    exact ⟨congrArg Snapshot.pc h, congrArg Fetch.opcode hfetch, congrArg Fetch.first hfetch,
      congrArg Fetch.second hfetch, fun r => congrArg (Registers.get · r) hregisters⟩
  · rintro ⟨hpc, hopcode, hfirst, hsecond, hreg⟩
    have hregisters : m.registers = n.registers := Registers.ext_get hreg
    unfold snapshot fetch
    rw [hopcode, hfirst, hsecond, hpc, hregisters]

/-- **Two machines have one trace line exactly if they have one snapshot.** -/
theorem trace_eq_iff {m n : Machine} : m.trace = n.trace ↔ m.snapshot = n.snapshot :=
  ⟨Snapshot.render_injective, congrArg Snapshot.render⟩

end Machine

namespace Snapshot

/-! ## What an instruction does, told by its snapshot -/

/-- What the instruction of the snapshot hands over to the device. -/
def delivery? (x : Snapshot) : Option Delivery :=
  if x.fetched.opcode = Opcode.prn.byte then some (.print (x.registers.get x.fetched.first))
  else if x.fetched.opcode = Opcode.hlt.byte then some .halt
  else none

/-- The fault of the snapshot, if there is no instruction in it. -/
def fault? (x : Snapshot) : Option Fault :=
  match Opcode.ofByte? x.fetched.opcode with
  | none => some (.unknownOpcode x.fetched.opcode x.pc)
  | some _ => none

theorem delivery?_eq_halt_iff {x : Snapshot} :
    x.delivery? = some .halt ↔ x.fetched.opcode = Opcode.hlt.byte := by
  unfold delivery?
  by_cases hprn : x.fetched.opcode = Opcode.prn.byte
  · have hne : Opcode.prn.byte ≠ Opcode.hlt.byte := by decide
    simp [hprn, hne]
  · rw [if_neg hprn]
    by_cases hhlt : x.fetched.opcode = Opcode.hlt.byte
    · simp [hhlt]
    · simp [hhlt]

theorem fault?_eq_some_iff {x : Snapshot} {f : Fault} : x.fault? = some f ↔
    (∀ op : Opcode, x.fetched.opcode ≠ op.byte) ∧
      f = .unknownOpcode x.fetched.opcode x.pc := by
  unfold fault?
  rw [← Opcode.ofByte?_eq_none_iff]
  cases Opcode.ofByte? x.fetched.opcode with
  | none => simp [eq_comm]
  | some op => simp

end Snapshot

/-- The value that is handed over to be printed. -/
def Delivery.value? : Delivery → Option UInt8
  | print v => some v
  | halt => none

namespace System

open Snapshot

variable {δ : Type} [Device δ] {s t : System δ} {e : Ending} {k n : Nat} {f : Fault}

/-- **A step hands over what its snapshot says.** -/
theorem delivery_callAt (s : System δ) (k : Nat) :
    (s.callAt k).map Call.delivery = (s.after k).machine.snapshot.delivery? := by
  let m := (s.after k).machine
  have hexecuted : s.executed k = m.memory.instruction? m.pc := rfl
  have hopcode : m.snapshot.fetched.opcode = m.read m.pc := rfl
  unfold callAt delivery?
  rw [hexecuted, hopcode, Memory.instruction?_eq_map]
  cases h : Opcode.ofByte? (m.memory.get m.pc) with
  | none =>
    have hunknown : ∀ op : Opcode, m.read m.pc ≠ op.byte := Opcode.ofByte?_eq_none_iff.mp h
    rw [if_neg (hunknown .prn), if_neg (hunknown .hlt)]
    rfl
  | some op =>
    have hbyte : m.read m.pc = op.byte := Opcode.ofByte?_eq_some_iff.mp h
    rw [hbyte]
    cases op <;> rfl

/-- **A step fails with the fault of its snapshot.** -/
theorem fault?_snapshot_eq_some_iff : s.machine.snapshot.fault? = some f ↔ s.step.1 = .error f := by
  rw [step_fst_eq_error_iff, fault?_eq_some_iff]
  exact ⟨fun ⟨hunknown, hnamed⟩ => ⟨hunknown, hnamed⟩, fun h => ⟨h.unknown, h.named⟩⟩

/-! ## What a run does, told by its snapshots -/

/-- The snapshots of the machines before the first `k` steps. -/
def snapshots (s : System δ) (k : Nat) : List Snapshot := (s.machines k).map Machine.snapshot

theorem mem_snapshots {x : Snapshot} :
    x ∈ s.snapshots k ↔ ∃ j < k, (s.after j).machine.snapshot = x := by
  simp [snapshots, machines]

theorem getLast?_snapshots_succ (s : System δ) (k : Nat) :
    (s.snapshots (k + 1)).getLast? = some (s.after k).machine.snapshot := by
  unfold snapshots
  rw [machines_add, List.map_append]
  exact List.getLast?_concat

theorem deliveries_calls (s : System δ) (k : Nat) :
    (s.calls k).map Call.delivery = (s.snapshots k).filterMap delivery? := by
  unfold calls snapshots machines
  rw [List.map_filterMap, List.map_map, List.filterMap_map]
  congr 1
  funext j
  exact s.delivery_callAt j

end System

/-- Snapshots tell how a run ends and what it hands over to the device: they are enough to find this
out. -/
structure Snapshot.Tell (xs : List Snapshot) (e : Ending) (ds : List Delivery) : Prop where
  /-- The instructions hand over what their snapshots say, one after the other. -/
  delivered : ds = xs.filterMap delivery?
  /-- The device is told of a halt exactly if the last instruction is one. -/
  halted : .halt ∈ ds ↔ ∃ x, xs.getLast? = some x ∧ x.fetched.opcode = Opcode.hlt.byte
  /-- The run ends with a fault exactly if the last instruction has it. -/
  failed : ∀ f, e = .fault f ↔ ∃ x, xs.getLast? = some x ∧ x.fault? = some f

namespace System

open Snapshot

variable {δ : Type} [Device δ] {s t : System δ} {e : Ending} {k n : Nat} {f : Fault} {x : Snapshot}

/-- An instruction that begins and fails makes no call. -/
theorem Ends.calls_begun (h : s.Ends k e t) : s.calls (e.begun k) = s.calls k := by
  cases h with
  | stopped => rfl
  | limit => rfl
  | fault _ _ hf =>
    have hnone : s.executed k = none := by
      cases hi : s.executed k with
      | none => rfl
      | some i =>
        rw [step_fst_ok_iff.mpr ⟨i, hi⟩] at hf
        cases hf
    unfold Ending.begun
    rw [calls_succ, callAt_of_not_executed hnone]
    exact List.append_nil _

/-- Turns do not fail. -/
theorem Turns.fault?_ne (h : s.Turns k) (hx : x ∈ s.snapshots k) : x.fault? ≠ some f := by
  intro hfault
  obtain ⟨j, hj, rfl⟩ := mem_snapshots.mp hx
  have hok := (h j hj).2
  rw [fault?_snapshot_eq_some_iff.mp hfault] at hok
  cases hok

/-- **A run ends with a fault exactly if its last snapshot has one.** -/
theorem Ends.fault_iff_last (h : s.Ends k e t) : e = .fault f ↔
    ∃ x, (s.snapshots (e.begun k)).getLast? = some x ∧ x.fault? = some f := by
  cases h with
  | stopped hturns =>
    exact ⟨nofun, fun ⟨x, hx, hfault⟩ =>
      absurd hfault (hturns.fault?_ne (List.mem_of_getLast? hx))⟩
  | limit hturns =>
    exact ⟨nofun, fun ⟨x, hx, hfault⟩ =>
      absurd hfault (hturns.fault?_ne (List.mem_of_getLast? hx))⟩
  | fault _ _ hf =>
    have hlast := fault?_snapshot_eq_some_iff.mpr hf
    unfold Ending.begun
    rw [getLast?_snapshots_succ]
    constructor
    · rintro ⟨⟩
      exact ⟨_, rfl, hlast⟩
    · rintro ⟨x, ⟨⟩, hx⟩
      rw [Option.some.inj (hlast.symm.trans hx)]

/-- **Nothing begins behind a halt.** -/
theorem Ends.last_of_hlt (h : s.Ends k e t) (hx : x ∈ s.snapshots (e.begun k))
    (hhlt : x.fetched.opcode = Opcode.hlt.byte) :
    (s.snapshots (e.begun k)).getLast? = some x := by
  obtain ⟨j, hj, rfl⟩ := mem_snapshots.mp hx
  have hexecuted : s.executed j = some .hlt := Memory.instruction?_of_byte hhlt
  have hstop : (s.after (j + 1)).machine.running = false := by
    rw [after_succ_of_executed hexecuted]
    rfl
  -- the machine is running before each instruction that begins, so there is none behind this one
  have hbegun : e.begun k = j + 1 := by
    refine Nat.le_antisymm (Nat.le_of_not_lt fun hlt => ?_) hj
    rw [h.running_of_lt_begun hlt] at hstop
    cases hstop
  rw [hbegun]
  exact getLast?_snapshots_succ s j

/-- **A run does what its snapshots tell.** -/
theorem Ends.tell (h : s.Ends k e t) :
    Tell (s.snapshots (e.begun k)) e ((s.calls k).map Call.delivery) := by
  have hdelivered : (s.calls k).map Call.delivery =
      (s.snapshots (e.begun k)).filterMap delivery? := by
    rw [← h.calls_begun, deliveries_calls]
  refine ⟨hdelivered, ?_, fun f => h.fault_iff_last⟩
  rw [hdelivered, List.mem_filterMap]
  constructor
  · rintro ⟨x, hx, hdelivery⟩
    have hhlt := delivery?_eq_halt_iff.mp hdelivery
    exact ⟨x, h.last_of_hlt hx hhlt, hhlt⟩
  · rintro ⟨x, hx, hhlt⟩
    exact ⟨x, List.mem_of_getLast? hx, delivery?_eq_halt_iff.mpr hhlt⟩

end System

namespace Snapshot

variable {xs : List Snapshot} {e e' : Ending} {ds ds' : List Delivery}

/-- **The snapshots tell one thing only.** -/
theorem Tell.unique (h : Tell xs e ds) (h' : Tell xs e' ds') :
    ds' = ds ∧ (e ≠ .limit → e' ≠ .limit → e' = e) := by
  refine ⟨h'.delivered.trans h.delivered.symm, fun he he' => ?_⟩
  have hfault : ∀ f, e' = .fault f ↔ e = .fault f := fun f => (h'.failed f).trans (h.failed f).symm
  cases e with
  | limit => exact absurd rfl he
  | fault f => exact (hfault f).mpr rfl
  | stopped =>
    cases e' with
    | limit => exact absurd rfl he'
    | fault f => exact ((hfault f).mp rfl).symm
    | stopped => rfl

/-! ## Lines -/

/-- The byte that a line shows in the register that its first operand names. -/
def named? (line : String) : Option UInt8 :=
  (Field.first.read? line).bind fun a => (Field.register (Registers.slot a)).read? line

theorem named?_render (x : Snapshot) :
    named? x.render = some (x.registers.get x.fetched.first) := by
  unfold named?
  rw [read?_render, Option.bind_some, read?_render]
  rfl

theorem value?_delivery? (x : Snapshot) :
    x.delivery?.bind Delivery.value? =
      if x.fetched.opcode = Opcode.prn.byte then some (x.registers.get x.fetched.first)
      else none := by
  unfold delivery?
  by_cases hprn : x.fetched.opcode = Opcode.prn.byte
  · rw [if_pos hprn, if_pos hprn]
    rfl
  · rw [if_neg hprn, if_neg hprn]
    split <;> rfl

/-- The lines of prints show the values that are printed, and no other line does. -/
theorem Tell.values (h : Tell xs e ds) : (ds.filterMap Delivery.value?).map some =
    ((xs.map render).filter fun l => Field.opcode.read? l = some Opcode.prn.byte).map named? := by
  have hvalues : ds.filterMap Delivery.value? =
      (xs.filter fun x => decide (x.fetched.opcode = Opcode.prn.byte)).map
        fun x => x.registers.get x.fetched.first := by
    rw [h.delivered, List.filterMap_filterMap, funext value?_delivery?, ← List.filterMap_eq_map,
      List.filterMap_filter]
    simp only [decide_eq_true_eq, Function.comp_apply]
  have hprints : (fun l => decide (Field.opcode.read? l = some Opcode.prn.byte)) ∘ render =
      fun x : Snapshot => decide (x.fetched.opcode = Opcode.prn.byte) := by
    funext x
    simp [read?_render, Field.value]
  have hnamed : named? ∘ render = some ∘ fun x => x.registers.get x.fetched.first := by
    funext x
    rw [Function.comp_apply, named?_render]
    rfl
  rw [hvalues, List.filter_map, hprints, List.map_map, List.map_map, hnamed]

theorem getLast?_lines {line : String} :
    (xs.map render).getLast? = some line ↔ ∃ x, xs.getLast? = some x ∧ x.render = line := by
  rw [List.getLast?_map, Option.map_eq_some_iff]

/-- The device is told of a halt exactly if the last line shows one. -/
theorem Tell.halt_iff (h : Tell xs e ds) : .halt ∈ ds ↔ ∃ line,
    (xs.map render).getLast? = some line ∧ Field.opcode.read? line = some Opcode.hlt.byte := by
  rw [h.halted]
  constructor
  · rintro ⟨x, hx, hhlt⟩
    exact ⟨_, getLast?_lines.mpr ⟨x, hx, rfl⟩, (read?_render _ x).trans (congrArg some hhlt)⟩
  · rintro ⟨line, hline, hhlt⟩
    obtain ⟨x, hx, rfl⟩ := getLast?_lines.mp hline
    rw [read?_render] at hhlt
    exact ⟨x, hx, Option.some.inj hhlt⟩

/-- The run ends with a fault exactly if the last line shows a byte that is no opcode's, and the
fault names this byte and its address. -/
theorem Tell.fault_iff (h : Tell xs e ds) (f : Fault) : e = .fault f ↔ ∃ line ir pc,
    (xs.map render).getLast? = some line ∧ Field.opcode.read? line = some ir ∧
      Field.pc.read? line = some pc ∧ (∀ op : Opcode, ir ≠ op.byte) ∧
      f = .unknownOpcode ir pc := by
  rw [h.failed]
  constructor
  · rintro ⟨x, hx, hfault⟩
    obtain ⟨hunknown, hnamed⟩ := fault?_eq_some_iff.mp hfault
    exact ⟨_, _, _, getLast?_lines.mpr ⟨x, hx, rfl⟩, read?_render _ x, read?_render _ x, hunknown,
      hnamed⟩
  · rintro ⟨line, ir, pc, hline, hir, hpc, hunknown, hnamed⟩
    obtain ⟨x, hx, rfl⟩ := getLast?_lines.mp hline
    rw [read?_render] at hir hpc
    cases hir
    cases hpc
    exact ⟨x, hx, fault?_eq_some_iff.mpr ⟨hunknown, hnamed⟩⟩

end Snapshot

namespace System

open Snapshot

variable {δ : Type} [Device δ] {s t : System δ} {e : Ending} {k n : Nat}

/-- Runs the machine for at most `n` instructions and collects its trace line before each of them:
how the run ends, where it leads, and the lines. -/
def traced (n : Nat) (s : System δ) : Ending × System δ × List String :=
  let r := s.runWith (fun m lines => lines ++ [m.trace]) n []
  (r.1, r.2.map Watched.device, r.2.device.seen)

/-- What there is to observe of such a run: how it ends, the lines, and what is handed over to the
device, which records its calls for this. -/
def observation (n : Nat) (s : System δ) : Ending × List String × List Delivery :=
  let r := s.recorded.traced n
  (r.1, r.2.2, r.2.1.device.calls.toList.map Call.delivery)

theorem foldl_trace (ms : List Machine) :
    ms.foldl (fun lines m => lines ++ [m.trace]) [] = (ms.map Machine.snapshot).map render := by
  rw [List.foldl_append_eq_append, List.nil_append, ← List.flatMap_def, ← List.map_eq_flatMap,
    List.map_map]
  rfl

theorem traced_eq_iff {lines : List String} : s.traced n = (e, t, lines) ↔
    ∃ k, s.start.Ends k e t ∧ e.Allows n k ∧
      lines = (s.start.snapshots (e.begun k)).map render := by
  unfold traced
  rw [runWith_parts_eq_iff]
  simp only [foldl_trace]
  rfl

/-- Every run collects its lines, and the bound that it needs is no matter. -/
theorem runsTo_iff_traced : s.RunsTo (fun _ d => d) e t ↔
    e ≠ .limit ∧ ∃ n lines, s.traced n = (e, t, lines) := by
  rw [runsTo_iff_ends]
  refine and_congr_right fun he => ⟨fun ⟨k, hends⟩ => ?_, fun ⟨n, lines, htraced⟩ => ?_⟩
  · have hallows : e.Allows (e.begun k) k := (Ending.allows_iff he).mpr (Nat.le_refl _)
    exact ⟨_, _, traced_eq_iff.mpr ⟨k, hends, hallows, rfl⟩⟩
  · obtain ⟨k, hends, -, -⟩ := traced_eq_iff.mp htraced
    exact ⟨k, hends⟩

theorem snapshots_recorded (s : System δ) (k : Nat) : s.recorded.snapshots k = s.snapshots k := by
  unfold snapshots machines
  simp only [after_recorded]

/-- The recording device does not change what is observed. -/
theorem observation_of_ends (h : s.start.Ends k e t) (hn : e.Allows n k) :
    s.observation n =
      (e, (s.start.snapshots (e.begun k)).map render, (s.start.calls k).map Call.delivery) := by
  have hstart : s.recorded.start = s.start.recorded := rfl
  have htraced : s.recorded.traced n = (e, ⟨t.machine, ⟨t.device, (s.start.calls k).toArray⟩⟩,
      (s.start.snapshots (e.begun k)).map render) := by
    refine traced_eq_iff.mpr ⟨k, h.recorded, hn, ?_⟩
    rw [hstart, snapshots_recorded]
  unfold observation
  rw [htraced]

/-- **Whatever is observed of a run is told by its snapshots.** -/
theorem exists_tell {lines : List String} {ds : List Delivery}
    (h : s.observation n = (e, lines, ds)) :
    ∃ xs t, lines = xs.map render ∧ Tell xs e ds ∧ s.traced n = (e, t, lines) := by
  -- the run without the recording device has an end, and this is what is observed of it
  obtain ⟨hends, hallows⟩ := ends_turns n s.start
  rw [observation_of_ends hends hallows] at h
  cases h
  exact ⟨_, _, rfl, hends.tell, traced_eq_iff.mpr ⟨_, hends, hallows, rfl⟩⟩

/-- **Trace lines tell the run.** Two machines have one trace line exactly if they agree in the
program counter, the three bytes there and all registers, and every field of a line can be read back
from its place.

A run that collects the line of its machine before each instruction goes the way of every run. The
lines alone tell what it does, whatever the device: the values that are handed over to be printed
are, in order, those of the registers that the lines of prints name; the device is told of a halt
exactly if the last line shows one; and the run ends with a fault exactly if the last line shows a
byte that no opcode has, and the fault names this byte and its address. So runs with the same lines,
of whatever machines on whatever devices, hand over the same, and if they come to their ends, these
are the same. -/
theorem lines_tell_run :
    (∀ m n : Machine, m.trace = n.trace ↔
      m.pc = n.pc ∧ m.read m.pc = n.read n.pc ∧ m.read (m.pc + 1) = n.read (n.pc + 1) ∧
        m.read (m.pc + 2) = n.read (n.pc + 2) ∧ ∀ r, m.reg r = n.reg r) ∧
    (∀ (m : Machine) (f : Field), f.read? m.trace = some (f.value m.snapshot)) ∧
    ∀ {δ : Type} [Device δ] (s : System δ),
      (∀ e t, s.RunsTo (fun _ d => d) e t ↔ e ≠ .limit ∧ ∃ n lines, s.traced n = (e, t, lines)) ∧
      ∀ (n : Nat) (e : Ending) (lines : List String) (ds : List Delivery),
        s.observation n = (e, lines, ds) →
        (∃ t, s.traced n = (e, t, lines)) ∧
        (ds.filterMap Delivery.value?).map some =
          (lines.filter fun line => Field.opcode.read? line = some 0x47).map named? ∧
        (.halt ∈ ds ↔
          ∃ line, lines.getLast? = some line ∧ Field.opcode.read? line = some 0x01) ∧
        (∀ f, e = .fault f ↔ ∃ line ir pc, lines.getLast? = some line ∧
          Field.opcode.read? line = some ir ∧ Field.pc.read? line = some pc ∧
          (∀ op : Opcode, ir ≠ op.byte) ∧ f = .unknownOpcode ir pc) ∧
        ∀ {ε : Type} [Device ε] (t : System ε) (n' : Nat) (e' : Ending) (ds' : List Delivery),
          t.observation n' = (e', lines, ds') →
          ds' = ds ∧ (e ≠ .limit → e' ≠ .limit → e' = e) := by
  refine ⟨fun m n => Machine.trace_eq_iff.trans Machine.snapshot_eq_iff,
    fun m f => read?_render f m.snapshot, ?_⟩
  intro δ _ s
  refine ⟨fun e t => runsTo_iff_traced, fun n e lines ds h => ?_⟩
  obtain ⟨xs, u, rfl, htell, htraced⟩ := exists_tell h
  refine ⟨⟨u, htraced⟩, htell.values, htell.halt_iff, htell.fault_iff, ?_⟩
  intro ε _ t n' e' ds' h'
  -- equal lines are lines of equal snapshots
  obtain ⟨ys, -, hlines, htell', -⟩ := exists_tell h'
  obtain rfl : xs = ys := (List.map_inj_right fun _ _ => render_injective).mp hlines
  exact htell.unique htell'

/-- The machine of `twoPrints` with a byte and flags that no line shows. -/
def twoPrintsMarked : System Quota :=
  { twoPrints with machine := (twoPrints.machine.write 200 9).alu .cmp 0 0 }

/-- The lines tell that the values of both prints are handed over and that there is no halt, and
they tell it for both machines. -/
theorem lines_tell_run_twoPrints :
    ∃ lines ds ds', twoPrints.observation 3 = (.stopped, lines, ds) ∧
      twoPrintsMarked.observation 4 = (.stopped, lines, ds') ∧ ds' = ds ∧ .halt ∉ ds ∧
      (ds.filterMap Delivery.value?).map some = [some 65, some 244] := by
  have hstopped : (twoPrints.observation 3).1 = .stopped := by decide +kernel
  have hstopped' : (twoPrintsMarked.observation 4).1 = .stopped := by decide +kernel
  have hlines : (twoPrintsMarked.observation 4).2.1 = (twoPrints.observation 3).2.1 := by
    decide +kernel
  have hlast : (twoPrints.observation 3).2.1.getLast?.bind Field.opcode.read? = some 0x47 := by
    decide +kernel
  have hnamed : ((twoPrints.observation 3).2.1.filter
      fun line => Field.opcode.read? line = some 0x47).map named? = [some 65, some 244] := by
    decide +kernel
  generalize hplain : twoPrints.observation 3 = r at hstopped hlines hlast hnamed
  generalize hmarked : twoPrintsMarked.observation 4 = r' at hstopped' hlines
  obtain ⟨e, lines, ds⟩ := r
  obtain ⟨e', lines', ds'⟩ := r'
  obtain rfl : e = .stopped := hstopped
  obtain rfl : e' = .stopped := hstopped'
  obtain rfl : lines' = lines := hlines
  obtain ⟨-, -, hrun⟩ := lines_tell_run
  obtain ⟨-, hvalues, hhalt, -, hsame⟩ := (hrun twoPrints).2 3 _ _ _ hplain
  refine ⟨_, _, _, rfl, rfl, (hsame twoPrintsMarked 4 _ _ hmarked).1, ?_, hvalues.trans hnamed⟩
  rw [hhalt]
  rintro ⟨line, hline, hhlt⟩
  rw [hline, Option.bind_some, hhlt] at hlast
  exact absurd hlast (by decide)

end System

end ByteMachine
