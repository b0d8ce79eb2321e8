import ByteMachine.Monitor
import ByteMachine.Proofs.Calls
import ByteMachine.Proofs.Console.Delivery

/-!
# Console output

The ideal output of a console has one line for every PRN and one for every HLT that the machine
executes. A stream with a limit holds the front part of it, whatever becomes of the single lines:
cut off at the limit, refused while an error is pending, or refused again after a check.

* `Call.line` is the line of a call.
* `Console.Delivers` is the invariant of a console, stated against all bytes that it was to write.
* `Monitor.sessionCalls` lists the calls of a session of commands.

Results:
* `Delivers.writeLine`: one line more, and when it is taken.
* `tracks_serves`: what a console delivers of the calls made to it.
* `device_perform`: what every call keeps, every command of a monitor keeps.
* `Alongside.session`: checks and changes of the stream make no difference to the machine.
* `output_eq_take_ideal`: the output of a whole session.
-/

namespace ByteMachine

/-- The line that a console writes for the call. -/
def Call.line : Call → List UInt8
  | print _ v _ => Console.lineBytes (Console.decimal v)
  | halt _ => Console.lineBytes Console.farewell

namespace Stream

/-- How many of `n` bytes a stream of the given limit has room for behind `m` others. -/
def roomBehind (limit : Option Nat) (m n : Nat) : Nat :=
  capped n (limit.map (· - capped m limit))

/-- What is kept of a list is what is kept of its front and what there is room for behind it. -/
theorem take_capped_append (as bs : List UInt8) (limit : Option Nat) :
    (as ++ bs).take (capped (as ++ bs).length limit) =
      as.take (capped as.length limit) ++ bs.take (roomBehind limit as.length bs.length) := by
  unfold roomBehind
  cases limit with
  | none => simp only [capped, Option.map_none, List.take_length]
  | some l =>
    have hfront : as.take (min (as.length + bs.length) l) = as.take (min as.length l) := by
      rw [List.take_eq_take_iff]
      omega
    have hback : min (as.length + bs.length) l - as.length =
        min bs.length (l - min as.length l) := by omega
    simp only [capped, Option.map_some, List.length_append, List.take_append, hfront, hback]

/-- There is room for some bytes exactly if they fit together with those before them. -/
theorem roomBehind_eq_iff (limit : Option Nat) (m : Nat) {n : Nat} (hn : 0 < n) :
    roomBehind limit m n = n ↔ ∀ l ∈ limit, m + n ≤ l := by
  unfold roomBehind
  cases limit with
  | none => simp [capped]
  | some l =>
    simp only [capped, Option.map_some, Option.mem_def, Option.some.injEq, forall_eq']
    omega

/-- Behind bytes that do not all fit there is no room. -/
theorem roomBehind_of_full {limit : Option Nat} {m : Nat} (h : ¬∀ l ∈ limit, m ≤ l) (n : Nat) :
    roomBehind limit m n = 0 := by
  unfold roomBehind
  cases limit with
  | none => exact absurd nofun h
  | some l =>
    simp only [capped, Option.map_some, Option.mem_def, Option.some.injEq, forall_eq'] at h ⊢
    omega

end Stream

namespace Console

/-- What a console has delivered of the bytes `ideal` that it was to write: its stream holds as many
of them as its limit allows, and an error is pending only if not all of them fit. -/
structure Delivers (limit : Option Nat) (ideal : List UInt8) (c : Console Stream) : Prop where
  limit_eq : c.sink.limit = limit
  chunk_ne : c.sink.chunk ≠ some 0
  received : c.sink.received.toList = ideal.take (Stream.capped ideal.length limit)
  pending : c.pending ≠ none → ¬∀ l ∈ limit, ideal.length ≤ l

variable {limit : Option Nat} {ideal : List UInt8} {c : Console Stream}

theorem Delivers.room (h : Delivers limit ideal c) (n : Nat) :
    c.sink.room n = Stream.roomBehind limit ideal.length n := by
  have hsize : c.sink.received.size = Stream.capped ideal.length limit := by
    rw [← Array.length_toList, h.received, List.length_take]
    exact Nat.min_eq_left (Stream.capped_le _ _)
  rw [Stream.room, h.limit_eq, hsize, Stream.roomBehind]

/-- **A console delivers one line more**, and takes the line exactly if all of it fits. -/
theorem Delivers.writeLine (h : Delivers limit ideal c) (line : String) :
    Delivers limit (ideal ++ lineBytes line) (c.writeLine line).2 ∧
      ((c.writeLine line).1 = true ↔ ∀ l ∈ limit, (ideal ++ lineBytes line).length ≤ l) := by
  have hroom := h.room (lineBytes line).length
  have hfits := Stream.roomBehind_eq_iff limit ideal.length (length_lineBytes_pos line)
  have htake := Stream.take_capped_append ideal (lineBytes line) limit
  rw [← List.length_append] at hfits
  generalize Stream.roomBehind limit ideal.length (lineBytes line).length = n at hroom hfits htake
  rw [← hfits]
  cases hp : c.pending with
  | some e =>
    -- the bytes before the line do not fit, let alone the line
    have hbefore := h.pending (by simp [hp])
    obtain rfl : n = 0 := by rw [← hroom, h.room, Stream.roomBehind_of_full hbefore]
    have hfull : 0 ≠ (lineBytes line).length := Nat.ne_of_lt (length_lineBytes_pos line)
    rw [writeLine_of_pending hp]
    refine ⟨⟨h.limit_eq, h.chunk_ne, ?_, fun _ hall => hfull (hfits.mpr hall)⟩, ?_⟩
    · rw [htake, List.take_zero, List.append_nil, h.received]
    · exact ⟨nofun, fun heq => absurd heq hfull⟩
  | none =>
    have hwrite := Stream.writeAll_eq h.chunk_ne (lineBytes line)
    rw [hroom] at hwrite
    have hreceived : (c.sink.put ((lineBytes line).take n)).received.toList =
        (ideal ++ lineBytes line).take (Stream.capped (ideal ++ lineBytes line).length limit) := by
      rw [Stream.toList_received_put, h.received, htake]
    by_cases hall : n = (lineBytes line).length
    · rw [if_pos hall] at hwrite
      rw [writeLine_of_ok hp hwrite]
      exact ⟨⟨h.limit_eq, h.chunk_ne, hreceived, fun hne => absurd hp hne⟩,
        fun _ => hall, fun _ => rfl⟩
    · rw [if_neg hall] at hwrite
      rw [writeLine_of_error hp hwrite]
      exact ⟨⟨h.limit_eq, h.chunk_ne, hreceived, fun _ hfit => hall (hfits.mpr hfit)⟩,
        nofun, fun heq => absurd heq hall⟩

/-- A fresh console on an empty stream has delivered nothing. -/
theorem delivers_fresh {stream : Stream} (hempty : stream.received = #[])
    (hchunk : stream.chunk ≠ some 0) : Delivers stream.limit [] (.fresh stream) :=
  ⟨rfl, hchunk, by simp [fresh, hempty], fun h => absurd rfl h⟩

/-- Asking for an exit delivers nothing. -/
theorem Delivers.withExit (h : Delivers limit ideal c) (code : Option UInt8) :
    Delivers limit ideal { c with exitCode := code } :=
  ⟨h.limit_eq, h.chunk_ne, h.received, h.pending⟩

theorem Delivers.print (h : Delivers limit ideal c) (m : Machine) (v : UInt8) :
    Delivers limit (ideal ++ lineBytes (decimal v)) (Device.print m v c).2 ∧
      ((Device.print m v c).1 = true ↔
        ∀ l ∈ limit, (ideal ++ lineBytes (decimal v)).length ≤ l) :=
  h.writeLine (decimal v)

theorem Delivers.halt (h : Delivers limit ideal c) (m : Machine) :
    Delivers limit (ideal ++ lineBytes farewell) (Device.halt m c) :=
  (h.writeLine farewell).1.withExit (some 0)

/-- **A check delivers nothing.** -/
theorem Delivers.check (h : Delivers limit ideal c) : Delivers limit ideal c.check.2 := by
  cases hp : c.pending with
  | some e =>
    rw [check_of_pending hp]
    exact ⟨h.limit_eq, h.chunk_ne, h.received, fun hne => absurd rfl hne⟩
  | none =>
    cases hf : c.sink.flushError with
    | some e =>
      rw [check_of_flush_error hp (Stream.flush_of_some hf)]
      exact h
    | none =>
      rw [check_of_flushed hp (Stream.flush_of_none hf)]
      exact h

/-- A change of the stream delivers nothing, if it leaves the limit and lets the stream go on. -/
theorem Delivers.change (h : Delivers limit ideal c) {change : StreamChange}
    (hl : change.limit.getD limit = limit) (hc : change.chunk ≠ some (some 0)) :
    Delivers limit ideal { c with sink := c.sink.change change } where
  limit_eq := by
    rw [← h.limit_eq] at hl ⊢
    exact hl
  chunk_ne := by
    intro hzero
    have hzero : change.chunk.getD c.sink.chunk = some 0 := hzero
    cases hcc : change.chunk with
    | none => exact h.chunk_ne (by rwa [hcc] at hzero)
    | some chunk => exact hc (by rw [hcc] at hzero ⊢; exact congrArg some hzero)
  received := h.received
  pending := h.pending

/-- Exactly those prints are accepted whose lines fit behind the lines of the calls before them. -/
def Accepts (limit : Option Nat) (calls : List Call) : Prop :=
  ∀ i m v accepted, calls[i]? = some (.print m v accepted) →
    (accepted = true ↔ ∀ l ∈ limit, ((calls.take (i + 1)).flatMap Call.line).length ≤ l)

theorem accepts_concat {calls : List Call} {call : Call} (h : Accepts limit calls)
    (hcall : ∀ m v accepted, call = .print m v accepted →
      (accepted = true ↔ ∀ l ∈ limit, ((calls ++ [call]).flatMap Call.line).length ≤ l)) :
    Accepts limit (calls ++ [call]) := by
  intro i m v accepted hi
  rcases Nat.lt_or_ge i calls.length with hlt | hge
  · rw [List.getElem?_append_left hlt] at hi
    rw [List.take_append_of_le_length hlt]
    exact h i m v accepted hi
  · obtain ⟨hlast, hget⟩ := List.getElem?_eq_some_iff.mp hi
    rw [List.length_append, List.length_singleton] at hlast
    obtain rfl : i = calls.length := by omega
    rw [List.take_of_length_le (by simp)]
    exact hcall m v accepted (by simpa using hget)

/-- A console that has delivered the lines of its calls. -/
structure Serves (limit : Option Nat) (calls : List Call) (c : Console Stream) : Prop where
  delivers : Delivers limit (calls.flatMap Call.line) c
  accepts : Accepts limit calls

/-- **A console delivers the lines of its calls**, and accepts the prints whose lines fit. -/
theorem tracks_serves (limit : Option Nat) : System.Tracks (Serves limit) where
  print calls m v c h := by
    obtain ⟨hdelivers, hanswer⟩ := h.delivers.print m v
    have hline : ∀ accepted, (calls ++ [Call.print m v accepted]).flatMap Call.line =
        calls.flatMap Call.line ++ lineBytes (decimal v) := fun _ => by simp [Call.line]
    refine ⟨by rw [hline]; exact hdelivers, accepts_concat h.accepts ?_⟩
    intro m' v' accepted hcall
    obtain ⟨-, -, rfl⟩ := Call.print.inj hcall
    rw [hline]
    exact hanswer
  halt calls m c h := by
    refine ⟨?_, accepts_concat h.accepts nofun⟩
    simpa [Call.line] using h.delivers.halt m

/-- Two consoles that have delivered the same bytes to streams of the same limit. -/
def Matches (limit : Option Nat) (c d : Console Stream) : Prop :=
  ∃ ideal, Delivers limit ideal c ∧ Delivers limit ideal d

/-- **What a console takes depends on nothing but the limit** and the bytes it was to write so
far. -/
theorem alike_matches (limit : Option Nat) : System.Alike (Matches limit) where
  print m v c d := by
    rintro ⟨ideal, hc, hd⟩
    obtain ⟨hc, hcanswer⟩ := hc.print m v
    obtain ⟨hd, hdanswer⟩ := hd.print m v
    exact ⟨Bool.eq_iff_iff.mpr (hcanswer.trans hdanswer.symm), _, hc, hd⟩
  halt m c d := by
    rintro ⟨ideal, hc, hd⟩
    exact ⟨_, hc.halt m, hd.halt m⟩

end Console

namespace Monitor

/-! ## Sessions -/

/-- The commands that change nothing but the console: a check, and a change of its stream. -/
def Command.concernsConsole : Command → Bool
  | .check => true
  | .change _ => true
  | _ => false

/-- The command leaves the limit of the stream as it is, and the stream goes on taking something
with every write that it has room for. -/
def Command.KeepsLimit (limit : Option Nat) : Command → Prop
  | .change c => c.limit.getD limit = limit ∧ c.chunk ≠ some (some 0)
  | _ => True

/-- The calls that a command makes to the device. -/
def calls (fuel : Nat) (c : Command) (m : Monitor) : List Call :=
  match c with
  | .step => m.system.calls 1
  | .run => m.system.start.calls (System.turns fuel m.system.start)
  | .runWith max _ => m.system.start.calls (System.turns max m.system.start)
  | _ => []

/-- The monitor after some commands. -/
def after (fuel : Nat) (cs : List Command) (m : Monitor) : Monitor :=
  cs.foldl (fun m c => (m.perform fuel c).2) m

/-- The calls that some commands make to the device, in order. -/
def sessionCalls (fuel : Nat) : List Command → Monitor → List Call
  | [], _ => []
  | c :: cs, m => m.calls fuel c ++ sessionCalls fuel cs (m.perform fuel c).2

variable {fuel : Nat} {limit : Option Nat} {m m' : Monitor} {c : Command} {cs : List Command}

theorem perform_check {console : Console Stream} (h : m.system.device = .console console) :
    (m.perform fuel .check).2 = ⟨⟨m.system.machine, .console console.check.2⟩, m.saved⟩ := by
  dsimp only [perform]
  rw [h]

theorem perform_change {console : Console Stream} (h : m.system.device = .console console)
    (change : StreamChange) :
    (m.perform fuel (.change change)).2 =
      ⟨⟨m.system.machine, .console { console with sink := console.sink.change change }⟩,
        m.saved⟩ := by
  dsimp only [perform]
  rw [h]

/-- Two attached consoles that have delivered the same bytes to streams of the same limit. -/
def Matching (limit : Option Nat) (a b : Attachment) : Prop :=
  ∃ c d, a = .console c ∧ b = .console d ∧ Console.Matches limit c d

theorem alike_matching (limit : Option Nat) : System.Alike (Matching limit) where
  print m v a b := by
    rintro ⟨c, d, rfl, rfl, hcd⟩
    obtain ⟨hanswer, hnext⟩ := (Console.alike_matches limit).print m v c d hcd
    exact ⟨hanswer, _, _, rfl, rfl, hnext⟩
  halt m a b := by
    rintro ⟨c, d, rfl, rfl, hcd⟩
    exact ⟨_, _, rfl, rfl, (Console.alike_matches limit).halt m c d hcd⟩

/-- Two monitors in the same state, but for their consoles, which match. -/
structure Alongside (limit : Option Nat) (m m' : Monitor) : Prop where
  system : System.Related (Matching limit) m.system m'.system
  saved : m.saved = m'.saved

/-- **A command goes the same way on two monitors side by side** if it concerns not only the
console. -/
theorem Alongside.perform (h : Alongside limit m m') (hc : c.concernsConsole = false) :
    m.calls fuel c = m'.calls fuel c ∧
      Alongside limit (m.perform fuel c).2 (m'.perform fuel c).2 := by
  have halike := alike_matching limit
  have hrun : ∀ n, m.system.start.calls (System.turns n m.system.start) =
      m'.system.start.calls (System.turns n m'.system.start) ∧
      System.Related (Matching limit) (m.system.run n).2 (m'.system.run n).2 := by
    intro n
    rw [halike.turns h.system.start]
    exact ⟨halike.calls h.system.start _, (halike.loop (fun _ _ _ hd => hd) n h.system.start).2⟩
  cases c with
  | step => exact ⟨halike.calls h.system 1, (halike.step h.system).2, h.saved⟩
  | run => exact ⟨(hrun fuel).1, (hrun fuel).2, h.saved⟩
  | runWith max keep =>
    obtain ⟨hcalls, hnext⟩ := hrun max
    rw [System.runWith_eq_run (Tally.note keep) max ⟨0, #[]⟩,
      System.runWith_eq_run (Tally.note keep) max ⟨0, #[]⟩] at hnext
    exact ⟨hcalls, hnext, h.saved⟩
  | check => cases hc
  | change change => cases hc
  | exitCode =>
    obtain ⟨c, d, hcm, hdm, -⟩ := h.system.device
    refine ⟨rfl, ?_⟩
    dsimp only [Monitor.perform]
    rw [hcm, hdm]
    exact h
  | _ =>
    obtain ⟨⟨machine, device⟩, saved⟩ := m
    obtain ⟨⟨machine', device'⟩, saved'⟩ := m'
    obtain ⟨⟨hmachine, hdevice⟩, hsaved⟩ := h
    obtain rfl : machine = machine' := hmachine
    obtain rfl : saved = saved' := hsaved
    exact ⟨rfl, ⟨rfl, hdevice⟩, rfl⟩

/-- A command that concerns only the console goes unnoticed. -/
theorem Alongside.perform_left (h : Alongside limit m m') (hc : c.concernsConsole = true)
    (hkeeps : c.KeepsLimit limit) :
    m.calls fuel c = [] ∧ Alongside limit (m.perform fuel c).2 m' := by
  obtain ⟨⟨hmachine, console, d, hcm, hdm, ideal, hleft, hright⟩, hsaved⟩ := h
  cases c with
  | check =>
    rw [perform_check hcm]
    exact ⟨rfl, ⟨hmachine, _, d, rfl, hdm, ideal, hleft.check, hright⟩, hsaved⟩
  | change change =>
    rw [perform_change hcm]
    exact ⟨rfl, ⟨hmachine, _, d, rfl, hdm, ideal, hleft.change hkeeps.1 hkeeps.2, hright⟩, hsaved⟩
  | _ => cases hc

/-- **A session goes the way of its commands that concern not only the console.** -/
theorem Alongside.session (fuel : Nat) (h : Alongside limit m m')
    (hcs : ∀ c ∈ cs, c.KeepsLimit limit) :
    m.sessionCalls fuel cs = m'.sessionCalls fuel (cs.filter fun c => !c.concernsConsole) ∧
      Alongside limit (m.after fuel cs)
        (m'.after fuel (cs.filter fun c => !c.concernsConsole)) := by
  induction cs generalizing m m' with
  | nil => exact ⟨rfl, h⟩
  | cons c cs ih =>
    have hrest : ∀ d ∈ cs, d.KeepsLimit limit := fun d hd => hcs d (List.mem_cons_of_mem _ hd)
    cases hc : c.concernsConsole with
    | false =>
      obtain ⟨hcalls, hnext⟩ := h.perform hc
      obtain ⟨hsession, hafter⟩ := ih hnext hrest
      rw [List.filter_cons_of_pos (by simp [hc]), sessionCalls, sessionCalls, hcalls, hsession]
      exact ⟨rfl, hafter⟩
    | true =>
      obtain ⟨hcalls, hnext⟩ := h.perform_left hc (hcs c List.mem_cons_self)
      obtain ⟨hsession, hafter⟩ := ih hnext hrest
      rw [List.filter_cons_of_neg (by simp [hc]), sessionCalls, hcalls, hsession]
      exact ⟨rfl, hafter⟩

/-- A monitor with a fresh console on a stream. -/
def withConsole (stream : Stream) (machine saved : Machine) : Monitor :=
  ⟨⟨machine, .console (.fresh stream)⟩, saved⟩

variable {stream stream' : Stream} {cs' : List Command}

end Monitor

end ByteMachine
