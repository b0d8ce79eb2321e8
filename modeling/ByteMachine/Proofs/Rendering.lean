import ByteMachine.Proofs.LineGrammar
import ByteMachine.Proofs.Loading

/-!
# Texts for raw images

A raw image can be written as a text in many ways: one line for every byte, with its eight binary
digits behind blanks and with anything behind them, and between these any number of lines that do
not hold a byte. Loading such a text does what loading the raw image does, as long as that fits. An
image that does not fit is refused either way, but the text has filled the memory by then.

* `Image.binary n x` are the last `n` binary digits of a number, `Image.digits v` those of a byte.
* `Image.Renders bs text` says that the text is a rendering of the bytes.

Results:
* `value_binary`: binary digits have the value that they have been made from.
* `read_of_digits`: a line that renders a byte is read as that byte.
* `renders_plain`: every list of bytes has a rendering.
* `Renders.bytesOf_read`: what the lines of a rendering are read as.
* `load_of_renders`: loading a rendering beside loading the bytes.
-/

namespace ByteMachine.Image

open Text

/-! ## Digits -/

/-- The last `n` binary digits of a number, the leftmost one most significant. -/
def binary : (n : Nat) → Nat → List Char
  | 0, _ => []
  | n + 1, x => binary n (x / 2) ++ [if x % 2 = 1 then '1' else '0']

/-- The eight binary digits of a byte. -/
def digits (v : UInt8) : List Char := binary 8 v.toNat

theorem length_binary (n x : Nat) : (binary n x).length = n := by
  induction n generalizing x with
  | zero => rfl
  | succ n ih => rw [binary, List.length_append, ih, List.length_singleton]

theorem isBit_of_mem_binary {n x : Nat} {c : Char} (h : c ∈ binary n x) :
    Line.isBit c = true := by
  induction n generalizing x with
  | zero => exact absurd h List.not_mem_nil
  | succ n ih =>
    rcases List.mem_append.mp h with h | h
    · exact ih h
    · rw [List.mem_singleton.mp h]
      split <;> rfl

/-- **Binary digits have the value that they have been made from**, as far as they go. -/
theorem value_binary (n x : Nat) : Line.value (binary n x) = x % Nat.pow 2 n := by
  induction n generalizing x with
  | zero => exact (Nat.mod_one x).symm
  | succ n ih =>
    have hdouble : Nat.pow 2 (n + 1) = 2 * Nat.pow 2 n := Nat.mul_comm _ _
    rw [binary, Line.value_append, ih, hdouble, Nat.mod_mul]
    rcases Nat.mod_two_eq_zero_or_one x with hx | hx
    · simp [hx]
    · simp [hx, Nat.add_comm]

theorem value_digits (v : UInt8) : Line.value (digits v) = v.toNat := by
  rw [digits, value_binary]
  exact Nat.mod_eq_of_lt v.toNat_lt

theorem length_digits (v : UInt8) : (digits v).length = 8 := length_binary 8 v.toNat

theorem digits_ne_nil (v : UInt8) : digits v ≠ [] := by
  rw [← List.length_pos_iff, length_digits]
  decide

theorem isBit_of_mem_digits {v : UInt8} {c : Char} (h : c ∈ digits v) : Line.isBit c = true :=
  isBit_of_mem_binary h

theorem not_mem_digits {v : UInt8} {c : Char} (h : Line.isBit c = false) : c ∉ digits v := by
  intro hc
  rw [isBit_of_mem_digits hc] at h
  cases h

theorem not_isBlank_of_isBit {c : Char} (h : Line.isBit c = true) : isBlank c = false := by
  rcases Line.isBit_iff.mp h with rfl | rfl
  · decide
  · decide

/-! ## Lines that hold a byte -/

/-- Behind blanks, the code of a line begins with the digits that stand there. -/
theorem code_of_digits {lead : List Char} (hlead : ∀ c ∈ lead, isBlank c = true) (v : UInt8)
    (tail : List Char) :
    Line.code (lead ++ digits v ++ tail) = digits v ++ trimEnd (tail.takeWhile (· != '#')) := by
  have hfront : ∀ c ∈ lead ++ digits v, (c != '#') = true := by
    intro c hc
    rw [bne_iff_ne]
    rintro rfl
    rcases List.mem_append.mp hc with hc | hc
    · exact absurd (hlead _ hc) (by decide)
    · exact not_mem_digits (by decide) hc
  have hhead : ∀ c, (digits v ++ tail.takeWhile (· != '#')).head? = some c →
      isBlank c = false := by
    intro c hc
    rw [List.head?_append_of_ne_nil _ (digits_ne_nil v)] at hc
    exact not_isBlank_of_isBit (isBit_of_mem_digits (List.mem_of_mem_head? hc))
  have hlast : ∀ c, (digits v).getLast? = some c → isBlank c = false := fun c hc =>
    not_isBlank_of_isBit (isBit_of_mem_digits (List.mem_of_getLast? hc))
  rw [Line.code, List.takeWhile_append_of_pos hfront, trim, List.append_assoc,
    trimStart_append hlead, trimStart_of_head? hhead, trimEnd_append_of_getLast? hlast]

/-- **A line that renders a byte is read as that byte**, whatever stands behind the digits. -/
theorem read_of_digits {lead : List Char} (hlead : ∀ c ∈ lead, isBlank c = true) (v : UInt8)
    (tail : List Char) : Line.read (lead ++ digits v ++ tail) = .byte v := by
  have hcode := code_of_digits hlead v tail
  have hliteral : Line.literal (lead ++ digits v ++ tail) = digits v := by
    rw [Line.literal, hcode, List.take_left' (length_digits v)]
  have hbits : (digits v).all Line.isBit = true :=
    List.all_eq_true.mpr fun c hc => isBit_of_mem_digits hc
  refine Line.read_eq_byte_iff.mpr ⟨?_, by rw [hliteral, hbits], by rw [hliteral, value_digits]⟩
  obtain ⟨c, cs, hdigits⟩ := List.exists_cons_of_ne_nil (digits_ne_nil v)
  rw [Line.isLiteral, hcode, hdigits]
  exact isBit_of_mem_digits (hdigits ▸ List.mem_cons_self)

/-! ## Renderings -/

/-- How a line of a text ends. -/
inductive LineEnd
  | feed
  | returnFeed

/-- The characters at the end of the line. -/
def LineEnd.chars : LineEnd → List Char
  | feed => ['\n']
  | returnFeed => ['\r', '\n']

/-- The text is a rendering of the bytes: one line for each of them in order, and between these any
lines whose code does not begin with a binary digit. -/
inductive Renders : List UInt8 → List Char → Prop
  | nil : Renders [] []
  | byte {v : UInt8} {bs : List UInt8} {text : List Char} (lead tail : List Char) (e : LineEnd)
      (hlead : ∀ c ∈ lead, c ∈ blanks) (hfeed : '\n' ∉ lead ++ tail) (rest : Renders bs text) :
      Renders (v :: bs) (lead ++ digits v ++ tail ++ e.chars ++ text)
  | other {bs : List UInt8} {text : List Char} (l : List Char) (e : LineEnd)
      (hnone : ¬Line.Begins (Line.code l)) (hfeed : '\n' ∉ l) (rest : Renders bs text) :
      Renders bs (l ++ e.chars ++ text)

/-- **Every list of bytes has a rendering**: the digits of the bytes, line by line. -/
theorem renders_plain (bs : List UInt8) : Renders bs (bs.flatMap fun v => digits v ++ ['\n']) := by
  induction bs with
  | nil => exact .nil
  | cons v bs ih =>
    have hline := Renders.byte (v := v) [] [] .feed (fun c hc => nomatch hc) List.not_mem_nil ih
    simpa [LineEnd.chars] using hline

/-- However a line ends, it is read as what stands in front of the end. -/
theorem read_lines_append {l : List Char} (h : '\n' ∉ l) (e : LineEnd) (text : List Char) :
    (lines (l ++ e.chars ++ text)).map Line.read =
      Line.read l :: (lines text).map Line.read := by
  cases e with
  | feed =>
    rw [List.append_assoc, LineEnd.chars, List.singleton_append, lines_append h, List.map_cons,
      read_dropReturn]
  | returnFeed =>
    have hreturn : '\n' ∉ l ++ ['\r'] := by simpa using h
    have hsplit : l ++ LineEnd.returnFeed.chars ++ text = l ++ ['\r'] ++ '\n' :: text := by
      simp [LineEnd.chars]
    have hread : Line.read (l ++ ['\r']) = Line.read l := by
      unfold Line.read Line.isLiteral Line.literal
      rw [code_append_return]
    rw [hsplit, lines_append hreturn, List.map_cons, read_dropReturn, hread]

/-- **The lines of a rendering are read as its bytes**, and each of them can be read. -/
theorem Renders.bytesOf_read {bs : List UInt8} {text : List Char} (h : Renders bs text) :
    .malformed ∉ (lines text).map Line.read ∧ bytesOf ((lines text).map Line.read) = bs := by
  induction h with
  | nil => exact ⟨List.not_mem_nil, rfl⟩
  | @byte v bs text lead tail e hlead hfeed rest ih =>
    have hblank : ∀ c ∈ lead, isBlank c = true :=
      fun c hc => isBlank_iff_mem_blanks.mpr (hlead c hc)
    have hline : '\n' ∉ lead ++ digits v ++ tail := by
      have hdigits : '\n' ∉ digits v := not_mem_digits (by decide)
      simp only [List.mem_append, not_or] at hfeed ⊢
      exact ⟨⟨hfeed.1, hdigits⟩, hfeed.2⟩
    rw [read_lines_append hline, read_of_digits hblank, List.mem_cons, not_or]
    exact ⟨⟨nofun, ih.1⟩, congrArg (v :: ·) ih.2⟩
  | @other bs text l e hnone hfeed rest ih =>
    have hread : Line.read l = .skipped := by
      rwa [Line.read_eq_skipped_iff, ← Bool.not_eq_true, Line.isLiteral_iff]
    rw [read_lines_append hfeed, hread, List.mem_cons, not_or]
    exact ⟨⟨nofun, ih.1⟩, ih.2⟩

/-- Readings with more bytes than there are cells stop behind as many bytes as there are cells. -/
theorem stops_of_lt {rs : List Reading} (hgood : .malformed ∉ rs)
    (hlt : 256 < (bytesOf rs).length) :
    ∃ before, Stops rs before (.error .tooLarge) ∧ bytesOf before = (bytesOf rs).take 256 := by
  obtain ⟨before, result, h⟩ := exists_stops rs
  cases h with
  | malformed => exact absurd (List.mem_append_right _ List.mem_cons_self) hgood
  | all _ hfits => exact absurd hfits (Nat.not_le_of_lt hlt)
  | @tooLarge before after v hbefore hfull =>
    refine ⟨before, .tooLarge hbefore hfull, ?_⟩
    rw [bytesOf_append, List.take_left' hfull]

/-- **Loading a rendering beside loading the bytes.** If the bytes fit, both give their number and
lead to the same machine, with the bytes from address 0 on. If they do not, both find the image too
large: loading the text has stored as many bytes as there are cells, and has changed nothing else;
loading the bytes has changed nothing at all. -/
theorem load_of_renders {bs : List UInt8} {text : List Char} (h : Renders bs text) (m : Machine) :
    (bs.length ≤ 256 → m.load text = m.loadBytes bs ∧ (m.load text).1 = .ok bs.length ∧
      ∀ a, (m.load text).2.read a = (bs[a.toNat]?).getD (m.read a)) ∧
    (256 < bs.length →
      m.load text = (.error .tooLarge, { m with memory := m.memory.store (bs.take 256) }) ∧
      (∀ a, bs[a.toNat]? = some ((m.load text).2.read a)) ∧
      m.loadBytes bs = (.error .tooLarge, m)) := by
  obtain ⟨hgood, hbytes⟩ := h.bytesOf_read
  refine ⟨fun hle => ?_, fun hlt => ?_⟩
  · have hload : m.load text = (.ok bs.length, { m with memory := m.memory.store bs }) := by
      have hstops := Stops.all hgood (hbytes.symm ▸ hle)
      rw [hbytes] at hstops
      rw [Machine.load, loadText_of_stops hstops, hbytes]
    rw [hload, Machine.loadBytes, loadBytes_of_le hle]
    exact ⟨rfl, rfl, Memory.get_store m.memory bs hle⟩
  · obtain ⟨before, hstops, htake⟩ := stops_of_lt hgood (hbytes.symm ▸ hlt)
    have hload : m.load text =
        (.error .tooLarge, { m with memory := m.memory.store (bs.take 256) }) := by
      rw [Machine.load, loadText_of_stops hstops, htake, hbytes]
    refine ⟨hload, fun a => ?_, ?_⟩
    · have ha := a.toNat_lt
      have hlen : (bs.take 256).length ≤ 256 := List.length_take_le 256 bs
      have hread := Memory.get_store m.memory _ hlen a
      rw [List.getElem?_take_of_lt ha] at hread
      rw [hload, Machine.read, hread, List.getElem?_eq_getElem (Nat.lt_trans ha hlt)]
      rfl
    · rw [Machine.loadBytes, loadBytes_of_lt hlt]

/-- A text for three bytes, with comments, a no-break space, digits behind the eighth one, a line
that is no literal, and carriage returns. -/
def threeBytes : List Char :=
  "# prints 8\r\n\u00a0\t10000010\u00e9 # LDI R0,8\nLDI\n000000001#\r\n00001000\r\r\n".toList

/-- That text is loaded like its bytes, and a text for one byte too many is refused behind the 256th
of them. -/
theorem load_of_renders_both :
    let bs := List.replicate 256 7 ++ [1]
    let text := bs.flatMap fun v => digits v ++ ['\n']
    Machine.initial.load threeBytes = Machine.initial.loadBytes [0x82, 0, 8] ∧
      (Machine.initial.load threeBytes).1 = .ok 3 ∧
      (Machine.initial.load text).1 = .error .tooLarge ∧
      (Machine.initial.load text).2.read 255 = 7 ∧
      Machine.initial.loadBytes bs = (.error .tooLarge, Machine.initial) := by
  intro bs text
  have hlines : Renders [0x82, 0, 8] _ :=
    .other "# prints 8".toList .returnFeed (by decide) (by decide) <|
    .byte ['\u00a0', '\t'] "\u00e9 # LDI R0,8".toList .feed (by simp [blanks]) (by decide) <|
    .other "LDI".toList .feed (by decide) (by decide) <|
    .byte [] "1#".toList .returnFeed nofun (by decide) <|
    .byte [] ['\r'] .returnFeed nofun (by decide) .nil
  have hthree : Renders [0x82, 0, 8] threeBytes :=
    (congrArg (Renders _) (by decide +kernel)).mp hlines
  have hlt : 256 < bs.length := by
    rw [List.length_append, List.length_replicate]
    decide
  obtain ⟨heq, hcount, -⟩ := (load_of_renders hthree Machine.initial).1 (by decide)
  obtain ⟨htext, hread, hbytes⟩ := (load_of_renders (renders_plain bs) Machine.initial).2 hlt
  have hlast : bs[(255 : UInt8).toNat]? = some 7 := by decide +kernel
  have hstored := Option.some.inj ((hread 255).symm.trans hlast)
  exact ⟨heq, hcount, congrArg Prod.fst htext, hstored, hbytes⟩

end ByteMachine.Image
