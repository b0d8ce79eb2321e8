import ByteMachine.CommandLine.Invocation
import ByteMachine.Proofs.Console.Decimal
import Mathlib.Data.List.DropRight

/-!
# The bytes of a program file

A program file is any list of bytes. It is read as UTF-8, with a replacement character for what is
none, and then loaded line by line. Neither of this depends on the bytes that carry no code: those
of comments, those around the code of a line, and the carriage return at its end.

The characters that matter for the layout are ASCII, and no other bytes are read as one of them. So
a line feed or a `#` in the text is a byte of the file, and a broken character ends in front of it.

* `BeyondAscii c`: the character was read from a value beyond ASCII.
* `lineCode line` are the bytes of a line in front of the first `#`, without the ASCII blanks at
  both ends.
* `codes bytes` are those of every line of the file.

Results:
* `mem_of_mem_decode`: an ASCII character of the text is a byte of the file.
* `lines_append`: a text is cut into lines behind the first line feed.
* `code_decode`: the code of a line is read from `lineCode` alone.
* `loadText_decode`: so is a program file from `codes`.
* `execute_of_codes_eq`: files with the same `codes` are loaded and run alike.
-/

namespace ByteMachine

/-! ## Up to a separator -/

namespace Text

section

variable {α : Type} [BEq α] [LawfulBEq α] {a : α} {xs : List α}

theorem bne_of_not_mem (h : a ∉ xs) : ∀ x ∈ xs, (x != a) = true :=
  fun _ hx => bne_iff_ne.mpr fun e => h (e ▸ hx)

theorem takeWhile_bne (h : a ∉ xs) : xs.takeWhile (· != a) = xs :=
  List.takeWhile_eq_self_iff.mpr (bne_of_not_mem h)

theorem takeWhile_bne_append (h : a ∉ xs) (ys : List α) :
    (xs ++ a :: ys).takeWhile (· != a) = xs := by
  rw [List.takeWhile_append_of_pos (bne_of_not_mem h)]
  simp

end

end Text

/-! ## ASCII characters of a text -/

namespace Text.Utf8

theorem continued_snd_suffix (more : Nat) (least greatest : UInt8) (bits : Nat)
    (bs : List UInt8) : (continued more least greatest bits bs).2 <:+ bs := by
  fun_induction continued more least greatest bits bs with
  | case1 => exact List.suffix_rfl
  | case2 => exact List.suffix_rfl
  | case3 more least greatest bits b bs h ih => exact ih.trans (List.suffix_cons b bs)
  | case4 => exact List.suffix_rfl

theorem toNat_ofNat_of_isValidChar {n : Nat} (h : n.isValidChar) : (Char.ofNat n).toNat = n := by
  rw [Char.ofNat, dif_pos h]
  rfl

/-- A number that gives an ASCII character is its code; zero is left out because it stands for
numbers that have no character, too. -/
theorem eq_of_ofNat_eq {m n : Nat} (hm : m < 0x80) (h0 : m ≠ 0)
    (h : Char.ofNat m = Char.ofNat n) : m = n := by
  have hvalid : m.isValidChar := .inl (Nat.lt_trans hm (by decide))
  rw [← toNat_ofNat_of_isValidChar hvalid, h]
  by_cases hn : n.isValidChar
  · exact toNat_ofNat_of_isValidChar hn
  · have hzero : m = 0 := by
      rw [← toNat_ofNat_of_isValidChar hvalid, h, Char.ofNat, dif_neg hn]
      rfl
    exact absurd hzero h0

/-- The character was read from a value beyond ASCII. -/
def BeyondAscii (c : Char) : Prop := ∃ v, 0x80 ≤ v ∧ c = Char.ofNat v

theorem BeyondAscii.ne {c : Char} (h : BeyondAscii c) {n : Nat} (hn : n < 0x80) (h0 : n ≠ 0) :
    Char.ofNat n ≠ c := by
  obtain ⟨v, hv, rfl⟩ := h
  intro heq
  exact absurd (eq_of_ofNat_eq hn h0 heq) (Nat.ne_of_lt (Nat.lt_of_lt_of_le hn hv))

theorem beyondAscii_replacement : BeyondAscii replacement := ⟨0xFFFD, by decide, rfl⟩

/-- Continuation bytes only make the value greater. -/
theorem beyondAscii_continued (more : Nat) (least greatest : UInt8) (bits : Nat) (bs : List UInt8)
    (h : 0x80 ≤ Nat.pow 64 more * bits) :
    BeyondAscii (continued more least greatest bits bs).1 := by
  fun_induction continued more least greatest bits bs with
  | case1 least greatest bits bs => exact ⟨bits, by simpa using h, rfl⟩
  | case2 => exact beyondAscii_replacement
  | case3 more least greatest bits b bs hb ih =>
    have hpow : Nat.pow 64 (more + 1) = Nat.pow 64 more * 64 := rfl
    refine ih (h.trans ?_)
    rw [hpow, Nat.mul_assoc]
    exact Nat.mul_le_mul_left _ (Nat.le_add_right _ _)
  | case4 => exact beyondAscii_replacement

/-- The least first continuation byte keeps out the values that fewer bytes could have. -/
theorem beyondAscii_continued_succ (more : Nat) {least greatest : UInt8} (bits : Nat)
    (bs : List UInt8) (hleast : 0x80 ≤ least.toNat) (hgreatest : greatest.toNat ≤ 0xBF)
    (h : 0x80 ≤ Nat.pow 64 more * (64 * bits + (least.toNat - 0x80))) :
    BeyondAscii (continued (more + 1) least greatest bits bs).1 := by
  cases bs with
  | nil => exact beyondAscii_replacement
  | cons b bs =>
    rw [continued]
    split
    · rename_i hb
      refine beyondAscii_continued more _ _ _ bs (h.trans (Nat.mul_le_mul_left _ ?_))
      have hlow := UInt8.le_iff_toNat_le.mp hb.1
      have hhigh := UInt8.le_iff_toNat_le.mp hb.2
      omega
    · exact beyondAscii_replacement

/-- **What a lead byte begins** is that byte if it is ASCII, and else a character beyond ASCII. -/
theorem continued_of_lead? {b : UInt8} {lead : Lead} (h : lead? b = some lead) (bs : List UInt8) :
    (b.toNat < 0x80 ∧
      (continued lead.more lead.least lead.greatest lead.bits bs).1 = Char.ofNat b.toNat) ∨
    BeyondAscii (continued lead.more lead.least lead.greatest lead.bits bs).1 := by
  by_cases hascii : b.toNat < 0x80
  · rw [lead?_ascii hascii] at h
    obtain rfl := Option.some.inj h
    exact .inl ⟨hascii, rfl⟩
  · refine .inr ?_
    simp only [lead?, if_neg hascii] at h
    repeat' split at h
    all_goals cases h
    all_goals
      refine beyondAscii_continued_succ _ _ bs (Nat.le_of_ble_eq_true rfl)
        (Nat.le_of_ble_eq_true rfl) ?_
      simp <;> omega

/-- **An ASCII character of the text is a byte of the file.** -/
theorem mem_of_mem_decode {b : UInt8} {bs : List UInt8} (hb : b.toNat < 0x80) (h0 : b ≠ 0)
    (h : Char.ofNat b.toNat ∈ decode bs) : b ∈ bs := by
  have hne : b.toNat ≠ 0 := fun e => h0 (UInt8.toNat_inj.mp e)
  fun_induction decode bs with
  | case1 => exact absurd h (List.not_mem_nil)
  | case2 a as hlead ih =>
    rcases List.mem_cons.mp h with hc | hc
    · exact absurd hc (beyondAscii_replacement.ne hb hne)
    · exact List.mem_cons_of_mem a (ih hc)
  | case3 a as lead hlead read ih =>
    rcases List.mem_cons.mp h with hc | hc
    · rcases continued_of_lead? hlead as with ⟨-, hread⟩ | hbeyond
      · have hcode : b = a := UInt8.toNat_inj.mp (eq_of_ofNat_eq hb hne (hc.trans hread))
        exact hcode ▸ List.mem_cons_self
      · exact absurd hc (hbeyond.ne hb hne)
    · exact List.mem_cons_of_mem a ((continued_snd_suffix _ _ _ _ as).subset (ih hc))

/-- Taking the text up to an ASCII character is taking the file up to its byte. -/
theorem takeWhile_decode {b : UInt8} (hb : b.toNat < 0x80) (h0 : b ≠ 0) (bs : List UInt8) :
    (decode bs).takeWhile (· != Char.ofNat b.toNat) = decode (bs.takeWhile (· != b)) := by
  by_cases hmem : b ∈ bs
  · obtain ⟨front, behind, rfl, hfront⟩ := List.eq_append_cons_of_mem hmem
    have htext : Char.ofNat b.toNat ∉ decode front := fun h => hfront (mem_of_mem_decode hb h0 h)
    rw [decode_append_ascii hb, decode_ascii hb, takeWhile_bne_append htext,
      takeWhile_bne_append hfront]
  · have htext : Char.ofNat b.toNat ∉ decode bs := fun h => hmem (mem_of_mem_decode hb h0 h)
    rw [takeWhile_bne htext, takeWhile_bne hmem]

end Text.Utf8

/-! ## The code of a line -/

namespace Image

open Text Text.Utf8

/-- The ASCII blanks other than the line feed, which ends a line. -/
def spaces : List UInt8 := [0x09, 0x0B, 0x0C, 0x0D, 0x20]

/-- The bytes of a line in front of the first comment sign, without the ASCII blanks at both
ends. -/
def lineCode (line : List UInt8) : List UInt8 :=
  ((line.takeWhile (· != 0x23)).dropWhile spaces.contains).rdropWhile spaces.contains

/-- The code of every line of a file. -/
def codes (bytes : List UInt8) : List (List UInt8) := (bytes.splitOn 0x0A).map lineCode

/-- An ASCII blank is read as a blank. -/
theorem isBlank_of_contains {b : UInt8} (h : spaces.contains b = true) :
    b.toNat < 0x80 ∧ isBlank (Char.ofNat b.toNat) = true := by
  have hall : ∀ b ∈ spaces, b.toNat < 0x80 ∧ isBlank (Char.ofNat b.toNat) = true := by
    decide +kernel
  exact hall b (List.contains_iff_mem.mp h)

/-- ASCII blanks in front make no difference. -/
theorem trim_decode_dropWhile (bs : List UInt8) :
    trim (decode (bs.dropWhile spaces.contains)) = trim (decode bs) := by
  induction bs with
  | nil => rfl
  | cons b bs ih =>
    rw [List.dropWhile_cons]
    split
    · rename_i hb
      obtain ⟨hascii, hblank⟩ := isBlank_of_contains hb
      rw [decode_ascii hascii, trim_cons_blank hblank, ih]
    · rfl

/-- ASCII blanks at the end make no difference. -/
theorem trim_decode_rdropWhile (bs : List UInt8) :
    trim (decode (bs.rdropWhile spaces.contains)) = trim (decode bs) := by
  induction bs using List.reverseRecOn with
  | nil => rfl
  | append_singleton bs b ih =>
    rw [List.rdropWhile_concat]
    split
    · rename_i hb
      obtain ⟨hascii, hblank⟩ := isBlank_of_contains hb
      rw [decode_append_ascii hascii, decode_ascii hascii, decode_nil, trim_append_blank hblank, ih]
    · rfl

/-- **The code of a line is read from its code bytes alone.** -/
theorem code_decode (line : List UInt8) :
    Line.code (decode line) = Line.code (decode (lineCode line)) := by
  have hcomment (bs : List UInt8) :
      (decode bs).takeWhile (· != '#') = decode (bs.takeWhile (· != 0x23)) :=
    takeWhile_decode (b := 0x23) (by decide) (by decide) bs
  have hnone : 0x23 ∉ lineCode line := fun h => by
    have hfront : (0x23 : UInt8) ∈ line.takeWhile (· != 0x23) :=
      (List.dropWhile_suffix _).subset ((List.rdropWhile_prefix _ _).subset h)
    simpa using List.mem_takeWhile_imp (p := fun b => b != 0x23) hfront
  rw [Line.code, Line.code, hcomment, hcomment, takeWhile_bne hnone, lineCode,
    trim_decode_rdropWhile, trim_decode_dropWhile]

theorem read_decode (line : List UInt8) :
    Line.read (decode line) = Line.read (decode (lineCode line)) := by
  unfold Line.read Line.isLiteral Line.literal
  rw [code_decode]

/-! ## The lines of a file -/

/-- The line without the carriage return at its end. -/
def dropReturn : List Char → List Char
  | [] => []
  | ['\r'] => []
  | c :: cs => c :: dropReturn cs

/-- **The first line of a text ends in front of the first line feed.** -/
theorem lines_append {cs : List Char} (h : '\n' ∉ cs) (ds : List Char) :
    lines (cs ++ '\n' :: ds) = dropReturn cs :: lines ds := by
  fun_induction dropReturn cs with
  | case1 => rfl
  | case2 => rfl
  | case3 c cs hreturn ih =>
    have hc : c ≠ '\n' := fun e => h (e ▸ List.mem_cons_self)
    have hcs : '\n' ∉ cs := fun hmem => h (List.mem_cons_of_mem c hmem)
    have hstep : lines (c :: (cs ++ '\n' :: ds)) = consFirst c (lines (cs ++ '\n' :: ds)) := by
      by_cases hr : c = '\r'
      · subst hr
        refine lines_return ?_
        cases cs with
        | nil => exact absurd rfl (hreturn rfl)
        | cons d cs => exact fun e => hcs (Option.some.inj e ▸ List.mem_cons_self)
      · exact lines_cons hc hr _
    rw [List.cons_append, hstep, ih hcs]
    rfl

theorem eq_or_dropReturn (cs : List Char) : dropReturn cs = cs ∨ dropReturn cs ++ ['\r'] = cs := by
  fun_induction dropReturn cs with
  | case1 => exact .inl rfl
  | case2 => exact .inr rfl
  | case3 c cs _ ih =>
    rcases ih with h | h
    · exact .inl (congrArg (c :: ·) h)
    · exact .inr (congrArg (c :: ·) h)

/-- A carriage return at the end of a line is a blank at the end of its code, or in its comment. -/
theorem code_append_return (line : List Char) : Line.code (line ++ ['\r']) = Line.code line := by
  have hblank : isBlank '\r' = true := by decide
  unfold Line.code
  by_cases hmem : '#' ∈ line
  · obtain ⟨front, behind, rfl, hfront⟩ := List.eq_append_cons_of_mem hmem
    rw [List.append_assoc, List.cons_append, takeWhile_bne_append hfront,
      takeWhile_bne_append hfront]
  · have hmem' : '#' ∉ line ++ ['\r'] := by simpa using hmem
    rw [takeWhile_bne hmem, takeWhile_bne hmem', trim_append_blank hblank]

theorem code_dropReturn (line : List Char) : Line.code (dropReturn line) = Line.code line := by
  rcases eq_or_dropReturn line with h | h
  · rw [h]
  · rw [← code_append_return, h]

theorem read_dropReturn (line : List Char) : Line.read (dropReturn line) = Line.read line := by
  unfold Line.read Line.isLiteral Line.literal
  rw [code_dropReturn]

/-- Loading reads the first line and goes on with the rest. -/
theorem loadLines_cons_congr {l l' : List Char} {ls ls' : List (List Char)}
    (hl : Line.read l = Line.read l')
    (hls : ∀ line count m, loadLines line count m ls = loadLines line count m ls')
    (line count : Nat) (m : Memory) :
    loadLines line count m (l :: ls) = loadLines line count m (l' :: ls') := by
  simp only [loadLines, hl, hls]

/-- **A program file is loaded from its code alone**, line by line. -/
theorem loadLines_decode (bytes : List UInt8) (line count : Nat) (m : Memory) :
    loadLines line count m (lines (decode bytes)) =
      loadLines line count m ((codes bytes).map decode) := by
  by_cases hmem : 0x0A ∈ bytes
  · obtain ⟨front, behind, hbytes, hfront⟩ := List.eq_append_cons_of_mem hmem
    have hshorter : behind.length < bytes.length := by
      rw [hbytes, List.length_append, List.length_cons]
      omega
    have htext : '\n' ∉ decode front := fun h =>
      hfront (mem_of_mem_decode (b := 0x0A) (by decide) (by decide) h)
    have hlines : lines (decode bytes) = dropReturn (decode front) :: lines (decode behind) := by
      rw [hbytes, decode_append_ascii (by decide), decode_ascii (by decide)]
      exact lines_append htext _
    have hcodes : codes bytes = lineCode front :: codes behind := by
      rw [codes, codes, hbytes, List.splitOn, List.splitOnP_append_cons _ _ (by decide)]
      rw [← List.splitOn, ← List.splitOn, List.splitOn_eq_singleton hfront]
      rfl
    rw [hlines, hcodes, List.map_cons]
    exact loadLines_cons_congr ((read_dropReturn _).trans (read_decode front))
      (loadLines_decode behind) line count m
  · have hcodes : codes bytes = [lineCode bytes] := by
      rw [codes, List.splitOn_eq_singleton hmem]
      rfl
    have htext : '\n' ∉ decode bytes := fun h =>
      hmem (mem_of_mem_decode (b := 0x0A) (by decide) (by decide) h)
    rw [hcodes, List.map_singleton]
    by_cases hnil : decode bytes = []
    · have hskipped : Line.read (decode (lineCode bytes)) = .skipped := by
        rw [← read_decode, hnil]
        rfl
      simp only [hnil, lines_nil, loadLines, hskipped]
    · rw [lines_of_not_mem htext hnil]
      exact loadLines_cons_congr (read_decode bytes) (fun _ _ _ => rfl) line count m
termination_by bytes.length

theorem loadText_decode (bytes : List UInt8) (m : Memory) :
    loadText (decode bytes) m = loadLines 1 0 m ((codes bytes).map decode) :=
  loadLines_decode bytes 1 0 m

end Image

/-! ## Files with the same code -/

theorem Machine.load_decode_congr {a b : List UInt8} (h : Image.codes a = Image.codes b)
    (m : Machine) : m.load (Text.Utf8.decode a) = m.load (Text.Utf8.decode b) := by
  unfold Machine.load
  rw [Image.loadText_decode, Image.loadText_decode, h]

namespace CommandLine

open Image Text.Utf8

/-- **Bytes outside of the code do not matter.** Two files with as many lines and the same code on
each of them, whatever stands in comments, around the code and at the ends of lines, are loaded
alike: with the same count or the same error, in the same line, and with the same memory. So
invocations that get them as the answer to reading the program file come to the same, in the same
surroundings else: to the same status, the same standard output and the same standard error, with
the record of the time the run took if it is the same time. Standard error is assumed to take every
line. -/
theorem execute_of_codes_eq {a b : List UInt8} (h : codes a = codes b) :
    (∀ m : Machine, m.load (decode a) = m.load (decode b)) ∧
    ∀ (fuel : Nat) (program : String) (trace : Bool) (s : Surroundings),
      execute fuel program trace { s with file := .ok a } =
        execute fuel program trace { s with file := .ok b } := by
  have hload := Machine.load_decode_congr h
  refine ⟨hload, fun fuel program trace s => ?_⟩
  have hprepare : prepare program { s with file := .ok a } =
      prepare program { s with file := .ok b } := by
    simp only [prepare, hload, Surroundings.ownLogger]
  simp only [execute, hprepare]

/-- The image of a single HLT, with a comment in Latin-1, carriage returns, and a character that is
broken off in front of a `#`. -/
def stray : List UInt8 :=
  [0x30, 0x30, 0x30, 0x30, 0x30, 0x30, 0x30, 0x31, 0x20, 0x23, 0xE9, 0x0D, 0x0A,
    0xE2, 0x82, 0x23, 0x0D, 0x0A]

/-- The same code and nothing else, but a tabulator. -/
def tidy : List UInt8 :=
  [0x09, 0x30, 0x30, 0x30, 0x30, 0x30, 0x30, 0x30, 0x31, 0x0A, 0xE2, 0x82, 0x0A]

/-- Both files hold one byte, and the invocations on them come to the same, with a logger that
writes every record. -/
theorem execute_of_codes_eq_stray :
    let on (bytes : List UInt8) : Surroundings :=
      ⟨.ok bytes, none, fun _ => ⟨[], fun _ => true, Record.message⟩, .unbounded, "5ms",
        fun message => [message]⟩
    codes stray = codes tidy ∧ (Machine.initial.load (decode stray)).1 = .ok 1 ∧
      (Machine.initial.load (decode tidy)).1 = .ok 1 ∧
      execute 1 "halt" false (on stray) = execute 1 "halt" false (on tidy) ∧
      execute 1 "halt" false (on stray) = .finished ⟨0, farewellBytes.toArray,
        #["loaded 1 bytes from \"halt\"", "ran for 5ms"]⟩ := by
  intro on
  have hcodes : codes stray = codes tidy := by decide +kernel
  have hloaded : (Machine.initial.load (decode tidy)).1 = .ok 1 := by decide +kernel
  obtain ⟨hload, hexecute⟩ := execute_of_codes_eq hcodes
  have hsame : execute 1 "halt" false (on stray) = execute 1 "halt" false (on tidy) :=
    hexecute 1 "halt" false (on stray)
  refine ⟨hcodes, ?_, hloaded, hsame, ?_⟩
  · rw [hload, hloaded]
  · rw [hsame]
    decide +kernel

end CommandLine

end ByteMachine
