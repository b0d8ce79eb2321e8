import ByteMachine.Proofs.ImageBytes
import Mathlib.Data.Nat.Digits.Defs

/-!
# The language of lines

What a line of a program image holds is a matter of its code, the part in front of the first `#`
without the blanks around it, and of the first eight characters of that. A reader of bytes gets
there by offsets: it looks up where the ninth character begins, cuts the code there, and reads the
front part as a numeral. It comes to the same. The cut never goes through a character, and of the
ways in which a text can fail to be a numeral only a character that is no binary digit is left.

* `Text.Trimmed cs s` and `Line.IsCode line s` say by what it is composed of that `s` is a text
  without the blanks at its ends, and that it is the code of a line.
* `Text.front? n cs` is the text in front of a byte offset, if that does not lie in a character.
* `Numeral.byte cs` reads a numeral in base two, with an optional plus sign, into a byte.
* `Line.scan` reads a line by byte offsets; `none` stands for a cut through a character.

Results:
* `trimmed_iff`, `isCode_iff`: every line has exactly one code.
* `front?_eq_some_iff`, `isSome_front?_iff`: the offsets at which a text can be cut.
* `byte_cons`: what a short text that begins with a binary digit is as a numeral.
* `scan_eq_read`: reading by byte offsets is reading by characters.
* `read_follows_grammar`: all this for every line.
-/

namespace ByteMachine

/-! ## Trimming -/

namespace Text

variable {cs s lead trail : List Char} {c : Char} {n : Nat}

theorem trimStart_append (h : ∀ c ∈ lead, isBlank c = true) (cs : List Char) :
    trimStart (lead ++ cs) = trimStart cs :=
  List.dropWhile_append_of_pos h

theorem trimStart_of_head? (h : ∀ c, cs.head? = some c → isBlank c = false) :
    trimStart cs = cs := by
  cases cs with
  | nil => rfl
  | cons c cs => exact trimStart_of_head (h c rfl) cs

/-- A text that does not end with a blank stays in front of what is trimmed behind it. -/
theorem trimEnd_append_of_getLast? (h : ∀ c, cs.getLast? = some c → isBlank c = false)
    (ds : List Char) : trimEnd (cs ++ ds) = cs ++ trimEnd ds := by
  have hself : cs.reverse.dropWhile isBlank = cs.reverse :=
    trimStart_of_head? fun c hc => h c (by rwa [List.head?_reverse] at hc)
  rw [trimEnd, trimEnd, List.reverse_append, List.dropWhile_append]
  split
  · rename_i hempty
    rw [hself, List.isEmpty_iff.mp hempty, List.reverse_reverse, List.reverse_nil, List.append_nil]
  · rw [List.reverse_append, List.reverse_reverse]

theorem not_isBlank_of_head?_trimStart (h : (trimStart cs).head? = some c) :
    isBlank c = false := by
  have hhead := List.head?_dropWhile_not isBlank cs
  rw [trimStart] at h
  rwa [h] at hhead

theorem not_isBlank_of_getLast?_trimEnd (h : (trimEnd cs).getLast? = some c) :
    isBlank c = false := by
  rw [trimEnd, List.getLast?_reverse] at h
  exact not_isBlank_of_head?_trimStart h

/-- The text `s` is what is left of `cs` without the blanks at its ends. -/
structure Trimmed (cs s : List Char) : Prop where
  split : ∃ lead trail, cs = lead ++ s ++ trail ∧
    (∀ c ∈ lead, c ∈ blanks) ∧ ∀ c ∈ trail, c ∈ blanks
  head : ∀ c, s.head? = some c → c ∉ blanks
  last : ∀ c, s.getLast? = some c → c ∉ blanks

/-- **Trimming takes away the blanks at both ends**, and nothing else. -/
theorem trimmed_iff : Trimmed cs s ↔ s = trim cs := by
  have hblank : ∀ c, c ∈ blanks ↔ isBlank c = true := fun c => isBlank_iff_mem_blanks.symm
  constructor
  · rintro ⟨⟨lead, trail, rfl, hlead, htrail⟩, hhead, hlast⟩
    simp only [hblank, Bool.not_eq_true] at hlead htrail hhead hlast
    rw [trim, List.append_assoc, trimStart_append hlead]
    cases s with
    | nil =>
      have hnone : trimStart trail = [] := by simpa [trimStart] using htrail
      rw [List.nil_append, hnone]
      rfl
    | cons c s =>
      have hnone : trimEnd trail = [] := by simpa [trimEnd] using htrail
      have hstart : trimStart (c :: s ++ trail) = c :: s ++ trail := trimStart_of_head? hhead
      rw [hstart, trimEnd_append_of_getLast? hlast, hnone, List.append_nil]
  · rintro rfl
    have hstart : cs.takeWhile isBlank ++ trimStart cs = cs := List.takeWhile_append_dropWhile
    have hend : trim cs ++ (trimStart cs).rtakeWhile isBlank = trimStart cs :=
      List.rdropWhile_append_rtakeWhile
    refine ⟨⟨cs.takeWhile isBlank, (trimStart cs).rtakeWhile isBlank, ?_, ?_, ?_⟩, ?_, ?_⟩
    · rw [List.append_assoc, hend, hstart]
    · exact fun c hc => (hblank c).mpr (List.mem_takeWhile_imp hc)
    · exact fun c hc => (hblank c).mpr (List.mem_rtakeWhile_imp hc)
    · -- the text begins where it begins without the blanks in front of it
      intro c hc
      have hhead : (trimStart cs).head? = some c := by
        rw [← hend, List.head?_append, hc]
        rfl
      rw [hblank, not_isBlank_of_head?_trimStart hhead]
      exact Bool.false_ne_true
    · intro c hc
      rw [hblank, not_isBlank_of_getLast?_trimEnd hc]
      exact Bool.false_ne_true

/-! ## Byte offsets -/

/-- How many bytes the UTF-8 form of a text has. -/
def byteSize (cs : List Char) : Nat := (cs.map Char.utf8Size).sum

/-- The characters of a text with the byte offsets at which they begin; `start` is the offset of the
first one. -/
def indices (start : Nat) : List Char → List (Nat × Char)
  | [] => []
  | c :: cs => (start, c) :: indices (start + c.utf8Size) cs

/-- The byte offset behind the first `n` characters of a text: that of the next character, or that
of the end. -/
def offset (n : Nat) (cs : List Char) : Nat := ((indices 0 cs)[n]?).elim (byteSize cs) Prod.fst

/-- The text in front of a byte offset, if the offset lies between two characters or at an end. -/
def front? : Nat → List Char → Option (List Char)
  | 0, _ => some []
  | _ + 1, [] => none
  | n + 1, c :: cs =>
    if c.utf8Size ≤ n + 1 then (front? (n + 1 - c.utf8Size) cs).map (c :: ·) else none

theorem byteSize_cons (c : Char) (cs : List Char) :
    byteSize (c :: cs) = c.utf8Size + byteSize cs := by
  rw [byteSize, List.map_cons, List.sum_cons, byteSize]

theorem byteSize_eq_zero_iff : byteSize cs = 0 ↔ cs = [] := by
  cases cs with
  | nil => exact ⟨fun _ => rfl, fun _ => rfl⟩
  | cons c cs =>
    have hpos := c.utf8Size_pos
    rw [byteSize_cons]
    exact ⟨fun h => absurd h (by omega), nofun⟩

theorem utf8ByteSize_ofList (cs : List Char) : (String.ofList cs).utf8ByteSize = byteSize cs := by
  induction cs with
  | nil => rfl
  | cons c cs ih =>
    rw [String.ofList_cons, String.utf8ByteSize_append, String.utf8ByteSize_singleton, ih,
      byteSize_cons]

theorem getElem?_indices (start n : Nat) (cs : List Char) :
    (indices start cs)[n]? = (cs[n]?).map (start + byteSize (cs.take n), ·) := by
  induction cs generalizing start n with
  | nil => rfl
  | cons c cs ih =>
    cases n with
    | zero => rfl
    | succ n =>
      rw [indices, List.getElem?_cons_succ, List.getElem?_cons_succ, ih, List.take_succ_cons,
        byteSize_cons, Nat.add_assoc]

/-- The offset is the size of the characters in front of it. -/
theorem offset_eq (n : Nat) (cs : List Char) : offset n cs = byteSize (cs.take n) := by
  rw [offset, getElem?_indices]
  rcases Nat.lt_or_ge n cs.length with hlt | hge
  · rw [List.getElem?_eq_getElem hlt]
    exact Nat.zero_add _
  · rw [List.getElem?_eq_none hge, List.take_of_length_le hge]
    rfl

/-- **A text can be cut behind each of its initial segments**, and nowhere else. -/
theorem front?_eq_some_iff : front? n cs = some s ↔ s <+: cs ∧ byteSize s = n := by
  fun_induction front? n cs generalizing s with
  | case1 cs =>
    rw [Option.some.injEq, byteSize_eq_zero_iff, eq_comm]
    exact ⟨fun h => ⟨h ▸ List.nil_prefix, h⟩, And.right⟩
  | case2 n =>
    refine ⟨nofun, ?_⟩
    rintro ⟨hinitial, hsize⟩
    rw [List.prefix_nil.mp hinitial] at hsize
    cases hsize
  | case3 n c cs hle ih =>
    cases s with
    | nil =>
      refine ⟨fun h => ?_, fun h => absurd h.2 (Nat.succ_ne_zero n).symm⟩
      obtain ⟨t, -, ht⟩ := Option.map_eq_some_iff.mp h
      cases ht
    | cons d s =>
      rw [List.cons_prefix_cons, byteSize_cons, Option.map_eq_some_iff]
      simp only [ih]
      constructor
      · rintro ⟨t, ⟨hinitial, hsize⟩, ht⟩
        obtain ⟨rfl, rfl⟩ := List.cons.inj ht
        exact ⟨⟨rfl, hinitial⟩, by omega⟩
      · rintro ⟨⟨rfl, hinitial⟩, hsize⟩
        exact ⟨s, ⟨hinitial, by omega⟩, rfl⟩
  | case4 n c cs hlt =>
    refine ⟨nofun, ?_⟩
    rintro ⟨hinitial, hsize⟩
    cases s with
    | nil => cases hsize
    | cons d s =>
      obtain ⟨rfl, -⟩ := List.cons_prefix_cons.mp hinitial
      rw [byteSize_cons] at hsize
      omega

/-- These are the valid positions of the text as a string. -/
theorem isSome_front?_iff :
    (front? n cs).isSome = true ↔ String.Pos.Raw.IsValid (String.ofList cs) ⟨n⟩ := by
  rw [Option.isSome_iff_exists, String.Pos.Raw.isValid_iff_exists_append]
  simp only [front?_eq_some_iff]
  constructor
  · rintro ⟨s, ⟨rest, rfl⟩, rfl⟩
    refine ⟨String.ofList s, String.ofList rest, String.ofList_append, ?_⟩
    exact congrArg String.Pos.Raw.mk (utf8ByteSize_ofList s).symm
  · rintro ⟨s, rest, happend, hn⟩
    refine ⟨s.toList, ⟨rest.toList, ?_⟩, ?_⟩
    · rw [← String.toList_append, ← happend, String.toList_ofList]
    · rw [← utf8ByteSize_ofList, String.ofList_toList]
      exact (congrArg String.Pos.Raw.byteIdx hn).symm

/-- A text can be cut behind any number of characters. -/
theorem front?_offset (n : Nat) (cs : List Char) : front? (offset n cs) cs = some (cs.take n) :=
  front?_eq_some_iff.mpr ⟨List.take_prefix n cs, (offset_eq n cs).symm⟩

end Text

/-! ## Numerals -/

namespace Numeral

open Image

/-- Why a text is no numeral for a byte. -/
inductive Error
  /-- There is no digit. -/
  | empty
  /-- A character is no digit. -/
  | invalidDigit
  /-- The value is too large. -/
  | overflow
deriving DecidableEq

/-- The value of a binary digit. -/
def digit? (c : Char) : Option Nat :=
  if c = '0' then some 0 else if c = '1' then some 1 else none

/-- Reads digits behind those of the value `n`, and checks digit for digit that the value fits in a
byte. -/
def digits (n : Nat) : List Char → Except Error UInt8
  | [] => .ok (UInt8.ofNat n)
  | c :: cs =>
    match digit? c with
    | none => .error .invalidDigit
    | some d => if 2 * n + d < 256 then digits (2 * n + d) cs else .error .overflow

/-- Reads a numeral in base two. A plus sign may stand in front of the digits. -/
def byte : List Char → Except Error UInt8
  | [] => .error .empty
  | ['+'] => .error .invalidDigit
  | '+' :: cs => digits 0 cs
  | cs => digits 0 cs

theorem digit?_of_isBit {c : Char} (h : Line.isBit c = true) :
    digit? c = some (if c = '1' then 1 else 0) := by
  rcases Line.isBit_iff.mp h with rfl | rfl
  · rfl
  · rfl

theorem digit?_of_not_isBit {c : Char} (h : Line.isBit c = false) : digit? c = none := by
  rw [← Bool.not_eq_true, Line.isBit_iff, not_or] at h
  rw [digit?, if_neg h.1, if_neg h.2]

/-- **No more than eight digits never overflow a byte.** The `k` digits that have been read leave
room for `8 - k` more. -/
theorem digits_eq {cs : List Char} {k n : Nat} (hn : n < Nat.pow 2 k) (hk : k + cs.length ≤ 8) :
    digits n cs =
      if cs.all Line.isBit then
        .ok (UInt8.ofNat (cs.foldl (fun n c => 2 * n + if c = '1' then 1 else 0) n))
      else .error .invalidDigit := by
  induction cs generalizing k n with
  | nil => rfl
  | cons c cs ih =>
    rw [digits, List.all_cons]
    cases hc : Line.isBit c with
    | false =>
      rw [digit?_of_not_isBit hc]
      rfl
    | true =>
      rw [List.length_cons] at hk
      have hdouble : Nat.pow 2 (k + 1) = Nat.pow 2 k * 2 := rfl
      have hnext : (2 * n + if c = '1' then 1 else 0) < Nat.pow 2 (k + 1) := by
        split <;> omega
      have hbyte : Nat.pow 2 (k + 1) ≤ 256 :=
        Nat.pow_le_pow_right (n := 2) (by decide) (show k + 1 ≤ 8 by omega)
      simp only [digit?_of_isBit hc, if_pos (Nat.lt_of_lt_of_le hnext hbyte)]
      rw [ih hnext (by omega), Bool.true_and, List.foldl_cons]

/-- **What a short text that begins with a binary digit is as a numeral**: its value, unless one of
its characters is no binary digit. -/
theorem byte_cons {c : Char} (hc : Line.isBit c = true) {cs : List Char}
    (hlen : (c :: cs).length ≤ 8) :
    byte (c :: cs) =
      if (c :: cs).all Line.isBit then .ok (UInt8.ofNat (Line.value (c :: cs)))
      else .error .invalidDigit := by
  have hsign : c ≠ '+' := by
    rintro rfl
    cases hc
  have hdigits : byte (c :: cs) = digits 0 (c :: cs) := by
    rw [byte]
    · exact nofun
    · exact fun h => hsign (List.cons.inj h).1
    · exact fun _ h => hsign (List.cons.inj h).1
  rw [hdigits]
  exact digits_eq (k := 0) (by decide) (by omega)

end Numeral

/-! ## Lines -/

namespace Image

open Text

namespace Line

/-- The text `s` is the code of a line: what stands in front of the first `#`, without the blanks at
its ends. -/
def IsCode (line s : List Char) : Prop :=
  ∃ front comment, line = front ++ comment ∧ '#' ∉ front ∧
    (∀ c, comment.head? = some c → c = '#') ∧ Trimmed front s

/-- **Every line has exactly one code.** -/
theorem isCode_iff {line s : List Char} : IsCode line s ↔ s = code line := by
  constructor
  · rintro ⟨front, comment, rfl, hfront, hcomment, htrimmed⟩
    rw [trimmed_iff.mp htrimmed, code]
    cases comment with
    | nil => rw [List.append_nil, takeWhile_bne hfront]
    | cons c comment =>
      obtain rfl := hcomment c rfl
      rw [takeWhile_bne_append hfront]
  · rintro rfl
    refine ⟨line.takeWhile (· != '#'), line.dropWhile (· != '#'),
      List.takeWhile_append_dropWhile.symm, fun h => ?_, fun c hc => ?_, trimmed_iff.mpr rfl⟩
    · simpa using List.mem_takeWhile_imp h
    · have hhead := List.head?_dropWhile_not (· != '#') line
      rw [hc] at hhead
      simpa using hhead

/-- The text begins with a binary digit. -/
def Begins (s : List Char) : Prop := s.head? = some '0' ∨ s.head? = some '1'

instance (s : List Char) : Decidable (Begins s) := inferInstanceAs (Decidable (_ ∨ _))

theorem isLiteral_iff {line : List Char} : isLiteral line = true ↔ Begins (code line) := by
  rw [isLiteral, Begins]
  cases (code line).head? with
  | none => simp
  | some c => simp [isBit_iff]

theorem all_isBit_iff {cs : List Char} :
    cs.all isBit = true ↔ ∀ c ∈ cs, c = '0' ∨ c = '1' := by
  simp only [List.all_eq_true, isBit_iff]

/-- The value of digits as a sum of powers of two, the least significant digit first. -/
theorem value_eq_ofDigits (bits : List Char) :
    value bits = Nat.ofDigits 2 (bits.reverse.map fun c => if c = '1' then 1 else 0) := by
  induction bits using List.reverseRecOn with
  | nil => rfl
  | append_singleton bits c ih =>
    rw [value_append, ih, List.reverse_append, List.reverse_singleton, List.singleton_append,
      List.map_cons, Nat.ofDigits_cons, Nat.add_comm]

/-- Reads a line by byte offsets. The code is cut where its ninth character begins; `none` stands
for a cut through a character. -/
def scan (line : List Char) : Option (Except Numeral.Error (Option UInt8)) :=
  if isLiteral line then
    (front? (offset 8 (code line)) (code line)).map fun w => (Numeral.byte w).map some
  else some (.ok none)

end Line

/-- What a reading is for a reader of numerals. -/
def Reading.outcome : Reading → Except Numeral.Error (Option UInt8)
  | skipped => .ok none
  | byte v => .ok (some v)
  | malformed => .error .invalidDigit

namespace Line

/-- **Reading by byte offsets is reading by characters.** The cut never fails, and a numeral is only
refused for a character that is no binary digit. -/
theorem scan_eq_read (line : List Char) : scan line = some (read line).outcome := by
  rw [scan, read]
  cases hlit : isLiteral line with
  | false => rfl
  | true =>
    obtain ⟨c, cs, hcode, hc⟩ : ∃ c cs, code line = c :: cs ∧ isBit c = true := by
      rw [isLiteral, Option.any_eq_true] at hlit
      obtain ⟨c, hhead, hc⟩ := hlit
      obtain ⟨cs, hcode⟩ := List.head?_eq_some_iff.mp hhead
      exact ⟨c, cs, hcode, hc⟩
    have hliteral : literal line = c :: cs.take 7 := by rw [literal, hcode, List.take_succ_cons]
    have hlen : (c :: cs.take 7).length ≤ 8 := by
      rw [List.length_cons, List.length_take]
      omega
    rw [if_pos rfl, if_pos rfl, front?_offset, Option.map_some, ← literal, hliteral,
      Numeral.byte_cons hc hlen]
    split <;> rfl

/-- **The grammar of a line.** Every line has exactly one code, and what the line holds goes by the
code and by its first eight characters. It holds nothing if the code does not begin with a binary
digit. Otherwise it holds a byte if the first eight characters, or all if there are fewer, are
binary digits, namely their value in base two with the leftmost one most significant; and it is
malformed if one of them is none.

The eight characters end at a byte offset at which the code can be cut, and a reader who goes by
that offset, and reads the front part as a numeral, comes to the same: no such cut fails, no literal
is too large for a byte, and none is refused but for a character that is no binary digit. -/
theorem read_follows_grammar (line : List Char) :
    let s := code line
    let w := s.take 8
    (∀ s', IsCode line s' ↔ s' = s) ∧
    (read line = .skipped ↔ ¬Begins s) ∧
    (∀ v, read line = .byte v ↔ Begins s ∧ (∀ c ∈ w, c = '0' ∨ c = '1') ∧
      v.toNat = Nat.ofDigits 2 (w.reverse.map fun c => if c = '1' then 1 else 0)) ∧
    (read line = .malformed ↔ Begins s ∧ ∃ c ∈ w, c ≠ '0' ∧ c ≠ '1') ∧
    String.Pos.Raw.IsValid (String.ofList s) ⟨offset 8 s⟩ ∧ front? (offset 8 s) s = some w ∧
    scan line = some (read line).outcome := by
  intro s w
  refine ⟨fun s' => isCode_iff, ?_, fun v => ?_, ?_, ?_, front?_offset 8 s, scan_eq_read line⟩
  · rw [read_eq_skipped_iff, ← isLiteral_iff, Bool.not_eq_true]
  · rw [read_eq_byte_iff, isLiteral_iff, all_isBit_iff, value_eq_ofDigits]
    rfl
  · rw [read_eq_malformed_iff, isLiteral_iff, ← Bool.not_eq_true, all_isBit_iff]
    simp only [not_forall, not_or, exists_prop]
    rfl
  · exact isSome_front?_iff.mp (front?_offset 8 s ▸ rfl)

/-- The eighth character of this code takes two bytes and the ninth three, and only the former
counts. -/
example : offset 8 "0000000é€".toList = 9 ∧
    scan "0000000é€".toList = some (.error .invalidDigit) ∧
    scan "00000010€ # é".toList = some (.ok (some 2)) := by decide

end Line

end Image

end ByteMachine
