/-!
# Reading bytes as UTF-8

Bytes that are not well-formed UTF-8 do not stop the reader. The longest start of a character that
the bytes at hand could still have become is read as one replacement character, and reading goes
on with the first byte that did not fit.

A character of several bytes is a lead byte followed by continuation bytes from 80 to BF. Some
lead bytes narrow the range of the first continuation byte, which keeps overlong forms,
surrogates and values above 10FFFF out.

## Results

* `decode_ascii`: an ASCII byte is its own character.
* `decode_append_ascii`: an ASCII byte never belongs to a longer character, so a text can be cut
  in front of it.
-/

namespace ByteMachine.Text.Utf8

/-- The character that stands for bytes that could not be read. -/
def replacement : Char := Char.ofNat 0xFFFD

/-- What a lead byte asks for. -/
structure Lead where
  /-- How many continuation bytes follow. -/
  more : Nat
  /-- The least first continuation byte. -/
  least : UInt8
  /-- The greatest first continuation byte. -/
  greatest : UInt8
  /-- The value bits that the lead byte carries. -/
  bits : Nat
deriving DecidableEq

/-- The lead bytes of well-formed characters. -/
def lead? (b : UInt8) : Option Lead :=
  let n := b.toNat
  if n < 0x80 then some ⟨0, 0x80, 0xBF, n⟩
  else if n < 0xC2 then none
  else if n < 0xE0 then some ⟨1, 0x80, 0xBF, n - 0xC0⟩
  else if n = 0xE0 then some ⟨2, 0xA0, 0xBF, 0⟩
  else if n = 0xED then some ⟨2, 0x80, 0x9F, 0xD⟩
  else if n < 0xF0 then some ⟨2, 0x80, 0xBF, n - 0xE0⟩
  else if n = 0xF0 then some ⟨3, 0x90, 0xBF, 0⟩
  else if n < 0xF4 then some ⟨3, 0x80, 0xBF, n - 0xF0⟩
  else if n = 0xF4 then some ⟨3, 0x80, 0x8F, 4⟩
  else none

/-- Reads `more` continuation bytes, the first of them within the given range, after the value
bits `bits`; gives the character and the bytes behind it. -/
def continued : (more : Nat) → (least greatest : UInt8) → (bits : Nat) → List UInt8 →
    Char × List UInt8
  | 0, _, _, bits, bs => (Char.ofNat bits, bs)
  | _ + 1, _, _, _, [] => (replacement, [])
  | more + 1, least, greatest, bits, b :: bs =>
    if least ≤ b ∧ b ≤ greatest then continued more 0x80 0xBF (64 * bits + b.toNat % 64) bs
    else (replacement, b :: bs)

/-- Reading never gives bytes back that it has not been given. -/
theorem length_continued_le (more : Nat) (least greatest : UInt8) (bits : Nat)
    (bs : List UInt8) : (continued more least greatest bits bs).2.length ≤ bs.length := by
  fun_induction continued more least greatest bits bs with
  | case1 => exact Nat.le_refl _
  | case2 => exact Nat.le_refl _
  | case3 more least greatest bits b bs h ih =>
    rw [List.length_cons]
    omega
  | case4 => exact Nat.le_refl _

/-- The characters that bytes stand for. -/
def decode : List UInt8 → List Char
  | [] => []
  | b :: bs =>
    match lead? b with
    | none => replacement :: decode bs
    | some lead =>
      let read := continued lead.more lead.least lead.greatest lead.bits bs
      read.1 :: decode read.2
termination_by bs => bs.length
decreasing_by
  · simp
  · have := length_continued_le lead.more lead.least lead.greatest lead.bits bs
    simp only [List.length_cons]
    omega

/-- The bytes of a text. -/
def encode (s : String) : List UInt8 := s.toUTF8.toList

theorem toList_loop (bytes : ByteArray) (i : Nat) (read : List UInt8) :
    ByteArray.toList.loop bytes i read = read.reverse ++ bytes.data.toList.drop i := by
  fun_induction ByteArray.toList.loop bytes i read with
  | case1 i read h ih =>
    have hi : i < bytes.data.toList.length := h
    have hget : bytes.get! i = bytes.data.toList[i] := by
      simp [ByteArray.get!, getElem!_pos, h]
    rw [ih, List.drop_eq_getElem_cons hi, List.reverse_cons, List.append_assoc, hget]
    rfl
  | case2 i read h =>
    have hi : bytes.data.toList.length ≤ i := Nat.le_of_not_lt h
    rw [List.drop_eq_nil_of_le hi, List.append_nil]

theorem encode_eq (s : String) : encode s = s.toUTF8.data.toList := by
  unfold encode ByteArray.toList
  rw [toList_loop]
  rfl

theorem length_encode (s : String) : (encode s).length = s.utf8ByteSize := by
  rw [encode_eq]
  rfl

theorem encode_append (s t : String) : encode (s ++ t) = encode s ++ encode t := by
  simp [encode_eq]

/-- A text is written character by character. -/
theorem encode_ofList (cs : List Char) :
    encode (String.ofList cs) = cs.flatMap String.utf8EncodeChar := by
  rw [encode_eq]
  simp [List.utf8Encode]

/-! ## ASCII -/

theorem lead?_ascii {b : UInt8} (h : b.toNat < 0x80) :
    lead? b = some ⟨0, 0x80, 0xBF, b.toNat⟩ := by
  simp [lead?, h]

@[simp] theorem decode_nil : decode [] = [] := by
  rw [decode]

/-- An ASCII byte is its own character. -/
theorem decode_ascii {b : UInt8} (h : b.toNat < 0x80) (bs : List UInt8) :
    decode (b :: bs) = Char.ofNat b.toNat :: decode bs := by
  rw [decode]
  simp [lead?_ascii h, continued]

/-- What follows an ASCII byte does not change how the bytes before it are read. -/
theorem continued_append_ascii {b : UInt8} (hb : b.toNat < 0x80) (bs : List UInt8)
    (more : Nat) (least greatest : UInt8) (bits : Nat) (hl : 0x80 ≤ least.toNat)
    (as : List UInt8) :
    continued more least greatest bits (as ++ b :: bs) =
      ((continued more least greatest bits as).1,
        (continued more least greatest bits as).2 ++ b :: bs) := by
  fun_induction continued more least greatest bits as with
  | case1 => simp [continued]
  | case2 least greatest bits more =>
    have : ¬ (least ≤ b ∧ b ≤ greatest) := by
      rintro ⟨h, -⟩
      have := UInt8.le_iff_toNat_le.mp h
      omega
    simp [continued, this]
  | case3 more least greatest bits a as h ih =>
    rw [List.cons_append, continued, if_pos h]
    exact ih (by decide)
  | case4 more least greatest bits a as h =>
    rw [List.cons_append, continued, if_neg h]

theorem le_least_of_lead? {b : UInt8} {lead : Lead} (h : lead? b = some lead) :
    0x80 ≤ lead.least.toNat := by
  unfold lead? at h
  simp only at h
  repeat' split at h
  all_goals cases h
  all_goals exact Nat.le_of_ble_eq_true rfl

/-- **A text can be cut in front of an ASCII byte:** such a byte never belongs to a longer
character. -/
theorem decode_append_ascii {b : UInt8} (hb : b.toNat < 0x80) (as bs : List UInt8) :
    decode (as ++ b :: bs) = decode as ++ decode (b :: bs) := by
  fun_induction decode as with
  | case1 => rfl
  | case2 a as h ih =>
    rw [List.cons_append, decode]
    simp [h, ih]
  | case3 a as lead h read ih =>
    rw [List.cons_append, decode]
    simp only [h]
    rw [continued_append_ascii hb bs lead.more lead.least lead.greatest lead.bits
      (le_least_of_lead? h) as]
    simp only [List.cons_append]
    rw [← ih]

end ByteMachine.Text.Utf8
