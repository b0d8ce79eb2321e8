import ByteMachine.Proofs.Console.Output
import Mathlib.Data.Nat.Digits.Defs

/-!
# The bytes of a console's lines

What a console writes for a call, byte by byte: a printed byte as its decimal digits, without
leading zeros and with a line feed behind them, and a halt as the farewell.

* `Text.asciiDigits n` are the decimal digits of a number, as `Nat.digits` has them, in ASCII.
* `Call.written` are the bytes that a call has written.

Results:
* `encode_toString`: a number is written with its decimal digits.
* `line_eq_written`: the line of a call has these bytes.
-/

namespace ByteMachine

namespace Text

/-! ## Digits -/

/-- The decimal digits of a number in ASCII, the most significant first; zero has one digit, too. -/
def asciiDigits (n : Nat) : List UInt8 :=
  if n = 0 then [0x30] else (Nat.digits 10 n).reverse.map fun d => 0x30 + UInt8.ofNat d

/-- The last digit comes off at the end. -/
theorem asciiDigits_of_le {n : Nat} (h : 10 ≤ n) :
    asciiDigits n = asciiDigits (n / 10) ++ [0x30 + UInt8.ofNat (n % 10)] := by
  have hn : n ≠ 0 := by omega
  have hfront : n / 10 ≠ 0 := by omega
  unfold asciiDigits
  rw [if_neg hn, if_neg hfront, Nat.digits_def' (by decide) (Nat.pos_of_ne_zero hn)]
  simp

theorem asciiDigits_of_lt {n : Nat} (h : n < 10) : asciiDigits n = [0x30 + UInt8.ofNat n] := by
  by_cases hn : n = 0
  · subst hn
    rfl
  · unfold asciiDigits
    rw [if_neg hn, Nat.digits_of_lt 10 n hn h]
    rfl

theorem utf8EncodeChar_digitChar {d : Nat} (h : d < 10) :
    String.utf8EncodeChar d.digitChar = [0x30 + UInt8.ofNat d] := by
  have hall : ∀ d < 10, String.utf8EncodeChar (Nat.digitChar d) = [0x30 + UInt8.ofNat d] := by
    decide
  exact hall d h

theorem flatMap_toDigits (n : Nat) :
    (Nat.toDigits 10 n).flatMap String.utf8EncodeChar = asciiDigits n := by
  induction n using Nat.strongRecOn with
  | ind n ih =>
    rw [Nat.toDigits_eq_if (by decide)]
    split
    · rename_i h
      rw [List.flatMap_singleton, utf8EncodeChar_digitChar h, asciiDigits_of_lt h]
    · rename_i h
      have hle : 10 ≤ n := Nat.le_of_not_lt h
      have hlast : n % 10 < 10 := Nat.mod_lt n (by decide)
      rw [List.flatMap_append, List.flatMap_singleton, ih (n / 10) (by omega),
        utf8EncodeChar_digitChar hlast, asciiDigits_of_le hle]

/-- **A number is written with its decimal digits.** -/
theorem Utf8.encode_toString (n : Nat) : Utf8.encode (toString n) = asciiDigits n := by
  rw [Nat.toString_eq_ofList_toDigits, encode_ofList, flatMap_toDigits]

end Text

/-! ## Calls -/

/-- The farewell and the line feed behind it. -/
def farewellBytes : List UInt8 :=
  -- "Shutting", " Down...", " Goodbye"
  [0x53, 0x68, 0x75, 0x74, 0x74, 0x69, 0x6E, 0x67,
    0x20, 0x44, 0x6F, 0x77, 0x6E, 0x2E, 0x2E, 0x2E,
    0x20, 0x47, 0x6F, 0x6F, 0x64, 0x62, 0x79, 0x65, 0x0A]

/-- The bytes that are written for a call. -/
def Call.written : Call → List UInt8
  | print _ v _ => Text.asciiDigits v.toNat ++ [0x0A]
  | halt _ => farewellBytes

/-- **The line of a call has the bytes that are written for it.** -/
theorem Call.line_eq_written : Call.line = Call.written := by
  funext c
  cases c with
  | print m v accepted =>
    have hfeed : Text.Utf8.encode "\n" = [0x0A] := by decide +kernel
    have hdecimal : Console.decimal v = toString v.toNat := rfl
    simp only [line, written, Console.lineBytes, hdecimal, Text.Utf8.encode_append,
      Text.Utf8.encode_toString, hfeed]
  | halt m =>
    have hfarewell : Console.lineBytes Console.farewell = farewellBytes := by decide +kernel
    exact hfarewell

end ByteMachine
