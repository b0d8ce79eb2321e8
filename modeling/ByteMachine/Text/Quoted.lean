import ByteMachine.Text.Unprintable

/-!
# Quoted text

A text in double quotes on one line. Double quotes and backslashes are escaped by a backslash, some
control characters have a letter of their own, and every other unprintable character is written by
its number in hexadecimal, in braces.
-/

namespace ByteMachine.Text

/-- How a character is written between quotes. -/
def escape (c : Char) : List Char :=
  if c = '\\' ∨ c = '"' then ['\\', c]
  else if c = '\n' then ['\\', 'n']
  else if c = '\r' then ['\\', 'r']
  else if c = '\t' then ['\\', 't']
  else if c.toNat = 0 then ['\\', '0']
  else if isUnprintable c then
    ['\\', 'u', '\x7b'] ++ Nat.toDigits 16 c.toNat ++ ['\x7d']
  else [c]

/-- A text in double quotes. -/
def quoted (s : String) : String := String.ofList ('"' :: s.toList.flatMap escape ++ ['"'])

end ByteMachine.Text
