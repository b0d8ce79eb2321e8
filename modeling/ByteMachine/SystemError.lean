/-!
# Errors of the operating system

What the system answers when a file cannot be read or a byte cannot be written. Each error has the
number and the words of the system.
-/

namespace ByteMachine

/-- Why the system refused an operation. -/
inductive SystemError
  /-- There is nothing under this name. -/
  | noSuchFile
  /-- Something that is no directory has been used like one. -/
  | notADirectory
  /-- A directory has been used like a file. -/
  | isADirectory
  /-- The device has no room left. -/
  | noSpace
  /-- A name, or a whole path, is longer than the system allows. -/
  | nameTooLong
  /-- Any other error, by its number and words. -/
  | other (number : Nat) (words : String)
deriving DecidableEq

namespace SystemError

/-- The number of the error. -/
def number : SystemError → Nat
  | noSuchFile => 2
  | notADirectory => 20
  | isADirectory => 21
  | noSpace => 28
  | nameTooLong => 36
  | other number _ => number

/-- The words for the error, without its number. -/
def words : SystemError → String
  | noSuchFile => "No such file or directory"
  | notADirectory => "Not a directory"
  | isADirectory => "Is a directory"
  | noSpace => "No space left on device"
  | nameTooLong => "File name too long"
  | other _ words => words

/-- The error in words. -/
def message (e : SystemError) : String := e.words ++ " (os error " ++ toString e.number ++ ")"

end SystemError

end ByteMachine
