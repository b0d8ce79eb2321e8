/-!
# Logging

What the command has to say about itself it says in records. A logger drops a record or writes it to
standard error as a line. Which records it drops is its own business, and that of the text it is set
up from: the command runs with any logger.
-/

namespace ByteMachine.CommandLine

/-- How much a record matters. -/
inductive Level
  | error
  | warn
  | info
  | debug
  | trace
deriving DecidableEq

/-- The levels in order: what matters most comes first. -/
def Level.rank : Level → Nat
  | error => 1
  | warn => 2
  | info => 3
  | debug => 4
  | trace => 5

/-- Something that is said about a run. -/
structure Record where
  level : Level
  /-- The part of the program that says it. -/
  target : String
  message : String
deriving DecidableEq

/-- What becomes of records. -/
structure Logger where
  /-- What is written when the logger is set up: its complaints about the text, one entry a line. -/
  opening : List String
  /-- Whether a record is written. -/
  passes : Record → Bool
  /-- The line that a record is written as. The line may show the time, too: no invocation logs the
  same record twice, so it is a function of the record all the same. -/
  line : Record → String

end ByteMachine.CommandLine
