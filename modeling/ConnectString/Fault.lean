/-
  ConnectString.Fault — what breaks a computation off without being an error of its input.
-/

namespace ConnectString

inductive Fault where
  /-- A text cannot be cut at these two byte offsets. -/
  | slice (start stop : Nat)
  /-- A count goes below zero. -/
  | underflow
  deriving DecidableEq, Repr

namespace Fault

def message : Fault → String
  | slice start stop => s!"text cannot be cut from byte {start} to byte {stop}"
  | underflow => "attempt to subtract with overflow"

end Fault

end ConnectString
