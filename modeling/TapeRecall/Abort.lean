/-!
# Aborts

A call into the archive can fail to return at all: a recall that is cut short, or a volume
whose label sits in memory that cannot be read. Such an abort is no status and no fault of
the operation that made the call. It runs through every operation up to the caller, and on
the way each operation gives back what it holds.
-/

set_option autoImplicit false

namespace TapeRecall

/-- Why a call never returned. -/
inductive Abort where
  /-- The recall was cut short. -/
  | recallCutShort
  /-- The label of the volume with this number could not be read. -/
  | unreadable (volume : UInt64)
deriving DecidableEq

/-- The text that reaches the caller. -/
def Abort.message : Abort → String
  | .recallCutShort => "stage aborted"
  | .unreadable volume => "volume " ++ volume.toNat.repr ++ " is unreadable"

end TapeRecall
