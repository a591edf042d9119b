/-!
# Locations

Where a file was found: the fastest tier that holds it, and for a tape tier the tape and the
position on it. A file on the disk tier has no tape, so its location carries fixed marks in
their place.
-/

set_option autoImplicit false

namespace TapeRecall

/-- Where a file was found, and how large it is there. -/
structure Location where
  /-- The fastest tier that holds the file; tier 0 is the disk cache. -/
  tier : UInt32
  tape : String
  size : UInt64
  position : Int32
deriving DecidableEq

namespace Location

/-- Stands for the tape of a file on disk. -/
def diskLabel : String := "DISK"

/-- Stands for the position of a file on disk; on a tape a position is never negative. -/
def diskPosition : Int32 := -1

/-- Stands for the tape of a file that no tier holds. -/
def emptyLabel : String := "EMPTY"

/-- The location of a file of this size in the disk cache. -/
def onDisk (size : UInt64) : Location := ⟨0, diskLabel, size, diskPosition⟩

/-- The tier alone decides; the label and the position of a tape may be anything. -/
def isOnDisk (l : Location) : Bool := l.tier == 0

/-- A file that is not in the disk cache has to be recalled before it can be read. -/
def needsRecall (l : Location) : Bool := !l.isOnDisk

end Location

end TapeRecall
