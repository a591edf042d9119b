import TapeRecall.Abort

/-!
# Tiers

An archive keeps a file on several tiers, fastest first: tier 0 is the disk cache, the tiers
below it are tape. For each tier it reports segment flags, the bytes it holds there, and the
volumes those bytes lie on. A volume that was handed out has to be handed back.
-/

set_option autoImplicit false

namespace TapeRecall

/-- The segment flags of one tier, as a set of bits. -/
structure Flags where
  bits : UInt32 := 0
deriving DecidableEq

namespace Flags

/-- No flag at all: the tier has no segment of the file. -/
def empty : Flags := {}

/-- The tier holds data of the file. -/
def dataExists : Flags := ⟨1⟩

/-- The tier is a disk level. -/
def diskLevel : Flags := ⟨2⟩

/-- The tier is a tape level. -/
def tapeLevel : Flags := ⟨4⟩

/-- No bit is set. -/
def isEmpty (f : Flags) : Bool :=
  f.bits == 0

/-- Every bit of `g` is set in `f`. The empty set is contained in any other. -/
def contains (f g : Flags) : Bool :=
  f.bits &&& g.bits == g.bits

/-- The bits of both. -/
def union (f g : Flags) : Flags :=
  ⟨f.bits ||| g.bits⟩

/-- The bit that marks data is set, whatever the others say. -/
def holdsData (f : Flags) : Bool :=
  f.contains dataExists

end Flags

/-- A volume as the archive hands it out: a number, where the file starts on it, and the
label of its first physical tape, which may be missing or impossible to read. -/
structure Volume where
  id : UInt64
  position : Int32
  label : Option String
  unreadable : Bool := false
deriving DecidableEq

/-- Reads the label. Reading that of an unreadable volume aborts. -/
def Volume.readLabel (v : Volume) : Except Abort (Option String) :=
  if v.unreadable then .error (.unreadable v.id) else .ok v.label

/-- What the archive reports about one tier. -/
structure Tier where
  flags : Flags
  bytes : UInt64
  volumes : List Volume
deriving DecidableEq

namespace Tier

/-- A tier without segments; it stands for one that was not reported. -/
def absent : Tier := ⟨.empty, 0, []⟩

/-- A tier with segment flags and no data, such as a disk cache the file was purged from. -/
def vacant (flags : Flags) : Tier := ⟨flags, 0, []⟩

/-- A tier that holds `bytes` of the file on `volumes`. -/
def present (bytes : UInt64) (volumes : List Volume) : Tier := ⟨.dataExists, bytes, volumes⟩

/-- A tier that holds `bytes` of the file on one labelled tape. -/
def onTape (id : UInt64) (label : String) (bytes : UInt64) (position : Int32) : Tier :=
  .present bytes [⟨id, position, some label, false⟩]

/-- How many tiers an archive reports at most; what it lists beyond them is never looked at. -/
def depth : Nat := 5

end Tier

end TapeRecall
