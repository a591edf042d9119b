import TapeRecall.Table
import TapeRecall.Tier

/-!
# The catalogue

What an archive knows of each name: the kind of object it is, and its tiers.
-/

set_option autoImplicit false

namespace TapeRecall

/-- The kind of a catalogued object. -/
inductive ObjectKind where
  | file
  | directory
  | symbolicLink
  /-- A kind outside the documented ones, by its code. -/
  | other (code : UInt32)
deriving DecidableEq

namespace ObjectKind

/-- Only a plain file counts as one; a symbolic link does not. -/
def isFile : ObjectKind → Bool
  | .file => true
  | _ => false

/-- The written form of a kind. -/
def text : ObjectKind → String
  | .file => "File"
  | .directory => "Directory"
  | .symbolicLink => "SymLink"
  | .other code => "Other(" ++ code.toNat.repr ++ ")"

end ObjectKind

/-- What the archive answers when asked about a name: the kind of the object and its tiers,
fastest first. Tiers beyond the end of the list count as absent. -/
structure Attributes where
  kind : ObjectKind
  tiers : List Tier
deriving DecidableEq

namespace Attributes

/-- A plain file on the given tiers. -/
def file (tiers : List Tier) : Attributes := ⟨.file, tiers⟩

/-- A directory, which has no segment on any tier. -/
def directory : Attributes := ⟨.directory, []⟩

/-- All volumes of the object, tier by tier. -/
def volumes (a : Attributes) : List Volume :=
  a.tiers.flatMap Tier.volumes

end Attributes

/-- The objects an archive knows, by name. -/
abbrev Catalogue := Table String Attributes

end TapeRecall
