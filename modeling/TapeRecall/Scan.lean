import TapeRecall.Archive

/-!
# Locating a file

A scan asks the archive about a name and reduces the answer to one location. It goes through
the tiers from the fastest on, and the first tier that holds data is where the file is. What
the tiers below it say makes no difference, and neither does anything past the last level.

Every volume that came with the answer is handed back before the scan returns, and each once.
The volumes of a tier go back when the scan leaves that tier. Where it ends early, by a fault
or by an abort, the tiers it has not left yet go back on the spot, in their order; so in the
end the volumes are handed back in the order in which the answer lists them.
-/

set_option autoImplicit false

namespace TapeRecall.Scan

/-! ## Handing back -/

/-- Hands back the volumes of a list. -/
def handBack : List Volume → Proc Archive Unit
  | [] => return ()
  | v :: rest => do
    Archive.release v
    handBack rest

/-- Hands back the volumes of tiers that the scan has not left yet. -/
def handBackAll (tiers : List Tier) : Proc Archive Unit :=
  handBack (tiers.flatMap Tier.volumes)

/-- Handing back releases the volumes in their order and does nothing else. -/
theorem handBack_apply (vs : List Volume) (a : Archive) :
    handBack vs a = ⟨.ok (), { a with released := a.released + vs.length },
      vs.map fun v => .call (.release v.id) .accepted⟩ := by
  induction vs generalizing a with
  | nil => rfl
  | cons v rest ih =>
    simp [handBack, Proc.bind_apply, Archive.release, ih, Nat.add_assoc, Nat.add_comm 1]

/-! ## From tiers to a location -/

/-- The location of a file whose first tier with data is this one. On disk no volume is
looked at. On tape the first volume has to have a label and a position. -/
def place (level : Nat) (tier : Tier) : Except Abort (Except ScanFault Location) :=
  let missing : ScanFault := .missingVolume (UInt32.ofNat level)
  match level, tier.volumes with
  | 0, _ => .ok (.ok (.onDisk tier.bytes))
  | _, [] => .ok (.error missing)
  | _, v :: _ => do
    match ← v.readLabel with
    | none => return .error missing
    | some label =>
      if v.position < 0 then return .error missing
      else return .ok ⟨UInt32.ofNat level, label, tier.bytes, v.position⟩

/-- Goes through the tiers from `level` on, with `levels` levels to go and with the location
if there is one already. -/
def walk : (levels level : Nat) → List Tier → Option Location →
    Proc Archive (Except ScanFault Location)
  | 0, _, tiers, some l => do
    handBackAll tiers
    return .ok l
  | 0, _, tiers, none => do
    Proc.notify .noTierHoldsData
    handBackAll tiers
    return .error .emptyFile
  -- a tier that was not reported holds nothing and has nothing to hand back
  | levels + 1, level, [], found => walk levels (level + 1) [] found
  | levels + 1, level, tier :: rest, found =>
    if found.isNone && tier.flags.holdsData then do
      match ← (Proc.ofEnding (place level tier)).onAbort (handBackAll (tier :: rest)) with
      | .ok l =>
        handBack tier.volumes
        walk levels (level + 1) rest (some l)
      | .error fault =>
        -- this tier is not left yet, so its volumes are among those that go back here
        handBackAll (tier :: rest)
        return .error fault
    else do
      handBack tier.volumes
      walk levels (level + 1) rest found

/-- Reduces what the archive knows of an object to a location. An object without a segment on
the fastest tier has none anywhere: of a plain file that is a fault, and anything else is
taken for a directory. -/
def reduce (a : Attributes) : Proc Archive (Except ScanFault Location) :=
  if (a.tiers.headD .absent).flags.isEmpty then
    if a.kind.isFile then do
      Proc.notify .segmentless
      handBackAll a.tiers
      return .error .noSegments
    else do
      Proc.notify (.likelyDirectory a.kind)
      handBackAll a.tiers
      return .error .isDirectory
  else walk Tier.depth 0 a.tiers none

/-! ## The scan -/

/-- Locates a file. -/
def locate (file : String) : Proc Archive (Except ScanFault Location) := do
  Proc.notify (.scanEntered file)
  let result ← match ← Archive.query file with
    | .ok attributes => reduce attributes
    | .error status => pure (.error (.queryRefused status))
  match result with
  | .ok l => Proc.notify (.located file l)
  | .error fault => Proc.notify (.scanFailed file fault)
  Proc.notify (.scanLeft result.isOk)
  return result

end TapeRecall.Scan
