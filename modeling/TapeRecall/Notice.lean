import TapeRecall.Fault
import TapeRecall.Catalogue
import TapeRecall.Log.Field
import TapeRecall.Mechanism
import TapeRecall.Request

/-!
# Notices

What the operations report about themselves while they run. A notice is a fact of the domain;
how verbose it is, its message and its fields are read off it, so that a statement about what
is reported and when needs none of the wording.
-/

set_option autoImplicit false

namespace TapeRecall

/-- A fact that an operation reports while it runs. -/
inductive Notice where
  /-- A session is about to be set up. -/
  | loginEntered
  /-- The name selects no mechanism, and unix takes its place. -/
  | mechanismUnknown (requested : String)
  | credentialsOffered (mechanism : Mechanism) (principal keytab : String)
  | credentialsRefused (status : Status) (principal : String)
  | loginLeft (ok : Bool)
  /-- A session was asked for while there was one. -/
  | loginRepeated (principal : String)
  /-- A session is about to be ended. -/
  | logoutEntered (principal : String)
  | purgeRefused (status : Status) (principal : String)
  | logoutLeft (ok : Bool)
  /-- The session of an agent that retired could not be ended in order. -/
  | retiredUnreleased (fault : SessionFault)
  /-- A file is about to be located. -/
  | scanEntered (file : String)
  /-- The fastest tier has no segment of the plain file. -/
  | segmentless
  /-- The fastest tier has no segment, as it is with directories. -/
  | likelyDirectory (kind : ObjectKind)
  | noTierHoldsData
  | located (file : String) (location : Location)
  | scanFailed (file : String) (fault : ScanFault)
  | scanLeft (ok : Bool)
  /-- A file is about to be recalled. -/
  | recallEntered (file : String) (length : UInt64)
  | openRefused (file : String) (status : Status)
  | recallRefused (file : String) (status : Status)
  | closeRefused (file : String) (status : Status)
  /-- The handle of a refused recall could not be closed either. -/
  | closeRefusedAfterRecall (file : String) (status : Status)
  /-- The handle of an aborted recall could not be closed. -/
  | closeRefusedOnAbort (status : Status) (handle : Handle)
  | recallLeft (file : String) (ok : Bool)
  /-- A query went from one phase to the next. -/
  | phaseChanged (file : String) (before after : Phase)
  /-- A log was to be set up while there was one. -/
  | logKept
deriving DecidableEq

namespace Notice

open Log (Level Field Verbosity)

/-- Failures are warnings, classifications are information, selections and changes of phase
are for whoever looks for an error, and entry and exit are for tracing. -/
@[simp] def verbosity : Notice → Verbosity
  | .loginEntered | .loginLeft .. | .logoutEntered .. | .logoutLeft .. | .scanEntered ..
  | .scanLeft .. | .recallEntered .. | .recallLeft .. => .trace
  | .mechanismUnknown .. | .credentialsOffered .. | .located .. | .phaseChanged ..
  | .logKept => .debug
  | .likelyDirectory .. | .noTierHoldsData => .info
  | .credentialsRefused .. | .loginRepeated .. | .purgeRefused .. | .retiredUnreleased ..
  | .segmentless | .scanFailed .. | .openRefused .. | .recallRefused .. | .closeRefused ..
  | .closeRefusedAfterRecall .. | .closeRefusedOnAbort .. => .warn

/-- The least level that shows the notice. -/
def level (n : Notice) : Level := n.verbosity.level

/-- The words of a notice, which hold none of its values. -/
def message : Notice → String
  | .loginEntered => "> init_context"
  | .mechanismUnknown .. => "unknown mechanism, falling back to unix"
  | .credentialsOffered .. => "auth"
  | .credentialsRefused .. => "credentials rejected"
  | .loginLeft .. => "< init_context"
  | .loginRepeated .. => "init_context called with an active session"
  | .logoutEntered .. => "> end_context"
  | .purgeRefused .. => "failed to purge credentials"
  | .logoutLeft .. => "< end_context"
  | .retiredUnreleased .. => "failed to release session on drop"
  | .scanEntered .. => "> locate"
  | .segmentless => "no segments exist for this file"
  | .likelyDirectory .. => "this seems to be a directory"
  | .noTierHoldsData => "no tier holds data, file is empty"
  | .located .. => "file properties"
  | .scanFailed .. => "error querying file"
  | .scanLeft .. => "< locate"
  | .recallEntered .. => "> stage"
  | .openRefused .. => "error opening file"
  | .recallRefused .. => "error staging file"
  | .closeRefused .. => "error closing file"
  | .closeRefusedAfterRecall .. => "error closing file after failed stage"
  | .closeRefusedOnAbort .. => "failed to close handle on unwind"
  | .recallLeft .. => "< stage"
  | .phaseChanged .. => "query transition"
  | .logKept => "subscriber already installed, keeping it"

/-- The fields with their names, in the order in which they are shown. -/
def fields : Notice → List (String × Field)
  | .loginEntered | .segmentless | .noTierHoldsData | .logKept => []
  | .mechanismUnknown requested => [("requested", .plain requested)]
  | .credentialsOffered mechanism principal keytab =>
    [("mechanism", .shown mechanism.name), ("principal", .plain principal),
     ("keytab", .plain keytab)]
  | .credentialsRefused status principal | .purgeRefused status principal =>
    [("status", .shown status.text), ("principal", .plain principal)]
  | .loginRepeated principal | .logoutEntered principal => [("principal", .plain principal)]
  | .loginLeft ok | .logoutLeft ok | .scanLeft ok => [("ok", .flag ok)]
  | .retiredUnreleased fault => [("error", .shown fault.message)]
  | .scanEntered file => [("file", .plain file)]
  | .likelyDirectory kind => [("object_type", .shown kind.text)]
  | .located file location =>
    [("file", .plain file), ("position", .number location.position.toInt),
     ("tier", .number location.tier.toNat), ("tape", .shown location.tape),
     ("size", .number location.size.toNat)]
  | .scanFailed file fault => [("file", .plain file), ("error", .shown fault.message)]
  | .recallEntered file length => [("file", .plain file), ("length", .number length.toNat)]
  | .openRefused file status | .recallRefused file status | .closeRefused file status
  | .closeRefusedAfterRecall file status =>
    [("file", .plain file), ("status", .shown status.text)]
  | .closeRefusedOnAbort status handle =>
    [("status", .shown status.text), ("handle", .number handle.number.toInt)]
  | .recallLeft file ok => [("file", .plain file), ("ok", .flag ok)]
  | .phaseChanged file before after =>
    [("file", .shown file), ("from", .shown before.name), ("to", .shown after.name)]

/-- The notice as it is handed to the log. -/
def event (n : Notice) : Log.Event := ⟨n.verbosity, n.message, n.fields⟩

end Notice

end TapeRecall
