import TapeRecall.Location
import TapeRecall.Phase
import TapeRecall.Status

/-!
# Faults

An operation that fails reports why. A fault names its cause and carries the status with which
the archive refused a call, exactly as it came; `status?` gives that status back. The message
is for a reader and says the same.
-/

set_option autoImplicit false

namespace TapeRecall

/-- Why a session could not be set up or ended. -/
inductive SessionFault where
  /-- The archive refused the credentials. -/
  | authentication (status : Status)
  /-- There is no session to end. -/
  | noSession
  /-- There is a session already. -/
  | alreadyActive
  /-- The archive refused to purge the credentials. The session is over all the same. -/
  | release (status : Status)
deriving DecidableEq

namespace SessionFault

/-- The fault in words. -/
def message : SessionFault → String
  | .authentication status => "authentication failed: " ++ status.text
  | .noSession => "no active session"
  | .alreadyActive => "a session is already active"
  | .release status => "failed to release credentials: " ++ status.text

/-- The status with which the archive refused a call. -/
def status? : SessionFault → Option Status
  | .authentication status | .release status => some status
  | .noSession | .alreadyActive => none

end SessionFault

/-- Why a file could not be located. -/
inductive ScanFault where
  /-- The object is no plain file. -/
  | isDirectory
  /-- The file exists and no tier has a segment of it. -/
  | noSegments
  /-- The file has segments and none of them holds data. -/
  | emptyFile
  /-- The archive refused the query. -/
  | queryRefused (status : Status)
  /-- The tape tier that holds the file names no volume that could be mounted. -/
  | missingVolume (tier : UInt32)
  /-- There is no session. -/
  | noSession
deriving DecidableEq

namespace ScanFault

/-- The fault in words. -/
def message : ScanFault → String
  | .isDirectory => "object is a directory"
  | .noSegments => "no segments exist for this file"
  | .emptyFile => "file is empty"
  | .queryRefused status => "attribute query failed: " ++ status.text
  | .missingVolume tier => "no usable volume descriptor at tier " ++ tier.toNat.repr
  | .noSession => "no active session"

/-- The status that goes with the fault. A directory has one although no call was refused,
for the sake of callers that tell directories by their status. -/
def status? : ScanFault → Option Status
  | .queryRefused status => some status
  | .isDirectory => some .directory
  | _ => none

/-- The label that stands for the tape of a file that no tier holds. -/
def tapeLabel? : ScanFault → Option String
  | .emptyFile => some Location.emptyLabel
  | _ => none

end ScanFault

/-- Why a file could not be recalled. -/
inductive RecallFault where
  /-- The archive refused to open the file, and nothing was recalled. -/
  | openRefused (status : Status)
  /-- The archive refused the recall. The handle was closed all the same. -/
  | recallRefused (status : Status)
  /-- The recall was accepted and the handle could not be closed. -/
  | closeRefused (status : Status)
  /-- There is no session. -/
  | noSession
deriving DecidableEq

namespace RecallFault

/-- The fault in words. -/
def message : RecallFault → String
  | .openRefused status => "open failed: " ++ status.text
  | .recallRefused status => "recall failed: " ++ status.text
  | .closeRefused status => "close failed: " ++ status.text
  | .noSession => "no active session"

/-- The status with which the archive refused a call. -/
def status? : RecallFault → Option Status
  | .openRefused status | .recallRefused status | .closeRefused status => some status
  | .noSession => none

end RecallFault

/-- Why a step of a query failed. -/
inductive QueryFault where
  | ofScan (fault : ScanFault)
  | ofRecall (fault : RecallFault)
  /-- The step does not follow the phase that the query is in. -/
  | outOfOrder (phase : Phase) (wanted : Phase)
deriving DecidableEq

namespace QueryFault

/-- The fault in words: which of the two parts of the query failed, and how. -/
def message : QueryFault → String
  | .ofScan fault => "LocateError: " ++ fault.message
  | .ofRecall fault => "StageError: " ++ fault.message
  | .outOfOrder phase wanted =>
    "invalid transition from " ++ phase.name ++ " to " ++ wanted.name

/-- The status that goes with the fault that stopped the query. -/
def status? : QueryFault → Option Status
  | .ofScan fault => fault.status?
  | .ofRecall fault => fault.status?
  | .outOfOrder .. => none

end QueryFault

/-- Why something that was asked of an archive failed. -/
inductive Failure where
  | ofSession (fault : SessionFault)
  | ofScan (fault : ScanFault)
  | ofRecall (fault : RecallFault)
  | ofQuery (fault : QueryFault)
  /-- A direct call was refused. -/
  | refused (status : Status)
deriving DecidableEq

namespace Failure

/-- The failure in words. -/
def message : Failure → String
  | .ofSession fault => fault.message
  | .ofScan fault => fault.message
  | .ofRecall fault => fault.message
  | .ofQuery fault => fault.message
  | .refused status => status.text

/-- The status that goes with the failure. -/
def status? : Failure → Option Status
  | .ofSession fault => fault.status?
  | .ofScan fault => fault.status?
  | .ofRecall fault => fault.status?
  | .ofQuery fault => fault.status?
  | .refused status => some status

end Failure

end TapeRecall
