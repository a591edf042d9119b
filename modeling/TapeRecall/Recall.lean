import TapeRecall.Archive

/-!
# Recalling a file

A recall opens the file, asks for the whole window in one call, and closes the handle again.
The handle is closed once, whatever became of the recall, also when that aborted.

Where more than one call is refused the first refusal is the fault: without a handle nothing
is recalled, a refused recall counts more than the refused close after it, and a refused close
counts when the recall was accepted.
-/

set_option autoImplicit false

namespace TapeRecall.Recall

/-- The tier that files are recalled to. -/
def fastestTier : UInt32 := 0

/-- Closes the handle of a recall that aborted. -/
def closeOnAbort (handle : Handle) : Proc Archive Unit := do
  match ← Archive.closeFile handle with
  | .ok () => return ()
  | .error status => Proc.notify (.closeRefusedOnAbort status handle)

/-- Weighs the reply to the recall and the reply to the close that followed it. -/
def conclude (file : String) :
    (recalled closed : Except Status Unit) → Proc Archive (Except RecallFault Unit)
  | .ok (), .ok () => return .ok ()
  | .ok (), .error status => do
    Proc.notify (.closeRefused file status)
    return .error (.closeRefused status)
  | .error status, .ok () => do
    Proc.notify (.recallRefused file status)
    return .error (.recallRefused status)
  | .error status, .error second => do
    Proc.notify (.recallRefused file status)
    Proc.notify (.closeRefusedAfterRecall file second)
    return .error (.recallRefused status)

/-- Carries out a request. -/
def perform (r : Request) : Proc Archive (Except RecallFault Unit) := do
  Proc.notify (.recallEntered r.file r.length)
  match ← Archive.openFile r.file .readOnlyNonblock with
  | .error status =>
    Proc.notify (.openRefused r.file status)
    return .error (.openRefused status)
  | .ok handle =>
    -- only an abort takes the first of the two closings; otherwise the second one does it
    let recalled ← (Archive.recallFile handle r.window.start r.window.size fastestTier).onAbort
      (closeOnAbort handle)
    let closed ← Archive.closeFile handle
    let result ← conclude r.file recalled closed
    Proc.notify (.recallLeft r.file result.isOk)
    return result

end TapeRecall.Recall
