import TapeRecall.Catalogue
import TapeRecall.Proc

/-!
# The archive

An archive that keeps a catalogue, a table of open handles, and a count of the volumes it
handed out and got back. How it answers is set from outside, call by call: an answer is a
refusal with some status, and for a recall it may also be an abort. The code of a refusal may
be anything; a refusal with code zero is a refusal still.

Handles are numbered from zero in the order in which files are opened. A refused opening uses
no number. A recall or a close that names a handle which is not open is refused and leaves no
record, and a close takes the handle out of the table even when it is then refused.
-/

set_option autoImplicit false

namespace TapeRecall

/-- How a recall is answered. -/
inductive RecallAnswer where
  | accept
  | refuse (status : Status)
  /-- The recall of an open handle aborts. -/
  | abort
  /-- The recall aborts before the handle is looked at. -/
  | abortUnseen
deriving DecidableEq

/-- How calls are answered; a status stands for a refusal. -/
structure Answers where
  login : Option Status := none
  purge : Option Status := none
  query : Option Status := none
  openFile : Option Status := none
  recallFile : RecallAnswer := .accept
  closeFile : Option Status := none
deriving DecidableEq

/-- The state of an archive. -/
structure Archive where
  answers : Answers := {}
  catalogue : Catalogue := .empty
  /-- The open handles, each with the name it was opened under. -/
  handles : Table Handle String := .empty
  /-- The number of the next handle. -/
  nextHandle : Int32 := 0
  /-- How many volumes were handed out. -/
  acquired : Nat := 0
  /-- How many volumes came back. -/
  released : Nat := 0

namespace Archive

/-- How many volumes are out. -/
def outstanding (a : Archive) : Nat := a.acquired - a.released

/-- The archive with one more object, which replaces the one of the same name. -/
def enter (a : Archive) (name : String) (attributes : Attributes) : Archive :=
  { a with catalogue := a.catalogue.put name attributes }

/-! ## Answering -/

/-- Records a call and refuses it. -/
def refuse {α : Type} (c : Call) (status : Status) : Proc Archive (Except Status α) := do
  Proc.record c (.refused status)
  return .error status

/-- Records a call and answers it. -/
def answer (c : Call) : Option Status → Proc Archive (Except Status Unit)
  | some status => refuse c status
  | none => do
    Proc.record c .accepted
    return .ok ()

/-! ## Credentials -/

/-- Puts credentials in force. -/
def login (mechanism : Mechanism) (principal keytab : String) :
    Proc Archive (Except Status Unit) := do
  let a ← Proc.get
  answer (.login mechanism principal keytab) a.answers.login

/-- Takes the credentials out of force. -/
def purge : Proc Archive (Except Status Unit) := do
  let a ← Proc.get
  answer .purge a.answers.purge

/-! ## The catalogue and its volumes -/

/-- Asks what is known of a name, and hands out the volumes of the answer. A refusal that is
set goes before the question whether there is such a name. -/
def query (file : String) : Proc Archive (Except Status Attributes) := do
  let a ← Proc.get
  match a.answers.query, a.catalogue.get? file with
  | some status, _ => refuse (.query file) status
  | none, none => refuse (.query file) .noEntry
  | none, some attributes =>
    Proc.record (.query file) .accepted
    Proc.set { a with acquired := a.acquired + attributes.volumes.length }
    return .ok attributes

/-- Hands a volume back. -/
def release (v : Volume) : Proc Archive Unit := do
  Proc.record (.release v.id) .accepted
  Proc.modify fun a => { a with released := a.released + 1 }

/-! ## Handles -/

/-- Opens a file, whether or not the catalogue knows it. -/
def openFile (file : String) (mode : OpenMode) : Proc Archive (Except Status Handle) := do
  let a ← Proc.get
  match ← answer (.openFile file mode) a.answers.openFile with
  | .error status => return .error status
  | .ok () =>
    let handle : Handle := ⟨a.nextHandle⟩
    Proc.set { a with nextHandle := a.nextHandle + 1, handles := a.handles.put handle file }
    return .ok handle

/-- Recalls a range of an open file to a tier. -/
def recallFile (handle : Handle) (offset length : UInt64) (tier : UInt32) :
    Proc Archive (Except Status Unit) := do
  let a ← Proc.get
  match a.handles.get? handle with
  | none =>
    Proc.stray (.recallFile handle offset length tier)
    if a.answers.recallFile = .abortUnseen then Proc.abort .recallCutShort
    else return .error .badHandle
  | some file =>
    let call := Call.recallFile file offset length tier
    match a.answers.recallFile with
    | .accept => answer call none
    | .refuse status => answer call (some status)
    | .abort | .abortUnseen =>
      Proc.record call .aborted
      Proc.abort .recallCutShort

/-- Closes a handle. -/
def closeFile (handle : Handle) : Proc Archive (Except Status Unit) := do
  let a ← Proc.get
  match a.handles.get? handle with
  | none =>
    Proc.stray (.closeFile handle)
    return .error .badHandle
  | some file =>
    -- the handle is gone before the answer, so a refused close is not tried again
    Proc.set { a with handles := a.handles.erase handle }
    answer (.closeFile file) a.answers.closeFile

end Archive

end TapeRecall
