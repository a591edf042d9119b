import TapeRecall.Archive

/-!
# What the calls of an archive come to

Every call has one equation here: how it ends, the archive after it, and what it leaves in the
trace, all read off the archive before it. A statement about an operation is proved from these
equations and from those in `Proc`, and nothing after this file opens a call again.

The equations of a recall and a close split on whether the handle is open, because a handle that
is not open leaves no record.
-/

set_option autoImplicit false

namespace TapeRecall

/-- A recorded call and what became of it. -/
abbrev Exchange := Call × Reply

/-- The reply that an answer leads to. -/
def Reply.ofAnswer : Option Status → Reply
  | none => .accepted
  | some status => .refused status

namespace RecallAnswer

/-- The reply to a recall of an open handle. -/
def reply : RecallAnswer → Reply
  | .accept => .accepted
  | .refuse status => .refused status
  | .abort | .abortUnseen => .aborted

/-- How a recall of an open handle ends. -/
def ending : RecallAnswer → Except Abort (Except Status Unit)
  | .accept => .ok (.ok ())
  | .refuse status => .ok (.error status)
  | .abort | .abortUnseen => .error .recallCutShort

end RecallAnswer

namespace Trace

/-! ## Taking a trace apart -/

@[simp] theorem replies_nil : replies [] = [] := rfl

@[simp] theorem replies_call (c : Call) (r : Reply) (t : Trace) :
    replies (.call c r :: t) = (c, r) :: replies t := rfl

@[simp] theorem replies_stray (c : StrayCall) (t : Trace) :
    replies (.stray c :: t) = replies t := rfl

@[simp] theorem replies_notice (n : Notice) (t : Trace) :
    replies (.notice n :: t) = replies t := rfl

@[simp] theorem notices_nil : notices [] = [] := rfl

@[simp] theorem notices_call (c : Call) (r : Reply) (t : Trace) :
    notices (.call c r :: t) = notices t := rfl

@[simp] theorem notices_notice (n : Notice) (t : Trace) :
    notices (.notice n :: t) = n :: notices t := rfl

@[simp] theorem replies_map_notice (ns : List Notice) : replies (ns.map .notice) = [] := by
  induction ns with
  | nil => rfl
  | cons n rest ih => exact ih

@[simp] theorem replies_map_call (es : List Exchange) :
    replies (es.map fun e => .call e.1 e.2) = es := by
  induction es with
  | nil => rfl
  | cons e rest ih => exact congrArg (e :: ·) ih

@[simp] theorem notices_map_notice (ns : List Notice) : notices (ns.map .notice) = ns := by
  induction ns with
  | nil => rfl
  | cons n rest ih => exact congrArg (n :: ·) ih

@[simp] theorem notices_map_call (es : List Exchange) :
    notices (es.map fun e => .call e.1 e.2) = [] := by
  induction es with
  | nil => rfl
  | cons e rest ih => exact ih

end Trace

namespace Archive

/-! ## Credentials -/

/-- What the caller of an answered call gets. -/
def given : Option Status → Except Status Unit
  | none => .ok ()
  | some status => .error status

/-- An answered call changes nothing and leaves its record. -/
theorem answer_apply (c : Call) (r : Option Status) (a : Archive) :
    answer c r a = ⟨.ok (given r), a, [.call c (.ofAnswer r)]⟩ := by
  cases r <;> rfl

theorem login_apply (m : Mechanism) (principal keytab : String) (a : Archive) :
    login m principal keytab a = ⟨.ok (given a.answers.login), a,
      [.call (.login m principal keytab) (.ofAnswer a.answers.login)]⟩ := by
  simp [login, Proc.bind_apply, answer_apply]

theorem purge_apply (a : Archive) :
    purge a = ⟨.ok (given a.answers.purge), a, [.call .purge (.ofAnswer a.answers.purge)]⟩ := by
  simp [purge, Proc.bind_apply, answer_apply]

/-! ## The catalogue and its volumes -/

/-- What the archive has to say about a name, just now. -/
def known (a : Archive) (file : String) : Except Status Attributes :=
  match a.answers.query, a.catalogue.get? file with
  | some status, _ => .error status
  | none, none => .error .noEntry
  | none, some attributes => .ok attributes

/-- The archive after it handed out some volumes. -/
def handOut (a : Archive) (n : Nat) : Archive := { a with acquired := a.acquired + n }

/-- The archive after it got some volumes back. -/
def takeBack (a : Archive) (n : Nat) : Archive := { a with released := a.released + n }

@[simp] theorem takeBack_takeBack (a : Archive) (m n : Nat) :
    (a.takeBack m).takeBack n = a.takeBack (m + n) := by
  simp [takeBack, Nat.add_assoc]

theorem query_apply_of_error {a : Archive} {file : String} {status : Status}
    (h : a.known file = .error status) :
    query file a = ⟨.ok (.error status), a, [.call (.query file) (.refused status)]⟩ := by
  unfold known at h
  split at h
  · rename_i hq
    rw [← Except.error.inj h]
    simp [query, Proc.bind_apply, Proc.map_apply, Except.map, refuse, hq]
  · rename_i hq hc
    rw [← Except.error.inj h]
    simp [query, Proc.bind_apply, Proc.map_apply, Except.map, refuse, hq, hc]
  · cases h

theorem query_apply_of_ok {a : Archive} {file : String} {attributes : Attributes}
    (h : a.known file = .ok attributes) :
    query file a = ⟨.ok (.ok attributes), a.handOut attributes.volumes.length,
      [.call (.query file) .accepted]⟩ := by
  unfold known at h
  split at h
  · cases h
  · cases h
  · rename_i hq hc
    rw [← Except.ok.inj h]
    simp [query, Proc.bind_apply, Proc.map_apply, Except.map, hq, hc, handOut]

/-- A query comes back, with what the archive has to say. -/
theorem ending_query (a : Archive) (file : String) :
    (query file a).ending = .ok (a.known file) := by
  rcases h : a.known file with status | x
  · rw [query_apply_of_error h]
  · rw [query_apply_of_ok h]

theorem release_apply (v : Volume) (a : Archive) :
    release v a = ⟨.ok (), a.takeBack 1, [.call (.release v.id) .accepted]⟩ := rfl

/-! ## Handles -/

/-- The handle that the next opening gives out. -/
def fresh (a : Archive) : Handle := ⟨a.nextHandle⟩

/-- The archive after it gave out a handle. -/
def opened (a : Archive) (file : String) : Archive :=
  { a with nextHandle := a.nextHandle + 1, handles := a.handles.put a.fresh file }

/-- The archive without a handle. -/
def closed (a : Archive) (handle : Handle) : Archive :=
  { a with handles := a.handles.erase handle }

theorem openFile_apply_of_some {a : Archive} {status : Status}
    (h : a.answers.openFile = some status) (file : String) (mode : OpenMode) :
    openFile file mode a = ⟨.ok (.error status), a,
      [.call (.openFile file mode) (.refused status)]⟩ := by
  simp [openFile, Proc.bind_apply, answer_apply, h, given, Reply.ofAnswer]

theorem openFile_apply_of_none {a : Archive} (h : a.answers.openFile = none) (file : String)
    (mode : OpenMode) :
    openFile file mode a = ⟨.ok (.ok a.fresh), a.opened file,
      [.call (.openFile file mode) .accepted]⟩ := by
  simp [openFile, Proc.bind_apply, Proc.map_apply, Except.map, answer_apply, h, given,
    Reply.ofAnswer, opened, fresh]

theorem recallFile_apply_of_some {a : Archive} {handle : Handle} {file : String}
    (h : a.handles.get? handle = some file) (offset length : UInt64) (tier : UInt32) :
    recallFile handle offset length tier a = ⟨a.answers.recallFile.ending, a,
      [.call (.recallFile file offset length tier) a.answers.recallFile.reply]⟩ := by
  cases hr : a.answers.recallFile <;>
    simp [recallFile, Proc.bind_apply, answer_apply, h, hr, given, Reply.ofAnswer,
      RecallAnswer.ending, RecallAnswer.reply]

/-- A recall of a handle that is not open is a stray, also where the archive aborts. -/
theorem recallFile_apply_of_none {a : Archive} {handle : Handle}
    (h : a.handles.get? handle = none) (offset length : UInt64) (tier : UInt32) :
    recallFile handle offset length tier a = ⟨if a.answers.recallFile = .abortUnseen
      then .error .recallCutShort else .ok (.error .badHandle), a,
      [.stray (.recallFile handle offset length tier)]⟩ := by
  by_cases hr : a.answers.recallFile = .abortUnseen <;>
    simp [recallFile, Proc.bind_apply, h, hr]

theorem closeFile_apply_of_some {a : Archive} {handle : Handle} {file : String}
    (h : a.handles.get? handle = some file) :
    closeFile handle a = ⟨.ok (given a.answers.closeFile), a.closed handle,
      [.call (.closeFile file) (.ofAnswer a.answers.closeFile)]⟩ := by
  simp [closeFile, Proc.bind_apply, answer_apply, h, closed]

/-- So is a close of one. -/
theorem closeFile_apply_of_none {a : Archive} {handle : Handle}
    (h : a.handles.get? handle = none) :
    closeFile handle a = ⟨.ok (.error .badHandle), a, [.stray (.closeFile handle)]⟩ := by
  simp [closeFile, Proc.bind_apply, Proc.map_apply, Except.map, h]

end Archive

end TapeRecall
