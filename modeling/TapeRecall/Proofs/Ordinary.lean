import TapeRecall.Proofs.History

/-!
# Ordinary incidents

Two things happen in one place each. A call on a handle that is not open is made by direct calls
only: an agent opens the handle that it recalls by, and closes it once. And a name of a mechanism is
looked at only where a session is set up, so only there can it be said that the name is unknown.

All else that is done consists of calls that are recorded and of other notices, and is called
ordinary here. That is a property of the trace of each operation, read off its equation, and it goes
from the operations to the steps of a world.
-/

set_option autoImplicit false

namespace TapeRecall

/-- The notice says that a name selected nothing and unix took its place. -/
def Notice.isFallback : Notice → Bool
  | .mechanismUnknown _ => true
  | _ => false

/-- The incident is neither a call on a handle that is not open nor the notice of an unknown
name. -/
def Incident.isOrdinary : Incident → Bool
  | .call .. => true
  | .stray _ => false
  | .notice n => !n.isFallback

namespace Trace

/-- All that happened is ordinary. -/
def isOrdinary (t : Trace) : Bool := t.all Incident.isOrdinary

@[simp] theorem isOrdinary_cons (i : Incident) (t : Trace) :
    isOrdinary (i :: t) = (i.isOrdinary && isOrdinary t) := rfl

@[simp] theorem isOrdinary_append (t u : Trace) :
    isOrdinary (t ++ u) = (isOrdinary t && isOrdinary u) := List.all_append

theorem strays_eq_nil {t : Trace} (h : t.isOrdinary = true) : t.strays = [] := by
  induction t with
  | nil => rfl
  | cons i t ih =>
      rw [isOrdinary_cons, Bool.and_eq_true] at h
      obtain ⟨hi, ht⟩ := h
      cases i with
      | call c r => exact ih ht
      | stray c => cases hi
      | notice n => exact ih ht

end Trace

/-! ## The operations -/

namespace Session

theorem isOrdinary_completion (s : Session) (answer : Option Status) :
    (s.completion answer).isOrdinary = true := by
  cases answer <;> rfl

/-- Setting up a session is not ordinary, but it has nothing to do with handles. -/
theorem strays_establishment (mechanism principal keytab : String) (answer : Option Status) :
    (establishment mechanism principal keytab answer).strays = [] := by
  unfold establishment
  split <;> cases answer <;> rfl

end Session

namespace Scan

theorem isOrdinary_releases (vs : List Volume) : (releases vs).isOrdinary = true := by
  rw [releases, Trace.isOrdinary, List.all_map]
  exact List.all_eq_true.2 fun _ _ => rfl

theorem isOrdinary_reduction (x : Attributes) : (reduction x).isOrdinary = true := by
  unfold reduction
  split
  · rw [Trace.isOrdinary_cons, isOrdinary_releases]
    split <;> rfl
  · rcases x.fastest? with _ | level
    · rw [Trace.isOrdinary_append, Trace.isOrdinary_cons, isOrdinary_releases, isOrdinary_releases]
      rfl
    · exact isOrdinary_releases _

theorem isOrdinary_closing (file : String) (ending : Except Abort (Except ScanFault Location)) :
    Trace.isOrdinary ((closing file ending).map .notice) = true := by
  rcases ending with why | fault | l <;> rfl

theorem isOrdinary_locate (file : String) (s : Archive) :
    (locate file s).trace.isOrdinary = true := by
  rcases hk : s.known file with status | x
  · rw [locate_apply_of_error hk]
    rfl
  · rw [locate_apply_of_ok hk]
    simp [isOrdinary_reduction, isOrdinary_closing, Incident.isOrdinary, Notice.isFallback]

end Scan

namespace Recall

/-- The handle of the two calls is the one that was opened before them. -/
theorem isOrdinary_perform (r : Request) (s : Archive) :
    (perform r s).trace.isOrdinary = true := by
  rcases hopen : s.answers.openFile with _ | status
  · rw [perform_apply_of_none hopen]
    unfold closing
    split <;> rfl
  · rw [perform_apply_of_some hopen]
    rfl

end Recall

namespace Agent

theorem strays_login (a : Agent) (mechanism principal keytab : String) (s : Archive) :
    (a.login mechanism principal keytab s).trace.strays = [] := by
  rcases h : a.session with _ | session
  · rw [login_apply_of_none h]
    exact Session.strays_establishment mechanism principal keytab _
  · rw [login_apply_of_some h]
    rfl

theorem isOrdinary_logout (a : Agent) (s : Archive) : (a.logout s).trace.isOrdinary = true := by
  rcases h : a.session with _ | session
  · rw [logout_apply_of_none h]
    rfl
  · rw [logout_apply_of_some h]
    exact session.isOrdinary_completion _

theorem isOrdinary_retire (a : Agent) (s : Archive) : (a.retire s).trace.isOrdinary = true := by
  rcases h : a.session with _ | session
  · rw [retire_apply_of_none h]
    rfl
  · rw [retire_apply_of_some h, Trace.isOrdinary_append, session.isOrdinary_completion]
    rcases s.answers.purge with _ | status <;> rfl

theorem isOrdinary_locate (a : Agent) (file : String) (s : Archive) :
    (a.locate file s).trace.isOrdinary = true := by
  cases hactive : a.isActive with
  | true =>
      rw [locate_of_active hactive]
      exact Scan.isOrdinary_locate file s
  | false =>
      rw [locate_apply_of_inactive hactive]
      rfl

theorem isOrdinary_recallFile (a : Agent) (r : Request) (s : Archive) :
    (a.recallFile r s).trace.isOrdinary = true := by
  cases hactive : a.isActive with
  | true =>
      rw [recallFile_of_active hactive]
      exact Recall.isOrdinary_perform r s
  | false =>
      rw [recallFile_apply_of_inactive hactive]
      rfl

end Agent

namespace Query

theorem isOrdinary_lastMove (file : String) (before after : Phase) :
    (lastMove file before after).isOrdinary = true := by
  unfold lastMove
  split <;> rfl

theorem isOrdinary_locate (a : Agent) (s : Query × Archive) :
    ((locate a).run s).trace.isOrdinary = true := by
  obtain ⟨q, s⟩ := s
  by_cases hp : q.phase = .unresolved
  · rw [locate_run_of_unresolved hp, Trace.isOrdinary_append, isOrdinary_lastMove, Bool.and_true]
    exact a.isOrdinary_locate q.file s
  · rw [locate_run_of_ne hp]
    rfl

theorem isOrdinary_recallFile (a : Agent) (s : Query × Archive) :
    ((recallFile a).run s).trace.isOrdinary = true := by
  obtain ⟨q, s⟩ := s
  by_cases hp : q.phase = .resolved
  · rcases hl : q.location with _ | l
    · rw [recallFile_run_of_none hl]
      rfl
    · rw [recallFile_run_of_resolved hp hl, Trace.isOrdinary_append, isOrdinary_lastMove,
        Bool.and_true]
      exact a.isOrdinary_recallFile _ s
  · rw [recallFile_run_of_ne hp]
    rfl

theorem isOrdinary_run (a : Agent) (s : Query × Archive) :
    ((run a).run s).trace.isOrdinary = true := by
  rcases needsRecall_or_rest ((locate a).run s).ending with ⟨l, hl, hn⟩ | hrest
  · rw [run_run_of_needsRecall hl hn, Trace.isOrdinary_append, isOrdinary_locate,
      isOrdinary_recallFile]
    rfl
  · rw [run_run_of_rest hrest]
    exact isOrdinary_locate a s

end Query

/-! ## The steps of a world -/

/-- The direct call names a handle. -/
def DirectCall.onHandle : DirectCall → Bool
  | .recallFile .. | .closeFile _ => true
  | _ => false

/-- The action is a direct call that names a handle. -/
def Action.onHandle : Action → Bool
  | .direct c => c.onHandle
  | _ => false

namespace World

theorem isOrdinary_inquire (w : World) (n k : Nat) (i : Inquiry) :
    (w.inquire n k i).trace.isOrdinary = true := by
  unfold inquire
  rcases w.queries.get? (n, k) with _ | q
  · rfl
  · cases i with
    | locate => exact Query.isOrdinary_locate (w.agent n) (q, w.archive)
    | recallFile => exact Query.isOrdinary_recallFile (w.agent n) (q, w.archive)
    | run => exact Query.isOrdinary_run (w.agent n) (q, w.archive)
    | look => rfl

theorem isOrdinary_direct (w : World) {c : DirectCall} (h : c.onHandle = false) :
    (w.direct c).trace.isOrdinary = true := by
  cases c with
  | login mechanism principal keytab => rw [direct, call_trace, Archive.login_apply]; rfl
  | purge => rw [direct, call_trace, Archive.purge_apply]; rfl
  | query file =>
      rw [direct, callThen_trace]
      rcases hk : w.archive.known file with status | x
      · rw [Archive.query_apply_of_error hk]; rfl
      · rw [Archive.query_apply_of_ok hk]; rfl
  | release index =>
      rw [direct]
      rcases w.held[index]? with _ | v <;> rfl
  | openFile file mode =>
      rw [direct, call_trace]
      rcases ho : w.archive.answers.openFile with _ | status
      · rw [Archive.openFile_apply_of_none ho]; rfl
      · rw [Archive.openFile_apply_of_some ho]; rfl
  | recallFile | closeFile => cases h

/-- A step is ordinary unless it sets up a session or is a direct call that names a handle. -/
theorem isOrdinary_step (w : World) {s : Step}
    (hlogin : ∀ mechanism principal keytab, s.action ≠ .login mechanism principal keytab)
    (hhandle : s.action.onHandle = false) : (w.step s).trace.isOrdinary = true := by
  obtain ⟨n, action⟩ := s
  cases action with
  | login mechanism principal keytab => exact absurd rfl (hlogin mechanism principal keytab)
  | logout =>
      rw [step_logout, callAgent, callThen_trace]
      exact (w.agent n).isOrdinary_logout w.archive
  | retire =>
      rw [step_retire, call_trace]
      exact (w.agent n).isOrdinary_retire w.archive
  | locate file =>
      rw [step_locate, call_trace]
      exact (w.agent n).isOrdinary_locate file w.archive
  | recallFile file length =>
      rw [step_recallFile, call_trace]
      exact (w.agent n).isOrdinary_recallFile ⟨file, length⟩ w.archive
  | recallLocated file l =>
      rw [step_recallLocated, call_trace]
      exact (w.agent n).isOrdinary_recallFile (.ofLocation file l) w.archive
  | inquire k i => exact (w.engage n).isOrdinary_inquire n k i
  | direct c => exact (w.engage n).isOrdinary_direct hhandle
  | compare | showSession | describe | appear | start | answers | enter => rfl

/-- Nobody but who names a handle makes a call on one that is not open. -/
theorem strays_step (w : World) {s : Step} (h : s.action.onHandle = false) :
    (w.step s).trace.strays = [] := by
  obtain ⟨n, action⟩ := s
  cases action with
  | login mechanism principal keytab =>
      rw [step_login, callAgent, callThen_trace]
      exact (w.agent n).strays_login mechanism principal keytab w.archive
  | _ =>
      -- whoever sets up no session and names no handle does only what is ordinary
      refine Trace.strays_eq_nil (w.isOrdinary_step ?_ h)
      rintro _ _ _ ⟨⟩

end World

end TapeRecall
