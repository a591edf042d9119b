import TapeRecall.Proofs.History

/-!
# Work on files

However an operation on a file ends, what it makes the archive go through is a row of whole blocks:
a refused query, a query with the release of all its volumes, a refused opening, or an opening with
its recall and its close. No block is ever cut short, not by a fault and not by an abort, and that
is what the accounts of the archive and the order of an agent's calls rest on.

`FileWork` is that row, with the archive before and after it. Every step of an agent that is about
files does such work, and does none without a session (`World.works_step`), so that what holds of
work on files needs no look at the single operations.
-/

set_option autoImplicit false

namespace TapeRecall

/-! ## What work on files makes of an archive -/

/-- Work on files takes an archive from one state to another and leaves these exchanges, a block
at a time. -/
inductive FileWork : Archive → List Exchange → Archive → Prop
  | nothing (a : Archive) : FileWork a [] a
  /-- A query that is refused. -/
  | queryRefused {a b : Archive} {t : List Exchange} (file : String) (status : Status)
      (rest : FileWork a t b) : FileWork a ((.query file, .refused status) :: t) b
  /-- A query, and then all volumes of the answer are handed back in their order. -/
  | scanned {a b : Archive} {t : List Exchange} (file : String) (x : Attributes)
      (rest : FileWork ((a.handOut x.volumes.length).takeBack x.volumes.length) t b) :
      FileWork a ((.query file, .accepted) ::
        (x.volumes.map fun v => (.release v.id, .accepted)) ++ t) b
  /-- An opening that is refused. -/
  | openRefused {a b : Archive} {t : List Exchange} (file : String) (mode : OpenMode)
      (status : Status) (rest : FileWork a t b) :
      FileWork a ((.openFile file mode, .refused status) :: t) b
  /-- An opening, a recall and a close, whatever the recall and the close are answered. -/
  | recalled {a b : Archive} {t : List Exchange} (r : Request)
      (rest : FileWork ((a.opened r.file).closed a.fresh) t b) :
      FileWork a (Recall.exchanges r a.answers ++ t) b

namespace FileWork

variable {a b c : Archive} {t u : List Exchange}

theorem trans (h : FileWork a t b) (k : FileWork b u c) : FileWork a (t ++ u) c := by
  induction h with
  | nothing => exact k
  | queryRefused file status _ ih => exact queryRefused file status (ih k)
  | scanned file x _ ih =>
      rw [List.append_assoc]
      exact scanned file x (ih k)
  | openRefused file mode status _ ih => exact openRefused file mode status (ih k)
  | recalled r _ ih =>
      rw [List.append_assoc]
      exact recalled r (ih k)

end FileWork

/-! ## The operations that do file work -/

theorem Scan.fileWork (file : String) (a : Archive) :
    FileWork a (locate file a).trace.replies (locate file a).state := by
  rcases h : a.known file with status | x
  · rw [locate_apply_of_error h]
    simpa using FileWork.queryRefused file status (.nothing a)
  · rw [locate_apply_of_ok h]
    simpa using FileWork.scanned file x (.nothing _)

theorem Recall.fileWork (r : Request) (a : Archive) :
    FileWork a (perform r a).trace.replies (perform r a).state := by
  rcases h : a.answers.openFile with _ | status
  · rw [perform_apply_of_none h]
    simpa using FileWork.recalled r (.nothing ((a.opened r.file).closed a.fresh))
  · rw [perform_apply_of_some h]
    simpa using FileWork.openRefused r.file .readOnlyNonblock status (.nothing a)

namespace Agent

/-- An agent takes an archive through some work on files, and through none at all if it has no
session. -/
structure Works (agent : Agent) (a : Archive) (t : List Exchange) (b : Archive) : Prop where
  work : FileWork a t b
  idle : agent.session = none → t = []

variable {agent : Agent} {a b c : Archive} {t u : List Exchange}

theorem Works.nothing (agent : Agent) (a : Archive) : agent.Works a [] a :=
  ⟨.nothing a, fun _ => rfl⟩

theorem Works.trans (h : agent.Works a t b) (k : agent.Works b u c) : agent.Works a (t ++ u) c := by
  refine ⟨h.work.trans k.work, ?_⟩
  intro hnone
  rw [h.idle hnone, k.idle hnone, List.append_nil]

theorem works_locate (agent : Agent) (file : String) (a : Archive) :
    agent.Works a (agent.locate file a).trace.replies (agent.locate file a).state := by
  rcases hs : agent.session with _ | session
  · rw [locate_apply_of_inactive (isActive_of_none hs)]
    exact .nothing agent a
  · rw [locate_of_active (isActive_of_some hs)]
    exact ⟨Scan.fileWork file a, by simp [hs]⟩

theorem works_recallFile (agent : Agent) (r : Request) (a : Archive) :
    agent.Works a (agent.recallFile r a).trace.replies (agent.recallFile r a).state := by
  rcases hs : agent.session with _ | session
  · rw [recallFile_apply_of_inactive (isActive_of_none hs)]
    exact .nothing agent a
  · rw [recallFile_of_active (isActive_of_some hs)]
    exact ⟨Recall.fileWork r a, by simp [hs]⟩

end Agent

namespace Query

@[simp] theorem replies_lastMove (file : String) (before after : Phase) :
    (lastMove file before after).replies = [] := by
  rw [lastMove]
  split <;> rfl

/-- The scan of a query makes the calls of its agent's scan. -/
theorem replies_locate_of_unresolved {q : Query} (h : q.phase = .unresolved) (agent : Agent)
    (a : Archive) :
    ((locate agent).run (q, a)).trace.replies = (agent.locate q.file a).trace.replies := by
  rw [locate_run_of_unresolved h, List.cons_append, Trace.replies_notice, Trace.replies_append,
    replies_lastMove, List.append_nil]

/-- And its recall those of its agent's recall. -/
theorem replies_recallFile_of_resolved {q : Query} {l : Location} (h : q.phase = .resolved)
    (hl : q.location = some l) (agent : Agent) (a : Archive) :
    ((recallFile agent).run (q, a)).trace.replies =
      (agent.recallFile (.ofLocation q.file l) a).trace.replies := by
  rw [recallFile_run_of_resolved h hl, List.cons_append, Trace.replies_notice,
    Trace.replies_append, replies_lastMove, List.append_nil]

theorem works_locate (agent : Agent) (q : Query) (a : Archive) :
    agent.Works a ((locate agent).run (q, a)).trace.replies
      ((locate agent).run (q, a)).state.2 := by
  by_cases h : q.phase = .unresolved
  · rw [replies_locate_of_unresolved h, locate_run_of_unresolved h]
    exact agent.works_locate q.file a
  · rw [locate_run_of_ne h]
    exact .nothing agent a

theorem works_recallFile (agent : Agent) (q : Query) (a : Archive) :
    agent.Works a ((recallFile agent).run (q, a)).trace.replies
      ((recallFile agent).run (q, a)).state.2 := by
  by_cases h : q.phase = .resolved
  · rcases hl : q.location with _ | l
    · rw [recallFile_run_of_none hl]
      exact .nothing agent a
    · rw [replies_recallFile_of_resolved h hl, recallFile_run_of_resolved h hl]
      exact agent.works_recallFile (.ofLocation q.file l) a
  · rw [recallFile_run_of_ne h]
    exact .nothing agent a

theorem works_run (agent : Agent) (q : Query) (a : Archive) :
    agent.Works a ((run agent).run (q, a)).trace.replies ((run agent).run (q, a)).state.2 := by
  have hlocate := works_locate agent q a
  rw [run_run]
  split
  · split
    · -- the recall works on the archive that the scan left
      rw [Trace.replies_append]
      exact hlocate.trans (works_recallFile agent _ _)
    · exact hlocate
  · exact hlocate

end Query

/-! ## The steps that do file work -/

/-- The actions in which an agent works on files. -/
def Action.onFiles : Action → Bool
  | .locate .. | .recallFile .. | .recallLocated .. | .inquire .. => true
  | _ => false

/-- The calls that are about credentials. -/
def Call.aboutCredentials : Call → Bool
  | .login .. | .purge => true
  | _ => false

/-- The actions that go past any session. -/
def Action.isDirect : Action → Bool
  | .direct _ => true
  | _ => false

namespace World

theorem works_inquire (w : World) (n k : Nat) (i : Inquiry) :
    (w.agent n).Works w.archive (w.inquire n k i).trace.replies
      (w.inquire n k i).after.archive := by
  rw [inquire]
  rcases w.queries.get? (n, k) with _ | q
  · exact .nothing _ _
  · cases i with
    | locate => exact Query.works_locate (w.agent n) q w.archive
    | recallFile => exact Query.works_recallFile (w.agent n) q w.archive
    | run => exact Query.works_run (w.agent n) q w.archive
    | look => exact .nothing _ _

/-- Whatever a step on files is, and however it ends. -/
theorem works_step (w : World) {s : Step} (h : s.action.onFiles = true) :
    (w.agent s.agent).Works w.archive (w.step s).trace.replies (w.step s).after.archive := by
  obtain ⟨n, action⟩ := s
  cases action with
  | locate file =>
      rw [step, call_trace, call_after]
      exact (w.agent n).works_locate file w.archive
  | recallFile file length =>
      rw [step, call_trace, call_after]
      exact (w.agent n).works_recallFile ⟨file, length⟩ w.archive
  | recallLocated file l =>
      rw [step, call_trace, call_after]
      exact (w.agent n).works_recallFile (.ofLocation file l) w.archive
  | inquire k i =>
      have hworks := (w.engage n).works_inquire n k i
      rw [agent_engage] at hworks
      exact hworks
  | _ => cases h

end World

/-! ## The steps apart from files

Everything else that an agent does makes one call at most, which is about credentials, and leaves
the handles and the volumes of the archive alone. -/

/-- Two states of an archive agree in their handles and in what they count. -/
structure Archive.SameStock (a b : Archive) : Prop where
  handles : b.handles = a.handles
  nextHandle : b.nextHandle = a.nextHandle
  acquired : b.acquired = a.acquired
  released : b.released = a.released

theorem Archive.SameStock.refl (a : Archive) : a.SameStock a := ⟨rfl, rfl, rfl, rfl⟩

namespace Agent

/-- Setting up a session comes to an end and changes nothing in the archive. -/
theorem login_apart (a : Agent) (mechanism principal keytab : String) (s : Archive) :
    ∃ r t, a.login mechanism principal keytab s = ⟨.ok r, s, t⟩ ∧
      ∀ e ∈ t.replies, e.1.aboutCredentials = true := by
  rcases h : a.session with _ | session
  · exact ⟨_, _, login_apply_of_none h .., by simp [Call.aboutCredentials]⟩
  · exact ⟨_, _, login_apply_of_some h .., by simp⟩

/-- So does ending one. -/
theorem logout_apart (a : Agent) (s : Archive) :
    ∃ r t, a.logout s = ⟨.ok r, s, t⟩ ∧ ∀ e ∈ t.replies, e.1.aboutCredentials = true := by
  rcases h : a.session with _ | session
  · exact ⟨_, _, logout_apply_of_none h s, by simp⟩
  · exact ⟨_, _, logout_apply_of_some h s, by simp [Call.aboutCredentials]⟩

theorem retire_apart (a : Agent) (s : Archive) :
    (a.retire s).state = s ∧ ∀ e ∈ (a.retire s).trace.replies, e.1.aboutCredentials = true := by
  rcases h : a.session with _ | session
  · rw [retire_apply_of_none h]
    exact ⟨rfl, by simp⟩
  · refine ⟨by rw [retire_apply_of_some h], ?_⟩
    rw [replies_retire_of_some h]
    simp [Call.aboutCredentials]

end Agent

namespace World

theorem apart_step (w : World) {s : Step} (hf : s.action.onFiles = false)
    (hd : s.action.isDirect = false) :
    w.archive.SameStock (w.step s).after.archive ∧
      ∀ e ∈ (w.step s).trace.replies, e.1.aboutCredentials = true := by
  obtain ⟨n, action⟩ := s
  cases action with
  | login mechanism principal keytab =>
      obtain ⟨r, t, hp, ht⟩ := (w.agent n).login_apart mechanism principal keytab w.archive
      rw [step_login, callAgent_of_eq (w := w.engage n) hp]
      exact ⟨.refl _, ht⟩
  | logout =>
      obtain ⟨r, t, hp, ht⟩ := (w.agent n).logout_apart w.archive
      rw [step_logout, callAgent_of_eq (w := w.engage n) hp]
      exact ⟨.refl _, ht⟩
  | retire =>
      obtain ⟨hstate, hcalls⟩ := (w.agent n).retire_apart w.archive
      rw [step_retire, call_trace, call_after, hstate]
      exact ⟨.refl _, hcalls⟩
  | answers answers => exact ⟨⟨rfl, rfl, rfl, rfl⟩, by intro e he; cases he⟩
  | enter name attributes => exact ⟨⟨rfl, rfl, rfl, rfl⟩, by intro e he; cases he⟩
  | locate | recallFile | recallLocated | inquire => cases hf
  | direct => cases hd
  | _ => exact ⟨.refl _, by intro e he; cases he⟩

end World

end TapeRecall
