import TapeRecall.Proofs.FileWork

/-!
# Archives that answer alike

An operation of an agent depends on two things in the archive: how it answers and what it knows.
The handles that are open, the number of the next one and the counts of volumes make no difference
to how the operation ends or to what calls it makes. They may show in one place only, the notice
that the handle of an aborted recall could not be closed, which names the handle; so traces are
compared without the numbers of handles (`Trace.unnumbered`).

And an operation leaves both of the two as they are, so that archives that answer alike still do so
after any operations in either.
-/

set_option autoImplicit false

namespace TapeRecall

/-- Two archives answer alike and know the same. -/
structure Archive.Alike (a b : Archive) : Prop where
  answers : a.answers = b.answers
  catalogue : a.catalogue = b.catalogue

namespace Archive.Alike

variable {a b c : Archive}

theorem refl (a : Archive) : a.Alike a := ⟨rfl, rfl⟩

theorem symm (h : a.Alike b) : b.Alike a := ⟨h.answers.symm, h.catalogue.symm⟩

theorem trans (h : a.Alike b) (k : b.Alike c) : a.Alike c :=
  ⟨h.answers.trans k.answers, h.catalogue.trans k.catalogue⟩

theorem known (h : a.Alike b) (file : String) : a.known file = b.known file := by
  unfold Archive.known
  rw [h.answers, h.catalogue]

end Archive.Alike

/-! ## Traces without the numbers of handles -/

/-- A notice without the number of its handle. -/
def Notice.unnumbered : Notice → Notice
  | .closeRefusedOnAbort status _ => .closeRefusedOnAbort status ⟨0⟩
  | n => n

def Incident.unnumbered : Incident → Incident
  | .call c r => .call c r
  | .stray c => .stray c
  | .notice n => .notice n.unnumbered

namespace Trace

def unnumbered (t : Trace) : Trace := t.map Incident.unnumbered

@[simp] theorem unnumbered_append (t u : Trace) :
    unnumbered (t ++ u) = unnumbered t ++ unnumbered u := List.map_append

@[simp] theorem unnumbered_cons (i : Incident) (t : Trace) :
    unnumbered (i :: t) = i.unnumbered :: unnumbered t := rfl

/-- The calls and their replies hold no handle. -/
theorem replies_unnumbered (t : Trace) : t.unnumbered.replies = t.replies := by
  induction t with
  | nil => rfl
  | cons i t ih =>
      cases i with
      | call c r => exact congrArg ((c, r) :: ·) ih
      | stray c => exact ih
      | notice n => exact ih

theorem replies_eq_of_unnumbered {t u : Trace} (h : t.unnumbered = u.unnumbered) :
    t.replies = u.replies := by
  rw [← replies_unnumbered t, h, replies_unnumbered u]

end Trace

theorem Recall.closing_unnumbered (file : String) (h k : Handle) (answers : Answers) :
    Trace.unnumbered ((closing file h answers).map .notice) =
      Trace.unnumbered ((closing file k answers).map .notice) := by
  unfold closing
  split <;> rfl

/-! ## The operations of an agent -/

/-- Two outcomes of a procedure end the same way and leave the same trace, the numbers of handles
apart, and their states are the same in a given sense. -/
structure Outcome.Alike {σ α : Type} (same : σ → σ → Prop) (o u : Outcome σ α) : Prop where
  ending : o.ending = u.ending
  trace : o.trace.unnumbered = u.trace.unnumbered
  state : same o.state u.state

theorem Scan.alike_locate {s t : Archive} (h : s.Alike t) (file : String) :
    (locate file s).Alike Archive.Alike (locate file t) := by
  rcases hs : s.known file with status | x
  · have ht : t.known file = .error status := (h.known file).symm.trans hs
    rw [locate_apply_of_error hs, locate_apply_of_error ht]
    exact ⟨rfl, rfl, h⟩
  · have ht : t.known file = .ok x := (h.known file).symm.trans hs
    rw [locate_apply_of_ok hs, locate_apply_of_ok ht]
    exact ⟨rfl, rfl, h.answers, h.catalogue⟩

theorem Recall.alike_perform {s t : Archive} (h : s.Alike t) (r : Request) :
    (perform r s).Alike Archive.Alike (perform r t) := by
  have hanswers := h.answers
  rcases hs : s.answers.openFile with _ | status
  · have ht : t.answers.openFile = none := hanswers ▸ hs
    rw [perform_apply_of_none hs, perform_apply_of_none ht, hanswers]
    refine ⟨rfl, ?_, hanswers, h.catalogue⟩
    -- the two handles may have different numbers
    simp only [Trace.unnumbered_append, closing_unnumbered r.file s.fresh t.fresh]
  · have ht : t.answers.openFile = some status := hanswers ▸ hs
    rw [perform_apply_of_some hs, perform_apply_of_some ht]
    exact ⟨rfl, rfl, h⟩

namespace Agent

variable {s t : Archive}

theorem alike_locate (a : Agent) (h : s.Alike t) (file : String) :
    (a.locate file s).Alike Archive.Alike (a.locate file t) := by
  cases ha : a.isActive with
  | true =>
      rw [locate_of_active ha]
      exact Scan.alike_locate h file
  | false =>
      rw [locate_apply_of_inactive ha, locate_apply_of_inactive ha]
      exact ⟨rfl, rfl, h⟩

theorem alike_recallFile (a : Agent) (h : s.Alike t) (r : Request) :
    (a.recallFile r s).Alike Archive.Alike (a.recallFile r t) := by
  cases ha : a.isActive with
  | true =>
      rw [recallFile_of_active ha]
      exact Recall.alike_perform h r
  | false =>
      rw [recallFile_apply_of_inactive ha, recallFile_apply_of_inactive ha]
      exact ⟨rfl, rfl, h⟩

theorem alike_login (a : Agent) (h : s.Alike t) (mechanism principal keytab : String) :
    (a.login mechanism principal keytab s).Alike Archive.Alike
      (a.login mechanism principal keytab t) := by
  rcases ha : a.session with _ | session
  · rw [login_apply_of_none ha, login_apply_of_none ha, h.answers]
    exact ⟨rfl, rfl, h⟩
  · rw [login_apply_of_some ha, login_apply_of_some ha]
    exact ⟨rfl, rfl, h⟩

theorem alike_logout (a : Agent) (h : s.Alike t) :
    (a.logout s).Alike Archive.Alike (a.logout t) := by
  rcases ha : a.session with _ | session
  · rw [logout_apply_of_none ha, logout_apply_of_none ha]
    exact ⟨rfl, rfl, h⟩
  · rw [logout_apply_of_some ha, logout_apply_of_some ha, h.answers]
    exact ⟨rfl, rfl, h⟩

theorem alike_retire (a : Agent) (h : s.Alike t) :
    (a.retire s).Alike Archive.Alike (a.retire t) := by
  rcases ha : a.session with _ | session
  · rw [retire_apply_of_none ha, retire_apply_of_none ha]
    exact ⟨rfl, rfl, h⟩
  · rw [retire_apply_of_some ha, retire_apply_of_some ha, h.answers]
    exact ⟨rfl, rfl, h⟩

end Agent

/-! ## The operations of a query -/

namespace Query

/-- The same query at archives that answer alike. -/
def SameAt (x y : Query × Archive) : Prop := x.1 = y.1 ∧ x.2.Alike y.2

variable {s t : Archive}

theorem alike_locate (a : Agent) (q : Query) (h : s.Alike t) :
    ((locate a).run (q, s)).Alike SameAt ((locate a).run (q, t)) := by
  by_cases hp : q.phase = .unresolved
  · have hscan := a.alike_locate h q.file
    rw [locate_run_of_unresolved hp, locate_run_of_unresolved hp, hscan.ending]
    refine ⟨rfl, ?_, rfl, hscan.state⟩
    simp only [List.cons_append, Trace.unnumbered_cons, Trace.unnumbered_append, hscan.trace]
  · rw [locate_run_of_ne hp, locate_run_of_ne hp]
    exact ⟨rfl, rfl, rfl, h⟩

theorem alike_recallFile (a : Agent) (q : Query) (h : s.Alike t) :
    ((recallFile a).run (q, s)).Alike SameAt ((recallFile a).run (q, t)) := by
  by_cases hp : q.phase = .resolved
  · rcases hl : q.location with _ | l
    · rw [recallFile_run_of_none hl, recallFile_run_of_none hl]
      exact ⟨rfl, rfl, rfl, h⟩
    · have hrecall := a.alike_recallFile h (.ofLocation q.file l)
      rw [recallFile_run_of_resolved hp hl, recallFile_run_of_resolved hp hl, hrecall.ending]
      refine ⟨rfl, ?_, rfl, hrecall.state⟩
      simp only [List.cons_append, Trace.unnumbered_cons, Trace.unnumbered_append, hrecall.trace]
  · rw [recallFile_run_of_ne hp, recallFile_run_of_ne hp]
    exact ⟨rfl, rfl, rfl, h⟩

theorem alike_run (a : Agent) (q : Query) (h : s.Alike t) :
    ((run a).run (q, s)).Alike SameAt ((run a).run (q, t)) := by
  have hlocate := alike_locate a q h
  rcases needsRecall_or_rest ((locate a).run (q, s)).ending with ⟨l, hl, hn⟩ | hrest
  · -- the recall starts from the same query, at archives that still answer alike
    have hl' : ((locate a).run (q, t)).ending = .ok (.ok l) := hlocate.ending.symm.trans hl
    rw [run_run_of_needsRecall hl hn, run_run_of_needsRecall hl' hn]
    obtain ⟨hquery, harchive⟩ := hlocate.state
    have hrecall := alike_recallFile a ((locate a).run (q, t)).state.1 harchive
    rw [← hquery] at hrecall
    have hback : ((locate a).run (q, t)).state =
        (((locate a).run (q, s)).state.1, ((locate a).run (q, t)).state.2) := by
      rw [hquery]
    rw [hback]
    refine ⟨?_, ?_, hrecall.state⟩
    · dsimp only
      rw [hrecall.ending]
    · rw [Trace.unnumbered_append, Trace.unnumbered_append, hlocate.trace, hrecall.trace]
  · have hrest' : ∀ l, ((locate a).run (q, t)).ending = .ok (.ok l) → l.needsRecall = false :=
      fun l hl => hrest l (hlocate.ending.trans hl)
    rw [run_run_of_rest hrest, run_run_of_rest hrest']
    exact hlocate

end Query

/-! ## What stays as it is -/

/-- Work on files changes neither how the archive answers nor what it knows. -/
theorem FileWork.alike {a b : Archive} {t : List Exchange} (h : FileWork a t b) : a.Alike b := by
  induction h with
  | nothing => exact .refl _
  | queryRefused file status _ ih => exact ih
  | scanned file x _ ih => exact ⟨ih.answers, ih.catalogue⟩
  | openRefused file mode status _ ih => exact ih
  | recalled r _ ih => exact ⟨ih.answers, ih.catalogue⟩

/-- The actions that settle how the archive answers or what it knows. -/
def Action.setsArchive : Action → Bool
  | .answers _ | .enter .. => true
  | _ => false

/-- The direct calls that are about credentials. -/
def DirectCall.aboutCredentials : DirectCall → Bool
  | .login .. | .purge => true
  | _ => false

namespace World

/-- A direct call leaves the answers and the catalogue as they are, and it is about credentials or
not as its name says. -/
theorem direct_leaves (w : World) (c : DirectCall) :
    w.archive.Alike (w.direct c).after.archive ∧
      ∀ e ∈ (w.direct c).trace.replies, e.1.aboutCredentials = c.aboutCredentials := by
  cases c with
  | login mechanism principal keytab =>
      rw [direct, call_after, call_trace, Archive.login_apply]
      exact ⟨.refl _, List.forall_mem_singleton.2 rfl⟩
  | purge =>
      rw [direct, call_after, call_trace, Archive.purge_apply]
      exact ⟨.refl _, List.forall_mem_singleton.2 rfl⟩
  | query file =>
      rcases hk : w.archive.known file with status | x
      · rw [direct, callThen_of_eq (Archive.query_apply_of_error hk)]
        exact ⟨.refl _, List.forall_mem_singleton.2 rfl⟩
      · rw [direct, callThen_of_eq (Archive.query_apply_of_ok hk)]
        exact ⟨⟨rfl, rfl⟩, List.forall_mem_singleton.2 rfl⟩
  | release index =>
      rw [direct]
      rcases w.held[index]? with _ | v
      · exact ⟨.refl _, List.forall_mem_nil _⟩
      · exact ⟨⟨rfl, rfl⟩, List.forall_mem_singleton.2 rfl⟩
  | openFile file mode =>
      rw [direct, call_after, call_trace]
      rcases ho : w.archive.answers.openFile with _ | status
      · rw [Archive.openFile_apply_of_none ho]
        exact ⟨⟨rfl, rfl⟩, List.forall_mem_singleton.2 rfl⟩
      · rw [Archive.openFile_apply_of_some ho]
        exact ⟨.refl _, List.forall_mem_singleton.2 rfl⟩
  | recallFile handle offset length tier =>
      rw [direct, call_after, call_trace]
      rcases hg : w.archive.handles.get? handle with _ | file
      · rw [Archive.recallFile_apply_of_none hg]
        exact ⟨.refl _, List.forall_mem_nil _⟩
      · rw [Archive.recallFile_apply_of_some hg]
        exact ⟨.refl _, List.forall_mem_singleton.2 rfl⟩
  | closeFile handle =>
      rw [direct, call_after, call_trace]
      rcases hg : w.archive.handles.get? handle with _ | file
      · rw [Archive.closeFile_apply_of_none hg]
        exact ⟨.refl _, List.forall_mem_nil _⟩
      · rw [Archive.closeFile_apply_of_some hg]
        exact ⟨⟨rfl, rfl⟩, List.forall_mem_singleton.2 rfl⟩

/-- So do all steps but those that are there to change them. -/
theorem alike_step (w : World) {s : Step} (h : s.action.setsArchive = false) :
    w.archive.Alike (w.step s).after.archive := by
  by_cases hf : s.action.onFiles = true
  · exact (w.works_step hf).work.alike
  obtain ⟨n, action⟩ := s
  cases action with
  | locate | recallFile | recallLocated | inquire => exact absurd rfl hf
  | answers | enter => cases h
  | login mechanism principal keytab =>
      obtain ⟨r, t, hp, -⟩ := (w.agent n).login_apart mechanism principal keytab w.archive
      rw [step_login, callAgent_of_eq (w := w.engage n) hp]
      exact .refl _
  | logout =>
      obtain ⟨r, t, hp, -⟩ := (w.agent n).logout_apart w.archive
      rw [step_logout, callAgent_of_eq (w := w.engage n) hp]
      exact .refl _
  | retire =>
      have hstate := ((w.agent n).retire_apart w.archive).1
      rw [step_retire, call_after, hstate]
      exact .refl _
  | direct c => exact ((w.engage n).direct_leaves c).1
  | compare | showSession | describe | appear | start => exact .refl _

end World

end TapeRecall
