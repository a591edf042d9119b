import TapeRecall.Proofs.FileWork
import TapeRecall.Proofs.Ordinary

/-!
# The first refusal

An operation in which the archive refused a call comes back with a fault, and the status of that
fault is the one of the first call that was refused, whatever its code is. The other way round, a
status comes from a refusal in the same operation, with one exception: a directory has a status of
its own although no call was refused.

Both directions are read off one relation (`Told`) between the calls of an operation and the
failure that it came back with. The relation is proved of the operations of an agent, and a query
only hands on what its agent told it: the scan of a run was not refused anything if there is a
recall after it, so that the first refusal of the run is the first refusal of that recall.
-/

set_option autoImplicit false

namespace TapeRecall

/-! ## The first refusal among some calls -/

/-- The status with which a call was refused. -/
def Reply.refusal? : Reply → Option Status
  | .refused status => some status
  | .accepted | .aborted => none

/-- The status of the first call that was refused. -/
def firstRefusal? (calls : List Exchange) : Option Status :=
  calls.findSome? fun e => e.2.refusal?

theorem firstRefusal?_append_of_none {t : List Exchange} (h : firstRefusal? t = none)
    (u : List Exchange) : firstRefusal? (t ++ u) = firstRefusal? u := by
  unfold firstRefusal? at h ⊢
  rw [List.findSome?_append, h, Option.none_or]

theorem firstRefusal?_eq_none {t : List Exchange} :
    firstRefusal? t = none ↔ ∀ e ∈ t, ∀ status, e.2 ≠ .refused status := by
  unfold firstRefusal?
  rw [List.findSome?_eq_none_iff]
  refine forall₂_congr fun e _ => ?_
  constructor
  · intro h status hrefused
    rw [hrefused] at h
    cases h
  · intro h
    rcases hreply : e.2 with _ | status | _
    · rfl
    · exact absurd hreply (h status)
    · rfl

theorem exists_of_firstRefusal? {t : List Exchange} {status : Status}
    (h : firstRefusal? t = some status) : ∃ call, (call, .refused status) ∈ t := by
  obtain ⟨⟨call, reply⟩, hmem, hrefusal⟩ := List.exists_of_findSome?_eq_some h
  rcases reply with _ | code | _
  · cases hrefusal
  · obtain rfl : code = status := Option.some.inj hrefusal
    exact ⟨call, hmem⟩
  · cases hrefusal

/-! ## What a failure tells -/

namespace Failure

/-- The failures behind which there is no refusal of the archive, a directory apart. -/
def isOwn : Failure → Bool
  | .ofSession .noSession | .ofSession .alreadyActive => true
  | .ofScan .noSegments | .ofScan .emptyFile | .ofScan (.missingVolume _)
  | .ofScan .noSession => true
  | .ofRecall .noSession => true
  | .ofQuery (.ofScan .noSegments) | .ofQuery (.ofScan .emptyFile)
  | .ofQuery (.ofScan (.missingVolume _)) | .ofQuery (.ofScan .noSession) => true
  | .ofQuery (.ofRecall .noSession) | .ofQuery (.outOfOrder ..) => true
  | _ => false

/-- The failure names a directory, to the caller of a scan or to that of a query. -/
def namesDirectory : Failure → Bool
  | .ofScan .isDirectory | .ofQuery (.ofScan .isDirectory) => true
  | _ => false

/-- These are just the failures without a status. -/
theorem isOwn_iff (f : Failure) : f.isOwn = true ↔ f.status? = none := by
  have hown : f.isOwn = f.status?.isNone := by
    rcases f with fault | fault | fault | fault | status
    · cases fault <;> rfl
    · cases fault <;> rfl
    · cases fault <;> rfl
    · rcases fault with fault | fault | ⟨phase, wanted⟩
      · cases fault <;> rfl
      · cases fault <;> rfl
      · rfl
    · rfl
  rw [hown, Option.isNone_iff_eq_none]

theorem status?_of_namesDirectory {f : Failure} (h : f.namesDirectory = true) :
    f.status? = some .directory := by
  unfold namesDirectory at h
  split at h
  · rfl
  · rfl
  · cases h

end Failure

/-- The failure with which an operation came back, if it did. -/
def failureOf {ε α : Type} (failure : ε → Failure) : Except ε α → Option Failure
  | .ok _ => none
  | .error fault => some (failure fault)

/-- What an operation that made these calls came back with: a failure has the status of the first
refusal, and where there was none it has no status or names a directory that was asked about. -/
def Told (calls : List Exchange) : Option Failure → Prop
  | none => firstRefusal? calls = none
  | some f => f.status? = firstRefusal? calls ∨
      (f.namesDirectory = true ∧ firstRefusal? calls = none ∧
        ∃ file, (.query file, .accepted) ∈ calls)

namespace Told

variable {t u : List Exchange} {f : Option Failure}

/-- Calls that were not refused may come before. -/
theorem after (hnone : firstRefusal? t = none) (h : Told u f) : Told (t ++ u) f := by
  have hfirst : firstRefusal? (t ++ u) = firstRefusal? u := firstRefusal?_append_of_none hnone u
  rcases f with _ | f
  · exact hfirst.trans h
  · rcases h with hstatus | ⟨hdir, hno, file, hmem⟩
    · exact Or.inl (hstatus.trans hfirst.symm)
    · exact Or.inr ⟨hdir, hfirst.trans hno, file, List.mem_append_right t hmem⟩

/-- A query tells of its scan what the scan told. -/
theorem ofQuery_scan {α : Type} {r : Except ScanFault α} (h : Told t (failureOf .ofScan r)) :
    Told t (failureOf (fun fault => .ofQuery (.ofScan fault)) r) := by
  rcases r with fault | a
  · rcases h with hstatus | ⟨hdir, hno⟩
    · exact Or.inl hstatus
    · refine Or.inr ⟨?_, hno⟩
      cases fault <;> first | rfl | cases hdir
  · exact h

/-- And of its recall what the recall told, which never names a directory. -/
theorem ofQuery_recall {α : Type} {r : Except RecallFault α} (h : Told t (failureOf .ofRecall r)) :
    Told t (failureOf (fun fault => .ofQuery (.ofRecall fault)) r) := by
  rcases r with fault | a
  · rcases h with hstatus | ⟨hdir, -⟩
    · exact Or.inl hstatus
    · cases hdir
  · exact h

end Told

/-! ## The operations of an agent -/

/-- What a scan has to say of the archive's answer carries no status, unless it is a directory. -/
theorem Scan.status?_of_verdict {x : Attributes} {fault : ScanFault}
    (h : verdict x = .ok (.error fault)) : fault.status? = none ∨ fault = .isDirectory := by
  unfold verdict at h
  split at h
  · obtain rfl := Except.error.inj (Except.ok.inj h)
    split
    · exact Or.inl rfl
    · exact Or.inr rfl
  · split at h
    · have hmissing := eq_missingVolume_of_place h
      exact Or.inl (by rw [hmissing]; rfl)
    · cases h
      exact Or.inl rfl

theorem Scan.told_locate {file : String} {a : Archive} {r : Except ScanFault Location}
    (h : (locate file a).ending = .ok r) :
    Told (locate file a).trace.replies (failureOf .ofScan r) := by
  rcases hk : a.known file with status | x
  · rw [locate_apply_of_error hk] at h ⊢
    cases h
    exact Or.inl rfl
  · rw [locate_apply_of_ok hk] at h
    -- the query was answered, and a release is never refused
    have hnone : firstRefusal? ((.query file, .accepted) ::
        x.volumes.map fun v => (.release v.id, .accepted)) = none := by
      rw [firstRefusal?_eq_none]
      intro e he status hrefused
      rcases List.mem_cons.1 he with rfl | he
      · cases hrefused
      · obtain ⟨v, -, rfl⟩ := List.mem_map.1 he
        cases hrefused
    rw [replies_locate_of_ok hk]
    rcases r with fault | l
    · rcases status?_of_verdict h with hstatus | rfl
      · exact Or.inl (hstatus.trans hnone.symm)
      · exact Or.inr ⟨rfl, hnone, file, List.mem_cons_self⟩
    · exact hnone

theorem Recall.told_perform {req : Request} {a : Archive} {r : Except RecallFault Unit}
    (h : (perform req a).ending = .ok r) :
    Told (perform req a).trace.replies (failureOf .ofRecall r) := by
  rcases ho : a.answers.openFile with _ | status
  · have hverdict : verdict a.answers = .ok r := by
      rw [← h, perform_apply_of_none ho]
    rw [replies_perform_of_none ho]
    unfold verdict at hverdict
    -- of the recall and the close the recall comes first, and so does its refusal
    rcases hr : a.answers.recallFile with _ | status | _ | _
    · rcases hc : a.answers.closeFile with _ | status
      · rw [hr, hc] at hverdict
        cases hverdict
        simp [Told, failureOf, exchanges, firstRefusal?, hr, hc, RecallAnswer.reply,
          Reply.ofAnswer, Reply.refusal?]
      · rw [hr, hc] at hverdict
        cases hverdict
        refine Or.inl ?_
        simp [exchanges, firstRefusal?, hr, hc, RecallAnswer.reply, Reply.ofAnswer,
          Reply.refusal?, Failure.status?, RecallFault.status?]
    · rw [hr] at hverdict
      cases hverdict
      refine Or.inl ?_
      simp [exchanges, firstRefusal?, hr, RecallAnswer.reply, Reply.refusal?, Failure.status?,
        RecallFault.status?]
    · rw [hr] at hverdict
      cases hverdict
    · rw [hr] at hverdict
      cases hverdict
  · rw [perform_apply_of_some ho] at h ⊢
    cases h
    exact Or.inl rfl

namespace Agent

theorem told_login (a : Agent) (mechanism principal keytab : String) (s : Archive) :
    ∃ r t, a.login mechanism principal keytab s = ⟨.ok r, s, t⟩ ∧
      Told t.replies (failureOf .ofSession r.2) := by
  rcases h : a.session with _ | session
  · refine ⟨_, _, login_apply_of_none h .., ?_⟩
    rw [Session.replies_establishment]
    rcases s.answers.login with _ | status
    · rfl
    · exact Or.inl rfl
  · exact ⟨_, _, login_apply_of_some h .., Or.inl rfl⟩

theorem told_logout (a : Agent) (s : Archive) :
    ∃ r t, a.logout s = ⟨.ok r, s, t⟩ ∧ Told t.replies (failureOf .ofSession r.2) := by
  rcases h : a.session with _ | session
  · exact ⟨_, _, logout_apply_of_none h s, Or.inl rfl⟩
  · refine ⟨_, _, logout_apply_of_some h s, ?_⟩
    rw [Session.replies_completion]
    rcases s.answers.purge with _ | status
    · rfl
    · exact Or.inl rfl

theorem told_locate {a : Agent} {file : String} {s : Archive} {r : Except ScanFault Location}
    (h : (a.locate file s).ending = .ok r) :
    Told (a.locate file s).trace.replies (failureOf .ofScan r) := by
  by_cases ha : a.isActive = true
  · rw [locate_of_active ha] at h ⊢
    exact Scan.told_locate h
  · rw [locate_apply_of_inactive (by simpa using ha)] at h ⊢
    cases h
    exact Or.inl rfl

theorem told_recallFile {a : Agent} {req : Request} {s : Archive} {r : Except RecallFault Unit}
    (h : (a.recallFile req s).ending = .ok r) :
    Told (a.recallFile req s).trace.replies (failureOf .ofRecall r) := by
  by_cases ha : a.isActive = true
  · rw [recallFile_of_active ha] at h ⊢
    exact Recall.told_perform h
  · rw [recallFile_apply_of_inactive (by simpa using ha)] at h ⊢
    cases h
    exact Or.inl rfl

end Agent

/-! ## The steps of a query -/

namespace Query

theorem told_locate {a : Agent} {q : Query} {s : Archive} {r : Except QueryFault Location}
    (h : ((locate a).run (q, s)).ending = .ok r) :
    Told ((locate a).run (q, s)).trace.replies (failureOf .ofQuery r) := by
  by_cases hp : q.phase = .unresolved
  · rw [replies_locate_of_unresolved hp]
    rw [locate_run_of_unresolved hp] at h
    rcases ho : (a.locate q.file s).ending with why | inner
    · rw [ho] at h
      cases h
    · have htold := (Agent.told_locate ho).ofQuery_scan
      rw [ho] at h
      rcases inner with fault | l
      · cases h
        exact htold
      · cases h
        exact htold
  · rw [locate_run_of_ne hp] at h ⊢
    cases h
    exact Or.inl rfl

theorem told_recallFile {a : Agent} {q : Query} {s : Archive} {r : Except QueryFault Unit}
    (h : ((recallFile a).run (q, s)).ending = .ok r) :
    Told ((recallFile a).run (q, s)).trace.replies (failureOf .ofQuery r) := by
  by_cases hp : q.phase = .resolved
  · rcases hl : q.location with _ | l
    · rw [recallFile_run_of_none hl] at h ⊢
      cases h
      exact Or.inl rfl
    · rw [replies_recallFile_of_resolved hp hl]
      rw [recallFile_run_of_resolved hp hl] at h
      rcases ho : (a.recallFile (.ofLocation q.file l) s).ending with why | inner
      · rw [ho] at h
        cases h
      · have htold := (Agent.told_recallFile ho).ofQuery_recall
        rw [ho] at h
        rcases inner with fault | _
        · cases h
          exact htold
        · cases h
          exact htold
  · rw [recallFile_run_of_ne hp] at h ⊢
    cases h
    exact Or.inl rfl

theorem told_run {a : Agent} {q : Query} {s : Archive} {r : Except QueryFault Location}
    (h : ((run a).run (q, s)).ending = .ok r) :
    Told ((run a).run (q, s)).trace.replies (failureOf .ofQuery r) := by
  rcases needsRecall_or_rest ((locate a).run (q, s)).ending with ⟨l, ho, hn⟩ | hrest
  · rw [run_run_of_needsRecall ho hn] at h ⊢
    rw [Trace.replies_append]
    -- the scan came back with a location, so nothing was refused before the recall
    have hlocate : firstRefusal? ((locate a).run (q, s)).trace.replies = none := told_locate ho
    rcases hr : ((recallFile a).run ((locate a).run (q, s)).state).ending with why | last
    · rw [hr] at h
      cases h
    · have hrecall := Told.after hlocate (told_recallFile hr)
      rw [hr] at h
      rcases last with fault | _
      · cases h
        exact hrecall
      · cases h
        exact hrecall
  · rw [run_run_of_rest hrest] at h ⊢
    exact told_locate h

end Query

/-! ## Any operation, in any world -/

/-- The actions that are operations of an agent or of one of its queries. -/
def Action.isOperation : Action → Bool
  | .login .. | .logout | .locate .. | .recallFile .. | .recallLocated .. | .inquire .. => true
  | _ => false

theorem Action.onHandle_of_isOperation {action : Action} (h : action.isOperation = true) :
    action.onHandle = false := by
  cases action with
  | direct => cases h
  | _ => rfl

/-- The failure that a result tells of. -/
def Result.failure? : Result → Option Failure
  | .failed failure => some failure
  | _ => none

namespace World

theorem failure?_acknowledge {ε : Type} (failure : ε → Failure) (r : Except ε Unit) :
    (acknowledge failure r).failure? = failureOf failure r := by
  cases r <;> rfl

theorem told_callQuery {α : Type} {w : World} {key : Nat × Nat} {q : Query} {step : Query.Step α}
    {result : α → Result} (hresult : ∀ x, (result x).failure? = none)
    (told : ∀ r, (step.run (q, w.archive)).ending = .ok r →
      Told (step.run (q, w.archive)).trace.replies (failureOf .ofQuery r))
    (returns : ∀ why, (w.callQuery key q step result).result ≠ .aborted why) :
    Told (w.callQuery key q step result).trace.replies
      (w.callQuery key q step result).result.failure? := by
  rw [callQuery_trace]
  rw [callQuery_result] at returns ⊢
  rcases ho : (step.run (q, w.archive)).ending with why | inner
  · rw [ho] at returns
    exact absurd rfl (returns why)
  · have htold := told inner ho
    rcases inner with fault | x
    · exact htold
    · dsimp only
      rw [hresult x]
      exact htold

theorem told_inquire {w : World} {n k : Nat} {i : Inquiry}
    (returns : ∀ why, (w.inquire n k i).result ≠ .aborted why) :
    Told (w.inquire n k i).trace.replies (w.inquire n k i).result.failure? := by
  unfold inquire at returns ⊢
  rcases hq : w.queries.get? (n, k) with _ | q
  · rfl
  · rw [hq] at returns
    cases i with
    | locate => exact told_callQuery (fun _ => rfl) (fun _ h => Query.told_locate h) returns
    | recallFile => exact told_callQuery (fun _ => rfl) (fun _ h => Query.told_recallFile h) returns
    | run => exact told_callQuery (fun _ => rfl) (fun _ h => Query.told_run h) returns
    | look => rfl

theorem told_call {α : Type} {w : World} {p : Proc Archive α} {result : α → Result}
    (told : ∀ r, (p w.archive).ending = .ok r →
      Told (p w.archive).trace.replies (result r).failure?)
    (returns : ∀ why, (w.call p result).result ≠ .aborted why) :
    Told (w.call p result).trace.replies (w.call p result).result.failure? := by
  rw [call_trace]
  rw [call_result] at returns ⊢
  rcases ho : (p w.archive).ending with why | r
  · rw [ho] at returns
    exact absurd rfl (returns why)
  · exact told r ho

theorem told_recall {w : World} {a : Agent} {req : Request}
    (returns : ∀ why, (w.call (a.recallFile req) (acknowledge .ofRecall)).result ≠ .aborted why) :
    Told (w.call (a.recallFile req) (acknowledge .ofRecall)).trace.replies
      (w.call (a.recallFile req) (acknowledge .ofRecall)).result.failure? := by
  apply told_call _ returns
  intro r hr
  rw [failure?_acknowledge]
  exact Agent.told_recallFile hr

/-- The step lemma: every operation that comes back tells the first refusal. -/
theorem told_step {w : World} {s : Step} (operation : s.action.isOperation = true)
    (returns : ∀ why, (w.step s).result ≠ .aborted why) :
    Told (w.step s).trace.replies (w.step s).result.failure? := by
  obtain ⟨n, action⟩ := s
  cases action with
  | login mechanism principal keytab =>
      obtain ⟨r, t, hp, htold⟩ := (w.agent n).told_login mechanism principal keytab w.archive
      rw [step_login, callAgent_of_eq (w := w.engage n) hp]
      dsimp only
      rw [failure?_acknowledge]
      exact htold
  | logout =>
      obtain ⟨r, t, hp, htold⟩ := (w.agent n).told_logout w.archive
      rw [step_logout, callAgent_of_eq (w := w.engage n) hp]
      dsimp only
      rw [failure?_acknowledge]
      exact htold
  | locate file =>
      apply told_call _ returns
      intro r hr
      have htold := Agent.told_locate hr
      rcases r with fault | l
      · exact htold
      · exact htold
  | recallFile file length => exact told_recall returns
  | recallLocated file l => exact told_recall returns
  | inquire k i => exact told_inquire returns
  | _ => cases operation

/-- **The first refusal is told, and nothing else is told for one.** Take any operation of an agent
or of one of its queries, in any world, that comes back. If the archive refused a call in it, the
operation fails and its failure has the status of the first call that was refused, whatever the
code. If its failure has a status, then a call of the operation was refused with that status, or
the failure names a directory and the archive had answered the query. All failures but these have
no status, and they come only where no call was refused. No call is left out by this: none was made
of which the archive keeps no record. -/
theorem first_refusal_told (w : World) (s : Step) (operation : s.action.isOperation = true)
    (returns : ∀ why, (w.step s).result ≠ .aborted why) :
    let result := (w.step s).result
    let calls := (w.step s).trace.replies
    (∀ status, firstRefusal? calls = some status →
      ∃ failure, result = .failed failure ∧ failure.status? = some status) ∧
    (∀ failure status, result = .failed failure → failure.status? = some status →
      (∃ call, (call, .refused status) ∈ calls) ∨
        (failure.namesDirectory = true ∧ status = .directory ∧
          ∃ file, (.query file, .accepted) ∈ calls)) ∧
    (∀ failure, result = .failed failure →
      (failure.isOwn = true ↔ failure.status? = none) ∧
        (failure.isOwn = true → ∀ e ∈ calls, ∀ status, e.2 ≠ .refused status)) ∧
    (w.step s).trace.strays = [] := by
  intro result calls
  have htold : Told calls result.failure? := told_step operation returns
  have hfailed : ∀ {failure}, result = .failed failure → Told calls (some failure) := by
    intro failure hresult
    rw [hresult] at htold
    exact htold
  refine ⟨?_, ?_, ?_, w.strays_step (Action.onHandle_of_isOperation operation)⟩
  · intro status hfirst
    rcases hresult : result.failure? with _ | failure
    · -- an operation that did not fail was refused nothing
      rw [hresult] at htold
      have hnone : firstRefusal? calls = none := htold
      rw [hnone] at hfirst
      cases hfirst
    · have hfail : result = .failed failure := by
        cases hr : result <;> rw [hr] at hresult <;> cases hresult
        rfl
      rcases hfailed hfail with hstatus | ⟨-, hnone, -⟩
      · exact ⟨failure, hfail, hstatus.trans hfirst⟩
      · rw [hnone] at hfirst
        cases hfirst
  · intro failure status hresult hstatus
    rcases hfailed hresult with hfirst | ⟨hdir, -, hquery⟩
    · exact Or.inl (exists_of_firstRefusal? (hfirst.symm.trans hstatus))
    · have hdirectory := Failure.status?_of_namesDirectory hdir
      have hsame : status = .directory := Option.some.inj (hstatus.symm.trans hdirectory)
      exact Or.inr ⟨hdir, hsame, hquery⟩
  · intro failure hresult
    refine ⟨failure.isOwn_iff, ?_⟩
    intro hown
    have hstatus := failure.isOwn_iff.1 hown
    rcases hfailed hresult with hfirst | ⟨hdir, -, -⟩
    · exact firstRefusal?_eq_none.1 (hfirst.symm.trans hstatus)
    · rw [Failure.status?_of_namesDirectory hdir] at hstatus
      cases hstatus

/-- A query of a file on tape that was not located yet, at an archive that refuses its recall with
the code of success and the close after it with another. -/
def refusedTwice : World :=
  (opening { recallFile := .refuse ⟨0⟩, closeFile := some .badHandle }
    (.ofList [("/t", .file [.vacant .diskLevel, .onTape 7 "A" 12 1])])).afterAll
    [⟨0, .login "unix" "p" "/k"⟩, ⟨0, .start 3 "/t"⟩]

/-- The run of the query fails with the status of the recall, zero as it is. -/
theorem refusedTwice_told :
    Action.isOperation (.inquire 3 .run) = true ∧
      (∀ why, (refusedTwice.step ⟨0, .inquire 3 .run⟩).result ≠ .aborted why) ∧
      firstRefusal? (refusedTwice.step ⟨0, .inquire 3 .run⟩).trace.replies = some ⟨0⟩ ∧
      ∃ failure, (refusedTwice.step ⟨0, .inquire 3 .run⟩).result = .failed failure ∧
        failure.status? = some ⟨0⟩ := by
  have hresult : (refusedTwice.step ⟨0, .inquire 3 .run⟩).result =
      .failed (.ofQuery (.ofRecall (.recallRefused ⟨0⟩))) := by decide
  have returns : ∀ why, (refusedTwice.step ⟨0, .inquire 3 .run⟩).result ≠ .aborted why := by
    intro why habort
    rw [hresult] at habort
    cases habort
  have hfirst : firstRefusal? (refusedTwice.step ⟨0, .inquire 3 .run⟩).trace.replies =
      some ⟨0⟩ := by decide
  obtain ⟨hrefused, -, -, -⟩ := first_refusal_told refusedTwice ⟨0, .inquire 3 .run⟩ rfl returns
  exact ⟨rfl, returns, hfirst, hrefused ⟨0⟩ hfirst⟩

end World

end TapeRecall
