import Mathlib.Data.List.Induction
import TapeRecall.Proofs.Course
import TapeRecall.Proofs.Frame

/-!
# The order of recalls

Recalls reach the archive in the order in which they were asked for, and each of them once. Which
recall a step asks for can be told from the world before it (`World.request?`), and whether it
gets as far as the archive too (`Agent.mayRecall`): the agent has to have a session, and the
opening has to be accepted. What becomes of the recall afterwards makes no difference.

The second half of the main statement says where the length of a recall comes from that a query
asked for. It follows the location of the query back to the step that found it.
-/

set_option autoImplicit false

namespace TapeRecall

/-! ## The recalls in a log -/

/-- The recalls that the archive recorded. -/
def recalls (log : List Exchange) : List Call :=
  (log.map Prod.fst).filter fun c => c.kind = .recallFile

@[simp] theorem recalls_append (t u : List Exchange) :
    recalls (t ++ u) = recalls t ++ recalls u := by
  rw [recalls, List.map_append, List.filter_append]
  rfl

theorem recalls_eq_nil {t : List Exchange} (h : ∀ e ∈ t, e.1.kind ≠ .recallFile) :
    recalls t = [] := by
  rw [recalls, List.filter_eq_nil_iff]
  intro c hc
  obtain ⟨e, he, rfl⟩ := List.mem_map.1 hc
  simpa using h e he

theorem recalls_of_aboutCredentials {t : List Exchange}
    (h : ∀ e ∈ t, e.1.aboutCredentials = true) : recalls t = [] := by
  refine recalls_eq_nil ?_
  intro e he hk
  have hc := h e he
  obtain ⟨call, reply⟩ := e
  cases call with
  | recallFile => cases hc
  | _ => cases hk

/-- The call by which a request is carried out: all of the file, to the fastest tier. -/
def Request.toCall (r : Request) : Call := .recallFile r.file 0 r.length 0

/-! ## The recalls of an agent -/

/-- Work on files does not change how the archive answers. -/
theorem FileWork.answers {a b : Archive} {t : List Exchange} (h : FileWork a t b) :
    b.answers = a.answers := by
  induction h with
  | nothing => rfl
  | queryRefused file status _ ih => exact ih
  | scanned file x _ ih => exact ih
  | openRefused file mode status _ ih => exact ih
  | recalled r _ ih => exact ih

namespace Agent

/-- A recall of this agent gets as far as the archive: there is a session, and a file can be
opened. -/
def mayRecall (a : Agent) (s : Archive) : Bool := a.isActive && s.answers.openFile.isNone

theorem recalls_locate (a : Agent) (file : String) (s : Archive) :
    recalls (a.locate file s).trace.replies = [] := by
  refine recalls_eq_nil ?_
  intro e he hk
  -- the scan has the same budget of recalls before and after
  have hcalls := (a.undertaking_locate file s).calls .recallFile (by decide)
  have hmem : Call.Kind.recallFile ∈ (a.locate file s).trace.kinds :=
    List.mem_map.2 ⟨e, he, hk⟩
  have hcount := List.count_pos_iff.2 hmem
  have hbudget : Phase.unresolved.budget .recallFile = Phase.scanning.budget .recallFile := rfl
  omega

/-- One recall, whatever is answered to it and to the close after it. -/
theorem recalls_recallFile (a : Agent) (r : Request) (s : Archive) :
    recalls (a.recallFile r s).trace.replies = if a.mayRecall s then [r.toCall] else [] := by
  by_cases ha : a.isActive = true
  · rw [recallFile_of_active ha, mayRecall, ha, Bool.true_and]
    rcases ho : s.answers.openFile with _ | status
    · rw [Recall.replies_perform_of_none ho]
      rfl
    · rw [Recall.perform_apply_of_some ho]
      rfl
  · have hoff : a.isActive = false := by simpa using ha
    rw [recallFile_apply_of_inactive hoff, mayRecall, hoff]
    rfl

end Agent

/-! ## The recalls of a query -/

namespace Query

/-- The request that a query may make where it stands. -/
def request? (q : Query) : Option Request :=
  match q.phase, q.location with
  | .resolved, some l => some (.ofLocation q.file l)
  | _, _ => none

/-- The request that a query makes if it is run from here to its end. -/
def runRequest? (a : Agent) (q : Query) (s : Archive) : Option Request :=
  match ((locate a).run (q, s)).ending with
  | .ok (.ok l) => if l.needsRecall then ((locate a).run (q, s)).state.1.request? else none
  | _ => none

theorem recalls_locate (a : Agent) (q : Query) (s : Archive) :
    recalls ((locate a).run (q, s)).trace.replies = [] := by
  by_cases hp : q.phase = .unresolved
  · rw [replies_locate_of_unresolved hp]
    exact a.recalls_locate q.file s
  · rw [locate_run_of_ne hp]
    rfl

theorem recalls_recallFile (a : Agent) (q : Query) (s : Archive) :
    recalls ((recallFile a).run (q, s)).trace.replies =
      if a.mayRecall s then q.request?.toList.map Request.toCall else [] := by
  by_cases hp : q.phase = .resolved
  · -- no query is resolved and without a location, but the step is made for one all the same
    rcases hl : q.location with _ | l
    · rw [recallFile_run_of_none hl, request?, hp, hl]
      exact (ite_self _).symm
    · rw [replies_recallFile_of_resolved hp hl, a.recalls_recallFile, request?, hp, hl]
      rfl
  · have hnone : q.request? = none := by
      rw [request?]
      split
      · rename_i hphase _
        exact absurd hphase hp
      · rfl
    rw [recallFile_run_of_ne hp, hnone]
    exact (ite_self _).symm

theorem answers_locate (a : Agent) (q : Query) (s : Archive) :
    ((locate a).run (q, s)).state.2.answers = s.answers :=
  (works_locate a q s).work.answers

theorem recalls_run (a : Agent) (q : Query) (s : Archive) :
    recalls ((run a).run (q, s)).trace.replies =
      if a.mayRecall s then (q.runRequest? a s).toList.map Request.toCall else [] := by
  have hlocate := recalls_locate a q s
  have hanswers := answers_locate a q s
  rw [run_run, runRequest?]
  rcases ho : (locate a).run (q, s) with ⟨ending, ⟨r, s'⟩, t⟩
  rw [ho] at hlocate hanswers
  -- the scan before the recall does not change how an opening is answered
  have hmay : a.mayRecall s' = a.mayRecall s := by
    have hsame : s'.answers = s.answers := hanswers
    rw [Agent.mayRecall, Agent.mayRecall, hsame]
  rcases ending with why | fault | l
  · exact hlocate.trans (ite_self _).symm
  · exact hlocate.trans (ite_self _).symm
  · by_cases hn : l.needsRecall = true
    · simp only [hn, if_true]
      rw [Trace.replies_append, recalls_append, hlocate, List.nil_append,
        recalls_recallFile, hmay]
    · simp only [hn]
      exact hlocate.trans (ite_self _).symm

end Query

/-- A direct call that recalls. -/
def Action.isDirectRecall : Action → Bool
  | .direct (.recallFile ..) => true
  | _ => false

namespace World

/-! ## One step -/

/-- The request that a step makes: the caller's own, or that of the query that is asked. -/
def request? (w : World) (s : Step) : Option Request :=
  match s.action with
  | .recallFile file length => some ⟨file, length⟩
  | .recallLocated file l => some (.ofLocation file l)
  | .inquire k .recallFile => (w.queries.get? (s.agent, k)).bind Query.request?
  | .inquire k .run =>
    (w.queries.get? (s.agent, k)).bind fun q => q.runRequest? (w.agent s.agent) w.archive
  | _ => none

/-- The requests of a step that get as far as the archive, of which there is one at most. -/
def issued (w : World) (s : Step) : List Request :=
  if (w.agent s.agent).mayRecall w.archive then (w.request? s).toList else []

theorem issued_of_none {w : World} {s : Step} (h : w.request? s = none) : w.issued s = [] := by
  rw [issued, h]
  exact ite_self _

/-- The calls of a step that makes this request. -/
theorem map_toCall_issued {w : World} {s : Step} {r : Option Request} (h : w.request? s = r) :
    (w.issued s).map Request.toCall =
      if (w.agent s.agent).mayRecall w.archive then r.toList.map Request.toCall else [] := by
  rw [issued, h, apply_ite (List.map Request.toCall)]
  rfl

theorem recalls_direct (w : World) {c : DirectCall}
    (h : Action.isDirectRecall (.direct c) = false) :
    recalls (w.direct c).trace.replies = [] := by
  cases c with
  | login mechanism principal keytab =>
      rw [direct, call_trace, Archive.login_apply]
      rfl
  | purge =>
      rw [direct, call_trace, Archive.purge_apply]
      rfl
  | query file =>
      rw [direct, callThen_trace]
      rcases hk : w.archive.known file with status | x
      · rw [Archive.query_apply_of_error hk]
        rfl
      · rw [Archive.query_apply_of_ok hk]
        rfl
  | release index =>
      rw [direct]
      rcases w.held[index]? with _ | v
      · rfl
      · rfl
  | openFile file mode =>
      rw [direct, call_trace]
      rcases ho : w.archive.answers.openFile with _ | status
      · rw [Archive.openFile_apply_of_none ho]
        rfl
      · rw [Archive.openFile_apply_of_some ho]
        rfl
  | recallFile handle offset length tier => cases h
  | closeFile handle =>
      rw [direct, call_trace]
      rcases hg : w.archive.handles.get? handle with _ | file
      · rw [Archive.closeFile_apply_of_none hg]
        rfl
      · rw [Archive.closeFile_apply_of_some hg]
        rfl

theorem recalls_inquire (w : World) (n k : Nat) (i : Inquiry) :
    recalls (w.inquire n k i).trace.replies =
      (w.issued ⟨n, .inquire k i⟩).map Request.toCall := by
  rcases hq : w.queries.get? (n, k) with _ | q
  · have hnone : w.request? ⟨n, .inquire k i⟩ = none := by
      cases i <;> simp [request?, hq]
    rw [inquire, hq, issued_of_none hnone]
    rfl
  · rw [inquire, hq]
    cases i with
    | locate =>
        rw [issued_of_none rfl]
        exact Query.recalls_locate (w.agent n) q w.archive
    | recallFile =>
        have hrequest : w.request? ⟨n, .inquire k .recallFile⟩ = q.request? := by
          simp [request?, hq]
        rw [map_toCall_issued hrequest]
        exact Query.recalls_recallFile (w.agent n) q w.archive
    | run =>
        have hrequest : w.request? ⟨n, .inquire k .run⟩ = q.runRequest? (w.agent n) w.archive := by
          simp [request?, hq]
        rw [map_toCall_issued hrequest]
        exact Query.recalls_run (w.agent n) q w.archive
    | look =>
        rw [issued_of_none rfl]
        rfl

/-- The step lemma: the recalls that a step makes are those that it asks for and that get as far
as the archive. -/
theorem recalls_step (w : World) {s : Step} (h : s.action.isDirectRecall = false) :
    recalls (w.step s).trace.replies = (w.issued s).map Request.toCall := by
  by_cases hf : s.action.onFiles = true
  · obtain ⟨n, action⟩ := s
    cases action with
    | locate file =>
        rw [step, call_trace, issued_of_none rfl]
        exact (w.agent n).recalls_locate file w.archive
    | recallFile file length =>
        rw [step, call_trace, map_toCall_issued rfl]
        exact (w.agent n).recalls_recallFile ⟨file, length⟩ w.archive
    | recallLocated file l =>
        rw [step, call_trace, map_toCall_issued rfl]
        exact (w.agent n).recalls_recallFile (.ofLocation file l) w.archive
    | inquire k i =>
        have hinquire := (w.engage n).recalls_inquire n k i
        rw [issued, request?, agent_engage] at hinquire
        exact hinquire
    | _ => cases hf
  · -- the other steps make no request, and their calls are about credentials or direct
    have hrequest : w.request? s = none := by
      obtain ⟨n, action⟩ := s
      cases action <;> first | rfl | exact absurd rfl hf
    rw [issued_of_none hrequest]
    by_cases hd : s.action.isDirect = true
    · obtain ⟨n, action⟩ := s
      cases action with
      | direct c => exact (w.engage n).recalls_direct h
      | _ => cases hd
    · obtain ⟨-, hcalls⟩ := w.apart_step (by simpa using hf) (by simpa using hd)
      exact recalls_of_aboutCredentials hcalls

/-- From one step to a whole history. -/
theorem recalls_log (w : World) (steps : List Step)
    (agents : ∀ s ∈ steps, s.action.isDirectRecall = false) :
    recalls (w.log steps) = (w.gather issued steps).map Request.toCall := by
  induction steps using List.reverseRecOn with
  | nil => rfl
  | append_singleton past s ih =>
      have hpast := ih fun t ht => agents t (List.mem_append_left _ ht)
      have hs := agents s (List.mem_append_right _ (List.mem_singleton.2 rfl))
      rw [log_concat, recalls_append, gather_concat, List.map_append, recalls_step _ hs, hpast]

end World

/-! ## Where the length of a recall comes from -/

/-- The archive knows the file just now, and a location of this size is the one of its first tier
with data. -/
def Archive.Places (s : Archive) (file : String) (size : UInt64) : Prop :=
  ∃ x level, s.known file = .ok x ∧ x.fastest? = some level ∧ size = (x.tier level).bytes

theorem Agent.places_of_locate {a : Agent} {file : String} {s : Archive} {l : Location}
    (h : (a.locate file s).ending = .ok (.ok l)) : s.Places file l.size := by
  obtain ⟨x, hx, hverdict⟩ := verdict_of_located h
  obtain ⟨level, hlevel, hsize, -⟩ := Scan.exists_of_verdict_eq_ok hverdict
  exact ⟨x, level, hx, hlevel, hsize⟩

namespace Query

theorem request?_eq_some {q : Query} {r : Request} (h : q.request? = some r) :
    ∃ l, q.location = some l ∧ r = .ofLocation q.file l := by
  rw [request?] at h
  split at h
  · rename_i l _ hl
    exact ⟨l, hl, (Option.some.inj h).symm⟩
  · cases h

/-- A location that a query has after its scan is the one it had, or the archive has just named
it. -/
theorem placed_locate (a : Agent) (q : Query) (s : Archive) :
    ((locate a).run (q, s)).state.1.file = q.file ∧
      ∀ l, ((locate a).run (q, s)).state.1.location = some l →
        q.location = some l ∨ s.Places q.file l.size := by
  by_cases hp : q.phase = .unresolved
  · rw [locate_run_of_unresolved hp]
    rcases ho : (a.locate q.file s).ending with why | fault | found
    · exact ⟨rfl, fun l hl => Or.inl hl⟩
    · exact ⟨rfl, fun l hl => Or.inl hl⟩
    · refine ⟨rfl, ?_⟩
      intro l hl
      obtain rfl : found = l := Option.some.inj hl
      exact Or.inr (Agent.places_of_locate ho)
  · rw [locate_run_of_ne hp]
    exact ⟨rfl, fun l hl => Or.inl hl⟩

/-- A recall does not change where the query says that its file is. -/
theorem same_recallFile (a : Agent) (q : Query) (s : Archive) :
    ((recallFile a).run (q, s)).state.1.file = q.file ∧
      ((recallFile a).run (q, s)).state.1.location = q.location := by
  by_cases hp : q.phase = .resolved
  · rcases hl : q.location with _ | l
    · rw [recallFile_run_of_none hl]
      exact ⟨rfl, hl⟩
    · rw [recallFile_run_of_resolved hp hl]
      rcases (a.recallFile (.ofLocation q.file l) s).ending with why | fault | _
      · exact ⟨rfl, hl⟩
      · exact ⟨rfl, hl⟩
      · exact ⟨rfl, hl⟩
  · rw [recallFile_run_of_ne hp]
    exact ⟨rfl, rfl⟩

theorem placed_run (a : Agent) (q : Query) (s : Archive) :
    ((run a).run (q, s)).state.1.file = q.file ∧
      ∀ l, ((run a).run (q, s)).state.1.location = some l →
        q.location = some l ∨ s.Places q.file l.size := by
  have hlocate := placed_locate a q s
  rw [run_run]
  split
  · split
    · obtain ⟨hfile, hlocation⟩ := same_recallFile a ((locate a).run (q, s)).state.1
        ((locate a).run (q, s)).state.2
      refine ⟨hfile.trans hlocate.1, ?_⟩
      intro l hl
      exact hlocate.2 l (hlocation ▸ hl)
    · exact hlocate
  · exact hlocate

/-- The request of a query that is run is for a location that it had, or that the archive has just
named. -/
theorem placed_runRequest {a : Agent} {q : Query} {s : Archive} {r : Request}
    (h : q.runRequest? a s = some r) :
    ∃ l, r = .ofLocation q.file l ∧ (q.location = some l ∨ s.Places q.file l.size) := by
  obtain ⟨hfile, hplaced⟩ := placed_locate a q s
  rw [runRequest?] at h
  split at h
  · split at h
    · obtain ⟨l, hl, hr⟩ := request?_eq_some h
      rw [hfile] at hr
      exact ⟨l, hr, hplaced l hl⟩
    · cases h
  · cases h

end Query

/-- The step asks a query to look for its file. -/
def Step.locates (s : Step) (key : Nat × Nat) : Prop :=
  s.agent = key.1 ∧ (s.action = .inquire key.2 .locate ∨ s.action = .inquire key.2 .run)

namespace World

/-- An inquiry leaves its query with the location it had, or with one that it found just now. -/
theorem placed_inquire {w : World} {n k : Nat} {i : Inquiry} {p q : Query}
    (hp : w.queries.get? (n, k) = some p)
    (hq : (w.inquire n k i).after.queries.get? (n, k) = some q) :
    p.file = q.file ∧ ∀ l, q.location = some l → p.location = some l ∨
      ((i = .locate ∨ i = .run) ∧ w.archive.Places q.file l.size) := by
  rw [inquire, hp] at hq
  cases i with
  | locate =>
      have hput := Option.some.inj ((Table.get?_put_self _ _ _).symm.trans hq)
      obtain ⟨hfile, hplaced⟩ := Query.placed_locate (w.agent n) p w.archive
      rw [← hput, hfile]
      exact ⟨rfl, fun l hl => (hplaced l hl).imp_right fun h => ⟨Or.inl rfl, h⟩⟩
  | recallFile =>
      have hput := Option.some.inj ((Table.get?_put_self _ _ _).symm.trans hq)
      obtain ⟨hfile, hlocation⟩ := Query.same_recallFile (w.agent n) p w.archive
      rw [← hput, hfile]
      exact ⟨rfl, fun l hl => Or.inl (hlocation ▸ hl)⟩
  | run =>
      have hput := Option.some.inj ((Table.get?_put_self _ _ _).symm.trans hq)
      obtain ⟨hfile, hplaced⟩ := Query.placed_run (w.agent n) p w.archive
      rw [← hput, hfile]
      exact ⟨rfl, fun l hl => (hplaced l hl).imp_right fun h => ⟨Or.inr rfl, h⟩⟩
  | look =>
      obtain rfl := Option.some.inj (hp.symm.trans hq)
      exact ⟨rfl, fun l hl => Or.inl hl⟩

/-- A location that a query has after a step it had before, or the step found it. -/
theorem placed_step {w : World} {s : Step} {key : Nat × Nat} {q : Query} {l : Location}
    (hq : (w.step s).after.queries.get? key = some q) (hl : q.location = some l) :
    (s.starts key = false ∧
      ∃ p, w.queries.get? key = some p ∧ p.file = q.file ∧ p.location = some l) ∨
    (s.locates key ∧ w.archive.Places q.file l.size) := by
  by_cases hstarts : s.starts key = true
  · -- a query that was just started has no location
    obtain ⟨file, rfl⟩ := Step.eq_of_starts hstarts
    have hnew : (w.step ⟨key.1, .start key.2 file⟩).after.queries.get? key = some { file } :=
      Table.get?_put_self _ _ _
    rw [hnew] at hq
    obtain rfl := Option.some.inj hq
    cases hl
  have hno : s.starts key = false := by simpa using hstarts
  by_cases hc : s.concerns key = true
  · obtain ⟨i, rfl⟩ := Step.eq_of_concerns hc hno
    obtain ⟨n, k⟩ := key
    have hafter : ((w.engage n).inquire n k i).after.queries.get? (n, k) = some q := hq
    rcases hp : (w.engage n).queries.get? (n, k) with _ | p
    · -- there is no query to ask, and asking makes none
      rw [inquire, hp] at hafter
      exact absurd (hp.symm.trans hafter) (by simp)
    · obtain ⟨hfile, hplaced⟩ := placed_inquire hp hafter
      rcases hplaced l hl with hold | ⟨hi, hnew⟩
      · exact Or.inl ⟨hno, p, hp, hfile, hold⟩
      · exact Or.inr ⟨⟨rfl, hi.imp (congrArg _) (congrArg _)⟩, hnew⟩
  · rw [(w.framed_step s).queries key (by simpa using hc)] at hq
    exact Or.inl ⟨hno, q, hq, rfl, hl⟩

/-- Whatever location a query has, one of its steps found it, and the query was not started anew
since then. -/
theorem exists_locates {w : World} {key : Nat × Nat} (hnone : w.queries.get? key = none)
    {steps : List Step} {q : Query} {l : Location}
    (hq : (w.afterAll steps).queries.get? key = some q) (hl : q.location = some l) :
    ∃ first t later, steps = first ++ t :: later ∧ t.locates key ∧
      (∀ u ∈ later, u.starts key = false) ∧ (w.afterAll first).archive.Places q.file l.size := by
  induction steps using List.reverseRecOn generalizing q with
  | nil =>
      rw [afterAll_nil, hnone] at hq
      cases hq
  | append_singleton past s ih =>
      rw [afterAll_concat] at hq
      rcases placed_step hq hl with ⟨hno, p, hp, hfile, hold⟩ | ⟨hlocates, hplaces⟩
      · -- the step that found the location is further back
        obtain ⟨first, t, later, hsplit, ht, hlater, hplaces⟩ := ih hp hold
        refine ⟨first, t, later ++ [s], ?_, ht, ?_, hfile ▸ hplaces⟩
        · rw [hsplit, List.append_assoc, List.cons_append]
        · intro u hu
          rcases List.mem_append.1 hu with hu | hu
          · exact hlater u hu
          · rw [List.mem_singleton.1 hu]
            exact hno
      · exact ⟨past, s, [], rfl, hlocates, List.forall_mem_nil _, hplaces⟩

/-- A query asks for the recall of a size that the archive named at one of its steps, this one or
an earlier one. -/
theorem exists_locates_of_issued {w : World} {n k : Nat}
    (hnone : w.queries.get? (n, k) = none) {before : List Step} {i : Inquiry} {r : Request}
    (h : r ∈ (w.afterAll before).issued ⟨n, .inquire k i⟩) :
    ∃ first t later, before ++ [⟨n, .inquire k i⟩] = first ++ t :: later ∧ t.locates (n, k) ∧
      (∀ u ∈ later, u.starts (n, k) = false) ∧
      (w.afterAll first).archive.Places r.file r.length := by
  have hstay : Step.starts ⟨n, .inquire k i⟩ (n, k) = false := by simp [Step.starts]
  -- a location from before goes back to the step that found it
  have hearlier : ∀ q l, (w.afterAll before).queries.get? (n, k) = some q →
      q.location = some l →
      ∃ first t later, before ++ [⟨n, .inquire k i⟩] = first ++ t :: later ∧
        t.locates (n, k) ∧ (∀ u ∈ later, u.starts (n, k) = false) ∧
        (w.afterAll first).archive.Places q.file l.size := by
    intro q l hq hl
    obtain ⟨first, t, later, hsplit, ht, hlater, hplaces⟩ := exists_locates hnone hq hl
    refine ⟨first, t, later ++ [⟨n, .inquire k i⟩], ?_, ht, ?_, hplaces⟩
    · rw [hsplit, List.append_assoc, List.cons_append]
    · intro u hu
      rcases List.mem_append.1 hu with hu | hu
      · exact hlater u hu
      · rw [List.mem_singleton.1 hu]
        exact hstay
  rw [issued] at h
  split at h
  · have hr : (w.afterAll before).request? ⟨n, .inquire k i⟩ = some r := Option.mem_toList.1 h
    cases i with
    | recallFile =>
        obtain ⟨q, hq, hrequest⟩ := Option.bind_eq_some_iff.1 hr
        obtain ⟨l, hl, rfl⟩ := Query.request?_eq_some hrequest
        exact hearlier q l hq hl
    | run =>
        obtain ⟨q, hq, hrequest⟩ := Option.bind_eq_some_iff.1 hr
        obtain ⟨l, rfl, hold | hnew⟩ := Query.placed_runRequest hrequest
        · exact hearlier q l hq hold
        · -- a run that finds the location is itself the step that did
          exact ⟨before, ⟨n, .inquire k .run⟩, [], rfl, ⟨rfl, Or.inr rfl⟩,
            List.forall_mem_nil _, hnew⟩
    | _ => cases hr
  · cases h

/-- **Recalls come in the order in which they are asked for.** In a history without direct recalls
the recalls that the archive records are those of the operations that had a session, passed the
check of the phase where there is one, and could open the file, in their order and each once,
whatever became of the recall and of the close. Each covers the file from its first byte, in the
length that was asked for; of a query this is the size of the tier where the file was found. -/
theorem recalls_in_order (answers : Answers) (catalogue : Catalogue) (steps : List Step)
    (agents : ∀ s ∈ steps, s.action.isDirectRecall = false) :
    let start := opening answers catalogue
    recalls (start.log steps) =
      (start.gather issued steps).map (fun r => .recallFile r.file 0 r.length 0) ∧
    ∀ before n k i after r, steps = before ++ ⟨n, .inquire k i⟩ :: after →
      r ∈ (start.afterAll before).issued ⟨n, .inquire k i⟩ →
      ∃ first t later x level, before ++ [⟨n, .inquire k i⟩] = first ++ t :: later ∧
        t.agent = n ∧ (t.action = .inquire k .locate ∨ t.action = .inquire k .run) ∧
        (∀ u ∈ later, u.starts (n, k) = false) ∧
        (start.afterAll first).archive.known r.file = .ok x ∧
        x.fastest? = some level ∧ r.length = (x.tier level).bytes := by
  intro start
  refine ⟨recalls_log start steps agents, ?_⟩
  intro before n k i after r _ hr
  obtain ⟨first, t, later, hsplit, ⟨hagent, haction⟩, hlater, x, level, hknown, hlevel, hsize⟩ :=
    exists_locates_of_issued rfl hr
  exact ⟨first, t, later, x, level, hsplit, hagent, haction, hlater, hknown, hlevel, hsize⟩

/-- Two agents and two queries by turns, with a refused opening, a recall that is cut short and a
refused close among them. -/
def interleavedSteps : List Step :=
  [⟨0, .enter "/t" (.file [.vacant .diskLevel, .onTape 7 "A" 12 1])⟩,
    ⟨0, .login "unix" "p" "/k"⟩, ⟨1, .recallFile "/u" 1⟩, ⟨1, .login "unix" "q" "/k"⟩,
    ⟨0, .start 0 "/t"⟩, ⟨1, .start 0 "/t"⟩, ⟨0, .inquire 0 .locate⟩, ⟨1, .recallFile "/u" 2⟩,
    ⟨1, .answers { openFile := some .badHandle }⟩, ⟨0, .recallFile "/u" 3⟩,
    ⟨1, .answers { recallFile := .abort, closeFile := some .badHandle }⟩,
    ⟨1, .inquire 0 .run⟩, ⟨0, .inquire 0 .recallFile⟩, ⟨0, .inquire 0 .recallFile⟩]

theorem interleavedSteps_in_order :
    (∀ s ∈ interleavedSteps, s.action.isDirectRecall = false) ∧
      recalls ((opening {} .empty).log interleavedSteps) =
        [.recallFile "/u" 0 2 0, .recallFile "/t" 0 12 0, .recallFile "/t" 0 12 0] := by
  have agents : ∀ s ∈ interleavedSteps, s.action.isDirectRecall = false := by decide
  have hissued : (opening {} .empty).gather issued interleavedSteps =
      [⟨"/u", 2⟩, ⟨"/t", 12⟩, ⟨"/t", 12⟩] := by decide
  obtain ⟨hcalls, -⟩ := recalls_in_order {} .empty interleavedSteps agents
  rw [hissued] at hcalls
  exact ⟨agents, hcalls⟩

end World

end TapeRecall
