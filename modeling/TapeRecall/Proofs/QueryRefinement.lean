import TapeRecall.Proofs.Course
import TapeRecall.Proofs.Frame

/-!
# A query and the plain calls of its agent

A file can be fetched in three ways: a query is run; the query is asked to locate the file and then,
where the file has to be recalled, to recall it; or the agent itself locates the file and recalls
it, without any query. The three are the same to the archive, and they come out the same way up to
how a query wraps the faults of its agent.

A query checks its phase before each part and after it. None of the checks can fail in a query that
was just started, and that is most of what there is to prove: the outcome of each of the three is a
function of two outcomes, that of the agent's scan and that of the agent's recall after it.
-/

set_option autoImplicit false

namespace TapeRecall

namespace World

/-! ## Doing it in two steps -/

/-- A step that looks for a file, and a second one if the first found a location from which the
file has to be recalled. -/
def inTwo (w : World) (n : Nat) (look : Action) (fetch : Location → Action) : List Report :=
  let first := w.step ⟨n, look⟩
  match first.result with
  | .location l =>
    if l.needsRecall then [first, first.after.step ⟨n, fetch l⟩] else [first]
  | _ => [first]

/-- The results of some steps. -/
def resultsOf (reports : List Report) : List Result := reports.map Report.result

/-- The calls of some steps. -/
def callsOf (reports : List Report) : List Exchange := reports.flatMap fun r => r.trace.replies

/-- The world after some steps. -/
def endOf (w : World) (reports : List Report) : World :=
  (reports.getLast?.map Report.after).getD w

@[simp] theorem callsOf_singleton (r : Report) : callsOf [r] = r.trace.replies :=
  List.append_nil _

@[simp] theorem callsOf_pair (r u : Report) :
    callsOf [r, u] = r.trace.replies ++ u.trace.replies := by
  simp [callsOf]

@[simp] theorem endOf_singleton (w : World) (r : Report) : w.endOf [r] = r.after := rfl

@[simp] theorem endOf_pair (w : World) (r u : Report) : w.endOf [r, u] = u.after := rfl

theorem inTwo_of_needsRecall {w : World} {n : Nat} {look : Action} {fetch : Location → Action}
    {l : Location} (h : (w.step ⟨n, look⟩).result = .location l) (hn : l.needsRecall = true) :
    w.inTwo n look fetch =
      [w.step ⟨n, look⟩, (w.step ⟨n, look⟩).after.step ⟨n, fetch l⟩] := by
  unfold inTwo
  dsimp only
  rw [h]
  simp only [hn, if_true]

theorem inTwo_of_rest {w : World} {n : Nat} {look : Action} {fetch : Location → Action}
    (h : ∀ l, (w.step ⟨n, look⟩).result = .location l → l.needsRecall = false) :
    w.inTwo n look fetch = [w.step ⟨n, look⟩] := by
  unfold inTwo
  dsimp only
  split
  · rename_i l hl
    simp only [h l hl, Bool.false_eq_true, if_false]
  · rfl

end World

/-! ## The three ways -/

/-- How the three ways come out together, by their results and by the query after the first two. No
two cases leave the query in the same phase. -/
inductive SameWay (file : String) :
    (run inSteps plain : List Result) → (after : Query) → Prop
  | unlocated (fault : ScanFault) :
      SameWay file [.failed (.ofQuery (.ofScan fault))] [.failed (.ofQuery (.ofScan fault))]
        [.failed (.ofScan fault)] { file, phase := .errored }
  | scanCutShort (why : Abort) :
      SameWay file [.aborted why] [.aborted why] [.aborted why] { file, phase := .scanning }
  | onDisk (l : Location) (stays : l.needsRecall = false) :
      SameWay file [.location l] [.location l] [.location l]
        { file, phase := .resolved, location := some l }
  | recalled (l : Location) (goes : l.needsRecall = true) :
      SameWay file [.location l] [.location l, .done] [.location l, .done]
        { file, phase := .staged, location := some l }
  | unrecalled (l : Location) (goes : l.needsRecall = true) (fault : RecallFault) :
      SameWay file [.failed (.ofQuery (.ofRecall fault))]
        [.location l, .failed (.ofQuery (.ofRecall fault))]
        [.location l, .failed (.ofRecall fault)]
        { file, phase := .stageErrored, location := some l }
  | recallCutShort (l : Location) (goes : l.needsRecall = true) (why : Abort) :
      SameWay file [.aborted why] [.location l, .aborted why] [.location l, .aborted why]
        { file, phase := .staging, location := some l }

/-- A scan opens nothing. -/
theorem Agent.no_opening_locate (a : Agent) (file : String) (s : Archive) :
    ∀ e ∈ (a.locate file s).trace.replies, e.1.kind ≠ .openFile := by
  intro e he hk
  have hcalls := (a.undertaking_locate file s).calls .openFile (by decide)
  have hmem : Call.Kind.openFile ∈ (a.locate file s).trace.kinds := List.mem_map.2 ⟨e, he, hk⟩
  have hcount := List.count_pos_iff.2 hmem
  have hbudget : Phase.unresolved.budget .openFile = Phase.scanning.budget .openFile := rfl
  omega

namespace Query

/-- The scan of a query that was just started, by the outcome of its agent's scan. -/
theorem locate_run_of_fresh (a : Agent) (file : String) (s : Archive) :
    ((locate a).run ({ file }, s)).ending = scanResult (a.locate file s).ending ∧
      ((locate a).run ({ file }, s)).state =
        (scanned { file } (a.locate file s).ending, (a.locate file s).state) ∧
      ((locate a).run ({ file }, s)).trace.replies = (a.locate file s).trace.replies := by
  have hrun := locate_run_of_unresolved (q := { file }) rfl a s
  exact ⟨by rw [hrun], by rw [hrun], replies_locate_of_unresolved (q := { file }) rfl a s⟩

/-- The recall of a query that was just located, by the outcome of its agent's recall. -/
theorem recallFile_run_of_located (a : Agent) (file : String) (l : Location) (s : Archive) :
    let q : Query := { file, phase := .resolved, location := some l }
    ((recallFile a).run (q, s)).ending = recallResult (a.recallFile ⟨file, l.size⟩ s).ending ∧
      ((recallFile a).run (q, s)).state =
        (recalled q (a.recallFile ⟨file, l.size⟩ s).ending,
          (a.recallFile ⟨file, l.size⟩ s).state) ∧
      ((recallFile a).run (q, s)).trace.replies =
        (a.recallFile ⟨file, l.size⟩ s).trace.replies := by
  intro q
  have hrun := recallFile_run_of_resolved (q := q) rfl rfl a s
  exact ⟨by rw [hrun]; rfl, by rw [hrun]; rfl, replies_recallFile_of_resolved (q := q) rfl rfl a s⟩

end Query

/-! ## What the steps come to -/

/-- The result of a step whose operation ended in this way. -/
def reported {α : Type} (result : α → Result) : Except Abort α → Result
  | .ok a => result a
  | .error why => .aborted why

/-- The result of looking for a file by a query. -/
def queryLocateResult : Except ScanFault Location → Result
  | .ok l => .location l
  | .error fault => .failed (.ofQuery (.ofScan fault))

theorem eq_of_reported_locate {e : Except Abort (Except ScanFault Location)} {l : Location}
    (h : reported World.locateResult e = .location l) : e = .ok (.ok l) := by
  rcases e with why | fault | m
  · cases h
  · cases h
  · cases h
    rfl

theorem eq_of_reported_query {e : Except Abort (Except ScanFault Location)} {l : Location}
    (h : reported queryLocateResult e = .location l) : e = .ok (.ok l) := by
  rcases e with why | fault | m
  · cases h
  · cases h
  · cases h
    rfl

/-- The result of running a query that found this location, by how the recall ended. -/
def queryRecallResult (l : Location) : Except RecallFault Unit → Result
  | .ok () => .location l
  | .error fault => .failed (.ofQuery (.ofRecall fault))

/-- The step had this result, and to the archive it was this operation of the agent. -/
structure Report.Does {α : Type} (r : Report) (result : Result) (o : Outcome Archive α) : Prop where
  result : r.result = result
  calls : r.trace.replies = o.trace.replies
  archive : r.after.archive = o.state

namespace World

variable {w : World} {n k : Nat} {file : String}

/-- Starting a query touches nothing that the plain calls depend on. -/
theorem start_facts (w : World) (n k : Nat) (file : String) :
    let start := (w.step ⟨n, .start k file⟩).after
    start.archive = w.archive ∧ start.agent n = w.agent n ∧
      start.queries.get? (n, k) = some { file } :=
  ⟨rfl, agent_engage w n n, Table.get?_put_self _ _ _⟩

theorem does_locate (w : World) (n : Nat) (file : String) :
    (w.step ⟨n, .locate file⟩).Does
      (reported locateResult ((w.agent n).locate file w.archive).ending)
      ((w.agent n).locate file w.archive) := by
  rw [step_locate]
  refine ⟨?_, by rw [call_trace]; rfl, by rw [call_after]; rfl⟩
  rw [call_result]
  rfl

theorem does_recallFile (w : World) (n : Nat) (file : String) (length : UInt64) :
    (w.step ⟨n, .recallFile file length⟩).Does
      (reported (acknowledge .ofRecall)
        ((w.agent n).recallFile ⟨file, length⟩ w.archive).ending)
      ((w.agent n).recallFile ⟨file, length⟩ w.archive) := by
  rw [step_recallFile]
  refine ⟨?_, by rw [call_trace]; rfl, by rw [call_after]; rfl⟩
  rw [call_result]
  rfl

theorem does_inquire_locate (h : w.queries.get? (n, k) = some { file }) :
    let o := (w.agent n).locate file w.archive
    let r := w.step ⟨n, .inquire k .locate⟩
    r.Does (reported queryLocateResult o.ending) o ∧
      r.after.queries.get? (n, k) = some (Query.scanned { file } o.ending) := by
  intro o r
  obtain ⟨hending, hstate, hcalls⟩ := Query.locate_run_of_fresh (w.agent n) file w.archive
  have hr : r = _ := step_inquire_locate h
  have harchive : (w.engage n).archive = w.archive := rfl
  rw [hr]
  refine ⟨⟨?_, ?_, ?_⟩, ?_⟩
  · rw [callQuery_result, harchive, hending]
    change _ = reported queryLocateResult ((w.agent n).locate file w.archive).ending
    rcases ((w.agent n).locate file w.archive).ending with why | fault | l <;> rfl
  · rw [callQuery_trace, harchive, hcalls]
  · rw [callQuery_after, harchive, hstate]
  · rw [callQuery_after, harchive, hstate]
    exact Table.get?_put_self _ _ _

theorem does_inquire_recallFile {l : Location}
    (h : w.queries.get? (n, k) =
      some { file, phase := .resolved, location := some l }) :
    let o := (w.agent n).recallFile ⟨file, l.size⟩ w.archive
    let r := w.step ⟨n, .inquire k .recallFile⟩
    r.Does (reported (acknowledge fun fault => .ofQuery (.ofRecall fault)) o.ending) o ∧
      r.after.queries.get? (n, k) = some
        (Query.recalled { file, phase := .resolved, location := some l } o.ending) := by
  intro o r
  obtain ⟨hending, hstate, hcalls⟩ :=
    Query.recallFile_run_of_located (w.agent n) file l w.archive
  have hr : r = _ := step_inquire_recallFile h
  have harchive : (w.engage n).archive = w.archive := rfl
  rw [hr]
  refine ⟨⟨?_, ?_, ?_⟩, ?_⟩
  · rw [callQuery_result, harchive, hending]
    change _ = reported _ ((w.agent n).recallFile ⟨file, l.size⟩ w.archive).ending
    rcases ((w.agent n).recallFile ⟨file, l.size⟩ w.archive).ending with why | fault | _ <;> rfl
  · rw [callQuery_trace, harchive, hcalls]
  · rw [callQuery_after, harchive, hstate]
  · rw [callQuery_after, harchive, hstate]
    exact Table.get?_put_self _ _ _

/-- A run that ends with its scan is the same step as the scan. -/
theorem step_run_of_rest (h : w.queries.get? (n, k) = some { file })
    (hrest : ∀ l, ((w.agent n).locate file w.archive).ending = .ok (.ok l) →
      l.needsRecall = false) :
    w.step ⟨n, .inquire k .run⟩ = w.step ⟨n, .inquire k .locate⟩ := by
  have hending := (Query.locate_run_of_fresh (w.agent n) file w.archive).1
  have hrun : (Query.run (w.agent n)).run ({ file }, w.archive) =
      (Query.locate (w.agent n)).run ({ file }, w.archive) := by
    apply Query.run_run_of_rest
    intro l hl
    rw [hending] at hl
    exact hrest l (Query.eq_of_scanResult hl)
  have harchive : (w.engage n).archive = w.archive := rfl
  rw [step_inquire_run h, step_inquire_locate h, callQuery, callQuery, harchive, hrun]

/-- A run that goes on to the recall is the scan and the recall after it. -/
theorem does_inquire_run (h : w.queries.get? (n, k) = some { file }) {l : Location}
    (hl : ((w.agent n).locate file w.archive).ending = .ok (.ok l)) (hn : l.needsRecall = true) :
    let first := (w.agent n).locate file w.archive
    let second := (w.agent n).recallFile ⟨file, l.size⟩ first.state
    let r := w.step ⟨n, .inquire k .run⟩
    r.result = reported (queryRecallResult l) second.ending ∧
      r.trace.replies = first.trace.replies ++ second.trace.replies ∧
      r.after.archive = second.state ∧
      r.after.queries.get? (n, k) = some
        (Query.recalled { file, phase := .resolved, location := some l } second.ending) := by
  intro first second r
  obtain ⟨hending, hstate, hcalls⟩ := Query.locate_run_of_fresh (w.agent n) file w.archive
  rw [hl] at hending hstate
  obtain ⟨hending', hstate', hcalls'⟩ :=
    Query.recallFile_run_of_located (w.agent n) file l first.state
  have hrun := Query.run_run_of_needsRecall hending hn
  have hsecond : ((Query.locate (w.agent n)).run ({ file }, w.archive)).state =
      ({ file, phase := .resolved, location := some l }, first.state) := hstate
  rw [hsecond] at hrun
  have hr : r = _ := step_inquire_run h
  have harchive : (w.engage n).archive = w.archive := rfl
  rw [hr]
  refine ⟨?_, ?_, ?_, ?_⟩
  · rw [callQuery_result, harchive, hrun]
    dsimp only
    rw [hending']
    change _ = reported _ ((w.agent n).recallFile ⟨file, l.size⟩ first.state).ending
    rcases ((w.agent n).recallFile ⟨file, l.size⟩ first.state).ending with why | fault | _ <;> rfl
  · rw [callQuery_trace, harchive, hrun, Trace.replies_append, hcalls, hcalls']
  · rw [callQuery_after, harchive, hrun, hstate']
  · rw [callQuery_after, harchive, hrun, hstate']
    exact Table.get?_put_self _ _ _

/-! ## The main statement -/

/-- **A query refines the plain calls.** Take any world, a query that was just started in it, and
its agent, with a session or without. Running the query, asking it for the two steps one after the
other, and letting the agent locate and recall by itself make the same calls with the same replies
and leave the archive in the same state. They come out the same way, the faults of the agent being
wrapped by the query, and the phase of the query afterwards says in which of the six ways; where it
is resolved, nothing was opened. -/
theorem query_refines_plain (w : World) (n k : Nat) (file : String) :
    let start := (w.step ⟨n, .start k file⟩).after
    let run := [start.step ⟨n, .inquire k .run⟩]
    let inSteps := start.inTwo n (.inquire k .locate) fun _ => .inquire k .recallFile
    let plain := w.inTwo n (.locate file) fun l => .recallFile file l.size
    callsOf inSteps = callsOf run ∧ callsOf plain = callsOf run ∧
    (start.endOf inSteps).archive = (start.endOf run).archive ∧
    (w.endOf plain).archive = (start.endOf run).archive ∧
    ∃ q, (start.endOf run).queries.get? (n, k) = some q ∧
      (start.endOf inSteps).queries.get? (n, k) = some q ∧
      SameWay file (resultsOf run) (resultsOf inSteps) (resultsOf plain) q ∧
      (q.phase = .resolved → ∀ e ∈ callsOf run, e.1.kind ≠ .openFile) := by
  intro start run inSteps plain
  obtain ⟨harchive, hagent, hquery⟩ := start_facts w n k file
  have hlook := does_locate w n file
  obtain ⟨hask, hasked⟩ := does_inquire_locate hquery
  rw [harchive, hagent] at hask hasked
  have hopens := (w.agent n).no_opening_locate file w.archive
  rcases Query.needsRecall_or_rest ((w.agent n).locate file w.archive).ending with
    ⟨l, hl, hn⟩ | hrest
  · -- the scan found the file on tape, and all three go on to the recall
    have hrun := does_inquire_run hquery (l := l)
    rw [harchive, hagent] at hrun
    obtain ⟨hresult, hcalls, hstate, hleft⟩ := hrun hl hn
    have hfound : (w.step ⟨n, .locate file⟩).result = .location l := by rw [hlook.result, hl]; rfl
    have hfound' : (start.step ⟨n, .inquire k .locate⟩).result = .location l := by
      rw [hask.result, hl]
      rfl
    have hplain : plain = _ := inTwo_of_needsRecall hfound hn
    have hinSteps : inSteps = _ := inTwo_of_needsRecall hfound' hn
    -- the second steps find the archive as the scan left it, and the agent as it was
    have hfetch := does_recallFile (w.step ⟨n, .locate file⟩).after n file l.size
    rw [(w.framed_step ⟨n, .locate file⟩).agents n (Or.inr rfl), hlook.archive] at hfetch
    rw [hl] at hasked
    obtain ⟨hrecall, hrecalled⟩ := does_inquire_recallFile hasked
    rw [(start.framed_step ⟨n, .inquire k .locate⟩).agents n (Or.inr rfl), hagent,
      hask.archive] at hrecall hrecalled
    rw [hplain, hinSteps]
    simp only [run, callsOf_singleton, callsOf_pair, endOf_singleton, endOf_pair]
    refine ⟨?_, ?_, ?_, ?_, _, hleft, hrecalled, ?_, ?_⟩
    · rw [hcalls, hask.calls, hrecall.calls]
    · rw [hcalls, hlook.calls, hfetch.calls]
    · rw [hstate, hrecall.archive]
    · rw [hstate, hfetch.archive]
    · simp only [resultsOf, List.map_cons, List.map_nil]
      rw [hresult, hfound, hfound', hfetch.result, hrecall.result]
      rcases ((w.agent n).recallFile ⟨file, l.size⟩
        ((w.agent n).locate file w.archive).state).ending with why | fault | _
      · exact .recallCutShort l hn why
      · exact .unrecalled l hn fault
      · exact .recalled l hn
    · intro hphase
      rcases ho : ((w.agent n).recallFile ⟨file, l.size⟩
        ((w.agent n).locate file w.archive).state).ending with why | fault | _ <;>
      · rw [ho] at hphase
        cases hphase
  · -- the scan is all there is, and running the query is asking it to locate
    have hrun : start.step ⟨n, .inquire k .run⟩ = start.step ⟨n, .inquire k .locate⟩ := by
      apply step_run_of_rest hquery
      rw [harchive, hagent]
      exact hrest
    have hplain : plain = [w.step ⟨n, .locate file⟩] := by
      apply inTwo_of_rest
      intro l hl
      rw [hlook.result] at hl
      exact hrest l (eq_of_reported_locate hl)
    have hinSteps : inSteps = [start.step ⟨n, .inquire k .locate⟩] := by
      apply inTwo_of_rest
      intro l hl
      rw [hask.result] at hl
      exact hrest l (eq_of_reported_query hl)
    rw [hplain, hinSteps]
    simp only [run, callsOf_singleton, endOf_singleton, hrun]
    refine ⟨trivial, ?_, trivial, ?_, _, hasked, hasked, ?_, ?_⟩
    · rw [hask.calls, hlook.calls]
    · rw [hask.archive, hlook.archive]
    · simp only [resultsOf, List.map_cons, List.map_nil]
      rw [hask.result, hlook.result]
      rcases ho : ((w.agent n).locate file w.archive).ending with why | fault | l
      · exact .scanCutShort why
      · exact .unlocated fault
      · exact .onDisk l (hrest l ho)
    · intro _
      rw [hask.calls]
      exact hopens

end World

end TapeRecall
