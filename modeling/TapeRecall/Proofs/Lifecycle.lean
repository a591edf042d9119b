import Mathlib.Data.List.Induction
import TapeRecall.Proofs.Course
import TapeRecall.Proofs.Frame
import TapeRecall.Proofs.Ordinary

/-!
# The lifecycle of a query

From the step that starts a query, whatever else happens in the world, the query goes through one
course (`Query.Course`): a step that does not concern it leaves it as it is, and a step that does
is one of its operations. The main statement reads the course off the reports of the steps that
concern the query, and splits a history in two where it speaks of what stays from a point on.
-/

set_option autoImplicit false

namespace TapeRecall

/-- The abort that a result tells of. -/
def Result.aborts : Result → List Abort
  | .aborted why => [why]
  | _ => []

theorem Result.mem_aborts {r : Result} {why : Abort} : why ∈ r.aborts ↔ r = .aborted why := by
  cases r with
  | aborted reason =>
      rw [aborts, List.mem_singleton, aborted.injEq]
      exact eq_comm
  | _ => simp [aborts]

namespace World

/-! ## One step -/

/-- The reports of the steps that concern a query. -/
def reportsOn (key : Nat × Nat) (w : World) (steps : List Step) : List Report :=
  w.gather (fun w s => if s.concerns key then [w.step s] else []) steps

theorem reportsOn_concat (key : Nat × Nat) (w : World) (past : List Step) (s : Step) :
    w.reportsOn key (past ++ [s]) =
      w.reportsOn key past ++ if s.concerns key then [(w.afterAll past).step s] else [] :=
  gather_concat _ w past s

theorem onHandle_of_concerns {key : Nat × Nat} {s : Step} (h : s.concerns key = true) :
    s.action.onHandle = false := by
  obtain ⟨n, action⟩ := s
  cases action with
  | direct => simp [Step.concerns] at h
  | _ => rfl

/-- A query makes no call on a handle that is not open. -/
theorem strays_reportsOn (key : Nat × Nat) (w : World) (steps : List Step) :
    Trace.strays ((w.reportsOn key steps).flatMap Report.trace) = [] := by
  induction steps using List.reverseRecOn with
  | nil => rfl
  | append_singleton past s ih =>
      rw [reportsOn_concat, List.flatMap_append, Trace.strays_append, ih, List.nil_append]
      by_cases hc : s.concerns key = true
      · rw [if_pos hc, List.flatMap_singleton]
        exact strays_step _ (onHandle_of_concerns hc)
      · rw [if_neg hc]
        rfl

variable {w : World} {key : Nat × Nat} {q : Query}

/-- The report of a step of a query shows the course of the query by it. -/
theorem course_callQuery {α : Type} {step : Query.Step α} {result : α → Result}
    (hresult : ∀ x, (result x).aborts = [])
    (h : q.Course (cutShort (step.run (q, w.archive)).ending) (step.run (q, w.archive)).trace
      (step.run (q, w.archive)).state.1) :
    ∃ r, (w.callQuery key q step result).after.queries.get? key = some r ∧
      q.Course (w.callQuery key q step result).result.aborts
        (w.callQuery key q step result).trace r := by
  refine ⟨_, Table.get?_put_self _ _ _, ?_⟩
  have haborts : (w.callQuery key q step result).result.aborts =
      cutShort (step.run (q, w.archive)).ending := by
    rw [callQuery]
    rcases (step.run (q, w.archive)).ending with why | fault | x
    · rfl
    · rfl
    · exact hresult x
  rw [haborts]
  exact h

/-- An inquiry is one operation of its query, or none. -/
theorem course_inquire {n k : Nat} (hq : w.queries.get? (n, k) = some q) (h : q.Sound)
    (i : Inquiry) :
    ∃ r, (w.inquire n k i).after.queries.get? (n, k) = some r ∧
      q.Course (w.inquire n k i).result.aborts (w.inquire n k i).trace r := by
  rw [inquire, hq]
  cases i with
  | locate => exact course_callQuery (fun _ => rfl) (Query.course_locate (w.agent n) h w.archive)
  | recallFile =>
      exact course_callQuery (fun _ => rfl) (Query.course_recallFile (w.agent n) h w.archive)
  | run => exact course_callQuery (fun _ => rfl) (Query.course_run (w.agent n) h w.archive)
  | look => exact ⟨q, hq, .rest h⟩

/-- What a step makes of a query that it does not start anew. -/
theorem course_step (hq : w.queries.get? key = some q) (h : q.Sound) {s : Step}
    (same : s.starts key = false) :
    ∃ r, (w.step s).after.queries.get? key = some r ∧
      let reports := if s.concerns key then [w.step s] else []
      q.Course (reports.flatMap fun r => r.result.aborts) (reports.flatMap Report.trace) r := by
  by_cases hc : s.concerns key = true
  · obtain ⟨i, rfl⟩ := Step.eq_of_concerns hc same
    obtain ⟨n, k⟩ := key
    obtain ⟨r, hr, hcourse⟩ := course_inquire (w := w.engage n) hq h i
    refine ⟨r, hr, ?_⟩
    have hstep : w.step ⟨n, .inquire k i⟩ = (w.engage n).inquire n k i := rfl
    rw [if_pos hc, hstep]
    simpa using hcourse
  · refine ⟨q, ?_, ?_⟩
    · rw [(w.framed_step s).queries key (by simpa using hc)]
      exact hq
    · rw [if_neg hc]
      exact .rest h

/-! ## A whole history -/

/-- From one step to a whole history. -/
theorem course_afterAll (hq : w.queries.get? key = some q) (h : q.Sound) (steps : List Step)
    (same : ∀ s ∈ steps, s.starts key = false) :
    ∃ r, (w.afterAll steps).queries.get? key = some r ∧
      q.Course ((w.reportsOn key steps).flatMap fun r => r.result.aborts)
        ((w.reportsOn key steps).flatMap Report.trace) r := by
  induction steps using List.reverseRecOn with
  | nil => exact ⟨q, hq, .rest h⟩
  | append_singleton past s ih =>
      obtain ⟨r, hr, hpast⟩ := ih fun t ht => same t (List.mem_append_left _ ht)
      have hs := same s (List.mem_append_right _ (List.mem_singleton.2 rfl))
      -- the query before the last step is sound, because its course up to there says so
      obtain ⟨u, hu, hstep⟩ := course_step hr hpast.sound hs
      refine ⟨u, ?_, ?_⟩
      · rw [afterAll_concat]
        exact hu
      · rw [reportsOn_concat, List.flatMap_append, List.flatMap_append]
        exact hpast.trans hstep

/-- A query that starts without anything behind it stands between two phases just when one of its
steps was cut short, in the phase that belongs to the abort. -/
theorem phase_eq_iff_of_course {q r : Query} {reports : List Report}
    (h : q.Course (reports.flatMap fun r => r.result.aborts) (reports.flatMap Report.trace) r)
    (hq : q.phase.isUnderWay = false) {p : Phase} (hp : p.isUnderWay = true) :
    r.phase = p ↔ ∃ report ∈ reports, ∃ why : Abort,
      why.phase = p ∧ report.result = .aborted why := by
  constructor
  · rintro rfl
    -- the query did not begin there, so an abort brought it there
    rcases h.underWay hp with hunder | hne
    · rw [hq] at hunder
      cases hunder
    · obtain ⟨why, hwhy⟩ := List.exists_mem_of_ne_nil _ hne
      obtain ⟨report, hmem, habort⟩ := List.mem_flatMap.1 hwhy
      exact ⟨report, hmem, why, (h.aborted why hwhy).symm, Result.mem_aborts.1 habort⟩
  · rintro ⟨report, hmem, why, rfl, habort⟩
    exact h.aborted why (List.mem_flatMap.2 ⟨report, hmem, Result.mem_aborts.2 habort⟩)

/-- **The lifecycle of a query.** Take any world, start a query in it, and let anybody do anything
but start another one in its place. The phase changes that the query reports are a path without
gaps from the first phase to the one where it stands; it knows a location in four of the phases
and in no others, and never changes it; it stands between two phases just when its scan or its
recall was cut short, and then it stays as it is; and of each kind of call, volumes apart, it
makes one at most, with none that the archive does not record. In a log the phase changes are known
by their level and their words. -/
theorem query_lifecycle (w : World) (n k : Nat) (file : String) (steps : List Step)
    (same : ∀ s ∈ steps, s.starts (n, k) = false) :
    let start := (w.step ⟨n, .start k file⟩).after
    let reports := start.reportsOn (n, k) steps
    let whole : Trace := reports.flatMap Report.trace
    ∃ q, (start.afterAll steps).queries.get? (n, k) = some q ∧ q.file = file ∧
      Phase.Path file .unresolved whole.moves q.phase ∧
      (q.location.isSome = true ↔ q.phase ∈ [.resolved, .staging, .staged, .stageErrored]) ∧
      (q.phase = .scanning ↔ ∃ r ∈ reports, ∃ v, r.result = .aborted (.unreadable v)) ∧
      (q.phase = .staging ↔ ∃ r ∈ reports, r.result = .aborted .recallCutShort) ∧
      (∀ kind, kind ≠ .release → whole.kinds.count kind ≤ 1) ∧ whole.strays = [] ∧
      (∀ n : Notice, n ∈ whole.moves ↔
        n ∈ whole.notices ∧ n.level = .debug ∧ n.message = "query transition") ∧
      ∀ past, past <+: steps → ∃ p, (start.afterAll past).queries.get? (n, k) = some p ∧
        (∀ l, p.location = some l → q.location = some l) ∧
        (p.phase = .scanning ∨ p.phase = .staging → q = p) := by
  intro start reports whole
  have hstart : start.queries.get? (n, k) = some { file } := Table.get?_put_self _ _ _
  have hsound : Query.Sound { file } := rfl
  obtain ⟨q, hq, hcourse⟩ := course_afterAll hstart hsound steps same
  refine ⟨q, hq, hcourse.file, hcourse.path, ?_, ?_, ?_, ?_, start.strays_reportsOn _ steps, ?_, ?_⟩
  · -- what is sound is said of the phase alone
    rw [hcourse.sound]
    cases q.phase <;> decide
  · rw [phase_eq_iff_of_course hcourse rfl rfl]
    refine exists_congr fun r => and_congr_right fun _ => ?_
    constructor
    · rintro ⟨why, hphase, hr⟩
      cases why with
      | unreadable v => exact ⟨v, hr⟩
      | recallCutShort => cases hphase
    · rintro ⟨v, hr⟩
      exact ⟨.unreadable v, rfl, hr⟩
  · rw [phase_eq_iff_of_course hcourse rfl rfl]
    refine exists_congr fun r => and_congr_right fun _ => ?_
    constructor
    · rintro ⟨why, hphase, hr⟩
      cases why with
      | unreadable v => cases hphase
      | recallCutShort => exact hr
    · intro hr
      exact ⟨.recallCutShort, rfl, hr⟩
  · -- a query starts with a budget of one call of each kind at most
    intro kind hkind
    have hcalls := hcourse.calls kind hkind
    have hbudget := Phase.budget_le_one .unresolved kind
    exact Nat.le_trans (Nat.le_of_add_right_le hcalls) hbudget
  · intro n
    rw [Trace.moves, List.mem_filter, Notice.isPhaseChange_iff]
  · -- the course from the start to that point, and the course from there on
    rintro past ⟨later, rfl⟩
    have hpast : ∀ s ∈ past, s.starts (n, k) = false :=
      fun s hs => same s (List.mem_append_left _ hs)
    have hlater : ∀ s ∈ later, s.starts (n, k) = false :=
      fun s hs => same s (List.mem_append_right _ hs)
    obtain ⟨p, hp, hfirst⟩ := course_afterAll hstart hsound past hpast
    obtain ⟨r, hr, hsecond⟩ := course_afterAll hp hfirst.sound later hlater
    rw [← afterAll_append, hq] at hr
    obtain rfl := Option.some.inj hr
    refine ⟨p, hp, hsecond.kept, ?_⟩
    rintro (hphase | hphase)
    · exact hsecond.stuck (by rw [hphase]; rfl)
    · exact hsecond.stuck (by rw [hphase]; rfl)

/-- A world with one file on tape and an agent with a session. -/
def oneFileOnTape : World :=
  (opening {} .empty).afterAll
    [⟨0, .enter "/t" (.file [.vacant .diskLevel, .onTape 7 "A" 12 1])⟩,
      ⟨0, .login "unix" "p" "/k"⟩]

/-- A query that is asked twice, with a direct call in between, until its recall is cut short. -/
def cutShortSteps : List Step :=
  [⟨0, .inquire 3 .locate⟩, ⟨1, .direct (.query "/t")⟩, ⟨0, .answers { recallFile := .abort }⟩,
    ⟨0, .inquire 3 .recallFile⟩, ⟨0, .inquire 3 .run⟩]

/-- The query stands where its recall was under way, and there is a report of the abort. -/
theorem cutShortSteps_lifecycle :
    (∀ s ∈ cutShortSteps, s.starts (0, 3) = false) ∧
      ∃ r ∈ (oneFileOnTape.step ⟨0, .start 3 "/t"⟩).after.reportsOn (0, 3) cutShortSteps,
        r.result = .aborted .recallCutShort := by
  have same : ∀ s ∈ cutShortSteps, s.starts (0, 3) = false := by decide
  have hphase : (((oneFileOnTape.step ⟨0, .start 3 "/t"⟩).after.afterAll
      cutShortSteps).queries.get? (0, 3)).map Query.phase = some .staging := by decide
  obtain ⟨q, hq, -, -, -, -, hstaging, -, -⟩ :=
    query_lifecycle oneFileOnTape 0 3 "/t" cutShortSteps same
  rw [hq] at hphase
  exact ⟨same, hstaging.1 (Option.some.inj hphase)⟩

end World

end TapeRecall
