import TapeRecall.Proofs.Lifecycle

/-!
# Steps out of order

A query looks at its phase before it does anything, and it changes its phase again when the archive
has answered. The main statement is about both: the first look refuses the steps that are out of
order, all of them and no others, and leaves nothing of them behind; and the later changes are never
refused, so that an answer of the archive is not lost behind one.

A recall looks at its phase by hand and asks for a location besides, while a scan goes by the table
of phases. That both come to the same needs an invariant of worlds (`World.QueriesSound`): a query
that came about by steps knows a location in the phases that say so, and in no others.
-/

set_option autoImplicit false

namespace TapeRecall

namespace Query

/-! ## The operations of a query -/

/-- The step is in order from the phase `needs` alone, and goes on to the phase `wants`. From any
other phase it is refused on the spot, and from that one it is never refused for its order. -/
structure Guarded {α : Type} (step : Step α) (needs wants : Phase) (q : Query) (s : Archive) :
    Prop where
  refused : q.phase ≠ needs →
    step.run (q, s) = ⟨.ok (.error (.outOfOrder q.phase wants)), (q, s), []⟩
  admitted : q.phase = needs → ∀ before after,
    (step.run (q, s)).ending ≠ .ok (.error (.outOfOrder before after))

theorem scanResult_ne_outOfOrder (e : Except Abort (Except ScanFault Location))
    (before after : Phase) : scanResult e ≠ .ok (.error (.outOfOrder before after)) := by
  rcases e with why | fault | l <;> exact nofun

theorem recallResult_ne_outOfOrder (e : Except Abort (Except RecallFault Unit))
    (before after : Phase) : recallResult e ≠ .ok (.error (.outOfOrder before after)) := by
  rcases e with why | fault | _ <;> exact nofun

theorem guarded_locate (a : Agent) (q : Query) (s : Archive) :
    Guarded (locate a) .unresolved .scanning q s where
  refused h := locate_run_of_ne h a s
  admitted := by
    intro h before after
    rw [locate_run_of_unresolved h]
    exact scanResult_ne_outOfOrder _ before after

/-- The recall's own look at the phase is the table's, as long as a located query has a location. -/
theorem guarded_recallFile (a : Agent) {q : Query} (sound : q.Sound) (s : Archive) :
    Guarded (recallFile a) .resolved .staging q s where
  refused h := recallFile_run_of_ne h a s
  admitted := by
    intro h before after
    have hsome : q.location.isSome = true := by rw [sound, h]; rfl
    obtain ⟨l, hl⟩ := Option.isSome_iff_exists.1 hsome
    rw [recallFile_run_of_resolved h hl]
    exact recallResult_ne_outOfOrder _ before after

/-- A scan that found the file leaves the query located. -/
theorem phase_of_located {a : Agent} {q : Query} {s : Archive} {l : Location}
    (h : q.phase = .unresolved) (hl : ((locate a).run (q, s)).ending = .ok (.ok l)) :
    ((locate a).run (q, s)).state.1.phase = .resolved := by
  rw [locate_run_of_unresolved h] at hl ⊢
  rw [eq_of_scanResult hl]
  rfl

/-- The recall of a run comes right after its scan, and therefore in order. -/
theorem guarded_run (a : Agent) {q : Query} (sound : q.Sound) (s : Archive) :
    Guarded (run a) .unresolved .scanning q s where
  refused := by
    intro h
    have hlocate := (guarded_locate a q s).refused h
    rw [run_run_of_rest, hlocate]
    -- a refused scan found nothing
    intro l hl
    rw [hlocate] at hl
    cases hl
  admitted := by
    intro h before after
    rcases needsRecall_or_rest ((locate a).run (q, s)).ending with ⟨l, hl, hn⟩ | hrest
    · have hsound := (course_locate a sound s).sound
      have hrecall := (guarded_recallFile a hsound ((locate a).run (q, s)).state.2).admitted
        (phase_of_located h hl) before after
      rw [run_run_of_needsRecall hl hn]
      intro hending
      rcases ho : ((recallFile a).run ((locate a).run (q, s)).state).ending with why | fault | _
      · rw [ho] at hending
        cases hending
      · rw [ho] at hending
        cases hending
        exact hrecall ho
      · rw [ho] at hending
        cases hending
    · rw [run_run_of_rest hrest]
      exact (guarded_locate a q s).admitted h before after

end Query

namespace World

/-! ## Reports of steps of a query -/

/-- The report is that of a step which is in order from the phase `needs` alone, taken by the query
`q` in the world `w`. -/
structure Ordered (w : World) (key : Nat × Nat) (q : Query) (needs wants : Phase) (r : Report) :
    Prop where
  /-- The step is refused for its order in just the other phases, and the refusal names the phase
  of the query and the one that the step wanted. -/
  refused : ∀ before after, r.result = .failed (.ofQuery (.outOfOrder before after)) ↔
    q.phase ≠ needs ∧ before = q.phase ∧ after = wants
  /-- A step that is refused makes no call, reports nothing and changes nothing. -/
  untouched : q.phase ≠ needs → r.trace = [] ∧ r.after.archive = w.archive ∧
    r.after.queries.get? key = some q
  /-- A step in order leaves the phases in between again, whatever it was answered, unless it was
  never answered. -/
  settled : q.phase = needs → ∀ u, r.after.queries.get? key = some u →
    u.phase.isUnderWay = true → ∃ why, r.result = .aborted why

theorem ordered_callQuery {α : Type} {w : World} {key : Nat × Nat} {q : Query}
    {step : Query.Step α} {needs wants : Phase} {result : α → Result}
    (hresult : ∀ x failure, result x ≠ .failed failure)
    (guarded : Query.Guarded step needs wants q w.archive)
    (course : q.Course (cutShort (step.run (q, w.archive)).ending)
      (step.run (q, w.archive)).trace (step.run (q, w.archive)).state.1)
    (rests : needs.isUnderWay = false) :
    w.Ordered key q needs wants (w.callQuery key q step result) where
  refused := by
    intro before after
    rw [callQuery_result]
    by_cases hp : q.phase = needs
    · have hadmitted := guarded.admitted hp before after
      constructor
      · intro hfailed
        rcases ho : (step.run (q, w.archive)).ending with why | fault | x
        · rw [ho] at hfailed
          cases hfailed
        · rw [ho] at hfailed hadmitted
          cases hfailed
          exact absurd rfl hadmitted
        · rw [ho] at hfailed
          exact absurd hfailed (hresult x _)
      · rintro ⟨hne, -, -⟩
        exact absurd hp hne
    · rw [guarded.refused hp]
      simp [hp, eq_comm]
  untouched := by
    intro hp
    rw [callQuery_trace, callQuery_after, guarded.refused hp]
    exact ⟨rfl, rfl, Table.get?_put_self _ _ _⟩
  settled := by
    intro hp u hu hunder
    rw [callQuery_after, Table.get?_put_self] at hu
    obtain rfl := Option.some.inj hu
    rw [callQuery_result]
    rcases course.underWay hunder with hbefore | haborted
    · rw [hp, rests] at hbefore
      cases hbefore
    · rcases ho : (step.run (q, w.archive)).ending with why | x
      · exact ⟨why, rfl⟩
      · rw [ho] at haborted
        exact absurd rfl haborted

/-! ## The queries of a world -/

/-- Every query of the world knows a location in the phases that say so, and in no others. -/
def QueriesSound (w : World) : Prop :=
  ∀ key q, w.queries.get? key = some q → q.Sound

theorem QueriesSound.step {w : World} (h : w.QueriesSound) (s : Step) :
    (w.step s).after.QueriesSound := by
  intro key q hq
  by_cases hstarts : s.starts key = true
  · -- the step starts the query, which stands at its beginning
    obtain ⟨file, rfl⟩ := Step.eq_of_starts hstarts
    have hfresh : (w.step ⟨key.1, .start key.2 file⟩).after.queries.get? key = some { file } :=
      Table.get?_put_self _ _ _
    rw [hfresh] at hq
    obtain rfl := Option.some.inj hq
    rfl
  · have hsame : s.starts key = false := by simpa using hstarts
    rcases hp : w.queries.get? key with _ | p
    · -- nothing is asked of a query that is not there
      have hnone : (w.step s).after.queries.get? key = none := by
        by_cases hc : s.concerns key = true
        · obtain ⟨i, rfl⟩ := Step.eq_of_concerns hc hsame
          have hengaged : (w.engage key.1).queries.get? (key.1, key.2) = none := hp
          change ((w.engage key.1).inquire key.1 key.2 i).after.queries.get? key = none
          rw [inquire, hengaged]
          exact hp
        · rw [(w.framed_step s).queries key (by simpa using hc), hp]
      rw [hnone] at hq
      cases hq
    · obtain ⟨r, hr, hcourse⟩ := course_step hp (h key p hp) hsame
      rw [hr] at hq
      obtain rfl := Option.some.inj hq
      exact hcourse.sound

theorem QueriesSound.afterAll {w : World} (h : w.QueriesSound) (steps : List Step) :
    (w.afterAll steps).QueriesSound := by
  induction steps generalizing w with
  | nil => exact h
  | cons s rest ih => exact ih (h.step s)

theorem queriesSound_opening (answers : Answers) (catalogue : Catalogue) :
    (opening answers catalogue).QueriesSound := by
  intro key q hq
  cases hq

/-! ## The main statement -/

/-- **Steps out of order are refused, and no others.** Take any query in a world that came about by
steps, whatever they were and wherever they left the query. To locate it or to run it is refused
for its order just where the query is not in its first phase, and to recall it just where it is not
located; the refusal names the phase of the query and the phase that was wanted, and nothing else
is to be seen of it, in the archive, in the query or in any log. A step in order is never refused
so, neither at its beginning nor after the archive has answered, and it leaves the query between
two phases only where it was cut short. -/
theorem refused_iff_out_of_order (answers : Answers) (catalogue : Catalogue) (steps : List Step)
    {n k : Nat} {q : Query}
    (there : ((opening answers catalogue).afterAll steps).queries.get? (n, k) = some q) :
    let w := (opening answers catalogue).afterAll steps
    w.Ordered (n, k) q .unresolved .scanning (w.step ⟨n, .inquire k .locate⟩) ∧
    w.Ordered (n, k) q .unresolved .scanning (w.step ⟨n, .inquire k .run⟩) ∧
    w.Ordered (n, k) q .resolved .staging (w.step ⟨n, .inquire k .recallFile⟩) := by
  intro w
  have hsound : q.Sound := (queriesSound_opening answers catalogue).afterAll steps (n, k) q there
  -- the agent of the step is there from now on, and nothing in the order depends on it
  have hengage : ∀ {needs wants : Phase} {r : Report},
      (w.engage n).Ordered (n, k) q needs wants r → w.Ordered (n, k) q needs wants r :=
    fun h => ⟨h.refused, h.untouched, h.settled⟩
  refine ⟨hengage ?_, hengage ?_, hengage ?_⟩
  · rw [step_inquire_locate there]
    exact ordered_callQuery (fun _ _ => nofun) (Query.guarded_locate _ q _)
      (Query.course_locate _ hsound _) rfl
  · rw [step_inquire_run there]
    exact ordered_callQuery (fun _ _ => nofun) (Query.guarded_run _ hsound _)
      (Query.course_run _ hsound _) rfl
  · rw [step_inquire_recallFile there]
    exact ordered_callQuery (fun _ _ => nofun) (Query.guarded_recallFile _ hsound _)
      (Query.course_recallFile _ hsound _) rfl

/-- A query of a file on tape that was located, and then its recall was cut short. -/
def leftStaging : List Step :=
  [⟨0, .enter "/t" (.file [.vacant .diskLevel, .onTape 7 "A" 12 1])⟩, ⟨0, .login "unix" "p" "/k"⟩,
    ⟨0, .start 3 "/t"⟩, ⟨0, .inquire 3 .locate⟩, ⟨0, .answers { recallFile := .abort }⟩,
    ⟨0, .inquire 3 .recallFile⟩]

/-- It is not recalled a second time, and the archive is not even asked. -/
theorem leftStaging_refused :
    let w := (opening {} .empty).afterAll leftStaging
    let q : Query := ⟨"/t", .staging, some ⟨1, "A", 12, 1⟩⟩
    let r := w.step ⟨0, .inquire 3 .recallFile⟩
    w.queries.get? (0, 3) = some q ∧ r.result = .failed (.ofQuery (.outOfOrder .staging .staging)) ∧
      r.trace = [] ∧ r.after.queries.get? (0, 3) = some q := by
  intro w q r
  have there : w.queries.get? (0, 3) = some q := by decide
  have hne : q.phase ≠ .resolved := by decide
  obtain ⟨-, -, hrecall⟩ := refused_iff_out_of_order {} .empty leftStaging there
  have hrefused := (hrecall.refused .staging .staging).2 ⟨hne, rfl, rfl⟩
  obtain ⟨htrace, -, hleft⟩ := hrecall.untouched hne
  exact ⟨there, hrefused, htrace, hleft⟩

end World

end TapeRecall
