import TapeRecall.Proofs.FileWork

/-!
# The course of a query

What a query goes through is seen from outside in three ways: the phase changes that it reports,
the calls that are made for it, and the aborts that cut its steps short. `Query.Course` puts the
three beside the query before and after, and says what they have to do with each other.

Courses compose, so it is enough to look at one operation at a time. The budget of a phase
(`Phase.budget`) carries the count of calls: each operation spends what its first phase has and
its last phase has not. A query that stands between two phases has nothing left and stays as it
is, and this is why an abort between them is for good.
-/

set_option autoImplicit false

namespace TapeRecall

/-! ## Kinds of calls -/

/-- What a call is for, whatever its values. -/
inductive Call.Kind where
  | login
  | purge
  | query
  | release
  | openFile
  | recallFile
  | closeFile
deriving DecidableEq

/-- The kind of a call. -/
def Call.kind : Call → Call.Kind
  | .login .. => .login
  | .purge => .purge
  | .query _ => .query
  | .release _ => .release
  | .openFile .. => .openFile
  | .recallFile .. => .recallFile
  | .closeFile _ => .closeFile

namespace Trace

/-- The kinds of the recorded calls. -/
def kinds (t : Trace) : List Call.Kind := t.replies.map fun e => e.1.kind

@[simp] theorem kinds_append (t u : Trace) : kinds (t ++ u) = kinds t ++ kinds u := by
  rw [kinds, replies_append, List.map_append]
  rfl

@[simp] theorem kinds_notice (n : Notice) (t : Trace) : kinds (.notice n :: t) = kinds t := rfl

end Trace

/-! ## Phase changes -/

/-- The notice says that a query went from one phase to the next. -/
def Notice.isPhaseChange : Notice → Bool
  | .phaseChanged .. => true
  | _ => false

/-- In a log these notices are known by their level and their words. -/
theorem Notice.isPhaseChange_iff (n : Notice) :
    n.isPhaseChange = true ↔ n.level = .debug ∧ n.message = "query transition" := by
  cases n <;> simp [isPhaseChange, level, message]

namespace Trace

/-- The phase changes that were reported. -/
def moves (t : Trace) : List Notice := t.notices.filter Notice.isPhaseChange

@[simp] theorem moves_append (t u : Trace) : moves (t ++ u) = moves t ++ moves u := by
  rw [moves, notices_append, List.filter_append]
  rfl

@[simp] theorem moves_phaseChanged (file : String) (p q : Phase) (t : Trace) :
    moves (.notice (.phaseChanged file p q) :: t) = .phaseChanged file p q :: moves t := rfl

end Trace

namespace Phase

/-- The notices lead from one phase to another, each from where the one before it ended and each
to a phase that may follow. -/
inductive Path (file : String) : Phase → List Notice → Phase → Prop
  | still (p : Phase) : Path file p [] p
  | move {p q r : Phase} {ns : List Notice} (edge : p.leadsTo q = true) (rest : Path file q ns r) :
      Path file p (.phaseChanged file p q :: ns) r

theorem Path.trans {file : String} {p q r : Phase} {ns ms : List Notice} (h : Path file p ns q)
    (k : Path file q ms r) : Path file p (ns ++ ms) r := by
  induction h with
  | still => exact k
  | move edge _ ih => exact .move edge (ih k)

/-- The phases of a query that knows where its file is. -/
def hasLocation : Phase → Bool
  | .resolved | .staging | .staged | .stageErrored => true
  | _ => false

/-- The phases of a query whose operation is under way. -/
def isUnderWay : Phase → Bool
  | .scanning | .staging => true
  | _ => false

/-- How many calls of a kind may still be made for a query. Volumes are apart, because there may
be any number of them. -/
def budget : Phase → Call.Kind → Nat
  | .unresolved, .query => 1
  | .unresolved, .openFile | .scanning, .openFile | .resolved, .openFile => 1
  | .unresolved, .recallFile | .scanning, .recallFile | .resolved, .recallFile => 1
  | .unresolved, .closeFile | .scanning, .closeFile | .resolved, .closeFile => 1
  | _, _ => 0

theorem budget_le_one (p : Phase) (k : Call.Kind) : p.budget k ≤ 1 := by
  cases p <;> cases k <;> decide

theorem budget_le_of_leadsTo {p q : Phase} (h : p.leadsTo q = true) (k : Call.Kind) :
    q.budget k ≤ p.budget k := by
  cases p <;> cases q <;> first | (cases k <;> decide) | exact absurd h (by decide)

/-- Of two phases in a row one is under way at most. -/
theorem isUnderWay_of_leadsTo {p q : Phase} (h : p.leadsTo q = true)
    (hp : p.isUnderWay = true) : q.isUnderWay = false := by
  cases p <;> cases q <;> first | rfl | exact absurd hp (by decide) | exact absurd h (by decide)

end Phase

/-! ## What the operations of an agent leave -/

/-- The phase in which a query is kept by an abort. -/
def Abort.phase : Abort → Phase
  | .unreadable _ => .scanning
  | .recallCutShort => .staging

theorem Abort.isUnderWay_phase (why : Abort) : why.phase.isUnderWay = true := by
  cases why <;> rfl

namespace Scan

theorem moves_reduction (x : Attributes) : (reduction x).moves = [] := by
  rw [Trace.moves, notices_reduction]
  unfold findings
  split
  · split <;> rfl
  · split <;> rfl

theorem moves_closing (file : String) (e : Except Abort (Except ScanFault Location)) :
    Trace.moves ((closing file e).map .notice) = [] := by
  rcases e with why | fault | l <;> rfl

theorem kinds_locate_of_ok {a : Archive} {file : String} {x : Attributes}
    (h : a.known file = .ok x) :
    (locate file a).trace.kinds = .query :: List.replicate x.volumes.length .release := by
  have hreleases : (x.volumes.map fun v => ((.release v.id, .accepted) : Exchange)).map
      (fun e => e.1.kind) = List.replicate x.volumes.length .release := by
    rw [List.map_map, List.eq_replicate_iff]
    refine ⟨List.length_map _, ?_⟩
    intro k hk
    obtain ⟨v, -, rfl⟩ := List.mem_map.1 hk
    rfl
  rw [Trace.kinds, replies_locate_of_ok h, List.map_cons, hreleases]
  rfl

end Scan

namespace Recall

theorem moves_perform (r : Request) (a : Archive) : (perform r a).trace.moves = [] := by
  rcases ho : a.answers.openFile with _ | status
  · have hclosing : Trace.moves ((closing r.file a.fresh a.answers).map .notice) = [] := by
      rw [closing]
      split <;> rfl
    rw [perform_apply_of_none ho, Trace.moves_append, hclosing]
    rfl
  · rw [perform_apply_of_some ho]
    rfl

theorem kinds_perform_of_none {a : Archive} (h : a.answers.openFile = none) (r : Request) :
    (perform r a).trace.kinds = [.openFile, .recallFile, .closeFile] := by
  rw [Trace.kinds, replies_perform_of_none h]
  rfl

/-- A recall aborts when it is cut short and for nothing else. -/
theorem eq_of_verdict_eq_error {answers : Answers} {why : Abort}
    (h : verdict answers = .error why) : why = .recallCutShort := by
  rw [verdict] at h
  split at h <;> cases h <;> rfl

end Recall

/-- An operation of an agent, as the query sees it that has it under way: it reports no phase
change of its own, it stays within the budget, and an abort of it is one that belongs to the phase
in which it is under way. -/
structure Undertaking {α : Type} (before during : Phase) (o : Outcome Archive α) : Prop where
  moves : o.trace.moves = []
  calls : ∀ k, k ≠ .release → o.trace.kinds.count k + during.budget k ≤ before.budget k
  aborted : ∀ why, o.ending = .error why → why.phase = during

/-- An agent without a session does nothing, which is within the budget of any phase that is
next. -/
theorem Undertaking.nothing {α : Type} {before during : Phase}
    (next : before.leadsTo during = true) (a : α) (s : Archive) :
    Undertaking before during ⟨.ok a, s, []⟩ where
  moves := rfl
  calls := by
    intro k _
    have hnone : (Trace.kinds []).count k = 0 := rfl
    rw [hnone, Nat.zero_add]
    exact Phase.budget_le_of_leadsTo next k
  aborted := nofun

namespace Agent

theorem undertaking_locate (a : Agent) (file : String) (s : Archive) :
    Undertaking .unresolved .scanning (a.locate file s) := by
  by_cases ha : a.isActive = true
  · rw [locate_of_active ha]
    rcases hk : s.known file with status | x
    · have hkinds : (Scan.locate file s).trace.kinds = [.query] := by
        rw [Scan.locate_apply_of_error hk]
        rfl
      refine ⟨?_, ?_, ?_⟩
      · rw [Scan.locate_apply_of_error hk]
        rfl
      · intro k hne
        rw [hkinds]
        cases k <;> decide
      · intro why h
        rw [Scan.locate_apply_of_error hk] at h
        cases h
    · refine ⟨?_, ?_, ?_⟩
      · have hmoves : Trace.moves (Scan.reduction x ++
            (Scan.closing file (Scan.verdict x)).map .notice) = [] := by
          rw [Trace.moves_append, Scan.moves_reduction, Scan.moves_closing]
          rfl
        rw [Scan.locate_apply_of_ok hk]
        exact hmoves
      · -- any number of volumes goes back, and releases are not counted
        intro k hne
        have hnone : (List.replicate x.volumes.length Call.Kind.release).count k = 0 := by
          rw [List.count_replicate, if_neg]
          simpa using fun h => hne h.symm
        rw [Scan.kinds_locate_of_ok hk, List.count_cons, hnone]
        cases k <;> decide
      · intro why h
        rw [Scan.locate_apply_of_ok hk] at h
        obtain ⟨v, rfl⟩ := Scan.exists_of_verdict_eq_error h
        rfl
  · rw [locate_apply_of_inactive (by simpa using ha)]
    exact .nothing rfl _ s

theorem undertaking_recallFile (a : Agent) (r : Request) (s : Archive) :
    Undertaking .resolved .staging (a.recallFile r s) := by
  by_cases ha : a.isActive = true
  · rw [recallFile_of_active ha]
    refine ⟨Recall.moves_perform r s, ?_, ?_⟩
    · -- one call of each kind, or the refused opening alone
      intro k hne
      rcases ho : s.answers.openFile with _ | status
      · rw [Recall.kinds_perform_of_none ho]
        cases k <;> decide
      · have hkinds : (Recall.perform r s).trace.kinds = [.openFile] := by
          rw [Recall.perform_apply_of_some ho]
          rfl
        rw [hkinds]
        cases k <;> decide
    · intro why h
      rcases ho : s.answers.openFile with _ | status
      · rw [Recall.perform_apply_of_none ho] at h
        rw [Recall.eq_of_verdict_eq_error h]
        rfl
      · rw [Recall.perform_apply_of_some ho] at h
        cases h
  · rw [recallFile_apply_of_inactive (by simpa using ha)]
    exact .nothing rfl _ s

end Agent

/-! ## What a query goes through -/

/-- The abort with which something ended, if it did. -/
def cutShort {α : Type} : Except Abort α → List Abort
  | .error why => [why]
  | .ok _ => []

namespace Query

/-- The query knows where its file is in the phases that say so, and in no others. -/
def Sound (q : Query) : Prop := q.location.isSome = q.phase.hasLocation

/-- What a query may go through: the query before, the aborts, the trace, and the query after. -/
structure Course (q : Query) (aborts : List Abort) (t : Trace) (r : Query) : Prop where
  file : r.file = q.file
  path : Phase.Path q.file q.phase t.moves r.phase
  sound : r.Sound
  /-- A location that is known stays as it is. -/
  kept : ∀ l, q.location = some l → r.location = some l
  /-- The calls are paid from the budget of the phases. -/
  calls : ∀ k, k ≠ .release → t.kinds.count k + r.phase.budget k ≤ q.phase.budget k
  /-- An abort is for good. -/
  aborted : ∀ why ∈ aborts, r.phase = why.phase
  /-- Nothing but an abort leaves an operation under way. -/
  underWay : r.phase.isUnderWay = true → q.phase.isUnderWay = true ∨ aborts ≠ []
  /-- A query whose operation is under way goes through nothing any more. -/
  stuck : q.phase.isUnderWay = true → r = q

namespace Course

variable {q r u : Query} {a b : List Abort} {t v : Trace}

/-- A query may stay as it is. -/
theorem rest (h : q.Sound) : Course q [] [] q where
  file := rfl
  path := .still _
  sound := h
  kept := fun _ hl => hl
  calls := by
    intro k _
    exact Nat.le_of_eq (Nat.zero_add _)
  aborted := by
    intro why h
    cases h
  underWay := Or.inl
  stuck := fun _ => rfl

theorem trans (h : Course q a t r) (k : Course r b v u) : Course q (a ++ b) (t ++ v) u where
  file := k.file.trans h.file
  path := by
    have hpath := k.path
    rw [h.file] at hpath
    rw [Trace.moves_append]
    exact h.path.trans hpath
  sound := k.sound
  kept := fun l hl => k.kept l (h.kept l hl)
  calls := by
    intro kind hne
    have hfirst := h.calls kind hne
    have hsecond := k.calls kind hne
    rw [Trace.kinds_append, List.count_append]
    omega
  aborted := by
    intro why hwhy
    rcases List.mem_append.1 hwhy with hwhy | hwhy
    · -- the first part was cut short, so the second part leaves the query where it stands
      have hphase := h.aborted why hwhy
      have hstuck : u = r := k.stuck (by rw [hphase]; exact why.isUnderWay_phase)
      rw [hstuck, hphase]
    · exact k.aborted why hwhy
  underWay := by
    intro hu
    rcases k.underWay hu with hr | hb
    · rcases h.underWay hr with hq | ha
      · exact Or.inl hq
      · exact Or.inr (List.append_ne_nil_of_left_ne_nil ha b)
    · exact Or.inr (List.append_ne_nil_of_right_ne_nil a hb)
  stuck := by
    intro hq
    have hr := h.stuck hq
    rw [k.stuck (by rw [hr]; exact hq), hr]

end Course

@[simp] theorem kinds_lastMove (file : String) (during after : Phase) :
    (lastMove file during after).kinds = [] := by
  rw [Trace.kinds, replies_lastMove]
  rfl

/-- The course of a query by one operation, from how the query comes out of it: by an abort it
stays where the operation was under way, and otherwise it goes on from there. -/
theorem Course.of_undertaking {α : Type} {before during : Phase} {o : Outcome Archive α}
    (h : Undertaking before during o) {q r : Query} (hq : q.phase = before)
    (edge : before.leadsTo during = true) (hduring : during.isUnderWay = true)
    (file : r.file = q.file) (sound : r.Sound)
    (kept : ∀ l, q.location = some l → r.location = some l)
    (cut : ∀ why, o.ending = .error why → r.phase = during)
    (done : ∀ x, o.ending = .ok x → during.leadsTo r.phase = true) :
    Course q (cutShort o.ending)
      (.notice (.phaseChanged q.file before during) :: o.trace ++
        lastMove q.file during r.phase) r := by
  -- an abort leaves the query in between; otherwise one more edge leads on, and neither costs
  have hlast : Phase.Path q.file during (lastMove q.file during r.phase).moves r.phase ∧
      ∀ k, r.phase.budget k ≤ during.budget k := by
    rw [lastMove]
    rcases ho : o.ending with why | x
    · rw [if_pos (cut why ho).symm, cut why ho]
      exact ⟨.still during, fun k => Nat.le_refl _⟩
    · have hedge := done x ho
      have hne : during ≠ r.phase := by
        intro heq
        have hover := Phase.isUnderWay_of_leadsTo hedge hduring
        rw [← heq, hduring] at hover
        cases hover
      rw [if_neg hne]
      exact ⟨.move hedge (.still r.phase), Phase.budget_le_of_leadsTo hedge⟩
  refine ⟨file, ?_, sound, kept, ?_, ?_, ?_, ?_⟩
  · rw [hq, List.cons_append, Trace.moves_phaseChanged, Trace.moves_append, h.moves,
      List.nil_append]
    exact .move edge hlast.1
  · intro k hne
    have hcalls := h.calls k hne
    have hleft := hlast.2 k
    rw [List.cons_append, Trace.kinds_notice, Trace.kinds_append, kinds_lastMove,
      List.append_nil, hq]
    omega
  · intro why hwhy
    rcases ho : o.ending with reason | x
    · rw [ho, cutShort, List.mem_singleton] at hwhy
      rw [hwhy, h.aborted reason ho]
      exact cut reason ho
    · rw [ho] at hwhy
      cases hwhy
  · intro hunder
    rcases ho : o.ending with why | x
    · exact Or.inr (List.cons_ne_nil _ _)
    · rw [Phase.isUnderWay_of_leadsTo (done x ho) hduring] at hunder
      cases hunder
  · intro hunder
    rw [hq] at hunder
    rw [Phase.isUnderWay_of_leadsTo edge hunder] at hduring
    cases hduring

/-! ## The operations of a query -/

theorem course_locate (a : Agent) {q : Query} (h : q.Sound) (s : Archive) :
    Course q (cutShort ((locate a).run (q, s)).ending) ((locate a).run (q, s)).trace
      ((locate a).run (q, s)).state.1 := by
  by_cases hp : q.phase = .unresolved
  · -- a sound query has no location yet, so that there is none to keep
    have hnone : q.location.isSome = false := by rw [h, hp]; rfl
    have hkept : ∀ l r, q.location = some l → r = some l := by
      intro l r hl
      rw [hl] at hnone
      cases hnone
    have hcourse := Course.of_undertaking (a.undertaking_locate q.file s) hp rfl rfl
      (r := q.scanned (a.locate q.file s).ending)
    rw [locate_run_of_unresolved hp]
    rcases ho : (a.locate q.file s).ending with why | fault | l
    · rw [ho] at hcourse
      exact hcourse rfl hnone (hkept · _) (fun _ _ => rfl) (fun _ hx => by cases hx)
    · rw [ho] at hcourse
      exact hcourse rfl hnone (hkept · _) (fun _ hx => by cases hx) (fun _ _ => rfl)
    · rw [ho] at hcourse
      exact hcourse rfl rfl (hkept · _) (fun _ hx => by cases hx) (fun _ _ => rfl)
  · rw [locate_run_of_ne hp]
    exact .rest h

theorem course_recallFile (a : Agent) {q : Query} (h : q.Sound) (s : Archive) :
    Course q (cutShort ((recallFile a).run (q, s)).ending) ((recallFile a).run (q, s)).trace
      ((recallFile a).run (q, s)).state.1 := by
  by_cases hp : q.phase = .resolved
  · rcases hl : q.location with _ | l
    · rw [recallFile_run_of_none hl]
      exact .rest h
    · have hcourse := Course.of_undertaking
        (a.undertaking_recallFile (.ofLocation q.file l) s) hp rfl rfl
        (r := q.recalled (a.recallFile (.ofLocation q.file l) s).ending)
      rw [recallFile_run_of_resolved hp hl]
      have hsome : q.location.isSome = true := by rw [hl]; rfl
      rcases ho : (a.recallFile (.ofLocation q.file l) s).ending with why | fault | _
      · rw [ho] at hcourse
        exact hcourse rfl hsome (fun _ hm => hm) (fun _ _ => rfl) (fun _ hx => by cases hx)
      · rw [ho] at hcourse
        exact hcourse rfl hsome (fun _ hm => hm) (fun _ hx => by cases hx) (fun _ _ => rfl)
      · rw [ho] at hcourse
        exact hcourse rfl hsome (fun _ hm => hm) (fun _ hx => by cases hx) (fun _ _ => rfl)
  · rw [recallFile_run_of_ne hp]
    exact .rest h

theorem course_run (a : Agent) {q : Query} (h : q.Sound) (s : Archive) :
    Course q (cutShort ((run a).run (q, s)).ending) ((run a).run (q, s)).trace
      ((run a).run (q, s)).state.1 := by
  have hlocate := course_locate a h s
  rw [run_run]
  rcases ho : (locate a).run (q, s) with ⟨ending, ⟨r, s'⟩, t⟩
  rw [ho] at hlocate
  rcases ending with why | fault | l
  · exact hlocate
  · exact hlocate
  · -- the recall starts from what the scan left
    by_cases hn : l.needsRecall = true
    · have hrecall := course_recallFile a hlocate.sound s'
      have hboth := hlocate.trans hrecall
      simp only [hn, if_true]
      rcases hr : ((recallFile a).run (r, s')).ending with why | fault | _
      · rw [hr] at hboth
        exact hboth
      · rw [hr] at hboth
        exact hboth
      · rw [hr] at hboth
        exact hboth
    · simp only [hn]
      exact hlocate

end Query

end TapeRecall
