import TapeRecall.Query
import TapeRecall.Proofs.Outcome.Agent

/-!
# What the steps of a query come to

A step of a query either is out of order, and then nothing at all happens, or it goes through two
phases with one operation of the agent between them. Of the two changes of phase the second never
fails, because the phase in between leads to either end; so the equations here name three ways in
which a step in order may go, by how the operation of the agent ends.
-/

set_option autoImplicit false

namespace TapeRecall

namespace Query

variable {α β : Type}

/-! ## Steps in sequence -/

theorem bind_run (x : Step α) (f : α → Step β) (s : Query × Archive) :
    (x >>= f).run s = match (x.run s).ending with
      | .ok (.ok a) => ⟨((f a).run (x.run s).state).ending, ((f a).run (x.run s).state).state,
          (x.run s).trace ++ ((f a).run (x.run s).state).trace⟩
      | .ok (.error fault) => ⟨.ok (.error fault), (x.run s).state, (x.run s).trace⟩
      | .error why => ⟨.error why, (x.run s).state, (x.run s).trace⟩ := by
  rw [ExceptT.run_bind, Proc.bind_apply]
  rcases (x.run s).ending with why | fault | a
  · rfl
  · simp
  · rfl

@[simp] theorem pure_run (a : α) (s : Query × Archive) :
    (pure a : Step α).run s = ⟨.ok (.ok a), s, []⟩ := rfl

@[simp] theorem throw_run (fault : QueryFault) (s : Query × Archive) :
    (throw fault : Step α).run s = ⟨.ok (.error fault), s, []⟩ := rfl

@[simp] theorem current_run (s : Query × Archive) :
    current.run s = ⟨.ok (.ok s.1), s, []⟩ := rfl

@[simp] theorem update_run (f : Query → Query) (s : Query × Archive) :
    (update f).run s = ⟨.ok (.ok ()), (f s.1, s.2), []⟩ := rfl

theorem ask_run (p : Proc Archive α) (s : Query × Archive) :
    (ask p).run s = ⟨(p s.2).ending.map .ok, (s.1, (p s.2).state), (p s.2).trace⟩ := by
  change (Except.ok <$> p.onSecond : Proc (Query × Archive) (Except QueryFault α)) s = _
  rw [Proc.map_apply, Proc.onSecond_apply]

theorem advance_run_of_leadsTo {q : Query} {next : Phase} (h : q.phase.leadsTo next = true)
    (s : Archive) :
    (advance next).run (q, s) = ⟨.ok (.ok ()), ({ q with phase := next }, s),
      [.notice (.phaseChanged q.file q.phase next)]⟩ := by
  rw [advance, bind_run, current_run]
  simp only [h, if_true]
  rfl

theorem advance_run_of_not_leadsTo {q : Query} {next : Phase}
    (h : q.phase.leadsTo next = false) (s : Archive) :
    (advance next).run (q, s) = ⟨.ok (.error (.outOfOrder q.phase next)), (q, s), []⟩ := by
  rw [advance, bind_run, current_run]
  simp [h]

/-! ## Locating -/

/-- Where the query stands after its scan, by how the scan ended. -/
def scanned (q : Query) : Except Abort (Except ScanFault Location) → Query
  | .ok (.ok l) => { q with phase := .resolved, location := some l }
  | .ok (.error _) => { q with phase := .errored }
  | .error _ => { q with phase := .scanning }

/-- The last change of phase in a step, if the operation in it came to an end. -/
def lastMove (file : String) (before after : Phase) : Trace :=
  if before = after then [] else [.notice (.phaseChanged file before after)]

/-- What the query says of how its scan ended. -/
def scanResult : Except Abort (Except ScanFault Location) → Except Abort (Except QueryFault Location)
  | .ok (.ok l) => .ok (.ok l)
  | .ok (.error fault) => .ok (.error (.ofScan fault))
  | .error why => .error why

theorem eq_of_scanResult {e : Except Abort (Except ScanFault Location)} {l : Location}
    (h : scanResult e = .ok (.ok l)) : e = .ok (.ok l) := by
  rcases e with why | fault | m
  · cases h
  · cases h
  · cases h
    rfl

theorem locate_run_of_unresolved {q : Query} (h : q.phase = .unresolved) (a : Agent)
    (s : Archive) :
    (locate a).run (q, s) = ⟨scanResult (a.locate q.file s).ending,
      (q.scanned (a.locate q.file s).ending, (a.locate q.file s).state),
      .notice (.phaseChanged q.file .unresolved .scanning) :: (a.locate q.file s).trace ++
        lastMove q.file .scanning (q.scanned (a.locate q.file s).ending).phase⟩ := by
  have hfirst := advance_run_of_leadsTo (show q.phase.leadsTo .scanning = true by rw [h]; rfl) s
  -- whatever the archive answers, the phase in between leads on
  have hlast : ∀ next, Phase.leadsTo .scanning next = true →
      (advance next).run (({ q with phase := .scanning } : Query), (a.locate q.file s).state) =
        ⟨.ok (.ok ()), ({ q with phase := next }, (a.locate q.file s).state),
          [.notice (.phaseChanged q.file .scanning next)]⟩ := by
    intro next hnext
    rw [advance_run_of_leadsTo hnext]
  rw [locate, bind_run, hfirst]
  dsimp only
  rw [bind_run, current_run]
  dsimp only
  rw [bind_run, ask_run]
  dsimp only
  rcases ho : (a.locate q.file s).ending with why | fault | l
  · simp [scanResult, scanned, lastMove, Except.map, h]
  · simp [bind_run, hlast .errored rfl, scanResult, scanned, lastMove, Except.map, h]
  · simp [bind_run, hlast .resolved rfl, scanResult, scanned, lastMove, Except.map, h,
      Proc.map_apply]

theorem locate_run_of_ne {q : Query} (h : q.phase ≠ .unresolved) (a : Agent) (s : Archive) :
    (locate a).run (q, s) = ⟨.ok (.error (.outOfOrder q.phase .scanning)), (q, s), []⟩ := by
  have hno : q.phase.leadsTo .scanning = false := by
    cases hp : q.phase <;> first | rfl | exact absurd hp h
  rw [locate, bind_run, advance_run_of_not_leadsTo hno]

/-! ## Recalling -/

/-- Where the query stands after its recall, by how the recall ended. -/
def recalled (q : Query) : Except Abort (Except RecallFault Unit) → Query
  | .ok (.ok ()) => { q with phase := .staged }
  | .ok (.error _) => { q with phase := .stageErrored }
  | .error _ => { q with phase := .staging }

/-- What the query says of how its recall ended. -/
def recallResult : Except Abort (Except RecallFault Unit) → Except Abort (Except QueryFault Unit)
  | .ok (.ok ()) => .ok (.ok ())
  | .ok (.error fault) => .ok (.error (.ofRecall fault))
  | .error why => .error why

theorem recallFile_run_of_resolved {q : Query} {l : Location} (h : q.phase = .resolved)
    (hl : q.location = some l) (a : Agent) (s : Archive) :
    (recallFile a).run (q, s) =
      ⟨recallResult (a.recallFile (.ofLocation q.file l) s).ending,
        (q.recalled (a.recallFile (.ofLocation q.file l) s).ending,
          (a.recallFile (.ofLocation q.file l) s).state),
        .notice (.phaseChanged q.file .resolved .staging) ::
          (a.recallFile (.ofLocation q.file l) s).trace ++
          lastMove q.file .staging
            (q.recalled (a.recallFile (.ofLocation q.file l) s).ending).phase⟩ := by
  have hfirst := advance_run_of_leadsTo (show q.phase.leadsTo .staging = true by rw [h]; rfl) s
  -- here too the phase in between leads on to either end
  have hlast : ∀ next, Phase.leadsTo .staging next = true →
      (advance next).run (({ q with phase := .staging } : Query),
          (a.recallFile (.ofLocation q.file l) s).state) =
        ⟨.ok (.ok ()), ({ q with phase := next }, (a.recallFile (.ofLocation q.file l) s).state),
          [.notice (.phaseChanged q.file .staging next)]⟩ := by
    intro next hnext
    rw [advance_run_of_leadsTo hnext]
  rw [recallFile, bind_run, current_run]
  simp only [h, hl]
  rw [bind_run, hfirst]
  dsimp only
  rw [bind_run, ask_run]
  dsimp only
  rcases ho : (a.recallFile (.ofLocation q.file l) s).ending with why | fault | _
  · simp [recallResult, recalled, lastMove, Except.map, h]
  · simp [bind_run, hlast .stageErrored rfl, recallResult, recalled, lastMove, Except.map, h]
  · simp [hlast .staged rfl, recallResult, recalled, lastMove, Except.map, h]

/-- A query without a location does not pass, whatever its phase. -/
theorem recallFile_run_of_none {q : Query} (h : q.location = none) (a : Agent) (s : Archive) :
    (recallFile a).run (q, s) = ⟨.ok (.error (.outOfOrder q.phase .staging)), (q, s), []⟩ := by
  rw [recallFile, bind_run, current_run]
  simp only [h]
  cases q.phase <;> simp

theorem recallFile_run_of_ne {q : Query} (h : q.phase ≠ .resolved) (a : Agent) (s : Archive) :
    (recallFile a).run (q, s) = ⟨.ok (.error (.outOfOrder q.phase .staging)), (q, s), []⟩ := by
  rw [recallFile, bind_run, current_run]
  cases hp : q.phase <;> first | exact absurd hp h | simp [hp]

/-! ## Both in one -/

theorem run_run (a : Agent) (s : Query × Archive) :
    (run a).run s = match ((locate a).run s).ending with
      | .ok (.ok l) =>
        if l.needsRecall then
          let o := (recallFile a).run ((locate a).run s).state
          ⟨o.ending.map fun r => r.map fun () => l, o.state, ((locate a).run s).trace ++ o.trace⟩
        else (locate a).run s
      | _ => (locate a).run s := by
  rw [run, bind_run]
  rcases ho : (locate a).run s with ⟨ending, state, trace⟩
  rcases ending with why | fault | l
  · rfl
  · rfl
  · by_cases hn : l.needsRecall = true
    · simp [hn, Proc.map_apply]
    · simp [hn]

/-- Either there is something left to recall after a scan, or that was all. -/
theorem needsRecall_or_rest {ε : Type} (e : Except Abort (Except ε Location)) :
    (∃ l, e = .ok (.ok l) ∧ l.needsRecall = true) ∨
      ∀ l, e = .ok (.ok l) → l.needsRecall = false := by
  by_cases hmore : ∃ l, e = .ok (.ok l) ∧ l.needsRecall = true
  · exact .inl hmore
  · right
    intro l hl
    rw [Bool.eq_false_iff]
    intro hn
    exact hmore ⟨l, hl, hn⟩

/-- A run goes no further than the scan unless that finds the file and the file is not on disk. -/
theorem run_run_of_rest {a : Agent} {s : Query × Archive}
    (h : ∀ l, ((locate a).run s).ending = .ok (.ok l) → l.needsRecall = false) :
    (run a).run s = (locate a).run s := by
  rw [run_run]
  split
  · rename_i l hl
    simp only [h l hl, Bool.false_eq_true, if_false]
  · rfl

theorem run_run_of_needsRecall {a : Agent} {s : Query × Archive} {l : Location}
    (h : ((locate a).run s).ending = .ok (.ok l)) (hn : l.needsRecall = true) :
    (run a).run s =
      ⟨((recallFile a).run ((locate a).run s).state).ending.map fun r => r.map fun () => l,
        ((recallFile a).run ((locate a).run s).state).state,
        ((locate a).run s).trace ++ ((recallFile a).run ((locate a).run s).state).trace⟩ := by
  rw [run_run, h]
  simp only [hn, if_true]

end Query

end TapeRecall
