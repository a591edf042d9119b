import TapeRecall.World
import TapeRecall.Proofs.Outcome.Query

/-!
# Histories

What is said of a world is said after any list of steps, and what is gathered from a history is
gathered step by step, each from the world before it. So every statement about histories is proved
by adding one step at the end, and this file has the equations for that.
-/

set_option autoImplicit false

namespace TapeRecall

namespace World

/-! ## Adding a step at the end -/

/-- The world in which nothing has happened yet. -/
def opening (answers : Answers) (catalogue : Catalogue) : World :=
  { archive := { answers, catalogue } }

/-- What is gathered from the steps of a history, each of which is seen with the world before it. -/
def gather {β : Type} (f : World → Step → List β) (w : World) : List Step → List β
  | [] => []
  | s :: rest => f w s ++ gather f (w.step s).after rest

/-- Everything that the archive recorded in a history. -/
def log (w : World) (steps : List Step) : List Exchange :=
  w.gather (fun w s => (w.step s).trace.replies) steps

@[simp] theorem afterAll_nil (w : World) : w.afterAll [] = w := rfl

@[simp] theorem afterAll_cons (w : World) (s : Step) (rest : List Step) :
    w.afterAll (s :: rest) = (w.step s).after.afterAll rest := rfl

theorem afterAll_append (w : World) (first second : List Step) :
    w.afterAll (first ++ second) = (w.afterAll first).afterAll second :=
  List.foldl_append

theorem afterAll_concat (w : World) (past : List Step) (s : Step) :
    w.afterAll (past ++ [s]) = ((w.afterAll past).step s).after := by
  rw [afterAll_append, afterAll_cons, afterAll_nil]

theorem gather_append {β : Type} (f : World → Step → List β) (w : World)
    (first second : List Step) :
    w.gather f (first ++ second) = w.gather f first ++ (w.afterAll first).gather f second := by
  induction first generalizing w with
  | nil => rfl
  | cons s rest ih =>
      -- the induction is on the first list, and the world goes along with it
      rw [List.cons_append, gather, gather, ih, List.append_assoc, afterAll_cons]

theorem gather_concat {β : Type} (f : World → Step → List β) (w : World) (past : List Step)
    (s : Step) : w.gather f (past ++ [s]) = w.gather f past ++ f (w.afterAll past) s := by
  rw [gather_append, gather, gather, List.append_nil]

theorem log_concat (w : World) (past : List Step) (s : Step) :
    w.log (past ++ [s]) = w.log past ++ ((w.afterAll past).step s).trace.replies :=
  gather_concat _ w past s

/-! ## The ways in which something happens to a world -/

@[simp] theorem call_trace {α : Type} (w : World) (p : Proc Archive α) (result : α → Result) :
    (w.call p result).trace = (p w.archive).trace := by
  rw [call, callThen]
  cases (p w.archive).ending <;> rfl

@[simp] theorem call_after {α : Type} (w : World) (p : Proc Archive α) (result : α → Result) :
    (w.call p result).after = { w with archive := (p w.archive).state } := by
  rw [call, callThen]
  cases (p w.archive).ending <;> rfl

theorem call_result {α : Type} (w : World) (p : Proc Archive α) (result : α → Result) :
    (w.call p result).result = match (p w.archive).ending with
      | .ok a => result a
      | .error why => .aborted why := by
  rw [call, callThen]
  cases (p w.archive).ending <;> rfl

@[simp] theorem callThen_trace {α : Type} (w : World) (p : Proc Archive α)
    (settle : α → World → Result × World) :
    (w.callThen p settle).trace = (p w.archive).trace := by
  rw [callThen]
  cases (p w.archive).ending <;> rfl

theorem callThen_of_eq {α : Type} {w : World} {p : Proc Archive α} {x : α} {a : Archive}
    {t : Trace} (h : p w.archive = ⟨.ok x, a, t⟩) (settle : α → World → Result × World) :
    w.callThen p settle =
      ⟨(settle x { w with archive := a }).1, t, (settle x { w with archive := a }).2⟩ := by
  rw [callThen, h]

theorem callAgent_of_eq {w : World} {p : Proc Archive (Agent × Except SessionFault Unit)}
    {r : Agent × Except SessionFault Unit} {a : Archive} {t : Trace}
    (h : p w.archive = ⟨.ok r, a, t⟩) (n : Nat) :
    w.callAgent n p = ⟨acknowledge .ofSession r.2, t,
      { w with archive := a, agents := w.agents.put n r.1 }⟩ := by
  rw [callAgent, callThen_of_eq h]

theorem callQuery_result {α : Type} (w : World) (key : Nat × Nat) (q : Query)
    (step : Query.Step α) (result : α → Result) :
    (w.callQuery key q step result).result = match (step.run (q, w.archive)).ending with
      | .ok (.ok a) => result a
      | .ok (.error fault) => .failed (.ofQuery fault)
      | .error why => .aborted why := rfl

theorem callQuery_trace {α : Type} (w : World) (key : Nat × Nat) (q : Query)
    (step : Query.Step α) (result : α → Result) :
    (w.callQuery key q step result).trace = (step.run (q, w.archive)).trace := rfl

theorem callQuery_after {α : Type} (w : World) (key : Nat × Nat) (q : Query)
    (step : Query.Step α) (result : α → Result) :
    (w.callQuery key q step result).after =
      { w with archive := (step.run (q, w.archive)).state.2,
               queries := w.queries.put key (step.run (q, w.archive)).state.1 } := rfl

@[simp] theorem agent_put_self (archive : Archive) (agents : Table Nat Agent)
    (queries : Table (Nat × Nat) Query) (held : List Volume) (n : Nat) (a : Agent) :
    World.agent ⟨archive, agents.put n a, queries, held⟩ n = a := by
  simp [agent]

@[simp] theorem agent_erase_self (archive : Archive) (agents : Table Nat Agent)
    (queries : Table (Nat × Nat) Query) (held : List Volume) (n : Nat) :
    World.agent ⟨archive, agents.erase n, queries, held⟩ n = .fresh := by
  simp [agent]

@[simp] theorem agent_engage (w : World) (m n : Nat) : (w.engage m).agent n = w.agent n := by
  by_cases h : n = m
  · subst h
    simp [engage, agent]
  · simp [engage, agent, Table.get?_put_of_ne _ h]

/-! ## Single steps -/

theorem step_login (w : World) (n : Nat) (mechanism principal keytab : String) :
    w.step ⟨n, .login mechanism principal keytab⟩ =
      (w.engage n).callAgent n ((w.agent n).login mechanism principal keytab) := rfl

theorem step_logout (w : World) (n : Nat) :
    w.step ⟨n, .logout⟩ = (w.engage n).callAgent n (w.agent n).logout := rfl

theorem step_retire (w : World) (n : Nat) :
    w.step ⟨n, .retire⟩ = ({ w with agents := w.agents.erase n } : World).call
      (w.agent n).retire fun () => .truth (w.agents.get? n).isSome := rfl

theorem step_locate (w : World) (n : Nat) (file : String) :
    w.step ⟨n, .locate file⟩ =
      (w.engage n).call ((w.agent n).locate file) locateResult := rfl

theorem step_recallFile (w : World) (n : Nat) (file : String) (length : UInt64) :
    w.step ⟨n, .recallFile file length⟩ =
      (w.engage n).call ((w.agent n).recallFile ⟨file, length⟩) (acknowledge .ofRecall) := rfl

theorem step_recallLocated (w : World) (n : Nat) (file : String) (l : Location) :
    w.step ⟨n, .recallLocated file l⟩ =
      (w.engage n).call ((w.agent n).recallFile (.ofLocation file l)) (acknowledge .ofRecall) := rfl

section

variable {w : World} {n k : Nat} {q : Query}

theorem step_inquire_locate (h : w.queries.get? (n, k) = some q) :
    w.step ⟨n, .inquire k .locate⟩ =
      (w.engage n).callQuery (n, k) q (Query.locate (w.agent n)) .location := by
  have hget : (w.engage n).queries.get? (n, k) = some q := h
  change (w.engage n).inquire n k .locate = _
  rw [inquire, hget, agent_engage]

theorem step_inquire_recallFile (h : w.queries.get? (n, k) = some q) :
    w.step ⟨n, .inquire k .recallFile⟩ =
      (w.engage n).callQuery (n, k) q (Query.recallFile (w.agent n)) fun () => .done := by
  have hget : (w.engage n).queries.get? (n, k) = some q := h
  change (w.engage n).inquire n k .recallFile = _
  rw [inquire, hget, agent_engage]

theorem step_inquire_run (h : w.queries.get? (n, k) = some q) :
    w.step ⟨n, .inquire k .run⟩ =
      (w.engage n).callQuery (n, k) q (Query.run (w.agent n)) .location := by
  have hget : (w.engage n).queries.get? (n, k) = some q := h
  change (w.engage n).inquire n k .run = _
  rw [inquire, hget, agent_engage]

end

end World

end TapeRecall
