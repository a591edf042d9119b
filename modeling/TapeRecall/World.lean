import TapeRecall.Step

/-!
# Worlds

A world is one archive with all who work with it: agents by number, the queries they have
under way, and the volumes that somebody got from the archive directly and still holds. A
history is a list of steps, and `World.run` gives a report of each: its result, what happened
in it, and the world after it.

An agent is there from the first step that is its own. A step that aborts leaves the world as
it was when the abort hit, so the next step finds it so.
-/

set_option autoImplicit false

namespace TapeRecall

/-- One archive, and all who work with it. -/
structure World where
  archive : Archive := {}
  agents : Table Nat Agent := .empty
  /-- The queries under way, by the number of their agent and a number of their own. -/
  queries : Table (Nat × Nat) Query := .empty
  /-- The volumes that direct queries handed out, oldest first. -/
  held : List Volume := []

/-- What can be seen of a step. -/
structure Report where
  result : Result
  trace : Trace
  /-- The world after the step. -/
  after : World

namespace World

/-! ## Looking at a world -/

/-- The agent with a number; one that never appeared has no session. -/
def agent (w : World) (n : Nat) : Agent :=
  (w.agents.get? n).getD .fresh

/-- The numbers of the agents that are there, in ascending order. -/
def roll (w : World) : List Nat :=
  w.agents.keys.mergeSort

/-- How many handles are open. -/
def openHandles (w : World) : Nat := w.archive.handles.size

/-! ## Reporting

Everything that happens to a world happens in one of three ways: nothing in the archive is
touched, the archive works, or a query works on the archive. -/

/-- The report of a step that touches neither archive nor log. -/
def quiet (w : World) (result : Result) : Report := ⟨result, [], w⟩

/-- Lets the archive work. What it ends with settles the result and what else changes in the
world; after an abort nothing else does. -/
def callThen {α : Type} (w : World) (p : Proc Archive α) (settle : α → World → Result × World) :
    Report :=
  let o := p w.archive
  let after := { w with archive := o.state }
  match o.ending with
  | .ok a => ⟨(settle a after).1, o.trace, (settle a after).2⟩
  | .error why => ⟨.aborted why, o.trace, after⟩

/-- Lets the archive work, and changes nothing else in the world. -/
def call {α : Type} (w : World) (p : Proc Archive α) (result : α → Result) : Report :=
  w.callThen p fun a after => (result a, after)

/-- Lets a query take a step. Its phase changes with the archive, so it is kept also where the
step aborted. -/
def callQuery {α : Type} (w : World) (key : Nat × Nat) (q : Query) (step : Query.Step α)
    (result : α → Result) : Report :=
  let o := step.run (q, w.archive)
  let ended := match o.ending with
    | .ok (.ok a) => result a
    | .ok (.error fault) => .failed (.ofQuery fault)
    | .error why => .aborted why
  ⟨ended, o.trace, { w with archive := o.state.2, queries := w.queries.put key o.state.1 }⟩

/-! ## Taking steps -/

/-- The result of something that has no value. -/
def acknowledge {ε : Type} (failure : ε → Failure) : Except ε Unit → Result
  | .ok () => .done
  | .error e => .failed (failure e)

/-- The result of looking for a file. -/
def locateResult : Except ScanFault Location → Result
  | .ok l => .location l
  | .error fault => .failed (.ofScan fault)

/-- Makes sure that an agent is there. -/
def engage (w : World) (n : Nat) : World :=
  { w with agents := w.agents.put n (w.agent n) }

/-- Lets an agent change its session. -/
def callAgent (w : World) (n : Nat) (p : Proc Archive (Agent × Except SessionFault Unit)) :
    Report :=
  w.callThen p fun r after =>
    (acknowledge .ofSession r.2, { after with agents := after.agents.put n r.1 })

/-- Answers an inquiry of an agent about one of its queries. -/
def inquire (w : World) (n k : Nat) (inquiry : Inquiry) : Report :=
  match w.queries.get? (n, k) with
  | none => w.quiet .nothing
  | some q =>
    match inquiry with
    | .locate => w.callQuery (n, k) q (Query.locate (w.agent n)) .location
    | .recallFile => w.callQuery (n, k) q (Query.recallFile (w.agent n)) fun () => .done
    | .run => w.callQuery (n, k) q (Query.run (w.agent n)) .location
    | .look => w.quiet (.truth q.phase.isFinal)

/-- Makes a direct call. -/
def direct (w : World) : DirectCall → Report
  | .login mechanism principal keytab =>
    w.call (Archive.login (.ofName mechanism) principal keytab) (acknowledge .refused)
  | .purge => w.call Archive.purge (acknowledge .refused)
  | .query file =>
    w.callThen (Archive.query file) fun reply after =>
      match reply with
      | .ok attributes =>
        (.attributes attributes, { after with held := after.held ++ attributes.volumes })
      | .error status => (.failed (.refused status), after)
  | .release index =>
    match w.held[index]? with
    | none => w.quiet .nothing
    | some v =>
      w.callThen (Archive.release v) fun () after =>
        (.done, { after with held := after.held.eraseIdx index })
  | .openFile file mode =>
    w.call (Archive.openFile file mode) fun
      | .ok handle => .handle handle
      | .error status => .failed (.refused status)
  | .recallFile handle offset length tier =>
    w.call (Archive.recallFile handle offset length tier) (acknowledge .refused)
  | .closeFile handle => w.call (Archive.closeFile handle) (acknowledge .refused)

/-- Lets an agent act. An agent that is not there can retire and be compared, and stays away;
by any other action it appears. -/
def step (w : World) (s : Step) : Report :=
  let here := w.engage s.agent
  let agent := w.agent s.agent
  match s.action with
  | .retire =>
    let left := { w with agents := w.agents.erase s.agent }
    left.call agent.retire fun () => .truth (w.agents.get? s.agent).isSome
  | .compare other => w.quiet (.truth (agent.sameSession (w.agent other)))
  | .login mechanism principal keytab =>
    here.callAgent s.agent (agent.login mechanism principal keytab)
  | .logout => here.callAgent s.agent agent.logout
  | .locate file => here.call (agent.locate file) locateResult
  | .recallFile file length => here.call (agent.recallFile ⟨file, length⟩) (acknowledge .ofRecall)
  | .recallLocated file location =>
    here.call (agent.recallFile (.ofLocation file location)) (acknowledge .ofRecall)
  | .showSession => here.quiet (.session agent.session)
  | .describe => here.quiet (.text agent.describe)
  | .appear => here.quiet .done
  | .start k file =>
    { here with queries := here.queries.put (s.agent, k) { file } }.quiet .done
  | .inquire k inquiry => here.inquire s.agent k inquiry
  | .answers answers => { here with archive := { here.archive with answers } }.quiet .done
  | .enter name attributes =>
    { here with archive := here.archive.enter name attributes }.quiet .done
  | .direct call => here.direct call

/-! ## Histories -/

/-- Takes steps one after another and reports on each. -/
def run : World → List Step → List Report
  | _, [] => []
  | w, s :: rest =>
    let report := w.step s
    report :: run report.after rest

/-- The world after some steps. -/
def afterAll (w : World) (steps : List Step) : World :=
  steps.foldl (fun w s => (w.step s).after) w

/-- Everybody who is still there retires, in ascending order. -/
def dismissal (w : World) : List Step :=
  w.roll.map fun n => ⟨n, .retire⟩

/-- A whole history: the steps, and then everybody retires. -/
def history (w : World) (steps : List Step) : List Report :=
  w.run steps ++ (w.afterAll steps).run (w.afterAll steps).dismissal

end World

end TapeRecall
