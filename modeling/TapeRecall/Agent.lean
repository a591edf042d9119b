import TapeRecall.Recall
import TapeRecall.Scan
import TapeRecall.Session

/-!
# Agents

An agent works with an archive on somebody's behalf. It has at most one session at a time, and
without one it makes no call about a file. An agent that retires ends the session it still has.
-/

set_option autoImplicit false

namespace TapeRecall

/-- One who works with an archive. -/
structure Agent where
  session : Option Session := none
deriving DecidableEq

namespace Agent

/-- An agent without a session. -/
def fresh : Agent := {}

/-- The agent has a session. -/
def isActive (a : Agent) : Bool := a.session.isSome

/-- Sets up a session, unless there is one already; on a refusal the agent stays without. -/
def login (a : Agent) (mechanism principal keytab : String) :
    Proc Archive (Agent × Except SessionFault Unit) := do
  match a.session with
  | some _ =>
    Proc.notify (.loginRepeated principal)
    return (a, .error .alreadyActive)
  | none =>
    match ← Session.establish mechanism principal keytab with
    | .ok session => return (⟨some session⟩, .ok ())
    | .error fault => return (a, .error fault)

/-- Ends the session. The agent is without one afterwards, whatever the archive answers. -/
def logout (a : Agent) : Proc Archive (Agent × Except SessionFault Unit) := do
  match a.session with
  | none => return (a, .error .noSession)
  | some session => return (⟨none⟩, ← session.finish)

/-- Ends the session that is left, if any. There is nobody to report a fault to. -/
def retire (a : Agent) : Proc Archive Unit := do
  match a.session with
  | none => return ()
  | some session =>
    match ← session.finish with
    | .ok () => return ()
    | .error fault => Proc.notify (.retiredUnreleased fault)

/-- Locates a file. -/
def locate (a : Agent) (file : String) : Proc Archive (Except ScanFault Location) :=
  if a.isActive then Scan.locate file else return .error .noSession

/-- Recalls a file. -/
def recallFile (a : Agent) (r : Request) : Proc Archive (Except RecallFault Unit) :=
  if a.isActive then Recall.perform r else return .error .noSession

/-- Whether two agents have the same session or are both without. -/
def sameSession (a b : Agent) : Bool :=
  match a.session, b.session with
  | none, none => true
  | some s, some t => s.same t
  | _, _ => false

/-- A description of the agent. -/
def describe (a : Agent) : String :=
  let session := match a.session with
    | none => "None"
    | some s => "Some(" ++ s.describe ++ ")"
  "Broker \x7b session: " ++ session ++ ", .. \x7d"

end Agent

end TapeRecall
