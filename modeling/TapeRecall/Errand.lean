import TapeRecall.Query

/-!
# Errands

The shortest use of an archive from beginning to end: a new agent sets up a session, takes one
query as far as it goes, and retires. Whatever becomes of the query, an abort included, the
session that was set up for it is ended.
-/

set_option autoImplicit false

namespace TapeRecall

/-- What an agent is sent for, and the archive it meets: one that holds a single object. -/
structure Errand where
  file : String
  attributes : Attributes
  answers : Answers
  mechanism : String
  principal : String
  keytab : String

namespace Errand

/-- The archive that the agent meets. -/
def archive (e : Errand) : Archive :=
  ({ answers := e.answers } : Archive).enter e.file e.attributes

/-- What the agent does. Without a session the query is not started. -/
def carryOut (e : Errand) : Proc Archive (Except Failure Location) := do
  let (a, reply) ← Agent.fresh.login e.mechanism e.principal e.keytab
  match reply with
  | .error fault => return .error (.ofSession fault)
  | .ok () =>
    match ← (Proc.withFirst { file := e.file } (Query.run a).run).ensuring a.retire with
    | .ok l => return .ok l
    | .error fault => return .error (.ofQuery fault)

/-- Runs the errand. -/
def run (e : Errand) : Outcome Archive (Except Failure Location) :=
  e.carryOut e.archive

end Errand

end TapeRecall
