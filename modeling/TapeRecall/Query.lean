import TapeRecall.Agent

/-!
# Queries

A query follows one file: it locates the file and then, where it is wanted, recalls it. Its
steps have to come in that order, and a step that fails is the last one. The phase is changed
before the archive is asked and again when it has answered, so a query whose step aborted
stays in the phase in between, for good.
-/

set_option autoImplicit false

namespace TapeRecall

/-- The query of one file. -/
structure Query where
  file : String
  phase : Phase := .unresolved
  /-- Where the file is, once that is known. -/
  location : Option Location := none
deriving DecidableEq

namespace Query

/-- A step of a query, which works on the query and on the archive and may end in a fault. -/
abbrev Step (α : Type) := ExceptT QueryFault (Proc (Query × Archive)) α

/-- The query as it stands. -/
def current : Step Query := do
  let s ← ExceptT.lift Proc.get
  return s.1

/-- Changes the query. -/
def update (f : Query → Query) : Step Unit :=
  ExceptT.lift (Proc.modify fun s => (f s.1, s.2))

/-- Lets the archive work. -/
def ask {α : Type} (p : Proc Archive α) : Step α :=
  ExceptT.lift p.onSecond

/-- Goes to the next phase, if that one may follow. -/
def advance (next : Phase) : Step Unit := do
  let q ← current
  if q.phase.leadsTo next then
    ExceptT.lift (Proc.notify (.phaseChanged q.file q.phase next))
    update fun q => { q with phase := next }
  else throw (.outOfOrder q.phase next)

/-- Locates the file. -/
def locate (a : Agent) : Step Location := do
  advance .scanning
  let q ← current
  match ← ask (a.locate q.file) with
  | .ok l =>
    advance .resolved
    update fun q => { q with location := some l }
    return l
  | .error fault =>
    advance .errored
    throw (.ofScan fault)

/-- Recalls all of the file, which has to be located by then. -/
def recallFile (a : Agent) : Step Unit := do
  let q ← current
  match q.phase, q.location with
  | .resolved, some l =>
    advance .staging
    match ← ask (a.recallFile (.ofLocation q.file l)) with
    | .ok () => advance .staged
    | .error fault =>
      advance .stageErrored
      throw (.ofRecall fault)
  | phase, _ => throw (.outOfOrder phase .staging)

/-- Locates the file, and recalls it unless it is on disk. -/
def run (a : Agent) : Step Location := do
  let l ← locate a
  if l.needsRecall then recallFile a
  return l

end Query

end TapeRecall
