import TapeRecall.Notice

/-!
# Traces

What an operation did, in order: the calls that the archive recorded, each with its reply, the
calls that it turned away without a record, and the notices between them. The recorded calls
alone are the archive's log; the notices alone, each with the number of recorded calls before
it, are the log of the program.
-/

set_option autoImplicit false

namespace TapeRecall

/-- A call as the archive records it. A recall and a close are recorded by the name under
which their handle was opened. -/
inductive Call where
  | login (mechanism : Mechanism) (principal keytab : String)
  | purge
  | query (file : String)
  | release (volume : UInt64)
  | openFile (file : String) (mode : OpenMode)
  | recallFile (file : String) (offset length : UInt64) (tier : UInt32)
  | closeFile (file : String)
deriving DecidableEq

/-- A call on a handle that is not open, of which the archive keeps no record. -/
inductive StrayCall where
  | recallFile (handle : Handle) (offset length : UInt64) (tier : UInt32)
  | closeFile (handle : Handle)
deriving DecidableEq

/-- What became of a call. -/
inductive Reply where
  | accepted
  /-- The archive refused; the status says why, and may be any code at all. -/
  | refused (status : Status)
  /-- The call never returned. -/
  | aborted
deriving DecidableEq

/-- One thing that happened. -/
inductive Incident where
  | call (call : Call) (reply : Reply)
  | stray (call : StrayCall)
  | notice (notice : Notice)
deriving DecidableEq

/-- What happened, in order. -/
abbrev Trace := List Incident

namespace Trace

/-- The recorded calls with their replies. -/
def replies : Trace → List (Call × Reply)
  | [] => []
  | .call c r :: t => (c, r) :: replies t
  | .stray _ :: t => replies t
  | .notice _ :: t => replies t

/-- The recorded calls. -/
def calls (t : Trace) : List Call :=
  t.replies.map Prod.fst

/-- The calls on handles that were not open. -/
def strays : Trace → List StrayCall
  | [] => []
  | .call .. :: t => strays t
  | .stray c :: t => c :: strays t
  | .notice _ :: t => strays t

/-- The notices. -/
def notices : Trace → List Notice
  | [] => []
  | .call .. :: t => notices t
  | .stray _ :: t => notices t
  | .notice n :: t => n :: notices t

/-- The notices, each with the number of recorded calls before it, where `calls` were recorded
before. -/
def placedFrom (calls : Nat) : Trace → List (Nat × Notice)
  | [] => []
  | .call .. :: t => placedFrom (calls + 1) t
  | .stray _ :: t => placedFrom calls t
  | .notice n :: t => (calls, n) :: placedFrom calls t

/-- The notices, each with the number of recorded calls before it. -/
def placed (t : Trace) : List (Nat × Notice) :=
  t.placedFrom 0

/-- The placed notices that a log at this level shows. -/
def shown (level : Log.Level) (t : Trace) : List (Nat × Notice) :=
  t.placed.filter fun p => level.enables p.2.level

@[simp] theorem replies_append (t u : Trace) : replies (t ++ u) = replies t ++ replies u := by
  induction t with
  | nil => rfl
  | cons i t ih => cases i <;> simp [replies, ih]

@[simp] theorem strays_append (t u : Trace) : strays (t ++ u) = strays t ++ strays u := by
  induction t with
  | nil => rfl
  | cons i t ih => cases i <;> simp [strays, ih]

@[simp] theorem notices_append (t u : Trace) : notices (t ++ u) = notices t ++ notices u := by
  induction t with
  | nil => rfl
  | cons i t ih => cases i <;> simp [notices, ih]

end Trace

end TapeRecall
