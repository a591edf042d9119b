/-!
# Phases of a query

A query of one file goes from `unresolved` through a scan and, where it is wanted, through a
recall. Each of the two may fail, and a failure is final.
-/

set_option autoImplicit false

namespace TapeRecall

/-- How far the query of one file has come. -/
inductive Phase where
  /-- The archive was not asked yet. -/
  | unresolved
  /-- The archive is being asked where the file is. -/
  | scanning
  /-- The location is known. -/
  | resolved
  /-- The file could not be located. -/
  | errored
  /-- The recall is under way. -/
  | staging
  /-- The recall was accepted. -/
  | staged
  /-- The recall failed. -/
  | stageErrored
deriving DecidableEq

namespace Phase

/-- Every phase. -/
def all : List Phase :=
  [.unresolved, .scanning, .resolved, .errored, .staging, .staged, .stageErrored]

/-- The written form. -/
def name : Phase → String
  | .unresolved => "unresolved"
  | .scanning => "scanning"
  | .resolved => "resolved"
  | .errored => "errored"
  | .staging => "staging"
  | .staged => "staged"
  | .stageErrored => "stage-errored"

/-- A phase that no other follows. -/
def isFinal : Phase → Bool
  | .errored | .staged | .stageErrored => true
  | _ => false

/-- The phases that may directly follow one. -/
def next : Phase → List Phase
  | .unresolved => [.scanning]
  | .scanning => [.resolved, .errored]
  | .resolved => [.staging]
  | .staging => [.staged, .stageErrored]
  | .errored | .staged | .stageErrored => []

/-- Whether `q` may directly follow `p`. -/
def leadsTo (p q : Phase) : Bool :=
  p.next.contains q

/-- The phase with a given name. -/
def ofName? (name : String) : Option Phase :=
  all.find? fun p => p.name = name

theorem mem_all (p : Phase) : p ∈ all := by cases p <;> decide

end Phase

end TapeRecall
