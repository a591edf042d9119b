/-!
# Authentication mechanisms

A session is set up with one of two mechanisms, chosen by name. The choice never fails: any
name but `kerberos` selects the unix mechanism. Whether a name was one of the two is a
question of its own, because a fallback is worth a notice in the log.
-/

set_option autoImplicit false

namespace TapeRecall

/-- How the credentials of a session are checked. -/
inductive Mechanism where
  | unix
  | kerberos
deriving DecidableEq, Inhabited

namespace Mechanism

/-- The mechanism that a name selects. Names are compared exactly, letter case included. -/
def ofName (name : String) : Mechanism :=
  if name = "kerberos" then .kerberos else .unix

/-- A name is recognized when it is the name of a mechanism and not merely one that falls
back to unix. -/
def isRecognized (name : String) : Bool :=
  name = "unix" || name = "kerberos"

/-- The canonical name. -/
def name : Mechanism → String
  | .unix => "unix"
  | .kerberos => "kerberos"

/-- The name as it stands in the description of a session. -/
def title : Mechanism → String
  | .unix => "Unix"
  | .kerberos => "Kerberos"

/-- The canonical name selects its mechanism. -/
@[simp] theorem ofName_name (m : Mechanism) : ofName m.name = m := by
  cases m <;> decide

end Mechanism

end TapeRecall
