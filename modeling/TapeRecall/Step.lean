import TapeRecall.Query

/-!
# Steps

What somebody can do at an archive, and what can come of it. A step is taken by an agent, who
is known by a number. Most steps are the agent's own; some go to the archive directly, past
any session, and some change how the archive answers or what it keeps.
-/

set_option autoImplicit false

namespace TapeRecall

/-- What can be asked of a query. -/
inductive Inquiry where
  | locate
  | recallFile
  | run
  /-- Whether it has come to an end. -/
  | look
deriving DecidableEq

/-- A call that goes to the archive past any session. -/
inductive DirectCall where
  | login (mechanism principal keytab : String)
  | purge
  /-- Asks about a name, and holds the volumes of the answer. -/
  | query (file : String)
  /-- Hands back the held volume at a place; later ones move up. -/
  | release (index : Nat)
  | openFile (file : String) (mode : OpenMode)
  | recallFile (handle : Handle) (offset length : UInt64) (tier : UInt32)
  | closeFile (handle : Handle)
deriving DecidableEq

/-- What a step does. -/
inductive Action where
  | login (mechanism principal keytab : String)
  | logout
  /-- The agent ends the session it still has, and is gone. -/
  | retire
  /-- Compares the agent's session with that of another agent. -/
  | compare (other : Nat)
  | locate (file : String)
  | recallFile (file : String) (length : UInt64)
  /-- Recalls all of a file that was found at a location. -/
  | recallLocated (file : String) (location : Location)
  | showSession
  | describe
  /-- Nothing, but the agent is there from now on. -/
  | appear
  /-- Starts a query of a file under a number, in place of an earlier one of that number. -/
  | start (query : Nat) (file : String)
  /-- Asks something of the agent's query with a number. -/
  | inquire (query : Nat) (inquiry : Inquiry)
  /-- Sets how the archive answers from now on. -/
  | answers (answers : Answers)
  /-- Enters an object into the catalogue. -/
  | enter (name : String) (attributes : Attributes)
  | direct (call : DirectCall)

/-- A step of an agent. -/
structure Step where
  agent : Nat
  action : Action

/-- What a step led to. -/
inductive Result where
  | done
  | truth (value : Bool)
  | location (location : Location)
  | session (session : Option Session)
  | text (text : String)
  | attributes (attributes : Attributes)
  | handle (handle : Handle)
  /-- There was nothing to do it with. -/
  | nothing
  | failed (failure : Failure)
  | aborted (why : Abort)
deriving DecidableEq

end TapeRecall
