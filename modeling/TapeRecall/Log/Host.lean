import TapeRecall.Errand
import TapeRecall.Log.Plain

/-!
# The host process

How much a process prints is settled twice, and each time for good. The level that the
environment selects is read at the first need and kept, whatever the environment becomes
later. And the first log that is set up stays: a later attempt to set one up is refused or
does nothing.

The two are independent. Setting up a log at a level of one's own does not read the
environment, and reading the environment sets up nothing.

The second of them is not the process's own: it is the library of the log that keeps it, and
that prints. Which library this is stays open; a process that is run without one being named
has the plain one.
-/

set_option autoImplicit false

namespace TapeRecall.Log

/-- What a log is set up with; without a wish it shows nothing. -/
structure Settings where
  level : Level := .off
deriving DecidableEq

/-- Why a log could not be set up. -/
inductive SetupFault where
  /-- There is one already. -/
  | alreadySetUp
deriving DecidableEq

/-- The fault in words. -/
def SetupFault.message : SetupFault → String
  | .alreadySetUp => "a global tracing subscriber is already installed"

/-- The subscriber that settings ask for: one that prints, behind the filter of their level. -/
def Library.subscriber (lib : Library) (s : Settings) : lib.Subscriber :=
  lib.withLines (lib.withFilter lib.registry s.level.bound)

/-- A process, as far as its log is concerned. -/
structure Host (lib : Library := .plain) where
  /-- The environment variables; a value may be any bytes. -/
  environment : Table String ByteArray := .empty
  /-- The level that the environment selected, once it was asked. -/
  selected : Option Level := none
  /-- What the library of the log keeps. -/
  log : lib.Global := lib.fresh

namespace Host

variable {lib : Library}

/-- The environment variable that selects the level. -/
def selector : String := "TREQS_LOG"

/-- The level that a variable selects just now; a variable that is not set selects silence. -/
def levelOf (h : Host lib) (name : String) : Level :=
  match h.environment.get? name with
  | some bytes => .ofBytes bytes
  | none => .off

/-- The level that the environment selected, which is read now if it never was before. -/
def select (h : Host lib) : Level × Host lib :=
  match h.selected with
  | some l => (l, h)
  | none =>
    let l := h.levelOf selector
    (l, { h with selected := some l })

/-- Sets up a log, unless there is one. -/
def install (h : Host lib) (s : Settings) : Except SetupFault (Host lib) :=
  match lib.tryInit (lib.subscriber s) h.log with
  | none => .error .alreadySetUp
  | some log => .ok { h with log }

/-- What a process does next. -/
inductive Step where
  | setVariable (name : String) (value : ByteArray)
  | unsetVariable (name : String)
  /-- Asks for the level that a variable selects. -/
  | levelOf (name : String)
  /-- Asks for the level that the environment selected. -/
  | selected
  /-- Asks for the settings that follow from the environment. -/
  | settings
  | install (settings : Settings)
  /-- Sets up a log with the settings that follow from the environment. -/
  | installSelected
  /-- The same, and where there is a log already that is only a notice. -/
  | start
  | errand (errand : Errand)

/-- What a step led to. -/
inductive Result where
  | done
  | level (level : Level)
  | refused (fault : SetupFault)
  | location (location : Location)
  | failed (failure : Failure)
  | aborted (why : Abort)

/-- What can be seen of a step: its result, the notices in it, and the process after it. -/
structure Report (lib : Library) where
  result : Result
  notices : List Notice
  after : Host lib

/-- Sets up a log and reports on it. -/
def attempt (h : Host lib) (s : Settings) : Report lib :=
  match h.install s with
  | .ok after => ⟨.done, [], after⟩
  | .error fault => ⟨.refused fault, [], h⟩

/-- Takes a step. -/
def step (h : Host lib) : Step → Report lib
  | .setVariable name value =>
    ⟨.done, [], { h with environment := h.environment.put name value }⟩
  | .unsetVariable name => ⟨.done, [], { h with environment := h.environment.erase name }⟩
  | .levelOf name => ⟨.level (h.levelOf name), [], h⟩
  | .selected => ⟨.level h.select.1, [], h.select.2⟩
  | .settings => ⟨.level (Settings.mk h.select.1).level, [], h.select.2⟩
  | .install settings => h.attempt settings
  | .installSelected => h.select.2.attempt ⟨h.select.1⟩
  | .start =>
    match h.select.2.install ⟨h.select.1⟩ with
    | .ok after => ⟨.done, [], after⟩
    | .error .alreadySetUp => ⟨.done, [.logKept], h.select.2⟩
  | .errand e =>
    let o := e.run
    let result := match o.ending with
      | .ok (.ok l) => Result.location l
      | .ok (.error failure) => .failed failure
      | .error why => .aborted why
    ⟨result, o.trace.notices, h⟩

/-- The lines printed in a step. A step that sets up a log gives its notices after that, so the
library has them all in the state in which it is after the step. -/
def Report.lines (r : Report lib) : List String :=
  r.notices.flatMap fun n => lib.emit r.after.log n.event

/-- Takes steps one after another and reports on each. -/
def run : Host lib → List Step → List (Report lib)
  | _, [] => []
  | h, s :: rest =>
    let report := h.step s
    report :: run report.after rest

end Host

end TapeRecall.Log
