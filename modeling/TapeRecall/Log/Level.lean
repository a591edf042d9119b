/-!
# Levels

How much a log shows. The levels are ordered from silent to most talkative, and each shows
what the levels before it show. A level is selected by its name, and only by that: any other
text, a name in lower case included, selects silence.

A level is a choice of whoever runs the program. Whoever keeps the log knows nothing of it:
there an event is verbose to some degree, and a filter lets pass what is verbose up to a
degree. So a level is handed on as a filter, and an event has the least level that shows it.
-/

set_option autoImplicit false

namespace TapeRecall.Log

/-! ## Events and filters -/

/-- How verbose an event is, the least verbose first. -/
inductive Verbosity where
  | error
  | warn
  | info
  | debug
  | trace
deriving DecidableEq

namespace Verbosity

/-- The place of a degree in the order. -/
def rank : Verbosity → Nat
  | .error => 0
  | .warn => 1
  | .info => 2
  | .debug => 3
  | .trace => 4

/-- The name that an event carries in a log. -/
def name : Verbosity → String
  | .error => "ERROR"
  | .warn => "WARN"
  | .info => "INFO"
  | .debug => "DEBUG"
  | .trace => "TRACE"

end Verbosity

/-- What a log lets pass. -/
inductive Filter where
  /-- Nothing. -/
  | off
  /-- What is as verbose as this, or less. -/
  | upTo (most : Verbosity)
deriving DecidableEq

/-- The name of a filter. -/
def Filter.name : Filter → String
  | .off => "off"
  | .upTo .error => "error"
  | .upTo .warn => "warn"
  | .upTo .info => "info"
  | .upTo .debug => "debug"
  | .upTo .trace => "trace"

/-! ## Levels -/

/-- How much is shown, from nothing to everything. -/
inductive Level where
  /-- Nothing. -/
  | off
  /-- What failed. -/
  | warn
  /-- How an object was classified, too. -/
  | info
  /-- What was selected and why, too. -/
  | debug
  /-- Entry to and exit from every operation, too. -/
  | trace
deriving DecidableEq

namespace Level

/-- The place of a level in the order. -/
def rank : Level → Nat
  | .off => 0
  | .warn => 1
  | .info => 2
  | .debug => 3
  | .trace => 4

/-- The name that selects the level; nothing selects silence but the lack of a name. -/
def name : Level → String
  | .off => ""
  | .warn => "WARN"
  | .info => "INFO"
  | .debug => "DEBUG"
  | .trace => "TRACE"

/-- The written form, which has a word for silence as well. -/
def text : Level → String
  | .off => "OFF"
  | l => l.name

/-- The filter that lets pass what the level shows. -/
def bound : Level → Filter
  | .off => .off
  | .warn => .upTo .warn
  | .info => .upTo .info
  | .debug => .upTo .debug
  | .trace => .upTo .trace

/-- The name of that filter. -/
def filter (l : Level) : String := l.bound.name

/-- The level that a text selects. -/
def parse (s : String) : Level :=
  if s = "TRACE" then .trace
  else if s = "DEBUG" then .debug
  else if s = "INFO" then .info
  else if s = "WARN" then .warn
  else .off

/-- The level that the bytes of an environment variable select. Bytes that are no text select
silence. -/
def ofBytes (bytes : ByteArray) : Level :=
  match String.fromUTF8? bytes with
  | some s => parse s
  | none => .off

/-- Bytes that are the text of a string select what the string selects. -/
theorem ofBytes_toByteArray (s : String) : ofBytes s.toByteArray = parse s := by
  simp [ofBytes, String.fromUTF8?, s.isValidUTF8, String.fromUTF8]

/-- Whether a log at this level shows what is marked `mark`. Nothing can be marked `off`. -/
def enables (l mark : Level) : Bool :=
  mark ≠ .off && mark.rank ≤ l.rank

instance : Ord Level := ⟨fun a b => compare a.rank b.rank⟩

@[simp] theorem parse_name (l : Level) : parse l.name = l := by
  cases l <;> decide

end Level

/-- The least level that shows an event. An error is a failure, and there is no level for
errors alone. -/
@[simp] def Verbosity.level : Verbosity → Level
  | .error | .warn => .warn
  | .info => .info
  | .debug => .debug
  | .trace => .trace

/-- The filter of a level lets pass what the level shows, and nothing else. -/
theorem Level.enables_level_iff (l : Level) (v : Verbosity) :
    l.enables v.level = true ↔ ∃ most, l.bound = .upTo most ∧ v.rank ≤ most.rank := by
  cases l <;> cases v <;> simp [bound, enables, rank, Verbosity.rank]

end TapeRecall.Log
