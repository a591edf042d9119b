import TapeRecall.Log.Field

/-!
# The library of the log

A process does not print its log itself. A library does, which is somebody else's: it builds a
subscriber out of layers, makes one subscriber that of the whole process, and hands the events
of the process to it. What it is like inside is left open here. It is a parameter, and
`Library.Documented` says what its documentation promises, one promise after the other.

A line begins with the time when it was printed. That is nothing that an event has, so lines are
taken without it.
-/

set_option autoImplicit false

namespace TapeRecall.Log

/-- What a process uses of the library of its log. -/
structure Library where
  /-- Takes events and may print them. -/
  Subscriber : Type
  /-- The subscriber without layers. -/
  registry : Subscriber
  /-- Adds a layer that lets pass what a filter admits, for all layers. -/
  withFilter : Subscriber → Filter → Subscriber
  /-- Adds a layer that prints what reaches it, without colours and without the place in the
  program. -/
  withLines : Subscriber → Subscriber
  /-- The lines that a subscriber prints for an event. -/
  prints : Subscriber → Event → List String
  /-- The line that is printed for an event. -/
  render : Event → String
  /-- What the library keeps for the whole process. -/
  Global : Type
  /-- What it keeps when the process starts. -/
  fresh : Global
  /-- Makes a subscriber that of the process, unless that is refused. -/
  tryInit : Subscriber → Global → Option Global
  /-- The lines that are printed for an event of the process. -/
  emit : Global → Event → List String

namespace Library

/-- What the documentation promises. -/
structure Documented (lib : Library) : Prop where
  /-- A layer that prints has one line for each event. -/
  line : ∀ e, lib.prints (lib.withLines lib.registry) e = [lib.render e]
  /-- A filter lets pass an event that is as verbose as its bound, or less, -/
  passed : ∀ s most e, e.verbosity.rank ≤ most.rank →
    lib.prints (lib.withLines (lib.withFilter s (.upTo most))) e = lib.prints (lib.withLines s) e
  /-- and it stops one that is more verbose. -/
  stopped : ∀ s most e, most.rank < e.verbosity.rank →
    lib.prints (lib.withLines (lib.withFilter s (.upTo most))) e = []
  /-- The filter that is off stops every event. -/
  silent : ∀ s e, lib.prints (lib.withLines (lib.withFilter s .off)) e = []
  /-- As long as the process has no subscriber its events are lost. -/
  unset : ∀ e, lib.emit lib.fresh e = []
  /-- A process has no subscriber when it starts, so the first one is taken. -/
  first : ∀ s, (lib.tryInit s lib.fresh).isSome = true
  /-- The subscriber of the process gets its events. -/
  taken : ∀ s g h, lib.tryInit s g = some h → ∀ e, lib.emit h e = lib.prints s e
  /-- It can be set only once. -/
  once : ∀ s g h, lib.tryInit s g = some h → ∀ t, lib.tryInit t h = none

end Library

end TapeRecall.Log
