import TapeRecall.Log.Library
import TapeRecall.Text.Quoted

/-!
# A plain library

The plainest library for a log that keeps what is promised of one. A line shows a field's text
unquoted, except for a text that came in from outside as it is: that one is quoted, so that it
cannot pass for something else.
-/

set_option autoImplicit false

namespace TapeRecall.Log

/-- The value as it stands in a line. -/
def Field.printed : Field → String
  | .plain text => Text.quote text
  | field => field.text

/-- The line of an event: how verbose it is, the message and the fields in their order. -/
def Event.line (e : Event) : String :=
  let pairs := e.fields.map fun f => " " ++ f.1 ++ "=" ++ f.2.printed
  e.verbosity.name ++ " " ++ e.message ++ String.join pairs

/-- The filter lets the event pass. -/
def Filter.admits : Filter → Event → Bool
  | .off, _ => false
  | .upTo most, e => e.verbosity.rank ≤ most.rank

/-- A subscriber that has nothing but its layers. -/
structure Stack where
  filters : List Filter := []
  /-- How many layers print. -/
  printers : Nat := 0

namespace Library

/-- Every printing layer of a stack prints what passes all its filters, and the first stack that
is set stays. -/
def plain : Library where
  Subscriber := Stack
  registry := {}
  withFilter s f := { s with filters := f :: s.filters }
  withLines s := { s with printers := s.printers + 1 }
  prints s e := if s.filters.all (·.admits e) then List.replicate s.printers e.line else []
  render := Event.line
  Global := Option Stack
  fresh := none
  tryInit
    | s, none => some (some s)
    | _, some _ => none
  emit
    | none, _ => []
    | some s, e => if s.filters.all (·.admits e) then List.replicate s.printers e.line else []

theorem plain_documented : plain.Documented where
  line := fun _ => rfl
  passed := by
    intro s most e h
    simp [plain, Filter.admits, h]
  stopped := by
    intro s most e h
    simp [plain, Filter.admits, Nat.not_le.2 h]
  silent := fun _ _ => rfl
  unset := fun _ => rfl
  first := fun _ => rfl
  taken := by
    intro s g h htaken e
    -- it was taken, so there was none before
    cases g with
    | none =>
        cases htaken
        rfl
    | some old => cases htaken
  once := by
    intro s g h htaken t
    cases g with
    | none =>
        cases htaken
        rfl
    | some old => cases htaken

end Library

end TapeRecall.Log
