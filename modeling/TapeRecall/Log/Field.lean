import TapeRecall.Log.Level

/-!
# Fields and events

What a program hands to the log: how verbose it is, a message, and named fields. The message
holds no values; they are all in the fields.
-/

set_option autoImplicit false

namespace TapeRecall.Log

/-- The value of a field. -/
inductive Field where
  /-- A text that came in from outside. -/
  | plain (text : String)
  /-- The written form of a value of the program. -/
  | shown (text : String)
  | number (value : Int)
  | flag (value : Bool)
deriving DecidableEq

/-- The value as text. -/
def Field.text : Field → String
  | .plain text => text
  | .shown text => text
  | .number value => value.repr
  | .flag true => "true"
  | .flag false => "false"

/-- An event, as it is handed to the log. -/
structure Event where
  verbosity : Verbosity
  message : String
  /-- The fields with their names, in the order in which they are shown. -/
  fields : List (String × Field)
deriving DecidableEq

end TapeRecall.Log
