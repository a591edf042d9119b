import TapeRecall.Archive
import TapeRecall.Text.Path
import TapeRecall.Text.Quoted

/-!
# Sessions

A session stands for credentials that the archive accepted. Setting one up makes one call,
and so does ending it. A session that is ended is over whatever the archive answers: a refusal
to purge its credentials is reported and changes nothing about that.
-/

set_option autoImplicit false

namespace TapeRecall

/-- Credentials that the archive accepted. -/
structure Session where
  mechanism : Mechanism
  principal : String
  /-- The path of the key table, as it was given. -/
  keytab : String
deriving DecidableEq

namespace Session

/-- Sets up a session with the mechanism that a name selects. -/
def establish (mechanism principal keytab : String) :
    Proc Archive (Except SessionFault Session) := do
  Proc.notify .loginEntered
  let chosen := Mechanism.ofName mechanism
  unless Mechanism.isRecognized mechanism do
    Proc.notify (.mechanismUnknown mechanism)
  Proc.notify (.credentialsOffered chosen principal keytab)
  match ← Archive.login chosen principal keytab with
  | .ok () =>
    Proc.notify (.loginLeft true)
    return .ok ⟨chosen, principal, keytab⟩
  | .error status =>
    Proc.notify (.credentialsRefused status principal)
    Proc.notify (.loginLeft false)
    return .error (.authentication status)

/-- Ends a session. -/
def finish (s : Session) : Proc Archive (Except SessionFault Unit) := do
  Proc.notify (.logoutEntered s.principal)
  match ← Archive.purge with
  | .ok () =>
    Proc.notify (.logoutLeft true)
    return .ok ()
  | .error status =>
    Proc.notify (.purgeRefused status s.principal)
    Proc.notify (.logoutLeft false)
    return .error (.release status)

/-- Two sessions are the same when they agree in mechanism and principal and their key tables
lie under the same path; how that path is spelled does not matter. -/
def same (s t : Session) : Bool :=
  s.mechanism = t.mechanism && s.principal = t.principal &&
    Text.Path.parse s.keytab = Text.Path.parse t.keytab

/-- A description of the session. -/
def describe (s : Session) : String :=
  "Session \x7b mechanism: " ++ s.mechanism.title ++ ", principal: " ++ Text.quote s.principal ++
    ", keytab: " ++ Text.quote s.keytab ++ " \x7d"

end Session

end TapeRecall
