import TapeRecall.Agent
import TapeRecall.Proofs.Outcome.Recall
import TapeRecall.Proofs.Outcome.Scan

/-!
# What the operations of an agent come to

Setting up a session and ending one make one call each and change nothing in the archive. What
they change is the agent, and that depends on the answer in the first case only: an agent that
ends its session is without one whatever the archive says.
-/

set_option autoImplicit false

namespace TapeRecall

namespace Session

/-- What setting up a session leaves in the trace, by the answer of the archive. -/
def establishment (mechanism principal keytab : String) (answer : Option Status) : Trace :=
  let chosen := Mechanism.ofName mechanism
  .notice .loginEntered ::
    (if Mechanism.isRecognized mechanism then [] else [.notice (.mechanismUnknown mechanism)]) ++
    .notice (.credentialsOffered chosen principal keytab) ::
    .call (.login chosen principal keytab) (.ofAnswer answer) ::
    (match answer with
      | none => [.notice (.loginLeft true)]
      | some status => [.notice (.credentialsRefused status principal), .notice (.loginLeft false)])

/-- What ending a session leaves in the trace, by the answer of the archive. -/
def completion (s : Session) (answer : Option Status) : Trace :=
  .notice (.logoutEntered s.principal) :: .call .purge (.ofAnswer answer) ::
    (match answer with
      | none => [.notice (.logoutLeft true)]
      | some status => [.notice (.purgeRefused status s.principal), .notice (.logoutLeft false)])

@[simp] theorem replies_establishment (mechanism principal keytab : String)
    (answer : Option Status) :
    (establishment mechanism principal keytab answer).replies =
      [(.login (.ofName mechanism) principal keytab, .ofAnswer answer)] := by
  cases hm : Mechanism.isRecognized mechanism <;> cases answer <;> simp [establishment, hm]

@[simp] theorem replies_completion (s : Session) (answer : Option Status) :
    (s.completion answer).replies = [(.purge, .ofAnswer answer)] := by
  cases answer <;> simp [completion]

theorem establish_apply (mechanism principal keytab : String) (a : Archive) :
    establish mechanism principal keytab a =
      ⟨.ok (match a.answers.login with
        | none => .ok ⟨.ofName mechanism, principal, keytab⟩
        | some status => .error (.authentication status)), a,
        establishment mechanism principal keytab a.answers.login⟩ := by
  cases hm : Mechanism.isRecognized mechanism <;> cases hl : a.answers.login <;>
    simp [establish, establishment, Proc.bind_apply, Proc.map_apply, Except.map, hm, hl,
      Archive.login_apply, Archive.given]

theorem finish_apply (s : Session) (a : Archive) :
    s.finish a = ⟨.ok (match a.answers.purge with
      | none => .ok ()
      | some status => .error (.release status)), a, s.completion a.answers.purge⟩ := by
  cases hp : a.answers.purge <;>
    simp [finish, completion, Proc.bind_apply, Proc.map_apply, Except.map, hp,
      Archive.purge_apply, Archive.given]

end Session

namespace Agent

/-! ## Sessions -/

theorem isActive_of_none {a : Agent} (h : a.session = none) : a.isActive = false := by
  rw [isActive, h]
  rfl

theorem isActive_of_some {a : Agent} {session : Session} (h : a.session = some session) :
    a.isActive = true := by
  rw [isActive, h]
  rfl

theorem login_apply_of_some {a : Agent} {session : Session} (h : a.session = some session)
    (mechanism principal keytab : String) (s : Archive) :
    a.login mechanism principal keytab s =
      ⟨.ok (a, .error .alreadyActive), s, [.notice (.loginRepeated principal)]⟩ := by
  simp [login, h, Proc.map_apply, Except.map]

theorem login_apply_of_none {a : Agent} (h : a.session = none)
    (mechanism principal keytab : String) (s : Archive) :
    a.login mechanism principal keytab s =
      ⟨.ok (match s.answers.login with
        | none => (⟨some ⟨.ofName mechanism, principal, keytab⟩⟩, .ok ())
        | some status => (a, .error (.authentication status))), s,
        Session.establishment mechanism principal keytab s.answers.login⟩ := by
  cases hl : s.answers.login <;>
    simp [login, h, Proc.bind_apply, Session.establish_apply, hl]

theorem logout_apply_of_none {a : Agent} (h : a.session = none) (s : Archive) :
    a.logout s = ⟨.ok (a, .error .noSession), s, []⟩ := by
  simp [logout, h]

/-- The agent is without a session afterwards, whatever the archive answers. -/
theorem logout_apply_of_some {a : Agent} {session : Session} (h : a.session = some session)
    (s : Archive) :
    a.logout s = ⟨.ok (⟨none⟩, match s.answers.purge with
      | none => .ok ()
      | some status => .error (.release status)), s, session.completion s.answers.purge⟩ := by
  simp [logout, h, Proc.map_apply, Except.map, Session.finish_apply]

theorem retire_apply_of_none {a : Agent} (h : a.session = none) (s : Archive) :
    a.retire s = ⟨.ok (), s, []⟩ := by
  simp [retire, h]

theorem retire_apply_of_some {a : Agent} {session : Session} (h : a.session = some session)
    (s : Archive) :
    a.retire s = ⟨.ok (), s, session.completion s.answers.purge ++
      (match s.answers.purge with
        | none => []
        | some status => [.notice (.retiredUnreleased (.release status))])⟩ := by
  cases hp : s.answers.purge <;>
    simp [retire, h, Proc.bind_apply, Session.finish_apply, hp]

theorem replies_retire_of_some {a : Agent} {session : Session} (h : a.session = some session)
    (s : Archive) :
    (a.retire s).trace.replies = [(.purge, .ofAnswer s.answers.purge)] := by
  rw [retire_apply_of_some h, Trace.replies_append, Session.replies_completion]
  rcases s.answers.purge with _ | status <;> rfl

/-! ## Files -/

theorem locate_of_active {a : Agent} (h : a.isActive = true) (file : String) :
    a.locate file = Scan.locate file := by
  simp [locate, h]

/-- Without a session nothing is asked of the archive. -/
theorem locate_apply_of_inactive {a : Agent} (h : a.isActive = false) (file : String)
    (s : Archive) : a.locate file s = ⟨.ok (.error .noSession), s, []⟩ := by
  simp [locate, h]

/-- An agent that comes back with a location has a session, and the location is the verdict on what
the archive knows of the name. -/
theorem verdict_of_located {a : Agent} {file : String} {s : Archive} {l : Location}
    (h : (a.locate file s).ending = .ok (.ok l)) :
    ∃ x, s.known file = .ok x ∧ Scan.verdict x = .ok (.ok l) := by
  by_cases ha : a.isActive = true
  · rw [locate_of_active ha] at h
    rcases hk : s.known file with status | x
    · rw [Scan.locate_apply_of_error hk] at h
      cases h
    · rw [Scan.locate_apply_of_ok hk] at h
      exact ⟨x, rfl, h⟩
  · rw [locate_apply_of_inactive (by simpa using ha)] at h
    cases h

theorem recallFile_of_active {a : Agent} (h : a.isActive = true) (r : Request) :
    a.recallFile r = Recall.perform r := by
  simp [recallFile, h]

theorem recallFile_apply_of_inactive {a : Agent} (h : a.isActive = false) (r : Request)
    (s : Archive) : a.recallFile r s = ⟨.ok (.error .noSession), s, []⟩ := by
  simp [recallFile, h]

end Agent

end TapeRecall
