import Mathlib.Data.List.Forall2
import TapeRecall.Proofs.Ordinary

/-!
# Names that select nothing

Every name but one selects the unix mechanism. Here two histories are compared in which sessions are
set up under different names, and the names select the same mechanism. Then the two go on together:
whatever was called by another name left the same world, so the next step starts from there in both.
What is left of the names is the notice of an unknown one, which is in the log of the one or of the
other, and nothing but a setting up of a session ever puts it there.
-/

set_option autoImplicit false

namespace TapeRecall

namespace Mechanism

/-- It makes a difference whether a name is the one that selects kerberos, and none which other name
it is. -/
theorem ofName_eq_of_iff {m n : String} (h : m = "kerberos" ↔ n = "kerberos") :
    ofName m = ofName n := by
  unfold ofName
  simp only [h]

theorem isRecognized_eq_false_iff (m : String) :
    isRecognized m = false ↔ m ≠ "unix" ∧ m ≠ "kerberos" := by
  simp [isRecognized]

end Mechanism

/-! ## The notice of an unknown name -/

/-- In a log these notices are known by their level and their words. -/
theorem Notice.isFallback_iff (n : Notice) : n.isFallback = true ↔
    n.level = .debug ∧ n.message = "unknown mechanism, falling back to unix" := by
  cases n <;> simp [isFallback, level, message]

/-- The incident is not the notice of an unknown name. -/
def Incident.isKept : Incident → Bool
  | .call .. | .stray _ => true
  | .notice n => !n.isFallback

namespace Trace

/-- The trace without the notices of unknown names. -/
def withoutFallbacks (t : Trace) : Trace := t.filter Incident.isKept

/-- The notices of unknown names. -/
def fallbacks (t : Trace) : List Notice := t.notices.filter Notice.isFallback

theorem fallbacks_eq_nil {t : Trace} (h : t.isOrdinary = true) : t.fallbacks = [] := by
  induction t with
  | nil => rfl
  | cons i t ih =>
      rw [isOrdinary_cons, Bool.and_eq_true] at h
      obtain ⟨hi, ht⟩ := h
      cases i with
      | call c r => exact ih ht
      | stray c => cases hi
      | notice n =>
          have hno : ¬ n.isFallback = true := by simpa [Incident.isOrdinary] using hi
          rw [fallbacks, notices_notice, List.filter_cons_of_neg hno]
          exact ih ht

end Trace

/-! ## Who says it

Setting up a session is the one place where a name is looked at. -/

namespace Session

theorem fallbacks_establishment (mechanism principal keytab : String) (answer : Option Status) :
    (establishment mechanism principal keytab answer).fallbacks =
      if Mechanism.isRecognized mechanism then [] else [.mechanismUnknown mechanism] := by
  unfold establishment
  split <;> cases answer <;> rfl

end Session

namespace Agent

theorem fallbacks_login (a : Agent) (mechanism principal keytab : String) (s : Archive) :
    (a.login mechanism principal keytab s).trace.fallbacks =
      if a.isActive = false ∧ mechanism ≠ "unix" ∧ mechanism ≠ "kerberos"
        then [.mechanismUnknown mechanism] else [] := by
  rcases h : a.session with _ | session
  · have hactive := isActive_of_none h
    -- with no session it depends on the name alone
    rw [login_apply_of_none h, Session.fallbacks_establishment]
    simp only [hactive, true_and, ← Mechanism.isRecognized_eq_false_iff]
    cases Mechanism.isRecognized mechanism <;> rfl
  · have hactive := isActive_of_some h
    rw [login_apply_of_some h, hactive]
    rfl

end Agent

namespace World

/-- A direct call is not reported on at all. -/
theorem fallbacks_direct (w : World) (c : DirectCall) : (w.direct c).trace.fallbacks = [] := by
  cases c with
  | recallFile handle offset length tier =>
      rw [direct, call_trace]
      rcases hg : w.archive.handles.get? handle with _ | file
      · rw [Archive.recallFile_apply_of_none hg]
        rfl
      · rw [Archive.recallFile_apply_of_some hg]
        rfl
  | closeFile handle =>
      rw [direct, call_trace]
      rcases hg : w.archive.handles.get? handle with _ | file
      · rw [Archive.closeFile_apply_of_none hg]
        rfl
      · rw [Archive.closeFile_apply_of_some hg]
        rfl
  | _ => exact Trace.fallbacks_eq_nil (w.isOrdinary_direct rfl)

theorem fallbacks_step_login (w : World) (n : Nat) (mechanism principal keytab : String) :
    (w.step ⟨n, .login mechanism principal keytab⟩).trace.fallbacks =
      if (w.agent n).isActive = false ∧ mechanism ≠ "unix" ∧ mechanism ≠ "kerberos"
        then [.mechanismUnknown mechanism] else [] := by
  rw [step_login, callAgent, callThen_trace]
  exact (w.agent n).fallbacks_login mechanism principal keytab w.archive

theorem fallbacks_step_of_ne (w : World) {s : Step}
    (h : ∀ mechanism principal keytab, s.action ≠ .login mechanism principal keytab) :
    (w.step s).trace.fallbacks = [] := by
  obtain ⟨n, action⟩ := s
  cases action with
  | direct c => exact (w.engage n).fallbacks_direct c
  | _ => exact Trace.fallbacks_eq_nil (w.isOrdinary_step h rfl)

end World

/-! ## The same history under other names -/

/-- The two steps are the same, or both set up a session and differ in the name of the mechanism, of
which both or neither is the one that selects kerberos. -/
inductive Step.Renamed : Step → Step → Prop
  | same (s : Step) : Renamed s s
  | login (n : Nat) {first second : String} (principal keytab : String)
      (alike : first = "kerberos" ↔ second = "kerberos") :
      Renamed ⟨n, .login first principal keytab⟩ ⟨n, .login second principal keytab⟩

/-- Two reports of a step agree in its result, in its calls, in all that there is afterwards, and in
the log but for the notices of unknown names. -/
structure Report.SameButFallbacks (r u : Report) : Prop where
  result : r.result = u.result
  calls : r.trace.replies = u.trace.replies
  after : r.after = u.after
  log : r.trace.withoutFallbacks = u.trace.withoutFallbacks

theorem Report.SameButFallbacks.refl (r : Report) : r.SameButFallbacks r := ⟨rfl, rfl, rfl, rfl⟩

theorem Session.withoutFallbacks_establishment {first second : String}
    (h : Mechanism.ofName first = Mechanism.ofName second) (principal keytab : String)
    (answer : Option Status) :
    (establishment first principal keytab answer).withoutFallbacks =
      (establishment second principal keytab answer).withoutFallbacks := by
  unfold establishment
  rw [h]
  -- the notice is the one thing that is left of the names
  cases Mechanism.isRecognized first <;> cases Mechanism.isRecognized second <;>
    cases answer <;> rfl

namespace World

theorem step_renamed (w : World) {s t : Step} (h : s.Renamed t) :
    (w.step s).SameButFallbacks (w.step t) := by
  cases h with
  | same => exact .refl _
  | @login n first second principal keytab alike =>
      have hname := Mechanism.ofName_eq_of_iff alike
      rw [step_login, step_login]
      -- with a session there is no setting up, and neither name is looked at
      rcases hs : (w.agent n).session with _ | session
      · have hfirst := Agent.login_apply_of_none hs first principal keytab w.archive
        have hsecond := Agent.login_apply_of_none hs second principal keytab w.archive
        rw [callAgent_of_eq (w := w.engage n) hfirst, callAgent_of_eq (w := w.engage n) hsecond]
        refine ⟨?_, ?_, ?_, Session.withoutFallbacks_establishment hname principal keytab _⟩
        · dsimp only
          rw [hname]
        · dsimp only
          rw [Session.replies_establishment, Session.replies_establishment, hname]
        · dsimp only
          rw [hname]
      · have hfirst := Agent.login_apply_of_some hs first principal keytab w.archive
        have hsecond := Agent.login_apply_of_some hs second principal keytab w.archive
        rw [callAgent_of_eq (w := w.engage n) hfirst, callAgent_of_eq (w := w.engage n) hsecond]
        exact .refl _

/-- The two histories go through the same worlds, and report the same but for the notices. -/
theorem run_renamed (w : World) {steps others : List Step}
    (h : List.Forall₂ Step.Renamed steps others) :
    w.afterAll steps = w.afterAll others ∧
      List.Forall₂ Report.SameButFallbacks (w.run steps) (w.run others) := by
  induction h generalizing w with
  | nil => exact ⟨rfl, .nil⟩
  | @cons s t steps others hstep _ ih =>
      -- the two first steps leave one world, and the rest of both histories starts there
      have hsame := w.step_renamed hstep
      obtain ⟨hafter, hrun⟩ := ih (w.step s).after
      refine ⟨?_, .cons hsame ?_⟩
      · rw [afterAll_cons, afterAll_cons, hafter, hsame.after]
      · rwa [hsame.after] at hrun ⊢

/-- **All names but one are the same.** Take any history, and set up its sessions under other names,
kerberos for kerberos and anything else for anything else. Then step by step, to the retirement of
everybody who is left, the two histories have the same results, make the same calls, leave the same
world with its agents, sessions, queries, counts and all, and report the same but for the notices of
unknown names. Such a notice is reported once by a setting up of a session, if the agent has none
and the name is neither of the two known ones, and never otherwise; in a log it is known by its
level and its words. -/
theorem unknown_names_alike (w : World) {steps others : List Step}
    (renamed : List.Forall₂ Step.Renamed steps others) :
    List.Forall₂ Report.SameButFallbacks (w.history steps) (w.history others) ∧
    (∀ (v : World) (n : Nat) (mechanism principal keytab : String),
      (v.step ⟨n, .login mechanism principal keytab⟩).trace.fallbacks =
        if (v.agent n).isActive = false ∧ mechanism ≠ "unix" ∧ mechanism ≠ "kerberos"
          then [.mechanismUnknown mechanism] else []) ∧
    (∀ (v : World) (s : Step),
      (∀ mechanism principal keytab, s.action ≠ .login mechanism principal keytab) →
        (v.step s).trace.fallbacks = []) ∧
    ∀ n : Notice, n.isFallback = true ↔
      n.level = .debug ∧ n.message = "unknown mechanism, falling back to unix" := by
  refine ⟨?_, fallbacks_step_login, fun v s hs => v.fallbacks_step_of_ne hs, Notice.isFallback_iff⟩
  obtain ⟨hafter, hrun⟩ := w.run_renamed renamed
  rw [history, history, hafter]
  -- the retirements are the same steps in the same world
  have hdismissal := List.forall₂_same.2 fun r
    (_ : r ∈ (w.afterAll others).run (w.afterAll others).dismissal) =>
      Report.SameButFallbacks.refl r
  exact List.rel_append hrun hdismissal

/-- An agent is set up under a refused name, then under another, then under a third, which comes too
early at first; it works between these, and there is a second agent beside it. -/
def setUps (first second third : String) : List Step :=
  [⟨0, .enter "/t" (.file [.vacant .diskLevel, .onTape 7 "A" 12 1])⟩,
    ⟨0, .answers { login := some .badHandle }⟩, ⟨0, .login first "p" "/k"⟩, ⟨0, .answers {}⟩,
    ⟨0, .login second "p" "/k"⟩, ⟨0, .login third "p" "/k"⟩, ⟨1, .login "kerberos" "p" "/k"⟩,
    ⟨0, .compare 1⟩, ⟨0, .describe⟩, ⟨0, .start 3 "/t"⟩, ⟨0, .inquire 3 .run⟩, ⟨0, .logout⟩,
    ⟨0, .login third "q" "/k"⟩]

theorem setUps_alike :
    let start := opening {} .empty
    let steps := setUps "ntlm" "unix" ""
    let others := setUps "unix" "Kerberos" "pam"
    List.Forall₂ Step.Renamed steps others ∧
      List.Forall₂ Report.SameButFallbacks (start.history steps) (start.history others) ∧
      (start.step ⟨0, .login "Kerberos" "p" "/k"⟩).trace.fallbacks = [.mechanismUnknown "Kerberos"] ∧
      (start.step ⟨0, .logout⟩).trace.fallbacks = [] := by
  intro start steps others
  have renamed : List.Forall₂ Step.Renamed steps others :=
    .cons (.same _) <| .cons (.same _) <| .cons (.login 0 "p" "/k" (by decide)) <|
    .cons (.same _) <| .cons (.login 0 "p" "/k" (by decide)) <|
    .cons (.login 0 "p" "/k" (by decide)) <| .cons (.same _) <| .cons (.same _) <|
    .cons (.same _) <| .cons (.same _) <| .cons (.same _) <| .cons (.same _) <|
    .cons (.login 0 "q" "/k" (by decide)) .nil
  obtain ⟨hsame, hlogin, hrest, -⟩ := unknown_names_alike start renamed
  refine ⟨renamed, hsame, ?_, hrest start _ fun _ _ _ => nofun⟩
  rw [hlogin]
  decide

end World

end TapeRecall
