import Mathlib.Computability.Language
import TapeRecall.Proofs.Frame

/-!
# The discipline of an agent

What an agent asks of the archive over its life is a word of a small language. It offers
credentials until they are accepted, works on files, and purges the credentials, and so on from the
start; and each piece of work on a file is one whole block of calls.

The language is said with the operators of Mathlib's `Language`, over calls with their replies. The
step lemma is `World.passage_step`: it pairs the session of the agent before a step, what the agent
asks in it, and the session after it. Three readings of such a passage give the three halves of the
main statement: the word so far, the session that the calls leave standing, and the order in which
credentials and files may be called for.
-/

set_option autoImplicit false

open scoped Computability

namespace TapeRecall

/-! ## The language -/

namespace Discipline

/-- Credentials that the archive refused. -/
def loginRefused : Language Exchange :=
  show Set (List Exchange) from
    {w | ∃ m principal keytab status, w = [(.login m principal keytab, .refused status)]}

/-- Credentials that the archive accepted. -/
def loginAccepted : Language Exchange :=
  show Set (List Exchange) from
    {w | ∃ m principal keytab, w = [(.login m principal keytab, .accepted)]}

/-- A purge, whatever the archive answers. -/
def purge : Language Exchange :=
  show Set (List Exchange) from {w | ∃ reply, w = [(.purge, reply)]}

/-- A query of what is known of a file, and then volumes that go back. -/
def inquiry : Language Exchange :=
  show Set (List Exchange) from
    {w | ∃ file reply, ∃ volumes : List UInt64,
      w = (.query file, reply) :: volumes.map fun v => (.release v, .accepted)}

/-- An opening that the archive refused. -/
def refusedOpening : Language Exchange :=
  show Set (List Exchange) from
    {w | ∃ file mode status, w = [(.openFile file mode, .refused status)]}

/-- An opening with the recall and the close that belong to it. -/
def acceptedOpening : Language Exchange :=
  show Set (List Exchange) from
    {w | ∃ file mode offset length tier reply last,
      w = [(.openFile file mode, .accepted), (.recallFile file offset length tier, reply),
        (.closeFile file, last)]}

/-- One piece of work on a file. -/
def fileBlock : Language Exchange := inquiry + refusedOpening + acceptedOpening

/-- One session from its credentials to the end of them. -/
def session : Language Exchange := loginAccepted * fileBlock∗ * purge

/-- A whole life. -/
def life : Language Exchange := (loginRefused + session)∗

/-- A life up to now, by whether there is a session just now. -/
def lifeSoFar : Option Session → Language Exchange
  | none => life
  | some _ => life * (loginAccepted * fileBlock∗)

theorem mem_life_append {v w : List Exchange} (hv : v ∈ life) (hw : w ∈ loginRefused + session) :
    v ++ w ∈ life := by
  have hone : w ∈ (loginRefused + session)∗ := by
    have h := Language.join_mem_kstar (L := [w]) (by simpa using hw)
    simpa using h
  have hmul : v ++ w ∈ life * (loginRefused + session)∗ := Language.append_mem_mul hv hone
  rw [life, kstar_mul_kstar] at hmul
  exact hmul

theorem mem_blocks_append {v w : List Exchange} (hv : v ∈ fileBlock∗) (hw : w ∈ fileBlock∗) :
    v ++ w ∈ fileBlock∗ := by
  have hmul : v ++ w ∈ fileBlock∗ * fileBlock∗ := Language.append_mem_mul hv hw
  rwa [kstar_mul_kstar] at hmul

theorem block_mem_blocks {w : List Exchange} (h : w ∈ fileBlock) : w ∈ fileBlock∗ := by
  have hone := Language.join_mem_kstar (L := [w]) (by simpa using h)
  simpa using hone

end Discipline

open Discipline

/-- Work on files is made of whole blocks. -/
theorem FileWork.mem_blocks {a b : Archive} {t : List Exchange} (h : FileWork a t b) :
    t ∈ fileBlock∗ := by
  induction h with
  | nothing => exact Language.nil_mem_kstar _
  | @queryRefused a b t file status _ ih =>
      have hblock : [(.query file, .refused status)] ∈ fileBlock :=
        Or.inl (Or.inl ⟨file, _, [], rfl⟩)
      exact mem_blocks_append (block_mem_blocks hblock) ih
  | @scanned a b t file x _ ih =>
      have hblock : (.query file, .accepted) ::
          (x.volumes.map fun v => (.release v.id, .accepted)) ∈ fileBlock := by
        refine Or.inl (Or.inl ⟨file, .accepted, x.volumes.map Volume.id, ?_⟩)
        rw [List.map_map]
        rfl
      exact mem_blocks_append (block_mem_blocks hblock) ih
  | @openRefused a b t file mode status _ ih =>
      have hblock : [(.openFile file mode, .refused status)] ∈ fileBlock :=
        Or.inl (Or.inr ⟨file, mode, status, rfl⟩)
      exact mem_blocks_append (block_mem_blocks hblock) ih
  | @recalled a b t r _ ih =>
      have hblock : Recall.exchanges r a.answers ∈ fileBlock :=
        Or.inr ⟨_, _, _, _, _, _, _, rfl⟩
      exact mem_blocks_append (block_mem_blocks hblock) ih

/-! ## The session that calls leave standing -/

/-- The session that stands after a call, by the call and its reply alone. -/
def Session.follow (s : Option Session) : Exchange → Option Session
  | (.login mechanism principal keytab, .accepted) => some ⟨mechanism, principal, keytab⟩
  | (.purge, _) => none
  | _ => s

/-- The credentials that were last accepted, unless a purge came after them. -/
def standing (calls : List Exchange) : Option Session := calls.foldl Session.follow none

/-- Whether a call may come while this session stands: credentials are offered without one, and
anything else needs one. -/
def Session.permits : Option Session → Exchange → Bool
  | none, (.login .., _) => true
  | none, _ => false
  | some _, (.login .., _) => false
  | some _, _ => true

/-- Every call comes while it may. -/
def heeded : Option Session → List Exchange → Bool
  | _, [] => true
  | s, e :: rest => Session.permits s e && heeded (Session.follow s e) rest

theorem heeded_append (s : Option Session) (t u : List Exchange) :
    heeded s (t ++ u) = (heeded s t && heeded (t.foldl Session.follow s) u) := by
  induction t generalizing s with
  | nil => rfl
  | cons e rest ih => rw [List.cons_append, heeded, heeded, ih, List.foldl_cons, Bool.and_assoc]

/-- Calls that are not about credentials leave a session standing and may come while it does. -/
theorem heeded_of_not_aboutCredentials {t : List Exchange}
    (h : ∀ e ∈ t, e.1.aboutCredentials = false) (s : Session) :
    t.foldl Session.follow (some s) = some s ∧ heeded (some s) t = true := by
  induction t with
  | nil => exact ⟨rfl, rfl⟩
  | cons e rest ih =>
      obtain ⟨call, reply⟩ := e
      have hcall := h (call, reply) List.mem_cons_self
      have hrest := ih fun e he => h e (List.mem_cons_of_mem _ he)
      -- of the calls that are left no equation of `follow` or `permits` singles one out
      have hfollow : Session.follow (some s) (call, reply) = some s := by
        cases call <;> first | rfl | cases hcall
      have hpermits : Session.permits (some s) (call, reply) = true := by
        cases call <;> first | rfl | cases hcall
      rw [List.foldl_cons, heeded, hfollow, hpermits, Bool.true_and]
      exact hrest

/-- Work on files makes no call about credentials. -/
theorem FileWork.not_aboutCredentials {a b : Archive} {t : List Exchange} (h : FileWork a t b) :
    ∀ e ∈ t, e.1.aboutCredentials = false := by
  induction h with
  | nothing => intro e he; cases he
  | queryRefused file status _ ih =>
      intro e he
      rcases List.mem_cons.1 he with rfl | he
      · rfl
      · exact ih e he
  | scanned file x _ ih =>
      intro e he
      rcases List.mem_append.1 he with hblock | he
      · rcases List.mem_cons.1 hblock with rfl | hrelease
        · rfl
        · obtain ⟨v, -, rfl⟩ := List.mem_map.1 hrelease
          rfl
      · exact ih e he
  | openRefused file mode status _ ih =>
      intro e he
      rcases List.mem_cons.1 he with rfl | he
      · rfl
      · exact ih e he
  | recalled r _ ih =>
      intro e he
      rcases List.mem_append.1 he with hblock | he
      · simp only [Recall.exchanges, List.mem_cons, List.not_mem_nil, or_false] at hblock
        rcases hblock with rfl | rfl | rfl <;> rfl
      · exact ih e he

/-! ## What an agent asks in one step -/

/-- The session of an agent before a step, what it asks in the step, and its session after it. -/
inductive Passage : Option Session → List Exchange → Option Session → Prop
  /-- Without a session nothing is asked. -/
  | idle : Passage none [] none
  | refused (m : Mechanism) (principal keytab : String) (status : Status) :
      Passage none [(.login m principal keytab, .refused status)] none
  | accepted (s : Session) :
      Passage none [(.login s.mechanism s.principal s.keytab, .accepted)] (some s)
  /-- In a session there may be any work on files. -/
  | files (s : Session) {t : List Exchange} (blocks : t ∈ fileBlock∗)
      (apart : ∀ e ∈ t, e.1.aboutCredentials = false) : Passage (some s) t (some s)
  /-- The session is over, whatever the archive answers. -/
  | ended (s : Session) (reply : Reply) : Passage (some s) [(.purge, reply)] none

namespace Passage

variable {s s' : Option Session} {t : List Exchange}

/-- Where nothing is asked the session stays. -/
theorem still (s : Option Session) : Passage s [] s := by
  rcases s with _ | s
  · exact .idle
  · exact .files s (Language.nil_mem_kstar _) (by intro e he; cases he)

theorem ofFileWork {a b : Archive} (s : Session) (h : FileWork a t b) :
    Passage (some s) t (some s) :=
  .files s h.mem_blocks h.not_aboutCredentials

/-- The word of a life goes on with the passage. -/
theorem lifeSoFar_append (h : Passage s t s') {v : List Exchange} (hv : v ∈ lifeSoFar s) :
    v ++ t ∈ lifeSoFar s' := by
  cases h with
  | idle => rwa [List.append_nil]
  | refused m principal keytab status =>
      exact mem_life_append hv (Or.inl ⟨m, principal, keytab, status, rfl⟩)
  | accepted s =>
      have hlogin : [(Call.login s.mechanism s.principal s.keytab, Reply.accepted)] ∈
          loginAccepted := ⟨_, _, _, rfl⟩
      have hword := Language.append_mem_mul hlogin (Language.nil_mem_kstar fileBlock)
      rw [List.append_nil] at hword
      exact Language.append_mem_mul hv hword
  | files s blocks apart =>
      -- the new blocks join the work of the session that has not ended yet
      obtain ⟨past, hpast, present, hpresent, rfl⟩ := Language.mem_mul.1 hv
      obtain ⟨login, hlogin, work, hwork, rfl⟩ := Language.mem_mul.1 hpresent
      rw [List.append_assoc, List.append_assoc]
      exact Language.append_mem_mul hpast
        (Language.append_mem_mul hlogin (mem_blocks_append hwork blocks))
  | ended s reply =>
      -- with the purge the present session becomes one of the past
      obtain ⟨past, hpast, present, hpresent, rfl⟩ := Language.mem_mul.1 hv
      rw [List.append_assoc]
      have hpurge : [(Call.purge, reply)] ∈ purge := ⟨reply, rfl⟩
      exact mem_life_append hpast (Or.inr (Language.append_mem_mul hpresent hpurge))

/-- The calls leave standing the session that the agent has afterwards. -/
theorem follow (h : Passage s t s') : t.foldl Session.follow s = s' := by
  cases h with
  | files s blocks apart => exact (heeded_of_not_aboutCredentials apart s).1
  | _ => rfl

theorem heeds (h : Passage s t s') : heeded s t = true := by
  cases h with
  | files s blocks apart => exact (heeded_of_not_aboutCredentials apart s).2
  | _ => rfl

end Passage

namespace Agent

theorem login_passage (a : Agent) (mechanism principal keytab : String) (s : Archive) :
    ∃ r t, a.login mechanism principal keytab s = ⟨.ok r, s, t⟩ ∧
      Passage a.session t.replies r.1.session := by
  rcases h : a.session with _ | session
  · refine ⟨_, _, login_apply_of_none h .., ?_⟩
    rw [Session.replies_establishment]
    rcases s.answers.login with _ | status
    · exact .accepted ⟨.ofName mechanism, principal, keytab⟩
    · simp only [h]
      exact .refused _ _ _ _
  · refine ⟨_, _, login_apply_of_some h .., ?_⟩
    simp only [h]
    exact .still _

theorem logout_passage (a : Agent) (s : Archive) :
    ∃ r t, a.logout s = ⟨.ok r, s, t⟩ ∧ Passage a.session t.replies r.1.session := by
  rcases h : a.session with _ | session
  · refine ⟨_, _, logout_apply_of_none h s, ?_⟩
    simp only [h]
    exact .idle
  · refine ⟨_, _, logout_apply_of_some h s, ?_⟩
    rw [Session.replies_completion]
    exact .ended session _

/-- An agent that retires is without a session afterwards, because it is not there. -/
theorem retire_passage (a : Agent) (s : Archive) :
    Passage a.session (a.retire s).trace.replies none := by
  rcases h : a.session with _ | session
  · rw [retire_apply_of_none h]
    exact .idle
  · rw [replies_retire_of_some h]
    exact .ended session _

end Agent

namespace World

/-- What an agent asks of the archive in a step: nothing in the steps of others, and nothing in a
call that goes past its session. -/
def asked (n : Nat) (w : World) (s : Step) : List Exchange :=
  if s.agent = n ∧ s.action.isDirect = false then (w.step s).trace.replies else []

/-- What an agent asks of the archive in a history. -/
def conduct (n : Nat) (w : World) (steps : List Step) : List Exchange :=
  w.gather (asked n) steps

/-- The step lemma: every step of whomever is a passage of every agent. -/
theorem passage_step (w : World) (s : Step) (n : Nat) :
    Passage (w.agent n).session (asked n w s) ((w.step s).after.agent n).session := by
  by_cases hown : s.agent = n ∧ s.action.isDirect = false
  · obtain ⟨rfl, hd⟩ := hown
    rw [asked, if_pos ⟨rfl, hd⟩]
    -- the agent's own step is about its session, about files, or without any trace
    by_cases hs : s.action.onSession = true
    · obtain ⟨n, action⟩ := s
      cases action with
      | login mechanism principal keytab =>
          obtain ⟨r, t, hp, hpassage⟩ :=
            (w.agent n).login_passage mechanism principal keytab w.archive
          rw [step_login, callAgent_of_eq (w := w.engage n) hp, agent_put_self]
          exact hpassage
      | logout =>
          obtain ⟨r, t, hp, hpassage⟩ := (w.agent n).logout_passage w.archive
          rw [step_logout, callAgent_of_eq (w := w.engage n) hp, agent_put_self]
          exact hpassage
      | retire =>
          rw [step_retire, call_trace, call_after, agent_erase_self]
          exact (w.agent n).retire_passage w.archive
      | _ => cases hs
    · rw [(w.framed_step s).agents s.agent (Or.inr (by simpa using hs))]
      by_cases hf : s.action.onFiles = true
      · have hworks := w.works_step hf
        rcases h : (w.agent s.agent).session with _ | session
        · rw [hworks.idle h]
          exact .idle
        · exact .ofFileWork session hworks.work
      · rw [trace_step_of_quiet w (by simpa using hf) (by simpa using hs) hd]
        exact .still _
  · -- somebody else's step, or a call that goes past the session
    rw [asked, if_neg hown]
    have hapart : s.agent ≠ n ∨ s.action.onSession = false := by
      by_cases hn : s.agent = n
      · right
        rcases s with ⟨m, action⟩
        cases action <;> first | rfl | exact absurd ⟨hn, rfl⟩ hown
      · exact Or.inl hn
    rw [(w.framed_step s).agents n hapart]
    exact .still _

/-! ## A whole life -/

theorem conduct_concat (n : Nat) (w : World) (past : List Step) (s : Step) :
    w.conduct n (past ++ [s]) = w.conduct n past ++ asked n (w.afterAll past) s :=
  gather_concat _ w past s

/-- From one step to a whole history, for an agent that starts without a session. -/
theorem conduct_mem_lifeSoFar {w : World} {n : Nat} (h : (w.agent n).session = none)
    (steps : List Step) :
    w.conduct n steps ∈ lifeSoFar ((w.afterAll steps).agent n).session := by
  induction steps using List.reverseRecOn with
  | nil =>
      rw [afterAll_nil, h]
      exact Language.nil_mem_kstar _
  | append_singleton past s ih =>
      rw [conduct_concat, afterAll_concat]
      exact ((w.afterAll past).passage_step s n).lifeSoFar_append ih

/-- The session of an agent is the one that its calls leave standing. -/
theorem session_eq_standing {w : World} {n : Nat} (h : (w.agent n).session = none)
    (steps : List Step) :
    ((w.afterAll steps).agent n).session = standing (w.conduct n steps) := by
  induction steps using List.reverseRecOn with
  | nil => exact h
  | append_singleton past s ih =>
      rw [conduct_concat, afterAll_concat, standing, List.foldl_append, ← standing, ← ih]
      exact ((w.afterAll past).passage_step s n).follow.symm

theorem heeded_conduct {w : World} {n : Nat} (h : (w.agent n).session = none)
    (steps : List Step) : heeded none (w.conduct n steps) = true := by
  induction steps using List.reverseRecOn with
  | nil => rfl
  | append_singleton past s ih =>
      rw [conduct_concat, heeded_append, ih, ← standing, ← session_eq_standing h, Bool.true_and]
      exact ((w.afterAll past).passage_step s n).heeds

end World

/-! ## The order of calls, read off a life that heeds it -/

/-- A call comes while the session that stands just then permits it. -/
theorem permits_of_heeded {past rest : List Exchange} {e : Exchange}
    (h : heeded none (past ++ e :: rest) = true) : Session.permits (standing past) e = true := by
  rw [heeded_append, heeded, Bool.and_eq_true, Bool.and_eq_true] at h
  exact h.2.1

/-- Of the calls that follow an accepted login either none is about credentials, or the first one
that is ends the session. -/
theorem apart_or_purge_of_heeded {calls : List Exchange} {s : Session}
    (h : heeded (some s) calls = true) :
    (∀ e ∈ calls, e.1.aboutCredentials = false) ∨
      ∃ work reply rest, calls = work ++ (.purge, reply) :: rest ∧
        ∀ e ∈ work, e.1.aboutCredentials = false := by
  induction calls with
  | nil => exact Or.inl (by intro e he; cases he)
  | cons e rest ih =>
      obtain ⟨call, reply⟩ := e
      rw [heeded, Bool.and_eq_true] at h
      by_cases hc : call.aboutCredentials = true
      · -- in a session this can only be a purge, because a login may not come
        cases call with
        | purge => exact Or.inr ⟨[], reply, rest, rfl, by intro e he; cases he⟩
        | login => cases h.1
        | _ => cases hc
      · have hcall : call.aboutCredentials = false := by simpa using hc
        have hfollow : Session.follow (some s) (call, reply) = some s := by
          cases call <;> first | rfl | cases hcall
        have hrest : heeded (some s) rest = true := hfollow ▸ h.2
        rcases ih hrest with hapart | ⟨work, last, more, hsplit, hwork⟩
        · exact Or.inl (List.forall_mem_cons.2 ⟨hcall, hapart⟩)
        · refine Or.inr ⟨(call, reply) :: work, last, more, ?_, ?_⟩
          · rw [hsplit, List.cons_append]
          · exact List.forall_mem_cons.2 ⟨hcall, hwork⟩

/-- A session that stands was put there by accepted credentials, and no call about credentials
came after them. -/
theorem exists_login_of_standing {calls : List Exchange} (h : heeded none calls = true)
    {s : Session} (hs : standing calls = some s) :
    ∃ past rest, calls = past ++ (.login s.mechanism s.principal s.keytab, .accepted) :: rest ∧
      ∀ e ∈ rest, e.1.aboutCredentials = false := by
  induction calls using List.reverseRecOn with
  | nil => cases hs
  | append_singleton past e ih =>
      obtain ⟨call, reply⟩ := e
      have hpermits := permits_of_heeded h
      rw [heeded_append, Bool.and_eq_true] at h
      rw [standing, List.foldl_append, ← standing] at hs
      rcases hp : standing past with _ | before
      · rw [hp] at hpermits hs
        -- without a session the only call that may come is a login, and it has to be accepted
        cases call with
        | login m principal keytab =>
            cases reply with
            | accepted =>
                cases hs
                exact ⟨past, [], rfl, by intro e he; cases he⟩
            | _ => cases hs
        | _ => cases hpermits
      · rw [hp] at hpermits hs
        -- the session stands after the last call, so that was no purge, and it was no login either
        have hcall : call.aboutCredentials = false := by
          cases call with
          | login => cases hpermits
          | purge => cases hs
          | _ => rfl
        have hsame : before = s := by
          cases call <;> first | exact Option.some.inj hs | cases hcall
        obtain ⟨first, rest, hsplit, hrest⟩ := ih h.1 (by rw [hp, hsame])
        refine ⟨first, rest ++ [(call, reply)], ?_, ?_⟩
        · rw [hsplit, List.append_assoc, List.cons_append]
        · intro e he
          rcases List.mem_append.1 he with he | he
          · exact hrest e he
          · rw [List.mem_singleton.1 he]
            exact hcall

/-- The last accepted login is the one of this session, and no purge came after it. -/
def InForce (s : Session) (calls : List Exchange) : Prop :=
  ∃ past rest, calls = past ++ (.login s.mechanism s.principal s.keytab, .accepted) :: rest ∧
    ∀ e ∈ rest, e.1 ≠ .purge

/-- The session that stands is the one in force. -/
theorem standing_eq_some_iff {calls : List Exchange} (h : heeded none calls = true)
    {s : Session} : standing calls = some s ↔ InForce s calls := by
  constructor
  · intro hs
    obtain ⟨past, rest, hsplit, hrest⟩ := exists_login_of_standing h hs
    refine ⟨past, rest, hsplit, ?_⟩
    intro e he hpurge
    have hapart := hrest e he
    rw [hpurge] at hapart
    cases hapart
  · rintro ⟨past, rest, rfl, hrest⟩
    rw [heeded_append, Bool.and_eq_true, heeded, Bool.and_eq_true] at h
    have hfollow : Session.follow (standing past)
        (.login s.mechanism s.principal s.keytab, .accepted) = some s := rfl
    have hafter : heeded (some s) rest = true := h.2.2
    -- without a purge in the rest nothing in it is about credentials at all
    have hapart : ∀ e ∈ rest, e.1.aboutCredentials = false := by
      rcases apart_or_purge_of_heeded hafter with hapart | ⟨work, reply, more, hsplit, -⟩
      · exact hapart
      · have hmem : (Call.purge, reply) ∈ rest := by rw [hsplit]; simp
        exact absurd rfl (hrest _ hmem)
    rw [standing, List.foldl_append, ← standing, List.foldl_cons, hfollow]
    exact (heeded_of_not_aboutCredentials hapart s).1

/-! ## The credentials that are offered -/

namespace World

/-- An agent offers the credentials that it was asked to set up a session with, as they are. -/
theorem login_of_mem_asked {w : World} {s : Step} {n : Nat} {m : Mechanism}
    {principal keytab : String} {reply : Reply}
    (h : (.login m principal keytab, reply) ∈ asked n w s) :
    s.agent = n ∧ ∃ name, s.action = .login name principal keytab ∧ m = .ofName name := by
  rw [asked] at h
  split at h
  · rename_i hown
    refine ⟨hown.1, ?_⟩
    by_cases hf : s.action.onFiles = true
    · have hapart := (w.works_step hf).work.not_aboutCredentials _ h
      cases hapart
    · obtain ⟨k, action⟩ := s
      cases action with
      | login name p t =>
          rw [step_login] at h
          rcases hs : (w.agent k).session with _ | session
          · rw [callAgent_of_eq (w := w.engage k) (Agent.login_apply_of_none hs ..)] at h
            simp only [Session.replies_establishment, List.mem_singleton, Prod.mk.injEq,
              Call.login.injEq] at h
            obtain ⟨⟨rfl, rfl, rfl⟩, -⟩ := h
            exact ⟨name, rfl, rfl⟩
          · rw [callAgent_of_eq (w := w.engage k) (Agent.login_apply_of_some hs ..)] at h
            cases h
      | logout =>
          rw [step_logout] at h
          rcases hs : (w.agent k).session with _ | session
          · rw [callAgent_of_eq (w := w.engage k) (Agent.logout_apply_of_none hs _)] at h
            cases h
          · rw [callAgent_of_eq (w := w.engage k) (Agent.logout_apply_of_some hs _)] at h
            simp at h
      | retire =>
          rw [step_retire, call_trace] at h
          rcases hs : (w.agent k).session with _ | session
          · rw [Agent.retire_apply_of_none hs] at h
            cases h
          · rw [Agent.replies_retire_of_some hs] at h
            simp at h
      | locate | recallFile | recallLocated | inquire => exact absurd rfl hf
      | direct => cases hown.2
      | _ => cases h
  · cases h

/-! ## The main statement -/

/-- **The discipline of an agent.** Whatever steps are taken by whomever, and however the archive
answers meanwhile, what an agent asks until it has retired is a word of the language. In
particular nothing but credentials is offered outside a session, an accepted login is followed by
one purge before anything else about credentials, and at every point in between the agent has the
session that is in force, with the words of the step that set it up. -/
theorem session_discipline (answers : Answers) (catalogue : Catalogue) (n : Nat)
    (steps : List Step) :
    let start := opening answers catalogue
    let whole := start.conduct n (steps ++ [⟨n, .retire⟩])
    whole ∈ (loginRefused + loginAccepted * fileBlock∗ * purge)∗ ∧
    (∀ past call reply rest, whole = past ++ (call, reply) :: rest →
      (∀ m principal keytab, call ≠ .login m principal keytab) →
      ∃ (s : Session) (before work : List Exchange),
        past = before ++ (.login s.mechanism s.principal s.keytab, .accepted) :: work ∧
          ∀ e ∈ work, e.1.aboutCredentials = false) ∧
    (∀ past m principal keytab rest,
      whole = past ++ (.login m principal keytab, .accepted) :: rest →
      ∃ work reply more, rest = work ++ (.purge, reply) :: more ∧
        ∀ e ∈ work, e.1.aboutCredentials = false) ∧
    (∀ past, past <+: steps →
      let agent := (start.afterAll past).agent n
      (∀ s, agent.session = some s ↔ InForce s (start.conduct n past)) ∧
        (agent.isActive = true ↔ ∃ s, InForce s (start.conduct n past))) ∧
    ∀ past s later m principal keytab reply, steps = past ++ s :: later →
      (.login m principal keytab, reply) ∈ asked n (start.afterAll past) s →
      s.agent = n ∧ ∃ name, s.action = .login name principal keytab ∧ m = .ofName name := by
  intro start whole
  have hfresh : (start.agent n).session = none := rfl
  have hretired : ((start.afterAll (steps ++ [⟨n, .retire⟩])).agent n).session = none := by
    rw [afterAll_concat, step_retire, call_after, agent_erase_self]
    rfl
  have hheeded : heeded none whole = true := heeded_conduct hfresh _
  have hover : standing whole = none := by
    rw [← session_eq_standing hfresh, hretired]
  refine ⟨?_, ?_, ?_, ?_, ?_⟩
  · -- after the agent retired its life so far is its whole life
    have hword := conduct_mem_lifeSoFar hfresh (steps ++ [⟨n, .retire⟩])
    rw [hretired] at hword
    exact hword
  · -- only a login may come without a session
    intro past call reply rest hsplit hcall
    have hpermits : Session.permits (standing past) (call, reply) = true :=
      permits_of_heeded (hsplit ▸ hheeded)
    have hpast : heeded none past = true := by
      rw [hsplit, heeded_append, Bool.and_eq_true] at hheeded
      exact hheeded.1
    rcases hs : standing past with _ | s
    · rw [hs] at hpermits
      cases call with
      | login m principal keytab => exact absurd rfl (hcall m principal keytab)
      | _ => cases hpermits
    · exact ⟨s, exists_login_of_standing hpast hs⟩
  · intro past m principal keytab rest hsplit
    have hfollow : ∀ s : Option Session,
        Session.follow s (.login m principal keytab, .accepted) = some ⟨m, principal, keytab⟩ :=
      fun _ => rfl
    rw [hsplit, heeded_append, Bool.and_eq_true, heeded, Bool.and_eq_true, hfollow] at hheeded
    rw [hsplit, standing, List.foldl_append, List.foldl_cons, hfollow] at hover
    -- without a purge the session would stand to the end, but the agent has retired
    rcases apart_or_purge_of_heeded hheeded.2.2 with hapart | hpurge
    · rw [(heeded_of_not_aboutCredentials hapart _).1] at hover
      cases hover
    · exact hpurge
  · intro past hpast agent
    have hsession : ∀ s, agent.session = some s ↔ InForce s (start.conduct n past) := by
      intro s
      rw [← standing_eq_some_iff (heeded_conduct hfresh past), ← session_eq_standing hfresh]
    refine ⟨hsession, ?_⟩
    rw [Agent.isActive, Option.isSome_iff_exists]
    exact exists_congr hsession
  · intro past s later m principal keytab reply hsplit hmem
    exact login_of_mem_asked hmem

end World

end TapeRecall
