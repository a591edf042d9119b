import TapeRecall.Proofs.Alike
import TapeRecall.Proofs.Discipline

/-!
# Whose credentials are in force

The archive holds one set of credentials for all who work with it. An accepted login puts its own
in the place of any others, and a purge takes away whatever is there. An agent looks at nothing but
its own session, so the credentials under which it works on files need not be its own: another
agent may have logged in since, or ended its session.

What does hold is that the session of an agent goes back to an accepted login of that agent, after
which it made no call about credentials (`World.setUp_afterAll`). So the credentials are its own
just when nobody else changed them since, and they always are as long as no two agents have sessions
at the same time.
-/

set_option autoImplicit false

namespace TapeRecall

/-! ## Credentials in force -/

/-- The call leaves other credentials in force than it found, or none. A refused purge counts,
because the session is over all the same. -/
def changesCredentials : Exchange → Bool
  | (.login .., .accepted) | (.purge, _) => true
  | _ => false

namespace Credentials

/-- The credentials in force after a call that an agent made, with the agent they come from. -/
def follow (c : Option (Nat × Session)) : Nat × Exchange → Option (Nat × Session)
  | (n, (.login mechanism principal keytab, .accepted)) =>
    some (n, ⟨mechanism, principal, keytab⟩)
  | (_, (.purge, _)) => none
  | _ => c

/-- The credentials that were accepted last, unless a purge came after them, with the agent they
come from. -/
def inForce (log : List (Nat × Exchange)) : Option (Nat × Session) := log.foldl follow none

theorem inForce_concat (log : List (Nat × Exchange)) (e : Nat × Exchange) :
    inForce (log ++ [e]) = follow (inForce log) e := by
  rw [inForce, List.foldl_append, List.foldl_cons, List.foldl_nil, ← inForce]

theorem follow_of_keeps {e : Nat × Exchange} (h : changesCredentials e.2 = false)
    (c : Option (Nat × Session)) : follow c e = c := by
  obtain ⟨n, call, reply⟩ := e
  cases call with
  | login =>
      cases reply with
      | accepted => cases h
      | _ => rfl
  | purge => cases h
  | _ => rfl

theorem follow_of_changes {e : Nat × Exchange} (h : changesCredentials e.2 = true)
    (c : Option (Nat × Session)) : ∀ n s, follow c e = some (n, s) → n = e.1 := by
  obtain ⟨m, call, reply⟩ := e
  intro n s hfollow
  cases call with
  | login =>
      cases reply with
      | accepted => exact (congrArg Prod.fst (Option.some.inj hfollow)).symm
      | _ => cases h
  | purge => cases hfollow
  | _ => cases h

theorem inForce_append_of_keeps (log : List (Nat × Exchange)) {rest : List (Nat × Exchange)}
    (h : ∀ e ∈ rest, changesCredentials e.2 = false) : inForce (log ++ rest) = inForce log := by
  induction rest using List.reverseRecOn with
  | nil => rw [List.append_nil]
  | append_singleton rest e ih =>
      have he : changesCredentials e.2 = false := h e (by simp)
      rw [← List.append_assoc, inForce_concat, follow_of_keeps he]
      exact ih fun d hd => h d (List.mem_append_left _ hd)

theorem aboutCredentials_of_changes {e : Exchange} (h : changesCredentials e = true) :
    e.1.aboutCredentials = true := by
  obtain ⟨call, reply⟩ := e
  cases call <;> first | rfl | cases h

theorem keeps_of_apart {t : List Exchange} (h : ∀ e ∈ t, e.1.aboutCredentials = false) (n : Nat) :
    ∀ e ∈ t.map (n, ·), changesCredentials e.2 = false := by
  intro e he
  obtain ⟨d, hd, rfl⟩ := List.mem_map.1 he
  rw [Bool.eq_false_iff]
  intro hchanges
  exact absurd (h d hd) (by simp [aboutCredentials_of_changes hchanges])

/-- The record of accepted credentials. -/
def acceptance (n : Nat) (s : Session) : Nat × Exchange :=
  (n, (.login s.mechanism s.principal s.keytab, .accepted))

/-- The credentials of an agent that made no call about credentials since are in force just when
nobody made one that changed them. -/
theorem inForce_iff {n : Nat} {s : Session} (past : List (Nat × Exchange))
    {rest : List (Nat × Exchange)}
    (hown : ∀ e ∈ rest, e.1 = n → e.2.1.aboutCredentials = false) :
    inForce (past ++ acceptance n s :: rest) = some (n, s) ↔
      ∀ e ∈ rest, changesCredentials e.2 = false := by
  have haccepted : inForce (past ++ [acceptance n s]) = some (n, s) := by
    rw [inForce_concat]
    rfl
  rw [← List.singleton_append, ← List.append_assoc]
  constructor
  · intro h
    induction rest using List.reverseRecOn with
    | nil => exact List.forall_mem_nil _
    | append_singleton rest e ih =>
        rw [← List.append_assoc, inForce_concat] at h
        by_cases he : changesCredentials e.2 = true
        · -- the last call would be one of the agent itself
          have hself := follow_of_changes he _ n s h
          have hapart := hown e (by simp) hself.symm
          rw [aboutCredentials_of_changes he] at hapart
          cases hapart
        · have hkeeps : changesCredentials e.2 = false := by simpa using he
          rw [follow_of_keeps hkeeps] at h
          have hrest := ih (fun d hd => hown d (List.mem_append_left _ hd)) h
          intro d hd
          rcases List.mem_append.1 hd with hd | hd
          · exact hrest d hd
          · rw [List.mem_singleton.1 hd]
            exact hkeeps
  · intro h
    rw [inForce_append_of_keeps _ h, haccepted]

/-- The session of the agent goes back to its accepted login in the log, after which the agent made
no call about credentials. -/
def SetUp (n : Nat) (s : Session) (log : List (Nat × Exchange)) : Prop :=
  ∃ past rest, log = past ++ acceptance n s :: rest ∧
    ∀ e ∈ rest, e.1 = n → e.2.1.aboutCredentials = false

theorem SetUp.append {n : Nat} {s : Session} {log : List (Nat × Exchange)} (h : SetUp n s log)
    {more : List (Nat × Exchange)}
    (hmore : ∀ e ∈ more, e.1 = n → e.2.1.aboutCredentials = false) : SetUp n s (log ++ more) := by
  obtain ⟨past, rest, rfl, hrest⟩ := h
  refine ⟨past, rest ++ more, ?_, ?_⟩
  · rw [List.append_assoc, List.cons_append]
  · intro e he
    rcases List.mem_append.1 he with he | he
    · exact hrest e he
    · exact hmore e he

end Credentials

open Credentials

/-! ## What a step does about credentials -/

/-- The actions that go past any session to change the credentials in force. -/
def Action.isDirectCredentials : Action → Bool
  | .direct c => c.aboutCredentials
  | _ => false

namespace World

/-- The log of a history, each record with the number of the agent in whose step it was made. -/
def signedLog (w : World) (steps : List Step) : List (Nat × Exchange) :=
  w.gather (fun w s => (w.step s).trace.replies.map (s.agent, ·)) steps

theorem signedLog_concat (w : World) (past : List Step) (s : Step) :
    w.signedLog (past ++ [s]) =
      w.signedLog past ++ ((w.afterAll past).step s).trace.replies.map (s.agent, ·) :=
  gather_concat _ w past s

/-- The step lemma: without direct calls about credentials the calls of a step either are a passage
of its agent, or they are not about credentials and the agent keeps its session. -/
theorem passage_or_apart (w : World) {s : Step} (h : s.action.isDirectCredentials = false) :
    Passage (w.agent s.agent).session (w.step s).trace.replies
        ((w.step s).after.agent s.agent).session ∨
      (∀ e ∈ (w.step s).trace.replies, e.1.aboutCredentials = false) ∧
        (w.step s).after.agent s.agent = w.agent s.agent := by
  by_cases hd : s.action.isDirect = false
  · left
    have hpassage := w.passage_step s s.agent
    rw [asked, if_pos ⟨rfl, hd⟩] at hpassage
    exact hpassage
  · right
    obtain ⟨n, action⟩ := s
    cases action with
    | direct c =>
        refine ⟨?_, (w.framed_step ⟨n, .direct c⟩).agents n (.inr rfl)⟩
        intro e he
        exact (((w.engage n).direct_leaves c).2 e he).trans h
    | _ => exact absurd rfl hd

/-! ## Where a session goes back to -/

/-- Every session goes back to a login in the log. -/
def SetUpIn (w : World) (log : List (Nat × Exchange)) : Prop :=
  ∀ n s, (w.agent n).session = some s → SetUp n s log

theorem SetUpIn.step {w : World} {log : List (Nat × Exchange)} (h : w.SetUpIn log) {s : Step}
    (hs : s.action.isDirectCredentials = false) :
    (w.step s).after.SetUpIn (log ++ (w.step s).trace.replies.map (s.agent, ·)) := by
  intro n session hsession
  by_cases hn : n = s.agent
  · subst hn
    rcases w.passage_or_apart hs with hpassage | ⟨hapart, hsame⟩
    · rw [hsession] at hpassage
      generalize hbefore : (w.agent s.agent).session = before at hpassage
      generalize (w.step s).trace.replies = t at hpassage ⊢
      cases hpassage with
      | accepted => exact ⟨log, [], rfl, List.forall_mem_nil _⟩
      | files _ blocks apart =>
          apply (h _ _ hbefore).append
          intro e he _
          obtain ⟨d, hd, rfl⟩ := List.mem_map.1 he
          exact apart d hd
    · rw [hsame] at hsession
      apply (h _ _ hsession).append
      intro e he _
      obtain ⟨d, hd, rfl⟩ := List.mem_map.1 he
      exact hapart d hd
  · -- the step of another agent says nothing of this one
    rw [(w.framed_step s).agents n (.inl (Ne.symm hn))] at hsession
    apply (h _ _ hsession).append
    intro e he hself
    obtain ⟨d, -, rfl⟩ := List.mem_map.1 he
    exact absurd hself.symm hn

theorem setUp_afterAll (answers : Answers) (catalogue : Catalogue) (steps : List Step)
    (indirect : ∀ s ∈ steps, s.action.isDirectCredentials = false) :
    ((opening answers catalogue).afterAll steps).SetUpIn
      ((opening answers catalogue).signedLog steps) := by
  induction steps using List.reverseRecOn with
  | nil =>
      intro n s hs
      cases hs
  | append_singleton past s ih =>
      rw [afterAll_concat, signedLog_concat]
      apply (ih fun d hd => indirect d (List.mem_append_left _ hd)).step
      exact indirect s (by simp)

/-! ## One session at a time -/

/-- No two agents have a session. -/
def solo (w : World) : Bool :=
  w.agents.keys.all fun m => w.agents.keys.all fun n =>
    m == n || !((w.agent m).isActive && (w.agent n).isActive)

theorem mem_keys_of_session {w : World} {n : Nat} {s : Session}
    (h : (w.agent n).session = some s) : n ∈ w.agents.keys := by
  by_cases hn : n ∈ w.agents.keys
  · exact hn
  · rw [agent, Table.get?_eq_none_of_not_mem_keys hn] at h
    cases h

theorem eq_of_solo {w : World} (h : w.solo = true) {m n : Nat} {s t : Session}
    (hm : (w.agent m).session = some s) (hn : (w.agent n).session = some t) : m = n := by
  have hall := List.all_eq_true.1 (List.all_eq_true.1 h m (mem_keys_of_session hm)) n
    (mem_keys_of_session hn)
  simpa [Agent.isActive, hm, hn] using hall

/-- The credentials of whoever has a session are in force, which can be true of one agent only. -/
def Reigns (w : World) (log : List (Nat × Exchange)) : Prop :=
  ∀ n s, (w.agent n).session = some s → inForce log = some (n, s)

theorem Reigns.step {w : World} {log : List (Nat × Exchange)} (h : w.Reigns log) {s : Step}
    (hs : s.action.isDirectCredentials = false) (hsolo : (w.step s).after.solo = true) :
    (w.step s).after.Reigns (log ++ (w.step s).trace.replies.map (s.agent, ·)) := by
  intro n session hsession
  have hpassage := w.passage_or_apart hs
  generalize hbefore : (w.agent s.agent).session = before at hpassage
  generalize hafter : ((w.step s).after.agent s.agent).session = after at hpassage
  generalize (w.step s).trace.replies = t at hpassage ⊢
  by_cases hn : n = s.agent
  · subst hn
    rcases hpassage with hpassage | ⟨hapart, hsame⟩
    · obtain rfl : after = some session := hafter.symm.trans hsession
      cases hpassage with
      | accepted => exact inForce_concat log (acceptance s.agent session)
      | files _ blocks apart =>
          rw [inForce_append_of_keeps log (keeps_of_apart apart s.agent), h _ _ hbefore]
    · rw [hsame] at hsession
      rw [inForce_append_of_keeps log (keeps_of_apart hapart s.agent), h _ _ hsession]
  · have hstays : (w.agent n).session = some session := by
      rw [← (w.framed_step s).agents n (.inl (Ne.symm hn)), hsession]
    -- the other agent can neither come to a session beside this one nor have one to purge
    have hkeeps : ∀ e ∈ t.map (s.agent, ·), changesCredentials e.2 = false := by
      rcases hpassage with hpassage | ⟨hapart, -⟩
      · cases hpassage with
        | idle => exact List.forall_mem_nil _
        | refused => exact List.forall_mem_singleton.2 rfl
        | accepted other => exact absurd (eq_of_solo hsolo hsession hafter) hn
        | files _ blocks apart => exact keeps_of_apart apart s.agent
        | ended other =>
            have hsame := (h _ _ hstays).symm.trans (h _ _ hbefore)
            exact absurd (congrArg Prod.fst (Option.some.inj hsame)) hn
      · exact keeps_of_apart hapart s.agent
    rw [inForce_append_of_keeps log hkeeps, h _ _ hstays]

theorem reigns_afterAll (answers : Answers) (catalogue : Catalogue) (steps : List Step)
    (indirect : ∀ s ∈ steps, s.action.isDirectCredentials = false)
    (alone : ∀ past, past <+: steps → ((opening answers catalogue).afterAll past).solo = true) :
    ((opening answers catalogue).afterAll steps).Reigns
      ((opening answers catalogue).signedLog steps) := by
  induction steps using List.reverseRecOn with
  | nil =>
      intro n s hs
      cases hs
  | append_singleton past s ih =>
      have hsolo := alone (past ++ [s]) (List.prefix_refl _)
      rw [afterAll_concat] at hsolo ⊢
      rw [signedLog_concat]
      refine (ih ?_ ?_).step (indirect s (by simp)) hsolo
      · exact fun d hd => indirect d (List.mem_append_left _ hd)
      · exact fun first hfirst => alone first (hfirst.trans (List.prefix_append _ _))

end World

/-! ## Work on files -/

/-- The calls with which work on a file begins. -/
def Call.beginsWork : Call → Bool
  | .query _ | .openFile .. => true
  | _ => false

/-- Who begins work on a file has a session, and is not about credentials at the time. -/
theorem Passage.of_beginsWork {s s' : Option Session} {t : List Exchange} (h : Passage s t s')
    {call : Call} {reply : Reply} (hmem : (call, reply) ∈ t) (hcall : call.beginsWork = true) :
    ∃ session, s = some session ∧ ∀ e ∈ t, e.1.aboutCredentials = false := by
  cases h with
  | files session blocks apart => exact ⟨session, rfl, apart⟩
  | idle => cases hmem
  | _ =>
      rw [List.mem_singleton] at hmem
      obtain rfl : call = _ := congrArg Prod.fst hmem
      cases hcall

namespace World

/-- Every query and every opening of an agent reaches the archive while the credentials in force
are those that set up its present session. -/
def UnderOwnCredentials (w : World) (steps : List Step) : Prop :=
  ∀ before s after first call reply last, steps = before ++ s :: after →
    asked s.agent (w.afterAll before) s = first ++ (call, reply) :: last →
    call.beginsWork = true →
    ∃ session, ((w.afterAll before).agent s.agent).session = some session ∧
      inForce (w.signedLog before ++ first.map (s.agent, ·)) = some (s.agent, session)

/-- Two agents have sessions at the same time, and the first one looks for a file. -/
def secondLogin : List Step :=
  [⟨0, .login "unix" "p" "/k"⟩, ⟨1, .login "unix" "q" "/k"⟩, ⟨0, .locate "/f"⟩]

/-- The query of the first agent is made under the credentials of the second. -/
theorem secondLogin_not_under_own :
    (∀ s ∈ secondLogin, s.action.isDirect = false) ∧
      ¬ (opening {} .empty).UnderOwnCredentials secondLogin := by
  refine ⟨by decide, ?_⟩
  intro hclaim
  obtain ⟨session, -, hforce⟩ := hclaim
    [⟨0, .login "unix" "p" "/k"⟩, ⟨1, .login "unix" "q" "/k"⟩] ⟨0, .locate "/f"⟩ []
    [] (.query "/f") (.refused .noEntry) [] rfl (by decide) rfl
  have hother : inForce ((opening {} .empty).signedLog
      [⟨0, .login "unix" "p" "/k"⟩, ⟨1, .login "unix" "q" "/k"⟩]) =
        some (1, ⟨.ofName "unix", "q", "/k"⟩) := by
    decide
  rw [List.map_nil, List.append_nil, hother] at hforce
  cases hforce

/-- **What an agent can rely on.** Without direct calls about credentials, an agent makes a query
or an opening only while it has a session, which goes back to a login of its own that the archive
accepted, and it made no call about credentials since. Those credentials are still in force just
when no other agent changed them since; and they always are as long as no two agents have sessions
at the same time. -/
theorem work_goes_back_to_login (answers : Answers) (catalogue : Catalogue) (steps : List Step)
    (indirect : ∀ s ∈ steps, s.action.isDirectCredentials = false) :
    let start := opening answers catalogue
    (∀ before s after first call reply last, steps = before ++ s :: after →
      asked s.agent (start.afterAll before) s = first ++ (call, reply) :: last →
      call.beginsWork = true →
      ∃ session past rest,
        ((start.afterAll before).agent s.agent).session = some session ∧
        start.signedLog before ++ first.map (s.agent, ·) =
          past ++ (s.agent, (.login session.mechanism session.principal session.keytab,
            .accepted)) :: rest ∧
        (∀ e ∈ rest, e.1 = s.agent → e.2.1.aboutCredentials = false) ∧
        (inForce (start.signedLog before ++ first.map (s.agent, ·)) = some (s.agent, session) ↔
          ∀ e ∈ rest, changesCredentials e.2 = false)) ∧
    ((∀ past, past <+: steps → (start.afterAll past).solo = true) →
      start.UnderOwnCredentials steps) := by
  intro start
  refine ⟨?_, ?_⟩
  · rintro before s after first call reply last rfl hasked hcall
    have hmem : (call, reply) ∈ asked s.agent (start.afterAll before) s := by simp [hasked]
    obtain ⟨session, hsession, hapart⟩ :=
      ((start.afterAll before).passage_step s s.agent).of_beginsWork hmem hcall
    have hbefore := setUp_afterAll answers catalogue before
      fun d hd => indirect d (List.mem_append_left _ hd)
    have hlogin : SetUp s.agent session
        (start.signedLog before ++ first.map (s.agent, ·)) := by
      apply (hbefore s.agent session hsession).append
      intro e he _
      obtain ⟨d, hd, rfl⟩ := List.mem_map.1 he
      exact hapart d (by simp [hasked, hd])
    obtain ⟨past, rest, hsplit, hrest⟩ := hlogin
    refine ⟨session, past, rest, hsession, hsplit, hrest, ?_⟩
    rw [hsplit]
    exact inForce_iff past hrest
  · rintro alone before s after first call reply last rfl hasked hcall
    have hmem : (call, reply) ∈ asked s.agent (start.afterAll before) s := by simp [hasked]
    obtain ⟨session, hsession, hapart⟩ :=
      ((start.afterAll before).passage_step s s.agent).of_beginsWork hmem hcall
    have hreigns := reigns_afterAll answers catalogue before
      (fun d hd => indirect d (List.mem_append_left _ hd))
      (fun past hpast => alone past (hpast.trans (List.prefix_append _ _)))
    have hfirst : ∀ e ∈ first, e.1.aboutCredentials = false := fun d hd =>
      hapart d (by simp [hasked, hd])
    refine ⟨session, hsession, ?_⟩
    rw [inForce_append_of_keeps _ (keeps_of_apart hfirst s.agent), hreigns s.agent session hsession]

/-- Two agents with sessions one after the other. -/
def takenTurns : List Step :=
  [⟨0, .login "unix" "p" "/k"⟩, ⟨1, .locate "/f"⟩, ⟨0, .locate "/f"⟩, ⟨0, .logout⟩,
    ⟨1, .login "unix" "q" "/k"⟩, ⟨0, .direct (.query "/f")⟩, ⟨1, .recallFile "/f" 1⟩, ⟨1, .retire⟩]

theorem takenTurns_under_own :
    (∀ s ∈ takenTurns, s.action.isDirectCredentials = false) ∧
      (opening {} .empty).UnderOwnCredentials takenTurns := by
  have indirect : ∀ s ∈ takenTurns, s.action.isDirectCredentials = false := by decide
  have hsolo : ∀ past ∈ takenTurns.inits, ((opening {} .empty).afterAll past).solo = true := by
    decide
  obtain ⟨-, hunder⟩ := work_goes_back_to_login {} .empty takenTurns indirect
  exact ⟨indirect, hunder fun past hpast => hsolo past ((List.mem_inits _ _).2 hpast)⟩

end World

end TapeRecall
