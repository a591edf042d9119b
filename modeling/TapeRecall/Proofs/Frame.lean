import TapeRecall.Proofs.FileWork

/-!
# What a step leaves alone

A world has four parts, and most steps touch one or two of them. The volumes that somebody outside
holds change by direct calls only, an agent changes by its own session steps only, and a query by
being started or asked only, under its own number and by its own agent. All of it is one case
analysis (`World.framed_step`), which no later proof about a history repeats.
-/

set_option autoImplicit false

namespace TapeRecall

/-- The actions by which an agent comes to a session or loses one. -/
def Action.onSession : Action → Bool
  | .login .. | .logout | .retire => true
  | _ => false

/-- The step starts a query with this key, which is the end of any earlier one. -/
def Step.starts (s : Step) (key : Nat × Nat) : Bool :=
  s.agent == key.1 && match s.action with
    | .start k _ => k == key.2
    | _ => false

/-- The step starts the query with this key or asks something of it. -/
def Step.concerns (s : Step) (key : Nat × Nat) : Bool :=
  s.agent == key.1 && match s.action with
    | .start k _ | .inquire k _ => k == key.2
    | _ => false

theorem Step.eq_of_starts {s : Step} {key : Nat × Nat} (h : s.starts key = true) :
    ∃ file, s = ⟨key.1, .start key.2 file⟩ := by
  obtain ⟨n, action⟩ := s
  cases action with
  | start k file =>
      simp only [starts, Bool.and_eq_true, beq_iff_eq] at h
      exact ⟨file, by rw [← h.1, ← h.2]⟩
  | _ => simp [starts] at h

/-- What concerns a query and does not start it is an inquiry. -/
theorem Step.eq_of_concerns {s : Step} {key : Nat × Nat} (h : s.concerns key = true)
    (hstarts : s.starts key = false) : ∃ i, s = ⟨key.1, .inquire key.2 i⟩ := by
  obtain ⟨n, action⟩ := s
  cases action with
  | inquire k i =>
      simp only [concerns, Bool.and_eq_true, beq_iff_eq] at h
      exact ⟨i, by rw [← h.1, ← h.2]⟩
  | start k file => exact absurd (hstarts.symm.trans h) nofun
  | _ => simp [concerns] at h

namespace World

/-- Steps that are about neither files nor sessions and no direct calls leave no trace. -/
theorem trace_step_of_quiet (w : World) {s : Step} (hf : s.action.onFiles = false)
    (hs : s.action.onSession = false) (hd : s.action.isDirect = false) :
    (w.step s).trace = [] := by
  obtain ⟨n, action⟩ := s
  cases action with
  | locate | recallFile | recallLocated | inquire => cases hf
  | login | logout | retire => cases hs
  | direct => cases hd
  | _ => rfl

/-! ## What each kind of work touches -/

theorem agent_congr {w v : World} (h : w.agents = v.agents) (n : Nat) : w.agent n = v.agent n := by
  rw [agent, agent, h]

/-- The world `v` differs from `w` at most where this step may have changed it. -/
structure Framed (w : World) (s : Step) (v : World) : Prop where
  held : s.action.isDirect = false → v.held = w.held
  agents : ∀ m, s.agent ≠ m ∨ s.action.onSession = false → v.agent m = w.agent m
  queries : ∀ key, s.concerns key = false → v.queries.get? key = w.queries.get? key

theorem Framed.archive (w : World) (s : Step) (archive : Archive) :
    w.Framed s { w with archive } :=
  ⟨fun _ => rfl, fun _ _ => rfl, fun _ _ => rfl⟩

/-- That an agent is there from now on makes no difference. -/
theorem Framed.of_engage {w v : World} {s : Step} {n : Nat} (h : (w.engage n).Framed s v) :
    w.Framed s v :=
  ⟨h.held, fun m hm => (h.agents m hm).trans (agent_engage w n m), h.queries⟩

/-- A change of a session works on the archive and on its own agent. -/
theorem framed_callAgent (w : World) {s : Step} (hs : s.action.onSession = true)
    (p : Proc Archive (Agent × Except SessionFault Unit)) :
    w.Framed s (w.callAgent s.agent p).after := by
  have hafter : ∃ archive agents, (w.callAgent s.agent p).after = { w with archive, agents } ∧
      ∀ m ≠ s.agent, agents.get? m = w.agents.get? m := by
    rw [callAgent, callThen]
    rcases (p w.archive).ending with why | r
    · exact ⟨_, _, rfl, fun _ _ => rfl⟩
    · exact ⟨_, _, rfl, fun m hm => Table.get?_put_of_ne _ hm _⟩
  obtain ⟨archive, agents, hafter, hothers⟩ := hafter
  rw [hafter]
  refine ⟨fun _ => rfl, ?_, fun _ _ => rfl⟩
  rintro m (hne | hoff)
  · rw [agent, agent, hothers m hne.symm]
  · rw [hs] at hoff
    cases hoff

/-- An inquiry works on the archive and on its own query. -/
theorem framed_inquire (w : World) (n k : Nat) (i : Inquiry) :
    w.Framed ⟨n, .inquire k i⟩ (w.inquire n k i).after := by
  have hafter : ∃ archive queries, (w.inquire n k i).after = { w with archive, queries } ∧
      ∀ key ≠ (n, k), queries.get? key = w.queries.get? key := by
    rw [inquire]
    rcases w.queries.get? (n, k) with _ | q
    · exact ⟨_, _, rfl, fun _ _ => rfl⟩
    · cases i with
      | look => exact ⟨_, _, rfl, fun _ _ => rfl⟩
      | _ => exact ⟨_, _, rfl, fun key hkey => Table.get?_put_of_ne _ hkey _⟩
  obtain ⟨archive, queries, hafter, hothers⟩ := hafter
  rw [hafter]
  refine ⟨fun _ => rfl, fun m _ => agent_congr rfl m, ?_⟩
  intro key hkey
  refine hothers key ?_
  rintro rfl
  simp [Step.concerns] at hkey

/-- A direct call works on the archive and on the volumes held outside. -/
theorem framed_direct (w : World) (n : Nat) (c : DirectCall) :
    w.Framed ⟨n, .direct c⟩ (w.direct c).after := by
  have hafter : ∃ archive held, (w.direct c).after = { w with archive, held } := by
    cases c with
    | query file =>
        rw [direct, callThen]
        rcases (Archive.query file w.archive).ending with why | status | x <;> exact ⟨_, _, rfl⟩
    | release index =>
        rw [direct]
        rcases w.held[index]? with _ | v <;> exact ⟨_, _, rfl⟩
    | _ => exact ⟨_, _, by rw [direct, call_after]⟩
  obtain ⟨archive, held, hafter⟩ := hafter
  rw [hafter]
  refine ⟨?_, fun m _ => agent_congr rfl m, fun _ _ => rfl⟩
  intro hd
  cases hd

/-- The step lemma: what a step may touch is said by its agent and its action alone. -/
theorem framed_step (w : World) (s : Step) : w.Framed s (w.step s).after := by
  obtain ⟨n, action⟩ := s
  cases action with
  | login => exact (framed_callAgent (w.engage n) (s := ⟨n, .login ..⟩) rfl _).of_engage
  | logout => exact (framed_callAgent (w.engage n) (s := ⟨n, .logout⟩) rfl _).of_engage
  | retire =>
      rw [step_retire, call_after]
      refine ⟨fun _ => rfl, ?_, fun _ _ => rfl⟩
      rintro m (hne | hoff)
      · simp only [agent, Table.get?_erase_of_ne _ hne.symm]
      · cases hoff
  | compare other => exact .archive w _ w.archive
  -- the rest works on the archive at most
  | locate | recallFile | recallLocated =>
      rw [step, call_after]
      exact (Framed.archive (w.engage n) _ _).of_engage
  | start k file =>
      refine ⟨fun _ => rfl, fun m _ => agent_engage w n m, ?_⟩
      intro key hkey
      have hne : key ≠ (n, k) := by
        rintro rfl
        simp [Step.concerns] at hkey
      exact Table.get?_put_of_ne _ hne _
  | inquire k i => exact (framed_inquire (w.engage n) n k i).of_engage
  | direct c => exact (framed_direct (w.engage n) n c).of_engage
  | showSession | describe | appear | answers | enter =>
      exact (Framed.archive (w.engage n) _ _).of_engage

/-! ## Who is there -/

theorem agents_inquire (w : World) (n k : Nat) (i : Inquiry) :
    (w.inquire n k i).after.agents = w.agents := by
  unfold inquire
  rcases w.queries.get? (n, k) with _ | q
  · rfl
  · cases i <;> rfl

theorem agents_direct (w : World) (c : DirectCall) : (w.direct c).after.agents = w.agents := by
  cases c with
  | query file =>
      rw [direct, callThen]
      rcases (Archive.query file w.archive).ending with why | status | x <;> rfl
  | release index =>
      rw [direct]
      rcases w.held[index]? with _ | v <;> rfl
  | _ => rw [direct, call_after]

end World

/-- The actions after which their agent is there. -/
def Action.engages : Action → Bool
  | .retire | .compare _ => false
  | _ => true

namespace World

theorem agents_step (w : World) {s : Step} (h : s.action.engages = true) :
    ∃ a, (w.step s).after.agents = w.agents.put s.agent a := by
  obtain ⟨n, action⟩ := s
  cases action with
  | retire | compare => cases h
  | login mechanism principal keytab =>
      obtain ⟨r, t, hp, -⟩ := (w.agent n).login_apart mechanism principal keytab w.archive
      rw [step_login, callAgent_of_eq (w := w.engage n) hp]
      exact ⟨r.1, Table.put_put_self _ _ _ _⟩
  | logout =>
      obtain ⟨r, t, hp, -⟩ := (w.agent n).logout_apart w.archive
      rw [step_logout, callAgent_of_eq (w := w.engage n) hp]
      exact ⟨r.1, Table.put_put_self _ _ _ _⟩
  | locate | recallFile | recallLocated =>
      rw [step, call_after]
      exact ⟨_, rfl⟩
  | inquire k i => exact ⟨_, agents_inquire (w.engage n) n k i⟩
  | direct c => exact ⟨_, agents_direct (w.engage n) c⟩
  | showSession | describe | appear | start | answers | enter => exact ⟨_, rfl⟩

theorem get?_agents_step_of_ne (w : World) {s : Step} {m : Nat} (h : m ≠ s.agent) :
    (w.step s).after.agents.get? m = w.agents.get? m := by
  by_cases he : s.action.engages = true
  · obtain ⟨a, ha⟩ := w.agents_step he
    rw [ha, Table.get?_put_of_ne _ h]
  · obtain ⟨n, action⟩ := s
    cases action with
    | retire =>
        rw [step_retire, call_after]
        exact Table.get?_erase_of_ne _ h
    | compare => rfl
    | _ => exact absurd rfl he

theorem get?_agents_step_self (w : World) {s : Step} (h : s.action.engages = true) :
    (w.step s).after.agents.get? s.agent = some ((w.step s).after.agent s.agent) := by
  obtain ⟨a, ha⟩ := w.agents_step h
  rw [agent, ha, Table.get?_put_self, Option.getD_some]

/-- An agent that is there stays as it is, but for its session. -/
theorem get?_agents_step_of_there (w : World) {s : Step} (hs : s.action.onSession = false)
    (hthere : (w.agents.get? s.agent).isSome = true) :
    (w.step s).after.agents.get? s.agent = w.agents.get? s.agent := by
  by_cases he : s.action.engages = true
  · obtain ⟨a, ha⟩ := Option.isSome_iff_exists.1 hthere
    have hsame := (w.framed_step s).agents s.agent (.inr hs)
    rw [w.get?_agents_step_self he, hsame, agent, ha, Option.getD_some]
  · obtain ⟨n, action⟩ := s
    cases action with
    | retire => cases hs
    | compare => rfl
    | _ => exact absurd rfl he

theorem mem_roll (w : World) (n : Nat) : n ∈ w.roll ↔ (w.agents.get? n).isSome = true := by
  rw [roll, List.mem_mergeSort, Table.mem_keys_iff]

theorem nodup_roll (w : World) : w.roll.Nodup :=
  (List.mergeSort_perm _ _).nodup_iff.2 w.agents.distinct

end World

end TapeRecall
