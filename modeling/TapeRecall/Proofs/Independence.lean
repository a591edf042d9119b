import TapeRecall.Proofs.Alike
import TapeRecall.Proofs.Frame

/-!
# Leaving steps out of a history

What an agent does about files makes no difference to anything that it or another agent does later.
So steps may be left out of a history, and those that stay come out as they did: single operations
on files, queries with all their steps, direct calls, and agents with all that they do. What has to
stay are the sessions of the agents that stay, and the steps that settle how the archive answers
and what it knows.

The two histories are compared world by world. `World.Matched` says what two worlds have in common
that belong to the same point of the two; a step that is left out keeps them matched
(`Matched.skip`), a step that stays keeps them matched as well (`Matched.both`) and its two reports
agree (`Matched.agree`). The counts of volumes and the numbers of handles differ, and the archives
are compared without them.
-/

set_option autoImplicit false

namespace TapeRecall

/-! ## Histories with steps left out -/

/-- A step of a history, and whether it stays in a shorter one. -/
structure Entry where
  step : Step
  stays : Bool

namespace Entry

/-- All steps. -/
def whole (script : List Entry) : List Step := script.map Entry.step

/-- The steps that stay. -/
def remainder (script : List Entry) : List Step := (script.filter Entry.stays).map Entry.step

/-- The queries that are left out, after this entry: with the step that starts a query all of it is
left out. -/
def losing (e : Entry) (lost : Nat × Nat → Bool) : Nat × Nat → Bool :=
  fun key => if e.step.starts key then !e.stays else lost key

/-- The step may stay or be left out as the entry says, where the agents in `gone` and the queries
in `lost` are left out. An agent that stays keeps its sessions and all steps of the queries that it
keeps; any other step of it may be left out if the agent is there already. -/
def fits (gone : Nat → Bool) (lost : Nat × Nat → Bool) (there : Bool) (e : Entry) : Bool :=
  match e.step.action with
  | .answers _ | .enter .. => e.stays
  | .login .. | .logout | .retire => e.stays || gone e.step.agent
  | .inquire k _ =>
    gone e.step.agent || if lost (e.step.agent, k) then !e.stays && there else e.stays
  | _ => e.stays || gone e.step.agent || there

/-- Every step of a script from this world on may stay or be left out as its entry says. -/
def thins (gone : Nat → Bool) : World → (Nat × Nat → Bool) → List Entry → Bool
  | _, _, [] => true
  | w, lost, e :: rest =>
    e.fits gone lost (w.agents.get? e.step.agent).isSome &&
      thins gone (w.step e.step).after (e.losing lost) rest

variable {gone : Nat → Bool} {lost : Nat × Nat → Bool} {there : Bool} {e : Entry}

theorem setsArchive_of_fits (h : e.fits gone lost there = true) (hout : e.stays = false) :
    e.step.action.setsArchive = false := by
  obtain ⟨⟨n, action⟩, stays⟩ := e
  cases action with
  | answers | enter => exact absurd (hout.symm.trans h) nofun
  | _ => rfl

/-- Of an agent that stays no session step is left out, and no step at all before it is there. -/
theorem onSession_of_fits (h : e.fits gone lost there = true) (hout : e.stays = false)
    (hn : gone e.step.agent = false) :
    e.step.action.onSession = false ∧ there = true := by
  obtain ⟨⟨n, action⟩, stays⟩ := e
  obtain rfl : stays = false := hout
  cases action with
  | login | logout | retire => exact absurd (hn.symm.trans h) nofun
  | answers | enter => cases h
  | inquire k i =>
      have hlost : lost (n, k) = true ∧ there = true := by simpa [fits, hn] using h
      exact ⟨rfl, hlost.2⟩
  | _ =>
      have hthere : there = true := by simpa [fits, hn] using h
      exact ⟨rfl, hthere⟩

theorem concerns_of_fits (h : e.fits gone lost there = true) (hout : e.stays = false)
    {key : Nat × Nat} (hn : gone key.1 = false) (hkey : lost key = false)
    (hstarts : e.step.starts key = false) : e.step.concerns key = false := by
  rw [Bool.eq_false_iff]
  intro hconcerns
  -- it would be an inquiry about a query that is not left out
  obtain ⟨i, hi⟩ := Step.eq_of_concerns hconcerns hstarts
  have hstays : e.stays = true := by simpa [fits, hi, hn, hkey] using h
  cases hstays.symm.trans hout

theorem lost_of_fits (h : e.fits gone lost there = true) (hstays : e.stays = true)
    (hn : gone e.step.agent = false) {k : Nat} {i : Inquiry}
    (hi : e.step.action = .inquire k i) : lost (e.step.agent, k) = false := by
  rw [Bool.eq_false_iff]
  intro hlost
  simp [fits, hi, hn, hlost, hstays] at h

end Entry

/-- A step that an agent takes and not the archive's caller, and that is about agents that stay. -/
def Step.observed (gone : Nat → Bool) (s : Step) : Bool :=
  !gone s.agent && match s.action with
    | .direct _ => false
    | .compare other => !gone other
    | _ => true

/-- Two reports of a step agree in its result, in its calls, in all that it reports but the numbers
of handles, and in what its agent and its query are afterwards. -/
structure Report.Agree (s : Step) (r u : Report) : Prop where
  result : r.result = u.result
  calls : r.trace.replies = u.trace.replies
  trace : r.trace.unnumbered = u.trace.unnumbered
  agent : r.after.agent s.agent = u.after.agent s.agent
  query : ∀ k i, s.action = .inquire k i →
    r.after.queries.get? (s.agent, k) = u.after.queries.get? (s.agent, k)

namespace World

/-- The worlds belong to the same point of a history and of one with steps left out. -/
structure Matched (gone : Nat → Bool) (lost : Nat × Nat → Bool) (w v : World) : Prop where
  archive : w.archive.Alike v.archive
  agents : ∀ n, gone n = false → w.agents.get? n = v.agents.get? n
  queries : ∀ key, gone key.1 = false → lost key = false →
    w.queries.get? key = v.queries.get? key

variable {gone : Nat → Bool} {lost : Nat × Nat → Bool} {w v : World} {s : Step}

theorem Matched.refl (gone : Nat → Bool) (lost : Nat × Nat → Bool) (w : World) :
    w.Matched gone lost w :=
  ⟨.refl _, fun _ _ => rfl, fun _ _ _ => rfl⟩

theorem Matched.agent (h : w.Matched gone lost v) {n : Nat} (hn : gone n = false) :
    w.agent n = v.agent n := by
  rw [World.agent, World.agent, h.agents n hn]

/-! ## The same step at matched worlds -/

theorem agree_call {α : Type} {p : Proc Archive α}
    (h : (p w.archive).Alike Archive.Alike (p v.archive)) (result : α → Result) {n : Nat}
    (hn : w.agent n = v.agent n) :
    (w.call p result).result = (v.call p result).result ∧
      (w.call p result).trace.unnumbered = (v.call p result).trace.unnumbered ∧
      (w.call p result).after.agent n = (v.call p result).after.agent n := by
  rw [call_result, call_result, call_trace, call_trace, call_after, call_after, h.ending]
  exact ⟨rfl, h.trace, hn⟩

theorem agree_callAgent {p : Proc Archive (Agent × Except SessionFault Unit)}
    (h : (p w.archive).Alike Archive.Alike (p v.archive)) {n : Nat}
    (hn : w.agent n = v.agent n) :
    (w.callAgent n p).result = (v.callAgent n p).result ∧
      (w.callAgent n p).trace.unnumbered = (v.callAgent n p).trace.unnumbered ∧
      (w.callAgent n p).after.agent n = (v.callAgent n p).after.agent n := by
  rw [callAgent, callAgent, callThen, callThen, h.ending]
  rcases (p v.archive).ending with why | r
  · exact ⟨rfl, h.trace, hn⟩
  · exact ⟨rfl, h.trace, by rw [agent_put_self, agent_put_self]⟩

theorem agree_callQuery {α : Type} {q : Query} {step : Query.Step α}
    (h : (step.run (q, w.archive)).Alike Query.SameAt (step.run (q, v.archive)))
    (key : Nat × Nat) (result : α → Result) :
    (w.callQuery key q step result).result = (v.callQuery key q step result).result ∧
      (w.callQuery key q step result).trace.unnumbered =
        (v.callQuery key q step result).trace.unnumbered ∧
      (w.callQuery key q step result).after.queries.get? key =
        (v.callQuery key q step result).after.queries.get? key := by
  rw [callQuery_result, callQuery_result, callQuery_trace, callQuery_trace, callQuery_after,
    callQuery_after, Table.get?_put_self, Table.get?_put_self, h.ending, h.state.1]
  exact ⟨rfl, h.trace, rfl⟩

theorem agree_inquire (harchive : w.archive.Alike v.archive) {n k : Nat}
    (hagent : w.agent n = v.agent n) (hquery : w.queries.get? (n, k) = v.queries.get? (n, k))
    (i : Inquiry) :
    (w.inquire n k i).result = (v.inquire n k i).result ∧
      (w.inquire n k i).trace.unnumbered = (v.inquire n k i).trace.unnumbered ∧
      (w.inquire n k i).after.queries.get? (n, k) =
        (v.inquire n k i).after.queries.get? (n, k) := by
  unfold inquire
  rw [hquery, hagent]
  rcases hq : v.queries.get? (n, k) with _ | q
  · exact ⟨rfl, rfl, hquery⟩
  · cases i with
    | locate => exact agree_callQuery (Query.alike_locate (v.agent n) q harchive) (n, k) _
    | recallFile => exact agree_callQuery (Query.alike_recallFile (v.agent n) q harchive) (n, k) _
    | run => exact agree_callQuery (Query.alike_run (v.agent n) q harchive) (n, k) _
    | look => exact ⟨rfl, rfl, hquery⟩

theorem agree_of_parts {s : Step} {r u : Report}
    (h : r.result = u.result ∧ r.trace.unnumbered = u.trace.unnumbered ∧
      r.after.agent s.agent = u.after.agent s.agent)
    (hquery : ∀ k i, s.action ≠ .inquire k i) : r.Agree s u where
  result := h.1
  calls := Trace.replies_eq_of_unnumbered h.2.1
  trace := h.2.1
  agent := h.2.2
  query := fun k i hi => absurd hi (hquery k i)

/-- A step of an agent that stays comes out the same, where it is not about a query that is left
out. -/
theorem Matched.agree (h : w.Matched gone lost v) (hs : s.observed gone = true)
    (hlost : ∀ k i, s.action = .inquire k i → lost (s.agent, k) = false) :
    (w.step s).Agree s (v.step s) := by
  obtain ⟨n, action⟩ := s
  simp only [Step.observed, Bool.and_eq_true, Bool.not_eq_true'] at hs
  obtain ⟨hn, hseen⟩ := hs
  have hagent := h.agent hn
  have hhere : (w.engage n).agent n = (v.engage n).agent n := by
    rw [agent_engage, agent_engage, hagent]
  cases action with
  | login mechanism principal keytab =>
      have halike := (v.agent n).alike_login h.archive mechanism principal keytab
      rw [step_login, step_login, hagent]
      exact agree_of_parts (agree_callAgent (w := w.engage n) (v := v.engage n) halike hhere) nofun
  | logout =>
      have halike := (v.agent n).alike_logout h.archive
      rw [step_logout, step_logout, hagent]
      exact agree_of_parts (agree_callAgent (w := w.engage n) (v := v.engage n) halike hhere) nofun
  | retire =>
      have halike := (v.agent n).alike_retire h.archive
      have hleft : ({ w with agents := w.agents.erase n } : World).agent n =
          ({ v with agents := v.agents.erase n } : World).agent n := by
        rw [agent_erase_self, agent_erase_self]
      rw [step_retire, step_retire, hagent, h.agents n hn]
      exact agree_of_parts (agree_call (w := { w with agents := w.agents.erase n })
        (v := { v with agents := v.agents.erase n }) halike _ hleft) nofun
  | compare other =>
      have hother := h.agent (by simpa using hseen)
      have hsame : (w.agent n).sameSession (w.agent other) =
          (v.agent n).sameSession (v.agent other) := by
        rw [hagent, hother]
      exact agree_of_parts ⟨congrArg Result.truth hsame, rfl, hagent⟩ nofun
  | locate file =>
      have halike := (v.agent n).alike_locate h.archive file
      rw [step_locate, step_locate, hagent]
      exact agree_of_parts (agree_call (w := w.engage n) (v := v.engage n) halike _ hhere) nofun
  | recallFile file length =>
      have halike := (v.agent n).alike_recallFile h.archive ⟨file, length⟩
      rw [step_recallFile, step_recallFile, hagent]
      exact agree_of_parts (agree_call (w := w.engage n) (v := v.engage n) halike _ hhere) nofun
  | recallLocated file l =>
      have halike := (v.agent n).alike_recallFile h.archive (.ofLocation file l)
      rw [step_recallLocated, step_recallLocated, hagent]
      exact agree_of_parts (agree_call (w := w.engage n) (v := v.engage n) halike _ hhere) nofun
  | inquire k i =>
      obtain ⟨hresult, htrace, hquery⟩ := agree_inquire (w := w.engage n) (v := v.engage n)
        h.archive hhere (h.queries (n, k) hn (hlost k i rfl)) i
      refine ⟨hresult, Trace.replies_eq_of_unnumbered htrace, htrace, ?_, ?_⟩
      · have hw := (w.framed_step ⟨n, .inquire k i⟩).agents n (.inr rfl)
        have hv := (v.framed_step ⟨n, .inquire k i⟩).agents n (.inr rfl)
        exact hw.trans (hagent.trans hv.symm)
      · rintro k i ⟨⟩
        exact hquery
  | direct c => cases hseen
  | showSession =>
      have hsame : (w.agent n).session = (v.agent n).session := by rw [hagent]
      exact agree_of_parts ⟨congrArg Result.session hsame, rfl, hhere⟩ nofun
  | describe =>
      have hsame : (w.agent n).describe = (v.agent n).describe := by rw [hagent]
      exact agree_of_parts ⟨congrArg Result.text hsame, rfl, hhere⟩ nofun
  | appear | start | answers | enter => exact agree_of_parts ⟨rfl, rfl, hhere⟩ nofun

/-! ## What the next step finds -/

/-- A step that is left out keeps the worlds matched. -/
theorem Matched.skip {e : Entry} (h : w.Matched gone lost v)
    (hfits : e.fits gone lost (w.agents.get? e.step.agent).isSome = true)
    (hout : e.stays = false) :
    (w.step e.step).after.Matched gone (e.losing lost) v where
  archive := (w.alike_step (Entry.setsArchive_of_fits hfits hout)).symm.trans h.archive
  agents := by
    intro n hn
    by_cases hself : n = e.step.agent
    · subst hself
      obtain ⟨hsession, hthere⟩ := Entry.onSession_of_fits hfits hout hn
      rw [w.get?_agents_step_of_there hsession hthere, h.agents _ hn]
    · rw [w.get?_agents_step_of_ne hself, h.agents n hn]
  queries := by
    intro key hn hkey
    have hstarts : e.step.starts key = false := by
      rw [Bool.eq_false_iff]
      intro hstarts
      simp [Entry.losing, hstarts, hout] at hkey
    have hlost : lost key = false := by simpa [Entry.losing, hstarts] using hkey
    have hconcerns := Entry.concerns_of_fits hfits hout hn hlost hstarts
    rw [(w.framed_step e.step).queries key hconcerns, h.queries key hn hlost]

theorem Matched.archive_step (h : w.Matched gone lost v) (s : Step) :
    (w.step s).after.archive.Alike (v.step s).after.archive := by
  by_cases hset : s.action.setsArchive = true
  · obtain ⟨n, action⟩ := s
    cases action with
    | answers a => exact ⟨rfl, h.archive.catalogue⟩
    | enter name x =>
        refine ⟨h.archive.answers, ?_⟩
        change w.archive.catalogue.put name x = v.archive.catalogue.put name x
        rw [h.archive.catalogue]
    | _ => cases hset
  · have hkeeps : s.action.setsArchive = false := by simpa using hset
    exact (w.alike_step hkeeps).symm.trans (h.archive.trans (v.alike_step hkeeps))

theorem Matched.agents_step (h : w.Matched gone lost v) (s : Step) {n : Nat} (hn : gone n = false) :
    (w.step s).after.agents.get? n = (v.step s).after.agents.get? n := by
  by_cases hself : n = s.agent
  · subst hself
    by_cases he : s.action.engages = true
    · -- both steps leave the agent there, and what is left to compare is its session
      suffices hsame : (w.step s).after.agent s.agent = (v.step s).after.agent s.agent by
        rw [w.get?_agents_step_self he, v.get?_agents_step_self he, hsame]
      by_cases hsession : s.action.onSession = true
      · have hseen : s.observed gone = true := by
          obtain ⟨n, action⟩ := s
          cases action with
          | login | logout | retire => simpa [Step.observed] using hn
          | _ => cases hsession
        refine (h.agree hseen ?_).agent
        intro k i hi
        rw [hi] at hsession
        cases hsession
      · have hoff : s.action.onSession = false := by simpa using hsession
        rw [(w.framed_step s).agents _ (.inr hoff), (v.framed_step s).agents _ (.inr hoff),
          h.agent hn]
    · obtain ⟨n, action⟩ := s
      -- by a retirement both are gone, and a comparison changes nothing
      cases action with
      | retire =>
          rw [step_retire, step_retire, call_after, call_after]
          simp only [Table.get?_erase_self]
      | compare => exact h.agents n hn
      | _ => exact absurd rfl he
  · rw [w.get?_agents_step_of_ne hself, v.get?_agents_step_of_ne hself, h.agents n hn]

theorem Matched.queries_step (h : w.Matched gone lost v) (s : Step) {key : Nat × Nat}
    (hn : gone key.1 = false) (hkey : s.starts key = true ∨ lost key = false) :
    (w.step s).after.queries.get? key = (v.step s).after.queries.get? key := by
  by_cases hstarts : s.starts key = true
  · obtain ⟨file, rfl⟩ := Step.eq_of_starts hstarts
    have hstarted : ∀ u : World, (u.step ⟨key.1, .start key.2 file⟩).after.queries.get? key =
        some { file } := fun _ => Table.get?_put_self _ _ _
    rw [hstarted, hstarted]
  · have hlost : lost key = false := hkey.resolve_left hstarts
    by_cases hconcerns : s.concerns key = true
    · obtain ⟨i, rfl⟩ := Step.eq_of_concerns hconcerns (by simpa using hstarts)
      have hseen : Step.observed gone ⟨key.1, .inquire key.2 i⟩ = true := by
        simpa [Step.observed] using hn
      refine (h.agree hseen ?_).query key.2 i rfl
      rintro k i ⟨⟩
      exact hlost
    · have hother : s.concerns key = false := by simpa using hconcerns
      rw [(w.framed_step s).queries key hother, (v.framed_step s).queries key hother,
        h.queries key hn hlost]

/-- A step that stays keeps the worlds matched. -/
theorem Matched.both (h : w.Matched gone lost v) (e : Entry) :
    (w.step e.step).after.Matched gone (e.losing lost) (v.step e.step).after where
  archive := h.archive_step e.step
  agents := fun n hn => h.agents_step e.step hn
  queries := by
    intro key hn hkey
    apply h.queries_step e.step hn
    by_cases hstarts : e.step.starts key = true
    · exact .inl hstarts
    · right
      simpa [Entry.losing, hstarts] using hkey

/-! ## The rest of the history -/

/-- The worlds are matched wherever the two histories have come. -/
theorem Matched.afterAll {past rest : List Entry} (h : w.Matched gone lost v)
    (hthins : Entry.thins gone w lost (past ++ rest) = true) :
    ∃ lost', (w.afterAll (Entry.whole past)).Matched gone lost'
        (v.afterAll (Entry.remainder past)) ∧
      Entry.thins gone (w.afterAll (Entry.whole past)) lost' rest = true := by
  induction past generalizing w v lost with
  | nil => exact ⟨lost, h, hthins⟩
  | cons e past ih =>
      simp only [List.cons_append, Entry.thins, Bool.and_eq_true] at hthins
      obtain ⟨hfits, hthins⟩ := hthins
      by_cases hstays : e.stays = true
      · have hremainder : Entry.remainder (e :: past) = e.step :: Entry.remainder past := by
          simp only [Entry.remainder, List.filter_cons, hstays, if_true, List.map_cons]
        rw [hremainder]
        exact ih (h.both e) hthins
      · have hout : e.stays = false := by simpa using hstays
        have hremainder : Entry.remainder (e :: past) = Entry.remainder past := by
          simp only [Entry.remainder, List.filter_cons, hout, Bool.false_eq_true, if_false]
        rw [hremainder]
        exact ih (h.skip hfits hout) hthins

theorem Matched.symm (h : w.Matched gone lost v) : v.Matched gone lost w where
  archive := h.archive.symm
  agents := fun n hn => (h.agents n hn).symm
  queries := fun key hn hkey => (h.queries key hn hkey).symm

/-- Seen from one agent, everybody else may as well be gone, and all queries lost. -/
theorem Matched.only (h : w.Matched gone lost v) {n : Nat} (hn : gone n = false) :
    w.Matched (fun m => m != n) (fun _ => true) v where
  archive := h.archive
  agents := by
    intro m hm
    have hself : m = n := by simpa using hm
    rw [hself, h.agents n hn]
  queries := nofun

/-- That others retire first makes no difference to an agent. -/
theorem Matched.retirements {n : Nat} {others : List Nat}
    (h : w.Matched (fun m => m != n) (fun _ => true) v) (hothers : n ∉ others) :
    (w.afterAll (others.map (⟨·, .retire⟩))).Matched (fun m => m != n) (fun _ => true) v := by
  induction others generalizing w with
  | nil => exact h
  | cons m others ih =>
      have hm : m ≠ n := fun e => hothers (e ▸ List.mem_cons_self)
      -- seen from here, the step is one that is left out
      have hskip := h.skip (e := ⟨⟨m, .retire⟩, false⟩) (by simp [Entry.fits, hm]) rfl
      exact ih (hskip.only (by simp)) (fun hmem => hothers (List.mem_cons_of_mem m hmem))

/-- Those who retire before an agent in a dismissal are others. -/
theorem exists_of_dismissal {w : World} {n : Nat} {first later : List Step}
    (h : w.dismissal = first ++ ⟨n, .retire⟩ :: later) :
    ∃ others : List Nat, first = others.map (⟨·, .retire⟩) ∧ n ∉ others := by
  obtain ⟨others, rest, hroll, hfirst, hrest⟩ := List.map_eq_append_iff.1 h
  obtain ⟨m, last, rfl, hm, -⟩ := List.map_eq_cons_iff.1 hrest
  obtain rfl : m = n := congrArg Step.agent hm
  have hnodup : (others ++ m :: last).Nodup := hroll ▸ w.nodup_roll
  refine ⟨others, hfirst.symm, ?_⟩
  intro hmem
  exact (List.nodup_append.1 hnodup).2.2 m hmem m List.mem_cons_self rfl

/-- **What is left out makes no difference.** Leave out of a history single operations on files,
queries with all their steps, direct calls, and agents with all their steps. Then the other steps of
the agents that stay, direct calls apart, have the same results, make the same calls and report the
same, and their agents and queries are the same afterwards; and in the end the same of these agents
are still there, and retire in the same way. -/
theorem remainder_agrees (w : World) (gone : Nat → Bool) (script : List Entry)
    (thins : Entry.thins gone w (fun _ => false) script = true) :
    (∀ past s later, script = past ++ ⟨s, true⟩ :: later → s.observed gone = true →
      ((w.afterAll (Entry.whole past)).step s).Agree s
        ((w.afterAll (Entry.remainder past)).step s)) ∧
    ∀ n, gone n = false →
      let full := w.afterAll (Entry.whole script)
      let short := w.afterAll (Entry.remainder script)
      (n ∈ full.roll ↔ n ∈ short.roll) ∧
      ∀ first later first' later',
        full.dismissal = first ++ ⟨n, .retire⟩ :: later →
        short.dismissal = first' ++ ⟨n, .retire⟩ :: later' →
        ((full.afterAll first).step ⟨n, .retire⟩).Agree ⟨n, .retire⟩
          ((short.afterAll first').step ⟨n, .retire⟩) := by
  refine ⟨?_, ?_⟩
  · rintro past s later rfl hseen
    obtain ⟨lost, hmatched, hrest⟩ := (Matched.refl gone _ w).afterAll thins
    simp only [Entry.thins, Bool.and_eq_true] at hrest
    have hn : gone s.agent = false := by
      simp only [Step.observed, Bool.and_eq_true, Bool.not_eq_true'] at hseen
      exact hseen.1
    exact hmatched.agree hseen fun k i hi => Entry.lost_of_fits hrest.1 rfl hn hi
  · intro n hn full short
    have hwhole : Entry.thins gone w (fun _ => false) (script ++ []) = true := by
      rwa [List.append_nil]
    obtain ⟨lost, hmatched, -⟩ := (Matched.refl gone _ w).afterAll hwhole
    refine ⟨?_, ?_⟩
    · rw [mem_roll, mem_roll, hmatched.agents n hn]
    · intro first later first' later' hfull hshort
      obtain ⟨others, rfl, hothers⟩ := exists_of_dismissal hfull
      obtain ⟨others', rfl, hothers'⟩ := exists_of_dismissal hshort
      have hlast := (((hmatched.only hn).retirements hothers).symm.retirements hothers').symm
      refine hlast.agree ?_ nofun
      simp [Step.observed]

/-- What precedes the recall of a query: a second query that is cut short, a direct opening, and
another agent with a session are left out. -/
def thinnedScript : List Entry :=
  [⟨⟨0, .enter "/t" (.file [.vacant .diskLevel, .onTape 7 "A" 12 1])⟩, true⟩,
    ⟨⟨0, .login "unix" "p" "/k"⟩, true⟩, ⟨⟨1, .login "unix" "q" "/k"⟩, false⟩,
    ⟨⟨0, .start 0 "/t"⟩, true⟩, ⟨⟨0, .start 1 "/t"⟩, false⟩, ⟨⟨1, .locate "/t"⟩, false⟩,
    ⟨⟨0, .inquire 0 .locate⟩, true⟩, ⟨⟨0, .direct (.openFile "/t" .readOnlyNonblock)⟩, false⟩,
    ⟨⟨1, .answers { recallFile := .abort, closeFile := some .badHandle }⟩, true⟩,
    ⟨⟨0, .inquire 1 .run⟩, false⟩]

/-- The recall opens handles of different numbers in the two histories, and agrees. -/
theorem thinnedScript_agrees :
    Entry.thins (· == 1) (opening {} .empty) (fun _ => false)
        (thinnedScript ++ [⟨⟨0, .inquire 0 .recallFile⟩, true⟩]) = true ∧
      ((opening {} .empty).afterAll (Entry.whole thinnedScript)).archive.nextHandle ≠
        ((opening {} .empty).afterAll (Entry.remainder thinnedScript)).archive.nextHandle ∧
      (((opening {} .empty).afterAll (Entry.whole thinnedScript)).step
        ⟨0, .inquire 0 .recallFile⟩).Agree ⟨0, .inquire 0 .recallFile⟩
        (((opening {} .empty).afterAll (Entry.remainder thinnedScript)).step
          ⟨0, .inquire 0 .recallFile⟩) := by
  have thins : Entry.thins (· == 1) (opening {} .empty) (fun _ => false)
      (thinnedScript ++ [⟨⟨0, .inquire 0 .recallFile⟩, true⟩]) = true := by decide
  have hnumbers : ((opening {} .empty).afterAll (Entry.whole thinnedScript)).archive.nextHandle ≠
      ((opening {} .empty).afterAll (Entry.remainder thinnedScript)).archive.nextHandle := by
    decide
  obtain ⟨hagree, -⟩ := remainder_agrees (opening {} .empty) (· == 1) _ thins
  exact ⟨thins, hnumbers, hagree thinnedScript ⟨0, .inquire 0 .recallFile⟩ [] rfl (by decide)⟩

end World

end TapeRecall
