import Mathlib.Algebra.Group.Nat.Defs
import Mathlib.Data.List.Induction
import TapeRecall.Proofs.Frame

/-!
# The accounts of an archive

An archive counts the volumes that are out and keeps the handles that are open. What it should find
there is what direct calls took and did not give back, and nothing else: an agent gives back all
that it takes within the step in which it takes it.

The ledger (`World.ledger`) is kept from outside, from the direct calls and their results alone, and
the main statement compares it with the archive after every step of every history. Handles are
numbered upwards from zero in 32 bits, so that two open files have different handles only as long
as the numbers do not come round again; hence the bound on the openings of the history.
-/

set_option autoImplicit false

namespace TapeRecall

/-! ## The ledger -/

/-- What direct calls took from the archive and did not give back. -/
structure Ledger where
  /-- How many volumes. -/
  volumes : Int := 0
  /-- Which handles, the latest first. -/
  handles : List Handle := []

namespace Ledger

/-- The ledger after an action with this result. Only direct calls are booked. -/
def book (l : Ledger) : Action → Result → Ledger
  | .direct (.query _), .attributes x => { l with volumes := l.volumes + x.volumes.length }
  | .direct (.release _), .done => { l with volumes := l.volumes - 1 }
  | .direct (.openFile ..), .handle h => { l with handles := h :: l.handles }
  -- a close takes the handle out even where it is refused afterwards
  | .direct (.closeFile h), _ => { l with handles := l.handles.erase h }
  | _, _ => l

end Ledger

/-- The ledger of a history. -/
def World.ledger (w : World) (steps : List Step) : Ledger :=
  (w.gather (fun w s => [(s.action, (w.step s).result)]) steps).foldl
    (fun l e => l.book e.1 e.2) {}

/-- How many openings were accepted. -/
def openings (log : List Exchange) : Nat :=
  log.countP fun e => match e with
    | (.openFile .., .accepted) => true
    | _ => false

@[simp] theorem openings_append (t u : List Exchange) :
    openings (t ++ u) = openings t + openings u := List.countP_append

theorem openings_releases (vs : List Volume) :
    openings (vs.map fun v => (.release v.id, .accepted)) = 0 := by
  rw [openings, List.countP_eq_zero]
  intro e he
  obtain ⟨v, -, rfl⟩ := List.mem_map.1 he
  simp

/-- Calls about credentials open nothing. -/
theorem openings_eq_zero {t : List Exchange} (h : ∀ e ∈ t, e.1.aboutCredentials = true) :
    openings t = 0 := by
  rw [openings, List.countP_eq_zero]
  intro e he
  have hc := h e he
  obtain ⟨call, reply⟩ := e
  cases call <;> simp_all [Call.aboutCredentials]

/-! ## The numbering of handles -/

namespace Archive

/-- The next handle has this number and every open one has a lower number. -/
structure Numbered (a : Archive) (n : Nat) : Prop where
  next : a.nextHandle.toInt = n
  below : ∀ h ∈ a.handles.keys, h.number.toInt < n

variable {a b : Archive} {n : Nat}

theorem Numbered.fresh_not_mem (h : a.Numbered n) : a.fresh ∉ a.handles.keys := by
  intro hmem
  have hlt := h.below a.fresh hmem
  have hnext := h.next
  have hnum : a.fresh.number = a.nextHandle := rfl
  rw [hnum] at hlt
  omega

/-- One more handle, as long as its number has room. -/
theorem Numbered.succ (h : a.Numbered n) (few : n + 1 < 2 ^ 31) :
    (a.nextHandle + 1).toInt = (n + 1 : Nat) := by
  have hnext := h.next
  -- the sum stays below the largest number of 32 bits, so that nothing wraps around
  rw [Int32.toInt_add, Int32.toInt_one, hnext, Int.bmod_eq_of_le_mul_two] <;> omega

theorem Numbered.opened (h : a.Numbered n) (few : n + 1 < 2 ^ 31) (file : String) :
    (a.opened file).Numbered (n + 1) := by
  refine ⟨h.succ few, ?_⟩
  intro handle hmem
  rw [Archive.opened, Table.keys_put_of_not_mem _ h.fresh_not_mem] at hmem
  have hnext := h.next
  rcases List.mem_cons.1 hmem with rfl | hold
  · have hnum : a.fresh.number = a.nextHandle := rfl
    rw [hnum]
    omega
  · have hlt := h.below handle hold
    omega

theorem Numbered.closed (h : a.Numbered n) (handle : Handle) : (a.closed handle).Numbered n := by
  refine ⟨h.next, ?_⟩
  intro other hmem
  have hkeys : (a.closed handle).handles.keys = a.handles.keys.erase handle :=
    Table.keys_erase _ _
  rw [hkeys] at hmem
  exact h.below other (List.mem_of_mem_erase hmem)

theorem Numbered.congr (h : a.Numbered n) (hk : b.handles = a.handles)
    (hn : b.nextHandle = a.nextHandle) : b.Numbered n :=
  ⟨hn ▸ h.next, fun handle hmem => h.below handle (hk ▸ hmem)⟩

end Archive

/-! ## File work leaves the accounts alone -/

/-- Whatever work on files an archive went through, it has the handles that it had and has got back
as many volumes as it handed out. -/
theorem FileWork.accounts {a b : Archive} {t : List Exchange} (h : FileWork a t b) {n : Nat}
    (hn : a.Numbered n) (few : n + openings t < 2 ^ 31) :
    b.Numbered (n + openings t) ∧ b.handles = a.handles ∧
      b.acquired + a.released = a.acquired + b.released := by
  induction h generalizing n with
  | nothing a => exact ⟨hn, rfl, rfl⟩
  | queryRefused file status _ ih => exact ih hn few
  | @scanned a b t file x _ ih =>
      have hzero : openings ((.query file, .accepted) ::
          (x.volumes.map fun v => (.release v.id, .accepted)) ++ t) = openings t := by
        rw [openings_append]
        have hblock : openings ((.query file, .accepted) ::
            x.volumes.map fun v => (.release v.id, .accepted)) = 0 := openings_releases x.volumes
        rw [hblock, Nat.zero_add]
      -- a scan opens nothing, and what it handed out it took back
      rw [hzero] at few ⊢
      obtain ⟨hnum, hhandles, hvolumes⟩ := ih (hn.congr rfl rfl) few
      refine ⟨hnum, hhandles, ?_⟩
      simp only [Archive.handOut, Archive.takeBack] at hvolumes
      omega
  | openRefused file mode status _ ih => exact ih hn few
  | @recalled a b t r _ ih =>
      have hone : openings (Recall.exchanges r a.answers ++ t) = openings t + 1 := by
        rw [openings_append, Nat.add_comm]
        congr 1
      rw [hone] at few ⊢
      have hroom : n + 1 < 2 ^ 31 := by omega
      have hblock := (hn.opened hroom r.file).closed a.fresh
      obtain ⟨hnum, hhandles, hvolumes⟩ := ih hblock (by omega)
      -- the fresh handle is none of the open ones, so closing it brings the old table back
      have hsame : ((a.opened r.file).closed a.fresh).handles = a.handles := by
        rw [Archive.closed, Archive.opened, Table.erase_put_self]
        exact Table.erase_of_not_mem _ hn.fresh_not_mem
      refine ⟨?_, hhandles.trans hsame, hvolumes⟩
      have hsum : n + (openings t + 1) = n + 1 + openings t := by omega
      rw [hsum]
      exact hnum

/-! ## What a step does to the accounts -/

namespace World

/-- The archive has exactly what the ledger says, and the next handle is number `n`. -/
structure Balanced (w : World) (n : Nat) (l : Ledger) : Prop where
  numbered : w.archive.Numbered n
  volumes : w.archive.acquired = w.archive.released + w.held.length
  held : (w.held.length : Int) = l.volumes
  handles : w.archive.handles.keys = l.handles

theorem book_of_not_direct (l : Ledger) {action : Action} (h : action.isDirect = false)
    (r : Result) : l.book action r = l := by
  cases action with
  | direct call => cases h
  | _ => rfl

variable {w : World} {n : Nat} {l : Ledger}

/-- A step of an agent that is not a direct call leaves the accounts as they are. -/
theorem Balanced.step_of_not_direct (h : w.Balanced n l) {s : Step}
    (hd : s.action.isDirect = false) (few : n + openings (w.step s).trace.replies < 2 ^ 31) :
    (w.step s).after.Balanced (n + openings (w.step s).trace.replies) l ∧
      (w.step s).after.archive.handles = w.archive.handles := by
  have hheld := (w.framed_step s).held hd
  -- work on files balances by itself, and everything else leaves the stock alone
  by_cases hf : s.action.onFiles = true
  · obtain ⟨hnum, hhandles, hvolumes⟩ := (w.works_step hf).work.accounts h.numbered few
    have hbefore := h.volumes
    refine ⟨⟨hnum, ?_, ?_, ?_⟩, hhandles⟩
    · rw [hheld]
      omega
    · rw [hheld]
      exact h.held
    · rw [hhandles]
      exact h.handles
  · obtain ⟨hstock, hcalls⟩ := w.apart_step (by simpa using hf) hd
    rw [openings_eq_zero hcalls, Nat.add_zero]
    refine ⟨⟨h.numbered.congr hstock.handles hstock.nextHandle, ?_, ?_, ?_⟩, hstock.handles⟩
    · rw [hstock.acquired, hstock.released, hheld]
      exact h.volumes
    · rw [hheld]
      exact h.held
    · rw [hstock.handles]
      exact h.handles

/-- A direct call changes the archive and the ledger by the same. -/
theorem Balanced.direct (h : w.Balanced n l) (c : DirectCall)
    (few : n + openings (w.direct c).trace.replies < 2 ^ 31) :
    (w.direct c).after.Balanced (n + openings (w.direct c).trace.replies)
      (l.book (.direct c) (w.direct c).result) := by
  cases c with
  | login mechanism principal keytab =>
      rw [World.direct, call_trace, call_after, Archive.login_apply]
      exact h
  | purge =>
      rw [World.direct, call_trace, call_after, Archive.purge_apply]
      exact h
  | query file =>
      rcases hk : w.archive.known file with status | x
      · rw [World.direct, callThen_of_eq (Archive.query_apply_of_error hk)]
        exact h
      · rw [World.direct, callThen_of_eq (Archive.query_apply_of_ok hk)]
        refine ⟨h.numbered.congr rfl rfl, ?_, ?_, h.handles⟩
        · have hbefore := h.volumes
          simp only [Archive.handOut, List.length_append]
          omega
        · have hbefore := h.held
          simp only [Ledger.book, List.length_append]
          omega
  | release index =>
      rcases hi : w.held[index]? with _ | v
      · rw [World.direct, hi]
        exact h
      · obtain ⟨hlt, -⟩ := List.getElem?_eq_some_iff.1 hi
        have hlen : (w.held.eraseIdx index).length = w.held.length - 1 :=
          List.length_eraseIdx_of_lt hlt
        rw [World.direct, hi]
        simp only
        rw [callThen_of_eq (Archive.release_apply v w.archive)]
        refine ⟨h.numbered.congr rfl rfl, ?_, ?_, h.handles⟩
        · have hbefore := h.volumes
          simp only [Archive.takeBack, hlen]
          omega
        · have hbefore := h.held
          simp only [Ledger.book, hlen]
          omega
  | openFile file mode =>
      rcases ho : w.archive.answers.openFile with _ | status
      · have hopen := Archive.openFile_apply_of_none ho file mode
        rw [World.direct, call, callThen_of_eq hopen] at few ⊢
        refine ⟨h.numbered.opened few file, h.volumes, h.held, ?_⟩
        have hkeys := Table.keys_put_of_not_mem _ h.numbered.fresh_not_mem file
        simp only [Ledger.book, Archive.opened, hkeys, h.handles]
      · rw [World.direct, call, callThen_of_eq (Archive.openFile_apply_of_some ho file mode)]
        exact h
  | recallFile handle offset length tier =>
      rw [World.direct, call_trace, call_after]
      rcases hg : w.archive.handles.get? handle with _ | file
      · rw [Archive.recallFile_apply_of_none hg]
        exact h
      · rw [Archive.recallFile_apply_of_some hg]
        exact h
  | closeFile handle =>
      rw [World.direct, call_trace, call_after]
      rcases hg : w.archive.handles.get? handle with _ | file
      · rw [Archive.closeFile_apply_of_none hg]
        refine ⟨h.numbered, h.volumes, h.held, ?_⟩
        -- what is not open in the archive is not in the ledger either
        have hout : handle ∉ l.handles := by
          rw [← h.handles]
          exact Table.not_mem_keys_of_get?_eq_none hg
        simp only [Ledger.book, List.erase_of_not_mem hout, h.handles]
      · rw [Archive.closeFile_apply_of_some hg]
        refine ⟨h.numbered.closed handle, h.volumes, h.held, ?_⟩
        simp only [Ledger.book, Archive.closed, Table.keys_erase, h.handles]

/-- What one step does: it keeps the balance, whoever takes it and however it ends. -/
theorem Balanced.step (h : w.Balanced n l) (s : Step)
    (few : n + openings (w.step s).trace.replies < 2 ^ 31) :
    (w.step s).after.Balanced (n + openings (w.step s).trace.replies)
      (l.book s.action (w.step s).result) := by
  by_cases hd : s.action.isDirect = true
  · obtain ⟨m, action⟩ := s
    cases action with
    | direct c =>
        have hengaged : (w.engage m).Balanced n l :=
          ⟨h.numbered, h.volumes, h.held, h.handles⟩
        exact hengaged.direct c few
    | _ => cases hd
  · have hd' : s.action.isDirect = false := by simpa using hd
    rw [book_of_not_direct l hd']
    exact (h.step_of_not_direct hd' few).1

/-! ## The accounts of a history -/

theorem balanced_opening (answers : Answers) (catalogue : Catalogue) :
    (opening answers catalogue).Balanced 0 {} :=
  ⟨⟨rfl, by intro h hmem; cases hmem⟩, rfl, rfl, rfl⟩

theorem ledger_concat (w : World) (past : List Step) (s : Step) :
    w.ledger (past ++ [s]) =
      (w.ledger past).book s.action ((w.afterAll past).step s).result := by
  rw [ledger, ledger, gather_concat, List.foldl_append]
  rfl

/-- From one step to a whole history. -/
theorem Balanced.afterAll (h : w.Balanced 0 {}) (steps : List Step)
    (few : openings (w.log steps) < 2 ^ 31) :
    (w.afterAll steps).Balanced (openings (w.log steps)) (w.ledger steps) := by
  induction steps using List.reverseRecOn with
  | nil => exact h
  | append_singleton past s ih =>
      rw [log_concat, openings_append] at few ⊢
      -- the openings before the last step are no more than those of the whole history
      have hpast := ih (by omega)
      rw [afterAll_concat, ledger_concat]
      exact hpast.step s few

/-- The log of a history begins with the log of each of its beginnings. -/
theorem openings_log_le {past steps : List Step} (h : past <+: steps) (w : World) :
    openings (w.log past) ≤ openings (w.log steps) := by
  obtain ⟨rest, rfl⟩ := h
  rw [log, log, gather_append, openings_append]
  exact Nat.le_add_right _ _

/-- **The accounts balance.** At every moment of a history the archive has never got back more
volumes than it handed out, what is out is what direct queries took and no direct release gave
back, and the open handles are those that direct openings took and no direct close gave back. So
a step that is no direct call leaves both counts as it found them, whether it ends well, in a
fault or by an abort. -/
theorem accounts_balance (answers : Answers) (catalogue : Catalogue) (steps : List Step)
    (few : openings ((opening answers catalogue).log steps) < 2 ^ 31) :
    (∀ past, past <+: steps →
      let now := (opening answers catalogue).afterAll past
      let ledger := (opening answers catalogue).ledger past
      now.archive.released ≤ now.archive.acquired ∧
        (now.archive.outstanding : Int) = ledger.volumes ∧
        now.openHandles = ledger.handles.length) ∧
    ∀ past s, past ++ [s] <+: steps → s.action.isDirect = false →
      let before := (opening answers catalogue).afterAll past
      let after := (before.step s).after
      after.archive.outstanding = before.archive.outstanding ∧
        after.openHandles = before.openHandles := by
  -- the bound on the openings of the whole history holds for each of its beginnings
  have hbalanced : ∀ past, past <+: steps →
      ((opening answers catalogue).afterAll past).Balanced
        (openings ((opening answers catalogue).log past))
        ((opening answers catalogue).ledger past) := by
    intro past hpast
    refine (balanced_opening answers catalogue).afterAll past ?_
    exact Nat.lt_of_le_of_lt (openings_log_le hpast _) few
  refine ⟨?_, ?_⟩
  · intro past hpast now ledger
    have h : now.Balanced _ ledger := hbalanced past hpast
    have hvolumes := h.volumes
    have hheld := h.held
    refine ⟨by omega, ?_, ?_⟩
    · rw [← hheld, Archive.outstanding]
      omega
    · rw [openHandles, ← Table.length_keys, h.handles]
  · intro past s hs hd before after
    have h : before.Balanced _ _ := hbalanced past ((List.prefix_append past [s]).trans hs)
    have hroom : openings ((opening answers catalogue).log past) +
        openings (before.step s).trace.replies < 2 ^ 31 := by
      rw [← openings_append, ← log_concat]
      exact Nat.lt_of_le_of_lt (openings_log_le hs _) few
    obtain ⟨hafter, hhandles⟩ := h.step_of_not_direct hd hroom
    have hbefore := h.volumes
    -- nobody outside got a volume in this step, so as many are out as before
    have hvolumes : after.archive.acquired = after.archive.released + before.held.length := by
      rw [← (before.framed_step s).held hd]
      exact hafter.volumes
    refine ⟨?_, by rw [openHandles, hhandles, openHandles]⟩
    rw [Archive.outstanding, Archive.outstanding]
    omega

/-- A history with trouble in it: a scan that aborts on a volume, a recall that aborts with a
refused close after it, and direct calls of which one is given back. -/
def troubledSteps : List Step :=
  [⟨0, .enter "/t" (.file [.vacant .tapeLevel, .present 9 [⟨7, 0, none, true⟩],
      .present 5 [⟨8, 3, some "A", false⟩]])⟩,
    ⟨0, .login "kerberos" "p" "/k"⟩, ⟨0, .locate "/t"⟩,
    ⟨0, .answers { recallFile := .abort, closeFile := some .badHandle }⟩,
    ⟨0, .recallFile "/t" 9⟩, ⟨1, .direct (.query "/t")⟩,
    ⟨1, .direct (.openFile "/t" .readOnlyNonblock)⟩, ⟨1, .direct (.release 0)⟩, ⟨0, .retire⟩]

/-- One volume and one handle are out in the end, both of them taken by direct calls. -/
theorem troubledSteps_balance :
    openings ((opening {} .empty).log troubledSteps) < 2 ^ 31 ∧
      ((opening {} .empty).afterAll troubledSteps).archive.outstanding = 1 ∧
      ((opening {} .empty).afterAll troubledSteps).openHandles = 1 := by
  have few : openings ((opening {} .empty).log troubledSteps) < 2 ^ 31 := by decide
  have hvolumes : ((opening {} .empty).ledger troubledSteps).volumes = 1 := by decide
  have hhandles : ((opening {} .empty).ledger troubledSteps).handles.length = 1 := by decide
  obtain ⟨hall, -⟩ := accounts_balance {} .empty troubledSteps few
  obtain ⟨-, hout, hopen⟩ := hall troubledSteps (List.prefix_refl _)
  rw [hvolumes] at hout
  rw [hhandles] at hopen
  exact ⟨few, by exact_mod_cast hout, hopen⟩

end World

end TapeRecall
