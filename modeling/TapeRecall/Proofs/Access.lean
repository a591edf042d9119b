import TapeRecall.Proofs.FileWork

/-!
# Accesses

An archive is reached through its calls and in no other way, whoever works with it. An `Access` is
one such call, or a change of how the archive answers or of what it knows, with all that is passed
to it; in particular with the handle, which the record of the call does not have. What an archive
goes through is a list of accesses, and its log is what they leave.

The second half shows that this is no restriction: whatever the steps of a history are, and however
they end, they take the archive through some accesses and leave their log (`World.exists_unfolds`).
This needs no look at what an operation does. A procedure that is put together from procedures that
keep to the calls keeps to them as well (`Proc.KeepsToCalls`), so that the proofs follow the
operations line by line.
-/

set_option autoImplicit false

namespace TapeRecall

/-! ## What an archive goes through -/

/-- What is done to an archive from outside. -/
inductive Access where
  | login (mechanism : Mechanism) (principal keytab : String)
  | purge
  | query (file : String)
  | release (volume : Volume)
  | openFile (file : String) (mode : OpenMode)
  | recallFile (handle : Handle) (offset length : UInt64) (tier : UInt32)
  | closeFile (handle : Handle)
  /-- Sets how the archive answers from now on. -/
  | answers (next : Answers)
  /-- Enters an object into the catalogue. -/
  | enter (name : String) (known : Attributes)

/-- What an access gives to whoever made it. -/
inductive Access.Yield where
  | nothing
  | attributes (attributes : Attributes)
  | handle (handle : Handle)

/-- Makes an access. -/
def Access.make : Access → Proc Archive (Except Status Access.Yield)
  | .login mechanism principal keytab =>
    (Except.map fun () => .nothing) <$> Archive.login mechanism principal keytab
  | .purge => (Except.map fun () => .nothing) <$> Archive.purge
  | .query file => (Except.map .attributes) <$> Archive.query file
  | .release volume => (fun () => .ok .nothing) <$> Archive.release volume
  | .openFile file mode => (Except.map .handle) <$> Archive.openFile file mode
  | .recallFile handle offset length tier =>
    (Except.map fun () => .nothing) <$> Archive.recallFile handle offset length tier
  | .closeFile handle => (Except.map fun () => .nothing) <$> Archive.closeFile handle
  | .answers next => (fun () => .ok .nothing) <$> Proc.modify fun a => { a with answers := next }
  | .enter name known => (fun () => .ok .nothing) <$> Proc.modify fun a => a.enter name known

namespace Archive

/-- The archive after some accesses. An abort is caught, and the next access finds the archive as
the abort left it. -/
def through (a : Archive) (xs : List Access) : Archive :=
  xs.foldl (fun a x => (x.make a).state) a

/-- What is gathered from accesses, each of which is seen with the archive before it. -/
def gather {β : Type} (f : Archive → Access → List β) (a : Archive) : List Access → List β
  | [] => []
  | x :: rest => f a x ++ gather f (x.make a).state rest

/-- What some accesses leave in the log. -/
def log (a : Archive) (xs : List Access) : List Exchange :=
  a.gather (fun a x => (x.make a).trace.replies) xs

theorem through_append (a : Archive) (xs ys : List Access) :
    a.through (xs ++ ys) = (a.through xs).through ys :=
  List.foldl_append

theorem through_concat (a : Archive) (xs : List Access) (x : Access) :
    a.through (xs ++ [x]) = (x.make (a.through xs)).state := by
  rw [through_append]
  rfl

theorem gather_append {β : Type} (f : Archive → Access → List β) (a : Archive)
    (xs ys : List Access) :
    a.gather f (xs ++ ys) = a.gather f xs ++ (a.through xs).gather f ys := by
  induction xs generalizing a with
  | nil => rfl
  | cons x rest ih =>
      have hrest : a.through (x :: rest) = (x.make a).state.through rest := rfl
      rw [List.cons_append, gather, gather, ih, List.append_assoc, hrest]

theorem gather_concat {β : Type} (f : Archive → Access → List β) (a : Archive)
    (xs : List Access) (x : Access) :
    a.gather f (xs ++ [x]) = a.gather f xs ++ f (a.through xs) x := by
  rw [gather_append, gather, gather, List.append_nil]

/-! ## Keeping to the calls -/

/-- These accesses take the archive from one state to another and leave these exchanges. -/
structure Leads (a : Archive) (xs : List Access) (t : List Exchange) (b : Archive) : Prop where
  through : a.through xs = b
  log : a.log xs = t

variable {a b c : Archive} {xs ys : List Access} {t u : List Exchange}

theorem Leads.nothing (a : Archive) : a.Leads [] [] a := ⟨rfl, rfl⟩

theorem Leads.append (h : a.Leads xs t b) (k : b.Leads ys u c) : a.Leads (xs ++ ys) (t ++ u) c := by
  obtain ⟨rfl, rfl⟩ := h
  obtain ⟨rfl, rfl⟩ := k
  exact ⟨a.through_append xs ys, gather_append _ a xs ys⟩

/-- One access, of which a caller may make what it wants. -/
theorem Leads.access {α : Type} (x : Access) {p : Proc Archive α}
    {f : α → Except Status Access.Yield} (h : x.make = f <$> p) (a : Archive) :
    a.Leads [x] (p a).trace.replies (p a).state := by
  have hmade : x.make a = ⟨(p a).ending.map f, (p a).state, (p a).trace⟩ := by
    rw [h, Proc.map_apply]
  refine ⟨?_, ?_⟩
  · rw [show a.through [x] = (x.make a).state from rfl, hmade]
  · rw [show a.log [x] = (x.make a).trace.replies ++ [] from rfl, hmade, List.append_nil]

/-- Some accesses take the archive from one state to another and leave these exchanges. -/
def Went (a : Archive) (t : List Exchange) (b : Archive) : Prop := ∃ xs, a.Leads xs t b

theorem Went.nothing (a : Archive) : a.Went [] a := ⟨[], .nothing a⟩

theorem Went.trans (h : a.Went t b) (k : b.Went u c) : a.Went (t ++ u) c := by
  obtain ⟨xs, hxs⟩ := h
  obtain ⟨ys, hys⟩ := k
  exact ⟨xs ++ ys, hxs.append hys⟩

end Archive

namespace Proc

variable {α β : Type}

/-- Whatever the procedure does to an archive it does through accesses. -/
def KeepsToCalls (p : Proc Archive α) : Prop :=
  ∀ a : Archive, a.Went (p a).trace.replies (p a).state

namespace KeepsToCalls

theorem pure (x : α) : KeepsToCalls (Pure.pure x) := Archive.Went.nothing

theorem notify (n : Notice) : KeepsToCalls (Proc.notify n) := Archive.Went.nothing

theorem ofEnding (e : Except Abort α) : KeepsToCalls (Proc.ofEnding e) := Archive.Went.nothing

theorem bind {p : Proc Archive α} {f : α → Proc Archive β} (hp : KeepsToCalls p)
    (hf : ∀ x, KeepsToCalls (f x)) : KeepsToCalls (p >>= f) := by
  intro a
  have hfirst := hp a
  rw [bind_apply]
  rcases (p a).ending with why | x
  · exact hfirst
  · rw [Trace.replies_append]
    exact hfirst.trans (hf x (p a).state)

theorem onAbort {p : Proc Archive α} {cleanup : Proc Archive Unit} (hp : KeepsToCalls p)
    (hc : KeepsToCalls cleanup) : KeepsToCalls (p.onAbort cleanup) := by
  intro a
  have hfirst := hp a
  rw [onAbort_apply]
  rcases (p a).ending with why | x
  · rw [Trace.replies_append]
    exact hfirst.trans (hc (p a).state)
  · exact hfirst

theorem access (x : Access) {p : Proc Archive α} {f : α → Except Status Access.Yield}
    (h : x.make = f <$> p) : KeepsToCalls p :=
  fun a => ⟨[x], .access x h a⟩

end KeepsToCalls

end Proc

open Proc (KeepsToCalls)

/-! ## The operations keep to the calls -/

namespace Session

theorem keepsToCalls_establish (mechanism principal keytab : String) :
    KeepsToCalls (establish mechanism principal keytab) := by
  have hlogin : KeepsToCalls (Archive.login (.ofName mechanism) principal keytab) :=
    .access (.login (.ofName mechanism) principal keytab) rfl
  intro a
  -- with or without the notice on the mechanism there is this one call
  have hwent := hlogin a
  rw [Archive.login_apply] at hwent
  rw [establish_apply, replies_establishment]
  exact hwent

theorem keepsToCalls_finish (s : Session) : KeepsToCalls s.finish := by
  refine .bind (.notify _) fun _ => .bind (.access .purge rfl) ?_
  rintro (status | _)
  · exact .bind (.notify _) fun _ => .bind (.notify _) fun _ => .pure _
  · exact .bind (.notify _) fun _ => .pure _

end Session

namespace Scan

theorem keepsToCalls_handBack (vs : List Volume) : KeepsToCalls (handBack vs) := by
  induction vs with
  | nil => exact .pure ()
  | cons v rest ih => exact .bind (.access (.release v) rfl) fun _ => ih

theorem keepsToCalls_walk (levels level : Nat) (tiers : List Tier) (found : Option Location) :
    KeepsToCalls (walk levels level tiers found) := by
  induction levels generalizing level tiers found with
  | zero =>
      rcases found with _ | l
      · exact .bind (.notify _) fun _ => .bind (keepsToCalls_handBack _) fun _ => .pure _
      · exact .bind (keepsToCalls_handBack _) fun _ => .pure _
  | succ levels ih =>
      rcases tiers with _ | ⟨tier, rest⟩
      · exact ih (level + 1) [] found
      · unfold walk
        split
        · refine .bind (.onAbort (.ofEnding _) (keepsToCalls_handBack _)) ?_
          rintro (fault | l)
          · exact .bind (keepsToCalls_handBack _) fun _ => .pure _
          · exact .bind (keepsToCalls_handBack _) fun _ => ih _ _ _
        · exact .bind (keepsToCalls_handBack _) fun _ => ih _ _ _

theorem keepsToCalls_reduce (x : Attributes) : KeepsToCalls (reduce x) := by
  unfold reduce
  split
  · split
    · exact .bind (.notify _) fun _ => .bind (keepsToCalls_handBack _) fun _ => .pure _
    · exact .bind (.notify _) fun _ => .bind (keepsToCalls_handBack _) fun _ => .pure _
  · exact keepsToCalls_walk _ _ _ _

theorem keepsToCalls_locate (file : String) : KeepsToCalls (locate file) := by
  unfold locate
  refine .bind (.notify _) fun _ => .bind (.access (.query file) rfl) ?_
  rintro (status | x)
  · refine .bind (.pure _) ?_
    rintro (fault | l) <;> exact .bind (.notify _) fun _ => .bind (.notify _) fun _ => .pure _
  · refine .bind (keepsToCalls_reduce x) ?_
    rintro (fault | l) <;> exact .bind (.notify _) fun _ => .bind (.notify _) fun _ => .pure _

end Scan

namespace Recall

theorem keepsToCalls_closeOnAbort (handle : Handle) : KeepsToCalls (closeOnAbort handle) := by
  refine .bind (.access (.closeFile handle) rfl) ?_
  rintro (status | _)
  · exact .notify _
  · exact .pure _

theorem keepsToCalls_conclude (file : String) (recalled closed : Except Status Unit) :
    KeepsToCalls (conclude file recalled closed) := by
  rcases recalled with status | _ <;> rcases closed with second | _
  · exact .bind (.notify _) fun _ => .bind (.notify _) fun _ => .pure _
  · exact .bind (.notify _) fun _ => .pure _
  · exact .bind (.notify _) fun _ => .pure _
  · exact .pure _

theorem keepsToCalls_perform (r : Request) : KeepsToCalls (perform r) := by
  refine .bind (.notify _) fun _ => .bind (.access (.openFile r.file .readOnlyNonblock) rfl) ?_
  rintro (status | handle)
  · exact .bind (.notify _) fun _ => .pure _
  · have hrecall : KeepsToCalls
        (Archive.recallFile handle r.window.start r.window.size fastestTier) :=
      .access (.recallFile handle r.window.start r.window.size fastestTier) rfl
    refine .bind (.onAbort hrecall (keepsToCalls_closeOnAbort handle)) fun recalled => ?_
    refine .bind (.access (.closeFile handle) rfl) fun closed => ?_
    exact .bind (keepsToCalls_conclude r.file recalled closed) fun _ =>
      .bind (.notify _) fun _ => .pure _

end Recall

namespace Agent

theorem keepsToCalls_login (a : Agent) (mechanism principal keytab : String) :
    KeepsToCalls (a.login mechanism principal keytab) := by
  unfold login
  split
  · exact .bind (.notify _) fun _ => .pure _
  · refine .bind (Session.keepsToCalls_establish mechanism principal keytab) ?_
    rintro (fault | session) <;> exact .pure _

theorem keepsToCalls_logout (a : Agent) : KeepsToCalls a.logout := by
  unfold logout
  split
  · exact .pure _
  · exact .bind (Session.keepsToCalls_finish _) fun _ => .pure _

theorem keepsToCalls_retire (a : Agent) : KeepsToCalls a.retire := by
  unfold retire
  split
  · exact .pure _
  · refine .bind (Session.keepsToCalls_finish _) ?_
    rintro (fault | _)
    · exact .notify _
    · exact .pure _

theorem keepsToCalls_locate (a : Agent) (file : String) : KeepsToCalls (a.locate file) := by
  unfold locate
  split
  · exact Scan.keepsToCalls_locate file
  · exact .pure _

theorem keepsToCalls_recallFile (a : Agent) (r : Request) : KeepsToCalls (a.recallFile r) := by
  unfold recallFile
  split
  · exact Recall.keepsToCalls_perform r
  · exact .pure _

end Agent

/-! ## Queries

A step of a query works on a pair, and what is said here is said of its second part. -/

namespace Query

variable {α β : Type}

/-- Whatever the step does to the archive it does through accesses. -/
def KeepsToCalls (x : Step α) : Prop :=
  ∀ q a, Archive.Went a (x.run (q, a)).trace.replies (x.run (q, a)).state.2

namespace KeepsToCalls

theorem pure (y : α) : KeepsToCalls (Pure.pure y) := fun _ => Archive.Went.nothing

theorem throw (fault : QueryFault) : KeepsToCalls (MonadExcept.throw fault : Step α) :=
  fun _ => Archive.Went.nothing

theorem current : KeepsToCalls current := fun _ => Archive.Went.nothing

theorem update (f : Query → Query) : KeepsToCalls (update f) := fun _ => Archive.Went.nothing

theorem ask {p : Proc Archive α} (hp : p.KeepsToCalls) : KeepsToCalls (ask p) := by
  intro q a
  rw [ask_run]
  exact hp a

theorem bind {x : Step α} {f : α → Step β} (hx : KeepsToCalls x)
    (hf : ∀ y, KeepsToCalls (f y)) : KeepsToCalls (x >>= f) := by
  intro q a
  have hfirst := hx q a
  rw [bind_run]
  rcases (x.run (q, a)).ending with why | fault | y
  · exact hfirst
  · exact hfirst
  · rw [Trace.replies_append]
    exact hfirst.trans (hf y _ _)

theorem advance (next : Phase) : KeepsToCalls (advance next) := by
  refine bind current fun q => ?_
  split
  · exact bind (fun _ => Archive.Went.nothing) fun _ => update _
  · exact throw _

end KeepsToCalls

theorem keepsToCalls_locate (a : Agent) : KeepsToCalls (locate a) := by
  refine .bind (.advance _) fun _ => .bind .current fun q => ?_
  refine .bind (.ask (a.keepsToCalls_locate q.file)) ?_
  rintro (fault | l)
  · exact .bind (.advance _) fun _ => .throw _
  · exact .bind (.advance _) fun _ => .bind (.update _) fun _ => .pure _

theorem keepsToCalls_recallFile (a : Agent) : KeepsToCalls (recallFile a) := by
  refine .bind .current fun q => ?_
  split
  · refine .bind (.advance _) fun _ => .bind (.ask (a.keepsToCalls_recallFile _)) ?_
    rintro (fault | _)
    · exact .bind (.advance _) fun _ => .throw _
    · exact .advance _
  · exact .throw _

theorem keepsToCalls_run (a : Agent) : KeepsToCalls (run a) := by
  refine .bind (keepsToCalls_locate a) fun l => ?_
  split
  · exact .bind (keepsToCalls_recallFile a) fun _ => .pure l
  · exact .pure l

end Query

/-! ## Histories -/

namespace World

/-- What the archive does in a step it does through accesses, if the step leaves it to the
procedure to change the archive. -/
theorem went_callThen {α : Type} (w : World) {p : Proc Archive α} (hp : p.KeepsToCalls)
    {settle : α → World → Result × World} (hs : ∀ x v, (settle x v).2.archive = v.archive) :
    w.archive.Went (w.callThen p settle).trace.replies (w.callThen p settle).after.archive := by
  have hafter : (w.callThen p settle).after.archive = (p w.archive).state := by
    rw [callThen]
    rcases (p w.archive).ending with why | x
    · rfl
    · exact hs x _
  rw [callThen_trace, hafter]
  exact hp w.archive

theorem went_callAgent (w : World) (n : Nat)
    {p : Proc Archive (Agent × Except SessionFault Unit)} (hp : p.KeepsToCalls) :
    w.archive.Went (w.callAgent n p).trace.replies (w.callAgent n p).after.archive :=
  w.went_callThen hp fun _ _ => rfl

theorem went_call {α : Type} (w : World) {p : Proc Archive α} (hp : p.KeepsToCalls)
    (result : α → Result) :
    w.archive.Went (w.call p result).trace.replies (w.call p result).after.archive :=
  w.went_callThen hp fun _ _ => rfl

theorem went_inquire (w : World) (n k : Nat) (i : Inquiry) :
    w.archive.Went (w.inquire n k i).trace.replies (w.inquire n k i).after.archive := by
  unfold inquire
  rcases w.queries.get? (n, k) with _ | q
  · exact .nothing w.archive
  · cases i with
    | locate => exact Query.keepsToCalls_locate (w.agent n) q w.archive
    | recallFile => exact Query.keepsToCalls_recallFile (w.agent n) q w.archive
    | run => exact Query.keepsToCalls_run (w.agent n) q w.archive
    | look => exact .nothing w.archive

/-- The access that a direct call is. There is none where there is no volume to hand back. -/
def direction (w : World) : DirectCall → List Access
  | .login mechanism principal keytab => [.login (.ofName mechanism) principal keytab]
  | .purge => [.purge]
  | .query file => [.query file]
  | .release index => w.held[index]?.toList.map .release
  | .openFile file mode => [.openFile file mode]
  | .recallFile handle offset length tier => [.recallFile handle offset length tier]
  | .closeFile handle => [.closeFile handle]

theorem leads_direct (w : World) (c : DirectCall) :
    w.archive.Leads (w.direction c) (w.direct c).trace.replies (w.direct c).after.archive := by
  cases c with
  | query file =>
      have hafter :
          (w.direct (.query file)).after.archive = (Archive.query file w.archive).state := by
        rw [direct, callThen]
        rcases (Archive.query file w.archive).ending with why | status | x <;> rfl
      rw [hafter, direct, callThen_trace]
      exact .access (.query file) rfl w.archive
  | release index =>
      rw [direct, direction]
      rcases w.held[index]? with _ | v
      · exact .nothing w.archive
      · exact .access (.release v) rfl w.archive
  | login mechanism principal keytab =>
      rw [direct, call_trace, call_after]
      exact .access (.login (.ofName mechanism) principal keytab) rfl w.archive
  | purge =>
      rw [direct, call_trace, call_after]
      exact .access .purge rfl w.archive
  | openFile file mode =>
      rw [direct, call_trace, call_after]
      exact .access (.openFile file mode) rfl w.archive
  | recallFile handle offset length tier =>
      rw [direct, call_trace, call_after]
      exact .access (.recallFile handle offset length tier) rfl w.archive
  | closeFile handle =>
      rw [direct, call_trace, call_after]
      exact .access (.closeFile handle) rfl w.archive

/-- The step lemma: whatever a step is and however it ends, it keeps to the calls. -/
theorem went_step (w : World) (s : Step) :
    w.archive.Went (w.step s).trace.replies (w.step s).after.archive := by
  obtain ⟨n, action⟩ := s
  cases action with
  | login mechanism principal keytab =>
      exact (w.engage n).went_callAgent n ((w.agent n).keepsToCalls_login _ _ _)
  | logout => exact (w.engage n).went_callAgent n (w.agent n).keepsToCalls_logout
  | retire =>
      exact ({ w with agents := w.agents.erase n } : World).went_call
        (w.agent n).keepsToCalls_retire _
  | locate file => exact (w.engage n).went_call ((w.agent n).keepsToCalls_locate file) _
  | recallFile file length =>
      exact (w.engage n).went_call ((w.agent n).keepsToCalls_recallFile ⟨file, length⟩) _
  | recallLocated file l =>
      exact (w.engage n).went_call ((w.agent n).keepsToCalls_recallFile (.ofLocation file l)) _
  | inquire k i => exact (w.engage n).went_inquire n k i
  | direct c => exact ⟨_, (w.engage n).leads_direct c⟩
  | answers next => exact ⟨[.answers next], rfl, rfl⟩
  | enter name known => exact ⟨[.enter name known], rfl, rfl⟩
  | compare | showSession | describe | appear | start => exact .nothing w.archive

/-- A history, step by step, as accesses to its archive: those of each step leave what the step
leaves in the log and take the archive to where the step takes it, and a direct call is itself. -/
inductive Unfolds : World → List Step → List Access → Prop
  | nothing (w : World) : Unfolds w [] []
  | step {w : World} {s : Step} {rest : List Step} {xs ys : List Access}
      (leads : w.archive.Leads xs (w.step s).trace.replies (w.step s).after.archive)
      (direct : ∀ c, s.action = .direct c → xs = w.direction c)
      (tail : Unfolds (w.step s).after rest ys) : Unfolds w (s :: rest) (xs ++ ys)

theorem Unfolds.leads {w : World} {steps : List Step} {xs : List Access} (h : w.Unfolds steps xs) :
    w.archive.Leads xs (w.log steps) (w.afterAll steps).archive := by
  induction h with
  | nothing w => exact .nothing w.archive
  | step leads _ _ ih => exact leads.append ih

/-- From one step to a whole history. -/
theorem exists_unfolds (w : World) (steps : List Step) : ∃ xs, w.Unfolds steps xs := by
  induction steps generalizing w with
  | nil => exact ⟨[], .nothing w⟩
  | cons s rest ih =>
      obtain ⟨ys, hys⟩ := ih (w.step s).after
      by_cases hd : s.action.isDirect = true
      · obtain ⟨n, action⟩ := s
        cases action with
        | direct c =>
            refine ⟨w.direction c ++ ys, .step ((w.engage n).leads_direct c) ?_ hys⟩
            rintro d ⟨⟩
            rfl
        | _ => cases hd
      · obtain ⟨xs, hxs⟩ := w.went_step s
        refine ⟨xs ++ ys, .step hxs ?_ hys⟩
        intro c hc
        rw [hc] at hd
        exact absurd rfl hd

end World

end TapeRecall
