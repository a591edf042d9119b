import TapeRecall.Proofs.Outcome.Agent

/-!
# Entry and exit

Every operation of an agent says in the log that it is entered and, when it comes back, that it is
left and whether it did what it was asked for. In a log with both marks nothing that came back looks
as if it were still under way, and this file says how far the log of an agent can be read so.

It can for sessions and for scans, whatever the archive answers. A recall is the exception: where
the opening is refused it comes back without its last mark. The main statement is exact about that,
and the log of such a recall follows it.

Between its two marks an operation reports nothing at their level, so it is enough to look at the
first notice and at the last one (`Trace.leftOnce_of_brackets`).
-/

set_option autoImplicit false

namespace TapeRecall

/-! ## Marks -/

namespace Notice

/-- The notice marks the entry of the operation with this name. -/
def Enters (op : String) (n : Notice) : Prop := n.level = .trace ∧ n.message = "> " ++ op

/-- The notice marks the exit of the operation with this name. -/
def Leaves (op : String) (n : Notice) : Prop := n.level = .trace ∧ n.message = "< " ++ op

/-- The first of the notices marks the entry of the operation and the last marks its exit, with
whether it did what it was asked for. -/
structure Brackets (op : String) (ok : Bool) (first last : Notice) : Prop where
  enters : first.Enters op
  leaves : last.Leaves op
  told : last.fields.lookup "ok" = some (.flag ok)

theorem brackets_login (ok : Bool) :
    Brackets "init_context" ok .loginEntered (.loginLeft ok) :=
  ⟨⟨rfl, rfl⟩, ⟨rfl, rfl⟩, rfl⟩

theorem brackets_logout (principal : String) (ok : Bool) :
    Brackets "end_context" ok (.logoutEntered principal) (.logoutLeft ok) :=
  ⟨⟨rfl, rfl⟩, ⟨rfl, rfl⟩, rfl⟩

theorem brackets_scan (file : String) (ok : Bool) :
    Brackets "locate" ok (.scanEntered file) (.scanLeft ok) :=
  ⟨⟨rfl, rfl⟩, ⟨rfl, rfl⟩, rfl⟩

theorem brackets_recall (file : String) (length : UInt64) (ok : Bool) :
    Brackets "stage" ok (.recallEntered file length) (.recallLeft file ok) :=
  ⟨⟨rfl, rfl⟩, ⟨rfl, rfl⟩, rfl⟩

/-- No notice is both marks of one operation. -/
theorem Enters.not_leaves {op : String} {n : Notice} (h : n.Enters op) : ¬ n.Leaves op := by
  intro hleaves
  have hmessage : "> " ++ op = "< " ++ op := h.2.symm.trans hleaves.2
  -- the two marks differ in their first character, whatever the operation is called
  have hchars := congrArg String.toList hmessage
  simp at hchars

end Notice

namespace Trace

/-- The trace shows an entry of the operation. -/
def Entered (op : String) (t : Trace) : Prop := ∃ n ∈ t.notices, n.Enters op

/-- The trace shows one exit of the operation, after an entry, and the exit says whether the
operation did what it was asked for. -/
def LeftOnce (op : String) (ok : Bool) (t : Trace) : Prop :=
  ∃ before last after, t.notices = before ++ last :: after ∧ (∃ n ∈ before, n.Enters op) ∧
    last.Leaves op ∧ last.fields.lookup "ok" = some (.flag ok) ∧
    ∀ n ∈ before ++ after, ¬ n.Leaves op

/-- A trace that begins and ends with the marks, with nothing of their level in between. -/
theorem leftOnce_of_brackets {op : String} {ok : Bool} {t : Trace} {first last : Notice}
    (marks : Notice.Brackets op ok first last) (inside : List Notice)
    (quiet : ∀ n ∈ inside, n.level ≠ .trace) (h : t.notices = first :: (inside ++ [last])) :
    t.LeftOnce op ok := by
  refine ⟨first :: inside, last, [], h, ⟨first, List.mem_cons_self, marks.enters⟩, marks.leaves,
    marks.told, ?_⟩
  rw [List.append_nil]
  intro n hn hleaves
  rcases List.mem_cons.1 hn with rfl | hn
  · exact marks.enters.not_leaves hleaves
  · exact quiet n hn hleaves.1

theorem entered_of_cons {op : String} {t : Trace} {first : Notice} {rest : List Notice}
    (enters : first.Enters op) (h : t.notices = first :: rest) : t.Entered op := by
  refine ⟨first, ?_, enters⟩
  rw [h]
  exact List.mem_cons_self

theorem LeftOnce.entered {op : String} {ok : Bool} {t : Trace} (h : t.LeftOnce op ok) :
    t.Entered op := by
  obtain ⟨before, last, after, hnotices, ⟨n, hn, henters⟩, -⟩ := h
  refine ⟨n, ?_, henters⟩
  rw [hnotices]
  exact List.mem_append_left _ hn

theorem LeftOnce.exists_leaves {op : String} {ok : Bool} {t : Trace} (h : t.LeftOnce op ok) :
    ∃ n ∈ t.notices, n.Leaves op := by
  obtain ⟨before, last, after, hnotices, -, hleaves, -⟩ := h
  refine ⟨last, ?_, hleaves⟩
  rw [hnotices]
  exact List.mem_append_right _ List.mem_cons_self

theorem not_entered_of_quiet {op : String} {t : Trace}
    (h : ∀ n ∈ t.notices, n.level ≠ .trace) : ¬ t.Entered op := by
  rintro ⟨n, hn, henters⟩
  exact h n hn henters.1

end Trace

/-- If the operation said that it is entered and came back, then it said that it is left. -/
def Outcome.Balanced {σ α : Type} (op : String) (succeeded : α → Bool) (o : Outcome σ α) : Prop :=
  o.trace.Entered op → ∀ a, o.ending = .ok a → o.trace.LeftOnce op (succeeded a)

/-- An operation that never said that it is entered has nothing to say at its end. -/
theorem Outcome.balanced_of_quiet {σ α : Type} {op : String} {succeeded : α → Bool}
    {o : Outcome σ α} (h : ∀ n ∈ o.trace.notices, n.level ≠ .trace) : o.Balanced op succeeded := by
  intro hentered
  exact absurd hentered (Trace.not_entered_of_quiet h)

/-! ## Sessions -/

namespace Session

/-- What setting up a session reports between its entry and its call. -/
def offer (mechanism principal keytab : String) : List Notice :=
  (if Mechanism.isRecognized mechanism then [] else [.mechanismUnknown mechanism]) ++
    [.credentialsOffered (.ofName mechanism) principal keytab]

theorem level_ne_trace_of_mem_offer {mechanism principal keytab : String} :
    ∀ n ∈ offer mechanism principal keytab, n.level ≠ .trace := by
  unfold offer
  refine List.forall_mem_append.2 ⟨?_, List.forall_mem_singleton.2 nofun⟩
  split
  · exact nofun
  · exact List.forall_mem_singleton.2 nofun

theorem notices_establishment_none (mechanism principal keytab : String) :
    (establishment mechanism principal keytab none).notices =
      .loginEntered :: (offer mechanism principal keytab ++ [.loginLeft true]) := by
  unfold establishment offer
  split <;> rfl

theorem notices_establishment_some (mechanism principal keytab : String) (status : Status) :
    (establishment mechanism principal keytab (some status)).notices =
      .loginEntered :: (offer mechanism principal keytab ++
        [.credentialsRefused status principal, .loginLeft false]) := by
  unfold establishment offer
  split <;> rfl

theorem leftOnce_establishment (mechanism principal keytab : String) (answer : Option Status) :
    (establishment mechanism principal keytab answer).LeftOnce "init_context" answer.isNone := by
  rcases answer with _ | status
  · exact Trace.leftOnce_of_brackets (Notice.brackets_login true) (offer mechanism principal keytab)
      level_ne_trace_of_mem_offer (notices_establishment_none mechanism principal keytab)
  · refine Trace.leftOnce_of_brackets (Notice.brackets_login false)
      (offer mechanism principal keytab ++ [.credentialsRefused status principal])
      (List.forall_mem_append.2
        ⟨level_ne_trace_of_mem_offer, List.forall_mem_singleton.2 nofun⟩) ?_
    rw [notices_establishment_some, List.append_assoc]
    rfl

theorem leftOnce_completion (s : Session) (answer : Option Status) :
    (s.completion answer).LeftOnce "end_context" answer.isNone := by
  rcases answer with _ | status
  · exact Trace.leftOnce_of_brackets (Notice.brackets_logout s.principal true) [] nofun rfl
  · exact Trace.leftOnce_of_brackets (Notice.brackets_logout s.principal false)
      [.purgeRefused status s.principal] (List.forall_mem_singleton.2 nofun) rfl

end Session

/-! ## Scans -/

namespace Scan

theorem level_ne_trace_of_mem_findings {x : Attributes} :
    ∀ n ∈ findings x, n.level ≠ .trace := by
  unfold findings
  split
  · split <;> exact List.forall_mem_singleton.2 nofun
  · split
    · exact nofun
    · exact List.forall_mem_singleton.2 nofun

/-- A scan that came back sums up what became of it, and after that it is left. -/
theorem exists_closing (file : String) (r : Except ScanFault Location) :
    ∃ summary : Notice, summary.level ≠ .trace ∧
      closing file (.ok r) = [summary, .scanLeft r.isOk] := by
  rcases r with fault | l
  · exact ⟨.scanFailed file fault, nofun, rfl⟩
  · exact ⟨.located file l, nofun, rfl⟩

theorem entered_locate (file : String) (s : Archive) :
    (locate file s).trace.Entered "locate" := by
  have henters := (Notice.brackets_scan file true).enters
  rcases hk : s.known file with status | x
  · exact Trace.entered_of_cons henters (notices_locate_of_error hk)
  · exact Trace.entered_of_cons henters (notices_locate_of_ok hk)

theorem balanced_locate (file : String) (s : Archive) :
    (locate file s).Balanced "locate" Except.isOk := by
  intro _ r hr
  obtain ⟨summary, hsummary, hclosing⟩ := exists_closing file r
  rcases hk : s.known file with status | x
  · have hending : (.ok (.error (.queryRefused status)) : Except Abort _) = .ok r := by
      rw [← hr, locate_apply_of_error hk]
    refine Trace.leftOnce_of_brackets (Notice.brackets_scan file r.isOk) [summary]
      (List.forall_mem_singleton.2 hsummary) ?_
    rw [notices_locate_of_error hk, hending, hclosing]
    rfl
  · have hverdict : verdict x = .ok r := by
      rw [← hr, locate_apply_of_ok hk]
    -- the summary comes after what the tiers gave occasion to report
    refine Trace.leftOnce_of_brackets (Notice.brackets_scan file r.isOk) (findings x ++ [summary])
      (List.forall_mem_append.2
        ⟨level_ne_trace_of_mem_findings, List.forall_mem_singleton.2 hsummary⟩) ?_
    rw [notices_locate_of_ok hk, hverdict, hclosing, List.append_assoc]
    rfl

end Scan

/-! ## Recalls -/

namespace Recall

/-- A recall that came back after its opening was accepted reports its refusals, and after that it
is left. -/
theorem exists_closing {answers : Answers} {r : Except RecallFault Unit}
    (h : verdict answers = .ok r) (file : String) (handle : Handle) :
    ∃ refusals : List Notice, (∀ n ∈ refusals, n.level ≠ .trace) ∧
      closing file handle answers = refusals ++ [.recallLeft file r.isOk] := by
  unfold verdict at h
  unfold closing
  -- a recall that aborts has no such verdict, so two answers are left to either call
  cases hrecall : answers.recallFile <;> cases hclose : answers.closeFile <;>
    rw [hrecall, hclose] at h <;> cases h
  case accept.none => exact ⟨[], nofun, rfl⟩
  case accept.some status =>
    exact ⟨[.closeRefused file status], List.forall_mem_singleton.2 nofun, rfl⟩
  case refuse.none status =>
    exact ⟨[.recallRefused file status], List.forall_mem_singleton.2 nofun, rfl⟩
  case refuse.some status second =>
    exact ⟨[.recallRefused file status, .closeRefusedAfterRecall file second],
      List.forall_mem_cons.2 ⟨nofun, List.forall_mem_singleton.2 nofun⟩, rfl⟩

theorem balanced_perform_of_none {s : Archive} (h : s.answers.openFile = none) (r : Request) :
    (perform r s).Balanced "stage" Except.isOk := by
  intro _ result hresult
  have hverdict : verdict s.answers = .ok result := by
    rw [← hresult, perform_apply_of_none h]
  obtain ⟨refusals, hrefusals, hclosing⟩ := exists_closing hverdict r.file s.fresh
  refine Trace.leftOnce_of_brackets (Notice.brackets_recall r.file r.length result.isOk) refusals
    hrefusals ?_
  rw [notices_perform_of_none h, hclosing]

theorem entered_perform (r : Request) (s : Archive) : (perform r s).trace.Entered "stage" := by
  have henters := (Notice.brackets_recall r.file r.length true).enters
  rcases h : s.answers.openFile with _ | status
  · exact Trace.entered_of_cons henters (notices_perform_of_none h r)
  · rw [perform_apply_of_some h]
    exact Trace.entered_of_cons henters rfl

/-- A recall without a handle returns on the spot, and nothing says that it is left. -/
theorem unleft_perform_of_some {s : Archive} {status : Status}
    (h : s.answers.openFile = some status) (r : Request) :
    (perform r s).ending = .ok (.error (.openRefused status)) ∧
      ∀ n ∈ (perform r s).trace.notices, ¬ n.Leaves "stage" := by
  rw [perform_apply_of_some h]
  refine ⟨rfl, ?_⟩
  have henters := (Notice.brackets_recall r.file r.length true).enters
  have hrefused : ¬ (Notice.openRefused r.file status).Leaves "stage" :=
    fun hleaves => nomatch hleaves.1
  exact List.forall_mem_cons.2 ⟨henters.not_leaves, List.forall_mem_singleton.2 hrefused⟩

end Recall

/-! ## The operations of an agent -/

namespace Agent

/-- An operation is entered just where the agent lets it pass, which is where there is a session,
and for the setting up of one where there is none. -/
theorem entered_iff (a : Agent) (s : Archive) :
    (∀ mechanism principal keytab,
      (a.login mechanism principal keytab s).trace.Entered "init_context" ↔ a.isActive = false) ∧
    ((a.logout s).trace.Entered "end_context" ↔ a.isActive = true) ∧
    (∀ file, (a.locate file s).trace.Entered "locate" ↔ a.isActive = true) ∧
    ∀ r, (a.recallFile r s).trace.Entered "stage" ↔ a.isActive = true := by
  rcases h : a.session with _ | session
  · have hactive := isActive_of_none h
    have hno : ¬ a.isActive = true := by rw [hactive]; exact nofun
    refine ⟨fun m p k => ?_, ?_, fun file => ?_, fun r => ?_⟩
    · rw [login_apply_of_none h]
      exact iff_of_true (Session.leftOnce_establishment m p k _).entered hactive
    · rw [logout_apply_of_none h]
      exact iff_of_false (Trace.not_entered_of_quiet nofun) hno
    · rw [locate_apply_of_inactive hactive]
      exact iff_of_false (Trace.not_entered_of_quiet nofun) hno
    · rw [recallFile_apply_of_inactive hactive]
      exact iff_of_false (Trace.not_entered_of_quiet nofun) hno
  · have hactive := isActive_of_some h
    refine ⟨fun m p k => ?_, ?_, fun file => ?_, fun r => ?_⟩
    · -- an agent with a session turns the new one away before it is entered
      rw [login_apply_of_some h, hactive]
      exact iff_of_false (Trace.not_entered_of_quiet (List.forall_mem_singleton.2 nofun)) nofun
    · rw [logout_apply_of_some h]
      exact iff_of_true (session.leftOnce_completion _).entered hactive
    · rw [locate_of_active hactive]
      exact iff_of_true (Scan.entered_locate file s) hactive
    · rw [recallFile_of_active hactive]
      exact iff_of_true (Recall.entered_perform r s) hactive

theorem balanced_login (a : Agent) (mechanism principal keytab : String) (s : Archive) :
    (a.login mechanism principal keytab s).Balanced "init_context" fun r => r.2.isOk := by
  rcases h : a.session with _ | session
  · rw [login_apply_of_none h]
    rintro - r hr
    obtain rfl := Except.ok.inj hr
    have hleft := Session.leftOnce_establishment mechanism principal keytab s.answers.login
    cases hanswer : s.answers.login <;> rw [hanswer] at hleft <;> exact hleft
  · rw [login_apply_of_some h]
    exact Outcome.balanced_of_quiet (List.forall_mem_singleton.2 nofun)

theorem balanced_logout (a : Agent) (s : Archive) :
    (a.logout s).Balanced "end_context" fun r => r.2.isOk := by
  rcases h : a.session with _ | session
  · rw [logout_apply_of_none h]
    exact Outcome.balanced_of_quiet nofun
  · rw [logout_apply_of_some h]
    rintro - r hr
    obtain rfl := Except.ok.inj hr
    have hleft := session.leftOnce_completion s.answers.purge
    cases hanswer : s.answers.purge <;> rw [hanswer] at hleft <;> exact hleft

theorem balanced_locate (a : Agent) (file : String) (s : Archive) :
    (a.locate file s).Balanced "locate" Except.isOk := by
  cases hactive : a.isActive with
  | true =>
      rw [locate_of_active hactive]
      exact Scan.balanced_locate file s
  | false =>
      rw [locate_apply_of_inactive hactive]
      exact Outcome.balanced_of_quiet nofun

theorem balanced_recallFile_iff (a : Agent) (r : Request) (s : Archive) :
    (a.recallFile r s).Balanced "stage" Except.isOk ↔
      (a.isActive = true → s.answers.openFile = none) := by
  by_cases hactive : a.isActive = true
  · rw [recallFile_of_active hactive]
    constructor
    · intro hbalanced _
      rcases hopen : s.answers.openFile with _ | status
      · rfl
      · -- it was entered and came back, and still there is no exit to be found
        obtain ⟨hending, hnever⟩ := Recall.unleft_perform_of_some hopen r
        have hleft := hbalanced (Recall.entered_perform r s) _ hending
        obtain ⟨n, hn, hleaves⟩ := hleft.exists_leaves
        exact absurd hleaves (hnever n hn)
    · intro hopen
      exact Recall.balanced_perform_of_none (hopen hactive) r
  · rw [recallFile_apply_of_inactive (by simpa using hactive)]
    exact ⟨fun _ h => absurd h hactive, fun _ => Outcome.balanced_of_quiet nofun⟩

/-- **Every operation that was entered is left, but for a recall without a handle.** Whatever the
agent and the archive are, to set up a session, to end it and to locate a file each report their
exit once after their entry, with whether they succeeded, as long as they come back. A recall does
so just where the opening is not refused to an agent with a session; where it is, the recall comes
back with that refusal and its entry is all that there is. -/
theorem left_unless_unopened (a : Agent) (s : Archive) :
    (∀ mechanism principal keytab,
      (a.login mechanism principal keytab s).Balanced "init_context" fun r => r.2.isOk) ∧
    ((a.logout s).Balanced "end_context" fun r => r.2.isOk) ∧
    (∀ file, (a.locate file s).Balanced "locate" Except.isOk) ∧
    ∀ r, ((a.recallFile r s).Balanced "stage" Except.isOk ↔
        (a.isActive = true → s.answers.openFile = none)) ∧
      ∀ status, a.isActive = true → s.answers.openFile = some status →
        (a.recallFile r s).ending = .ok (.error (.openRefused status)) ∧
          (a.recallFile r s).trace.Entered "stage" ∧
          ∀ n ∈ (a.recallFile r s).trace.notices, ¬ n.Leaves "stage" := by
  refine ⟨fun m p k => a.balanced_login m p k s, a.balanced_logout s,
    fun file => a.balanced_locate file s, fun r => ⟨a.balanced_recallFile_iff r s, ?_⟩⟩
  intro status hactive hopen
  have hentered : (a.recallFile r s).trace.Entered "stage" := ((a.entered_iff s).2.2.2 r).2 hactive
  rw [recallFile_of_active hactive] at hentered ⊢
  obtain ⟨hending, hnever⟩ := Recall.unleft_perform_of_some hopen r
  exact ⟨hending, hentered, hnever⟩

/-- A recall whose handle could not be closed is left, and as one that failed. -/
theorem recallFile_unclosed_left :
    let a : Agent := ⟨some ⟨.unix, "p", "/k"⟩⟩
    let s : Archive := { answers := { closeFile := some ⟨-5⟩ } }
    (a.isActive = true → s.answers.openFile = none) ∧
      (a.recallFile ⟨"/f", 4096⟩ s).trace.LeftOnce "stage" false := by
  intro a s
  have hopen : a.isActive = true → s.answers.openFile = none := fun _ => rfl
  obtain ⟨-, -, -, hrecall⟩ := left_unless_unopened a s
  have hbalanced := (hrecall ⟨"/f", 4096⟩).1.2 hopen
  have hentered : (a.recallFile ⟨"/f", 4096⟩ s).trace.Entered "stage" :=
    ⟨.recallEntered "/f" 4096, List.mem_cons_self, rfl, rfl⟩
  exact ⟨hopen, hbalanced hentered (.error (.closeRefused ⟨-5⟩)) rfl⟩

/-- An archive that lets nobody read a file. -/
def locked : Archive := { answers := { openFile := some ⟨-13⟩ } }

/-- The recall of an agent with a session is entered there and never left. -/
theorem recallFile_locked_unleft :
    ¬ (Agent.recallFile ⟨some ⟨.unix, "p", "/k"⟩⟩ ⟨"/f", 4096⟩ locked).Balanced "stage"
      Except.isOk := by
  intro hbalanced
  have hentered : (Agent.recallFile ⟨some ⟨.unix, "p", "/k"⟩⟩ ⟨"/f", 4096⟩ locked).trace.Entered
      "stage" := ⟨.recallEntered "/f" 4096, List.mem_cons_self, rfl, rfl⟩
  have hleft := hbalanced hentered (.error (.openRefused ⟨-13⟩)) rfl
  obtain ⟨last, hlast, hleaves⟩ := hleft.exists_leaves
  change last ∈ [Notice.recallEntered "/f" 4096, .openRefused "/f" ⟨-13⟩] at hlast
  -- neither of the two notices is the mark that is missing
  rcases List.mem_cons.1 hlast with rfl | hlast
  · exact Notice.Enters.not_leaves ⟨rfl, rfl⟩ hleaves
  · rw [List.mem_singleton.1 hlast] at hleaves
    exact nomatch hleaves.1

end Agent

end TapeRecall
