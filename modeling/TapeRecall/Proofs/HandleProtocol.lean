import Mathlib.Tactic.ByContra
import TapeRecall.Proofs.Access
import TapeRecall.Proofs.Accounts

/-!
# The protocol of handles

The log of an archive shows names and no handles, and a name may be opened many times over. What
ties an opening to its recalls and its close is the handle, and this file follows each handle
through the accesses to an archive: it is given out once, is out until it is closed, and while it is
out, and only then, its recalls and its close go into the log, under the name of its opening.

`Archive.IsOut` says from the accesses alone which handles are out, and the table of the archive is
shown to agree with it. All of this is one invariant (`Archive.Follows`), which is kept by every
access because there are only four kinds of them as far as handles go (`Access.kinds`). The bound on
the openings is the one of the accounts: handles are numbered in 32 bits.
-/

set_option autoImplicit false

namespace TapeRecall

/-! ## Which handle an access is about -/

namespace Access

/-- The handle that an access gives out. -/
def given? (x : Access) (a : Archive) : Option Handle :=
  match (x.make a).ending with
  | .ok (.ok (.handle h)) => some h
  | _ => none

/-- The handle that an access is about: the one that it names, or the one that it gives out. -/
def handle? (x : Access) (a : Archive) : Option Handle :=
  match x with
  | .recallFile h .. | .closeFile h => some h
  | _ => x.given? a

variable {a : Archive}

theorem make_login (a : Archive) (mechanism : Mechanism) (principal keytab : String) :
    (login mechanism principal keytab).make a =
      ⟨.ok ((Archive.given a.answers.login).map fun () => .nothing), a,
        [.call (.login mechanism principal keytab) (.ofAnswer a.answers.login)]⟩ := by
  rw [make, Proc.map_apply, Archive.login_apply]
  rfl

theorem make_purge (a : Archive) :
    purge.make a = ⟨.ok ((Archive.given a.answers.purge).map fun () => .nothing), a,
      [.call .purge (.ofAnswer a.answers.purge)]⟩ := by
  rw [make, Proc.map_apply, Archive.purge_apply]
  rfl

theorem make_query_of_error {file : String} {status : Status} (h : a.known file = .error status) :
    (query file).make a = ⟨.ok (.error status), a, [.call (.query file) (.refused status)]⟩ := by
  rw [make, Proc.map_apply, Archive.query_apply_of_error h]
  rfl

theorem make_query_of_ok {file : String} {known : Attributes} (h : a.known file = .ok known) :
    (query file).make a = ⟨.ok (.ok (.attributes known)), a.handOut known.volumes.length,
      [.call (.query file) .accepted]⟩ := by
  rw [make, Proc.map_apply, Archive.query_apply_of_ok h]
  rfl

theorem make_openFile_of_none (h : a.answers.openFile = none) (file : String) (mode : OpenMode) :
    (openFile file mode).make a = ⟨.ok (.ok (.handle a.fresh)), a.opened file,
      [.call (.openFile file mode) .accepted]⟩ := by
  rw [make, Proc.map_apply, Archive.openFile_apply_of_none h]
  rfl

theorem make_openFile_of_some {status : Status} (h : a.answers.openFile = some status)
    (file : String) (mode : OpenMode) :
    (openFile file mode).make a = ⟨.ok (.error status), a,
      [.call (.openFile file mode) (.refused status)]⟩ := by
  rw [make, Proc.map_apply, Archive.openFile_apply_of_some h]
  rfl

theorem make_recallFile_of_some {handle : Handle} {file : String}
    (h : a.handles.get? handle = some file) (offset length : UInt64) (tier : UInt32) :
    (recallFile handle offset length tier).make a =
      ⟨a.answers.recallFile.ending.map (Except.map fun () => .nothing), a,
        [.call (.recallFile file offset length tier) a.answers.recallFile.reply]⟩ := by
  rw [make, Proc.map_apply, Archive.recallFile_apply_of_some h]

/-- A recall of a handle that is not open is refused, unless the archive aborts before it looks. -/
theorem make_recallFile_of_none {handle : Handle} (h : a.handles.get? handle = none)
    (offset length : UInt64) (tier : UInt32) :
    (recallFile handle offset length tier).make a =
      ⟨if a.answers.recallFile = .abortUnseen then .error .recallCutShort
        else .ok (.error .badHandle), a, [.stray (.recallFile handle offset length tier)]⟩ := by
  rw [make, Proc.map_apply, Archive.recallFile_apply_of_none h]
  split <;> rfl

theorem make_closeFile_of_some {handle : Handle} {file : String}
    (h : a.handles.get? handle = some file) :
    (closeFile handle).make a =
      ⟨.ok ((Archive.given a.answers.closeFile).map fun () => .nothing), a.closed handle,
        [.call (.closeFile file) (.ofAnswer a.answers.closeFile)]⟩ := by
  rw [make, Proc.map_apply, Archive.closeFile_apply_of_some h]
  rfl

theorem make_closeFile_of_none {handle : Handle} (h : a.handles.get? handle = none) :
    (closeFile handle).make a =
      ⟨.ok (.error .badHandle), a, [.stray (.closeFile handle)]⟩ := by
  rw [make, Proc.map_apply, Archive.closeFile_apply_of_none h]
  rfl

/-! ## What an access can do to the handles -/

/-- What an access to an archive is, as far as handles go. -/
inductive Kind (a : Archive) : Access → Prop
  /-- An opening that is accepted. -/
  | opens (file : String) (mode : OpenMode) (accepted : a.answers.openFile = none) :
      Kind a (.openFile file mode)
  /-- A recall of a handle that is open. -/
  | recalls {h : Handle} {file : String} (isOpen : a.handles.get? h = some file)
      (offset length : UInt64) (tier : UInt32) : Kind a (.recallFile h offset length tier)
  /-- A close of a handle that is open. -/
  | closes {h : Handle} {file : String} (isOpen : a.handles.get? h = some file) :
      Kind a (.closeFile h)
  /-- Anything else leaves the handles as they are, gives none out, and leaves no record of a
  handle that it names. -/
  | aside {x : Access} (handles : (x.make a).state.handles = a.handles)
      (next : (x.make a).state.nextHandle = a.nextHandle) (given : x.given? a = none)
      (opened : openings (x.make a).trace.replies = 0)
      (silent : ∀ h, x.handle? a = some h → (x.make a).trace.calls = [])
      (stale : ∀ h, x = .closeFile h → a.handles.get? h = none) : Kind a x

/-- An access that leaves the handles alone, either because it is about something else or because
the handle that it names is not open. -/
theorem kind_of_made {x : Access} {ending : Except Abort (Except Status Yield)} {b : Archive}
    {t : Trace} (made : x.make a = ⟨ending, b, t⟩) (ends : ∀ h, ending ≠ .ok (.ok (.handle h)))
    (handles : b.handles = a.handles) (next : b.nextHandle = a.nextHandle)
    (opened : openings t.replies = 0) (silent : x.handle? a = x.given? a ∨ t.calls = [])
    (stale : ∀ h, x = .closeFile h → a.handles.get? h = none) : Kind a x := by
  have hgiven : x.given? a = none := by
    rw [given?, made]
    split
    · rename_i h hending
      exact absurd hending (ends h)
    · rfl
  refine .aside (by rw [made]; exact handles) (by rw [made]; exact next) hgiven
    (by rw [made]; exact opened) ?_ stale
  intro h hh
  rcases silent with hother | hsilent
  · rw [hother, hgiven] at hh
    cases hh
  · rw [made]
    exact hsilent

/-- There is no other kind. -/
theorem kinds (x : Access) (a : Archive) : Kind a x := by
  have hreply : ∀ (r : Option Status) h,
      (Except.ok ((Archive.given r).map fun () => .nothing) : Except Abort (Except Status Yield)) ≠
        .ok (.ok (.handle h)) := by
    rintro (_ | status) h <;> nofun
  cases x with
  | login mechanism principal keytab =>
      exact kind_of_made (make_login a mechanism principal keytab) (hreply _) rfl rfl rfl (.inl rfl)
        nofun
  | purge => exact kind_of_made (make_purge a) (hreply _) rfl rfl rfl (.inl rfl) nofun
  | query file =>
      rcases hk : a.known file with status | known
      · exact kind_of_made (make_query_of_error hk) nofun rfl rfl rfl (.inl rfl) nofun
      · exact kind_of_made (make_query_of_ok hk) nofun rfl rfl rfl (.inl rfl) nofun
  | release v => exact kind_of_made (b := a.takeBack 1) rfl nofun rfl rfl rfl (.inl rfl) nofun
  | openFile file mode =>
      rcases ho : a.answers.openFile with _ | status
      · exact .opens file mode ho
      · exact kind_of_made (make_openFile_of_some ho file mode) nofun rfl rfl rfl (.inl rfl) nofun
  | recallFile h offset length tier =>
      rcases hg : a.handles.get? h with _ | file
      · refine kind_of_made (make_recallFile_of_none hg offset length tier) ?_ rfl rfl rfl
          (.inr rfl) nofun
        intro other
        split <;> nofun
      · exact .recalls hg offset length tier
  | closeFile h =>
      rcases hg : a.handles.get? h with _ | file
      · refine kind_of_made (make_closeFile_of_none hg) nofun rfl rfl rfl (.inr rfl) ?_
        rintro other ⟨⟩
        exact hg
      · exact .closes hg
  | answers next =>
      exact kind_of_made (b := { a with answers := next }) rfl nofun rfl rfl rfl (.inl rfl) nofun
  | enter name known =>
      exact kind_of_made (b := a.enter name known) rfl nofun rfl rfl rfl (.inl rfl) nofun

end Access

namespace Archive

/-! ## Handles over a list of accesses -/

/-- The handles that openings gave out, in their order. -/
def handedOut (a : Archive) (xs : List Access) : List Handle :=
  a.gather (fun a x => (x.given? a).toList) xs

/-- An opening of this file gave out the handle, and no close of it came after. -/
def IsOut (a : Archive) (xs : List Access) (h : Handle) (file : String) : Prop :=
  ∃ before mode after, xs = before ++ .openFile file mode :: after ∧
    (Access.openFile file mode).given? (a.through before) = some h ∧ .closeFile h ∉ after

/-- The calls in the log that are about a handle, in their order. -/
def recordsOn (a : Archive) (h : Handle) (xs : List Access) : List Call :=
  a.gather (fun a x => if x.handle? a = some h then (x.make a).trace.calls else []) xs

/-- The calls about one handle, by the name that the handle has in the table, if it is there: none
until it is given out; then its opening, and recalls under the same name; and in the end a close. -/
inductive Life : Option String → List Call → Prop
  | unused : Life none []
  | isOpen (file : String) (mode : OpenMode) (recalls : List Call)
      (same : ∀ c ∈ recalls, ∃ offset length tier, c = .recallFile file offset length tier) :
      Life (some file) (.openFile file mode :: recalls)
  | isClosed (file : String) (mode : OpenMode) (recalls : List Call)
      (same : ∀ c ∈ recalls, ∃ offset length tier, c = .recallFile file offset length tier) :
      Life none (.openFile file mode :: recalls ++ [.closeFile file])

theorem log_concat (a : Archive) (xs : List Access) (x : Access) :
    a.log (xs ++ [x]) = a.log xs ++ (x.make (a.through xs)).trace.replies :=
  gather_concat _ a xs x

theorem handedOut_concat (a : Archive) (xs : List Access) (x : Access) :
    a.handedOut (xs ++ [x]) = a.handedOut xs ++ (x.given? (a.through xs)).toList :=
  gather_concat _ a xs x

theorem recordsOn_concat (a : Archive) (h : Handle) (xs : List Access) (x : Access) :
    a.recordsOn h (xs ++ [x]) = a.recordsOn h xs ++
      if x.handle? (a.through xs) = some h then (x.make (a.through xs)).trace.calls else [] :=
  gather_concat _ a xs x

/-- One more access: it may give out the handle, and it may close it. -/
theorem isOut_concat_iff (a : Archive) (xs : List Access) (x : Access) (h : Handle)
    (file : String) :
    a.IsOut (xs ++ [x]) h file ↔
      (∃ mode, x = .openFile file mode ∧ x.given? (a.through xs) = some h) ∨
        a.IsOut xs h file ∧ x ≠ .closeFile h := by
  constructor
  · rintro ⟨before, mode, after, hsplit, hgiven, hclose⟩
    -- the opening is either the last access or one of those before it
    rcases List.eq_nil_or_concat after with rfl | ⟨rest, y, rfl⟩
    · obtain ⟨rfl, hx⟩ := List.append_inj' hsplit rfl
      obtain rfl : x = .openFile file mode := List.head_eq_of_cons_eq hx
      exact .inl ⟨mode, rfl, hgiven⟩
    · rw [List.concat_eq_append] at hsplit hclose
      rw [← List.cons_append, ← List.append_assoc] at hsplit
      obtain ⟨hxs, hx⟩ := List.append_inj' hsplit rfl
      obtain rfl : x = y := List.head_eq_of_cons_eq hx
      rw [List.mem_append, not_or, List.mem_singleton] at hclose
      exact .inr ⟨⟨before, mode, rest, hxs, hgiven, hclose.1⟩, fun hy => hclose.2 hy.symm⟩
  · rintro (⟨mode, rfl, hgiven⟩ | ⟨⟨before, mode, after, rfl, hgiven, hclose⟩, hx⟩)
    · exact ⟨xs, mode, [], rfl, hgiven, List.not_mem_nil⟩
    · refine ⟨before, mode, after ++ [x], by simp, hgiven, ?_⟩
      rw [List.mem_append, not_or, List.mem_singleton]
      exact ⟨hclose, fun hy => hx hy.symm⟩

/-! ## What every access keeps -/

/-- What is so after any accesses: the numbering, and each handle where the accesses say it is. -/
structure Follows (a : Archive) (xs : List Access) : Prop where
  numbered : (a.through xs).Numbered (openings (a.log xs))
  given : ∀ h ∈ a.handedOut xs, h.number.toInt < openings (a.log xs)
  distinct : (a.handedOut xs).Nodup
  table : ∀ h file, (a.through xs).handles.get? h = some file ↔ a.IsOut xs h file
  used : ∀ h, h ∈ a.handedOut xs ↔ a.recordsOn h xs ≠ []
  life : ∀ h, Life ((a.through xs).handles.get? h) (a.recordsOn h xs)

variable {a : Archive} {xs : List Access}

/-- A handle in the table was given out and has its opening in the log. -/
theorem Follows.isOpen (f : a.Follows xs) {h : Handle} {file : String}
    (hopen : (a.through xs).handles.get? h = some file) :
    h ∈ a.handedOut xs ∧ ∃ mode recalls, a.recordsOn h xs = .openFile file mode :: recalls ∧
      ∀ c ∈ recalls, ∃ offset length tier, c = .recallFile file offset length tier := by
  have hlife := f.life h
  rw [hopen] at hlife
  generalize hrecords : a.recordsOn h xs = records at hlife
  cases hlife with
  | isOpen _ mode recalls same =>
      refine ⟨(f.used h).2 ?_, mode, recalls, rfl, same⟩
      rw [hrecords]
      exact List.cons_ne_nil _ _

/-- There is no record of a handle that was not given out. -/
theorem Follows.recordsOn_eq_nil (f : a.Follows xs) {h : Handle} (hh : h ∉ a.handedOut xs) :
    a.recordsOn h xs = [] := by
  by_contra hsome
  exact hh ((f.used h).2 hsome)

/-- The handle of the next opening was never given out. -/
theorem Follows.fresh_not_mem (f : a.Follows xs) : (a.through xs).fresh ∉ a.handedOut xs := by
  intro hmem
  have hlt := f.given _ hmem
  have hnext := f.numbered.next
  have hnum : (a.through xs).fresh.number = (a.through xs).nextHandle := rfl
  rw [hnum] at hlt
  omega

theorem Follows.opens (f : a.Follows xs) {file : String} {mode : OpenMode}
    (accepted : (a.through xs).answers.openFile = none)
    (few : openings (a.log (xs ++ [.openFile file mode])) < 2 ^ 31) :
    a.Follows (xs ++ [.openFile file mode]) := by
  have hmade := Access.make_openFile_of_none accepted file mode
  have hgiven : (Access.openFile file mode).given? (a.through xs) = some (a.through xs).fresh := by
    rw [Access.given?, hmade]
  have hhandle : (Access.openFile file mode).handle? (a.through xs) =
      some (a.through xs).fresh := hgiven
  have hcount : openings (a.log (xs ++ [.openFile file mode])) = openings (a.log xs) + 1 := by
    rw [log_concat, openings_append, hmade]
    rfl
  have hthrough : a.through (xs ++ [.openFile file mode]) = (a.through xs).opened file := by
    rw [through_concat, hmade]
  have hnever := f.fresh_not_mem
  rw [hcount] at few
  have hnext := f.numbered.next
  have hnum : (a.through xs).fresh.number = (a.through xs).nextHandle := rfl
  refine ⟨?_, ?_, ?_, ?_, ?_, ?_⟩
  · rw [hthrough, hcount]
    exact f.numbered.opened few file
  · intro h hmem
    rw [handedOut_concat, hgiven, List.mem_append] at hmem
    rw [hcount]
    rcases hmem with hold | hnew
    · have hlt := f.given h hold
      omega
    · rw [List.mem_singleton.1 hnew, hnum]
      omega
  · rw [handedOut_concat, hgiven, List.nodup_append]
    refine ⟨f.distinct, List.pairwise_singleton _ _, ?_⟩
    rintro h hold g hnew rfl
    exact hnever (List.mem_singleton.1 hnew ▸ hold)
  · intro h other
    rw [hthrough, isOut_concat_iff, hgiven]
    -- the new handle was never out, so its only name is the one it got now
    by_cases hh : h = (a.through xs).fresh
    · subst hh
      rw [get?_fresh_opened]
      constructor
      · intro hsame
        obtain rfl := Option.some.inj hsame
        exact .inl ⟨mode, rfl, rfl⟩
      · rintro (⟨_, hsame, -⟩ | ⟨hout, -⟩)
        · cases hsame
          rfl
        · exact absurd (f.isOpen ((f.table _ _).2 hout)).1 hnever
    · have hget : ((a.through xs).opened file).handles.get? h = (a.through xs).handles.get? h :=
        Table.get?_put_of_ne _ hh _
      rw [hget, f.table]
      constructor
      · intro hout
        exact .inr ⟨hout, nofun⟩
      · rintro (⟨_, _, hsome⟩ | ⟨hout, -⟩)
        · exact absurd (Option.some.inj hsome).symm hh
        · exact hout
  · intro h
    rw [handedOut_concat, recordsOn_concat, hgiven, hhandle, hmade, List.mem_append]
    by_cases hh : h = (a.through xs).fresh
    · simp [hh, Trace.calls]
    · have hne : (a.through xs).fresh ≠ h := fun e => hh e.symm
      simp [hh, hne, f.used h]
  · intro h
    rw [recordsOn_concat, hhandle, hmade, hthrough]
    by_cases hh : h = (a.through xs).fresh
    · rw [hh, f.recordsOn_eq_nil hnever, get?_fresh_opened, if_pos rfl]
      exact .isOpen file mode [] (List.forall_mem_nil _)
    · have hget : ((a.through xs).opened file).handles.get? h = (a.through xs).handles.get? h :=
        Table.get?_put_of_ne _ hh _
      have hne : ¬ some (a.through xs).fresh = some h := fun e => hh (Option.some.inj e).symm
      rw [hget, if_neg hne, List.append_nil]
      exact f.life h

/-- An access that gives out no handle: what is left to show is what it does to the handle that it
is about, and that it does nothing to others. -/
theorem Follows.of_given_eq_none (f : a.Follows xs) {x : Access}
    (given : x.given? (a.through xs) = none)
    (opened : openings (x.make (a.through xs)).trace.replies = 0)
    (numbered : (x.make (a.through xs)).state.Numbered (openings (a.log xs)))
    (table : ∀ h file, (x.make (a.through xs)).state.handles.get? h = some file ↔
      a.IsOut xs h file ∧ x ≠ .closeFile h)
    (known : ∀ h, x.handle? (a.through xs) = some h →
      h ∈ a.handedOut xs ∨ (x.make (a.through xs)).trace.calls = [])
    (own : ∀ h, x.handle? (a.through xs) = some h →
      Life ((x.make (a.through xs)).state.handles.get? h)
        (a.recordsOn h xs ++ (x.make (a.through xs)).trace.calls))
    (others : ∀ h, x.handle? (a.through xs) ≠ some h →
      (x.make (a.through xs)).state.handles.get? h = (a.through xs).handles.get? h) :
    a.Follows (xs ++ [x]) := by
  have hcount : openings (a.log (xs ++ [x])) = openings (a.log xs) := by
    rw [log_concat, openings_append, opened, Nat.add_zero]
  have hout : a.handedOut (xs ++ [x]) = a.handedOut xs := by
    rw [handedOut_concat, given]
    exact List.append_nil _
  refine ⟨?_, ?_, ?_, ?_, ?_, ?_⟩
  · rw [through_concat, hcount]
    exact numbered
  · rw [hout, hcount]
    exact f.given
  · rw [hout]
    exact f.distinct
  · intro h file
    rw [through_concat, isOut_concat_iff, table, given]
    simp
  · intro h
    rw [hout, f.used, recordsOn_concat]
    split
    · rename_i hh
      -- a handle that has records keeps them, and one that has none gets none
      rcases known h hh with hmem | hsilent
      · have hsome := (f.used h).1 hmem
        simp [hsome]
      · rw [hsilent, List.append_nil]
    · rw [List.append_nil]
  · intro h
    rw [through_concat, recordsOn_concat]
    by_cases hh : x.handle? (a.through xs) = some h
    · rw [if_pos hh]
      exact own h hh
    · rw [if_neg hh, List.append_nil, others h hh]
      exact f.life h

theorem Follows.recalls (f : a.Follows xs) {h : Handle} {file : String}
    (isOpen : (a.through xs).handles.get? h = some file) (offset length : UInt64) (tier : UInt32) :
    a.Follows (xs ++ [.recallFile h offset length tier]) := by
  have hmade := Access.make_recallFile_of_some isOpen offset length tier
  have hgiven : (Access.recallFile h offset length tier).given? (a.through xs) = none := by
    rw [Access.given?, hmade]
    rcases (a.through xs).answers.recallFile with _ | status | _ | _ <;> rfl
  obtain ⟨hmem, mode, recalls, hrecords, hsame⟩ := f.isOpen isOpen
  refine f.of_given_eq_none hgiven ?_ ?_ ?_ ?_ ?_ ?_
  · rw [hmade]
    rfl
  · rw [hmade]
    exact f.numbered
  · intro g other
    rw [hmade, f.table]
    exact ⟨fun hout => ⟨hout, nofun⟩, fun hout => hout.1⟩
  · rintro g ⟨⟩
    exact .inl hmem
  · rintro g ⟨⟩
    rw [hmade, isOpen, hrecords]
    refine .isOpen file mode (recalls ++ [.recallFile file offset length tier]) ?_
    intro c hc
    rcases List.mem_append.1 hc with hold | hnew
    · exact hsame c hold
    · exact ⟨offset, length, tier, List.mem_singleton.1 hnew⟩
  · intro g _
    rw [hmade]

theorem Follows.closes (f : a.Follows xs) {h : Handle} {file : String}
    (isOpen : (a.through xs).handles.get? h = some file) :
    a.Follows (xs ++ [.closeFile h]) := by
  have hmade := Access.make_closeFile_of_some isOpen
  have hgiven : (Access.closeFile h).given? (a.through xs) = none := by
    rw [Access.given?, hmade]
    rcases (a.through xs).answers.closeFile with _ | status <;> rfl
  have hgone : ((a.through xs).closed h).handles.get? h = none := Table.get?_erase_self _ _
  have hstays : ∀ g, g ≠ h →
      ((a.through xs).closed h).handles.get? g = (a.through xs).handles.get? g :=
    fun g hg => Table.get?_erase_of_ne _ hg
  obtain ⟨hmem, mode, recalls, hrecords, hsame⟩ := f.isOpen isOpen
  refine f.of_given_eq_none hgiven ?_ ?_ ?_ ?_ ?_ ?_
  · rw [hmade]
    rfl
  · rw [hmade]
    exact f.numbered.closed h
  · intro g other
    rw [hmade, ← f.table]
    by_cases hg : g = h
    · subst hg
      simp [hgone]
    · have hx : Access.closeFile h ≠ .closeFile g := by
        rintro ⟨⟩
        exact hg rfl
      rw [hstays g hg]
      exact ⟨fun hsome => ⟨hsome, hx⟩, fun hsome => hsome.1⟩
  · rintro g ⟨⟩
    exact .inl hmem
  · rintro g ⟨⟩
    rw [hmade, hgone, hrecords]
    exact .isClosed file mode recalls hsame
  · intro g hg
    rw [hmade]
    exact hstays g fun e => hg (congrArg some e.symm)

/-- An access of another kind: no handle is given out, and no record is about one. -/
theorem Follows.aside (f : a.Follows xs) {x : Access}
    (handles : (x.make (a.through xs)).state.handles = (a.through xs).handles)
    (next : (x.make (a.through xs)).state.nextHandle = (a.through xs).nextHandle)
    (given : x.given? (a.through xs) = none)
    (opened : openings (x.make (a.through xs)).trace.replies = 0)
    (silent : ∀ h, x.handle? (a.through xs) = some h → (x.make (a.through xs)).trace.calls = [])
    (stale : ∀ h, x = .closeFile h → (a.through xs).handles.get? h = none) :
    a.Follows (xs ++ [x]) := by
  refine f.of_given_eq_none given opened (f.numbered.congr handles next) ?_ ?_ ?_ ?_
  · intro h file
    rw [handles, ← f.table]
    refine ⟨fun hsome => ⟨hsome, ?_⟩, fun hsome => hsome.1⟩
    intro hx
    rw [stale h hx] at hsome
    cases hsome
  · intro h hh
    exact .inr (silent h hh)
  · intro h hh
    rw [silent h hh, List.append_nil, handles]
    exact f.life h
  · intro h _
    rw [handles]

/-- The step lemma: every access keeps what is so. -/
theorem Follows.concat (f : a.Follows xs) (x : Access)
    (few : openings (a.log (xs ++ [x])) < 2 ^ 31) : a.Follows (xs ++ [x]) := by
  cases x.kinds (a.through xs) with
  | opens file mode accepted => exact f.opens accepted few
  | recalls isOpen offset length tier => exact f.recalls isOpen offset length tier
  | closes isOpen => exact f.closes isOpen
  | aside handles next given opened silent stale =>
      exact f.aside handles next given opened silent stale

/-- At first there are no handles. -/
theorem follows_nil (answers : Answers) (catalogue : Catalogue) :
    Follows { answers, catalogue } [] := by
  refine ⟨⟨rfl, List.forall_mem_nil _⟩, List.forall_mem_nil _, .nil, ?_, ?_, fun h => .unused⟩
  · intro h file
    refine ⟨nofun, ?_⟩
    rintro ⟨before, mode, after, hsplit, -⟩
    exact absurd hsplit.symm (List.append_ne_nil_of_right_ne_nil _ (List.cons_ne_nil _ _))
  · intro h
    exact ⟨nofun, fun hsome => absurd rfl hsome⟩

/-- The run lemma: what is so at first is so after any accesses. -/
theorem follows (answers : Answers) (catalogue : Catalogue) (xs : List Access)
    (few : openings (log { answers, catalogue } xs) < 2 ^ 31) :
    Follows { answers, catalogue } xs := by
  induction xs using List.reverseRecOn with
  | nil => exact follows_nil answers catalogue
  | append_singleton xs x ih =>
      have hfew := few
      rw [log_concat, openings_append] at hfew
      exact (ih (by omega)).concat x few

/-! ## The protocol -/

/-- The protocol of handles after some accesses, for whatever is done next. -/
structure ObeysHandles (a : Archive) (xs : List Access) : Prop where
  /-- No handle is given out twice. -/
  distinct : (a.handedOut xs).Nodup
  below : ∀ h ∈ (a.through xs).handles.keys, h.number < (a.through xs).nextHandle
  /-- A handle that was given out has its opening in the log, then its recalls, and at most one
  close, which is the last of its records; one that was not has no records. -/
  opened : ∀ h, h ∈ a.handedOut xs ↔ a.recordsOn h xs ≠ []
  life : ∀ h, Life ((a.through xs).handles.get? h) (a.recordsOn h xs)
  /-- What is done with a handle that is out goes into the log, under the name of its opening. -/
  recalls : ∀ h file, a.IsOut xs h file → ∀ offset length tier,
    ((Access.recallFile h offset length tier).make (a.through xs)).trace.replies =
      [(.recallFile file offset length tier, (a.through xs).answers.recallFile.reply)]
  closes : ∀ h file, a.IsOut xs h file →
    ((Access.closeFile h).make (a.through xs)).trace.replies =
      [(.closeFile file, .ofAnswer (a.through xs).answers.closeFile)]
  /-- What is done with any other handle is refused, goes unrecorded, and changes nothing. -/
  staleRecall : ∀ h, (∀ file, ¬ a.IsOut xs h file) → ∀ offset length tier,
    let o := (Access.recallFile h offset length tier).make (a.through xs)
    o.trace = [.stray (.recallFile h offset length tier)] ∧ o.state = a.through xs ∧
      ((a.through xs).answers.recallFile ≠ .abortUnseen → o.ending = .ok (.error .badHandle))
  staleClose : ∀ h, (∀ file, ¬ a.IsOut xs h file) →
    (Access.closeFile h).make (a.through xs) =
      ⟨.ok (.error .badHandle), a.through xs, [.stray (.closeFile h)]⟩
  /-- Whatever a close comes to, its handle is gone. -/
  closed : ∀ h file, ¬ a.IsOut (xs ++ [.closeFile h]) h file
  gone : ∀ h, (a.through (xs ++ [.closeFile h])).handles.get? h = none

theorem Follows.get?_eq_none (f : a.Follows xs) {h : Handle} (stale : ∀ file, ¬ a.IsOut xs h file) :
    (a.through xs).handles.get? h = none :=
  Option.eq_none_iff_forall_ne_some.2 fun file hsome => stale file ((f.table h file).1 hsome)

theorem Follows.obeysHandles (f : a.Follows xs) : a.ObeysHandles xs where
  distinct := f.distinct
  below := by
    intro h hmem
    rw [Int32.lt_iff_toInt_lt, f.numbered.next]
    exact f.numbered.below h hmem
  opened := f.used
  life := f.life
  recalls := by
    intro h file hout offset length tier
    rw [Access.make_recallFile_of_some ((f.table h file).2 hout)]
    rfl
  closes := by
    intro h file hout
    rw [Access.make_closeFile_of_some ((f.table h file).2 hout)]
    rfl
  staleRecall := by
    intro h stale offset length tier
    rw [Access.make_recallFile_of_none (f.get?_eq_none stale)]
    exact ⟨rfl, rfl, fun hseen => if_neg hseen⟩
  staleClose := fun h stale => Access.make_closeFile_of_none (f.get?_eq_none stale)
  closed := by
    intro h file hout
    rcases (isOut_concat_iff a xs _ h file).1 hout with ⟨mode, hx, -⟩ | ⟨-, hx⟩
    · cases hx
    · exact hx rfl
  gone := by
    intro h
    rw [through_concat]
    rcases hget : (a.through xs).handles.get? h with _ | file
    · rw [Access.make_closeFile_of_none hget]
      exact hget
    · rw [Access.make_closeFile_of_some hget]
      exact Table.get?_erase_self _ h

/-- **The protocol of handles.** An archive that starts with no handles obeys it after any accesses
with fewer than 2^31 openings, and every history of agents and direct calls is made of accesses:
those of a direct call are the call itself, and together they leave the log of the history. (The
one answer of which `staleRecall` does not tell the ending is an abort that comes before the handle
is looked at.) -/
theorem handle_protocol (answers : Answers) (catalogue : Catalogue) :
    (∀ xs, openings (log { answers, catalogue } xs) < 2 ^ 31 →
      ObeysHandles { answers, catalogue } xs) ∧
    ∀ steps, ∃ xs, (World.opening answers catalogue).Unfolds steps xs ∧
      Leads { answers, catalogue } xs ((World.opening answers catalogue).log steps)
        ((World.opening answers catalogue).afterAll steps).archive := by
  refine ⟨fun xs few => (follows answers catalogue xs few).obeysHandles, ?_⟩
  intro steps
  obtain ⟨xs, hxs⟩ := (World.opening answers catalogue).exists_unfolds steps
  exact ⟨xs, hxs, hxs.leads⟩

/-- One name is opened twice, the recall by the first handle aborts, its close is refused, and then
both are tried once more. -/
def repeatedOpenings : List Access :=
  [.openFile "/a" .readOnlyNonblock, .openFile "/a" .readOnlyNonblock,
    .answers { recallFile := .abort, closeFile := some ⟨5⟩ }, .recallFile ⟨0⟩ 0 9 0, .closeFile ⟨0⟩,
    .recallFile ⟨0⟩ 0 9 0, .closeFile ⟨0⟩]

theorem repeatedOpenings_obey :
    handedOut {} repeatedOpenings = [⟨0⟩, ⟨1⟩] ∧
      recordsOn {} ⟨0⟩ repeatedOpenings = [.openFile "/a" .readOnlyNonblock,
        .recallFile "/a" 0 9 0, .closeFile "/a"] ∧
      recordsOn {} ⟨1⟩ repeatedOpenings = [.openFile "/a" .readOnlyNonblock] ∧
      ObeysHandles {} repeatedOpenings :=
  ⟨rfl, rfl, rfl, (handle_protocol {} .empty).1 repeatedOpenings (by decide)⟩

end Archive

end TapeRecall
