import TapeRecall.Proofs.Accounts
import TapeRecall.Proofs.Ordinary

/-!
# The protocol of a recall

What one recall does to an archive and whom it blames. A refused opening is the only call there is.
After an accepted one there are three calls, whatever is answered to them and also where the recall
never returns, and the result is read off the replies to the second and the third: the recall's own
refusal counts before that of the close, and an abort before both.

The handle that the recall opened is gone afterwards. That the table of handles is then the one
from before needs more: the handle must not have been in the table already, or closing it would take
away somebody else's. Handles are numbered upwards, so this cannot happen until the numbers come
round again (`Archive.fresh_not_mem_of_reached`).
-/

set_option autoImplicit false

namespace TapeRecall

namespace Archive

/-- The archive came about by steps of any agents and by direct calls, and gave out so few handles
that their numbers have not come round. -/
def Reached (s : Archive) : Prop :=
  ∃ answers catalogue steps, openings ((World.opening answers catalogue).log steps) < 2 ^ 31 ∧
    s = ((World.opening answers catalogue).afterAll steps).archive

theorem fresh_not_mem_of_reached {s : Archive} (h : s.Reached) : s.fresh ∉ s.handles.keys := by
  obtain ⟨answers, catalogue, steps, few, rfl⟩ := h
  have hbalanced := (World.balanced_opening answers catalogue).afterAll steps few
  exact hbalanced.numbered.fresh_not_mem

/-- Opening a file and closing its handle again brings the old table back, if the handle was not
in it; and if it was, then somebody else's entry is lost. -/
theorem handles_closed_opened_iff (s : Archive) (file : String) :
    ((s.opened file).closed s.fresh).handles = s.handles ↔ s.fresh ∉ s.handles.keys := by
  have herase : ((s.opened file).closed s.fresh).handles = s.handles.erase s.fresh := by
    rw [closed, opened, Table.erase_put_self]
  rw [herase]
  constructor
  · intro hsame hmem
    have hsome := (Table.mem_keys_iff s.handles s.fresh).1 hmem
    rw [← hsame, Table.get?_erase_self] at hsome
    cases hsome
  · exact Table.erase_of_not_mem s.handles

end Archive

namespace Recall

/-! ## Whom a recall blames -/

/-- How a recall ends, by what was replied to the recall of the open file and to the close. -/
structure Blames (recalled closed : Reply) (ending : Except Abort (Except RecallFault Unit)) :
    Prop where
  aborted : ending = .error .recallCutShort ↔ recalled = .aborted
  /-- The reply to the close makes no difference here. -/
  recallRefused : ∀ status,
    ending = .ok (.error (.recallRefused status)) ↔ recalled = .refused status
  closeRefused : ∀ status, ending = .ok (.error (.closeRefused status)) ↔
    recalled = .accepted ∧ closed = .refused status
  accepted : ending = .ok (.ok ()) ↔ recalled = .accepted ∧ closed = .accepted

theorem verdict_blames (answers : Answers) :
    Blames answers.recallFile.reply (.ofAnswer answers.closeFile) (verdict answers) := by
  unfold verdict RecallAnswer.reply Reply.ofAnswer
  rcases answers.recallFile with _ | status | _ | _ <;> rcases answers.closeFile with _ | second <;>
    constructor <;> simp

end Recall

namespace Agent

/-- **The protocol of a recall.** Whatever the archive answers, with any codes, an agent that has a
session makes one call if the opening is refused, and else it opens, recalls from the first byte to
the fastest tier in the length that was asked for, and closes, also where the recall aborts; and no
reply to the close makes a difference to an abort or to a refusal of the recall. The table of
handles is the old one in the end. These calls are all on record: none is made on a handle that is
not open, so that nothing is closed twice. -/
theorem recall_protocol {a : Agent} (active : a.isActive = true) (r : Request) (s : Archive) :
    let o := a.recallFile r s
    (∀ status, s.answers.openFile = some status →
      o.trace.replies = [(.openFile r.file .readOnlyNonblock, .refused status)] ∧
      o.ending = .ok (.error (.openRefused status))) ∧
    (s.answers.openFile = none →
      let recalled := s.answers.recallFile.reply
      let closed := Reply.ofAnswer s.answers.closeFile
      o.trace.replies = [(.openFile r.file .readOnlyNonblock, .accepted),
        (.recallFile r.file 0 r.length 0, recalled), (.closeFile r.file, closed)] ∧
      Recall.Blames recalled closed o.ending) ∧
    (o.state.handles = s.handles ↔ s.answers.openFile.isSome ∨ s.fresh ∉ s.handles.keys) ∧
    (s.Reached → o.state.handles = s.handles) ∧
    o.trace.strays = [] := by
  intro o
  have ho : o = Recall.perform r s := by
    rw [← recallFile_of_active active]
  have htable : o.state.handles = s.handles ↔
      s.answers.openFile.isSome ∨ s.fresh ∉ s.handles.keys := by
    rcases hopen : s.answers.openFile with _ | status
    · rw [ho, Recall.perform_apply_of_none hopen, s.handles_closed_opened_iff]
      simp
    · rw [ho, Recall.perform_apply_of_some hopen]
      simp
  refine ⟨?_, ?_, htable, ?_, Trace.strays_eq_nil (a.isOrdinary_recallFile r s)⟩
  · intro status hopen
    rw [ho, Recall.perform_apply_of_some hopen]
    exact ⟨rfl, rfl⟩
  · intro hopen recalled closed
    have hending : o.ending = Recall.verdict s.answers := by
      rw [ho, Recall.perform_apply_of_none hopen]
    rw [hending, ho]
    exact ⟨Recall.replies_perform_of_none hopen r, Recall.verdict_blames s.answers⟩
  · intro hreached
    exact htable.2 (.inr (Archive.fresh_not_mem_of_reached hreached))

/-- An agent with a session, and an archive that has a handle open and refuses recalls and
closes. -/
def beforeTwoRefusals : World :=
  (World.opening {} .empty).afterAll
    [⟨1, .direct (.openFile "/x" .readOnlyNonblock)⟩, ⟨0, .login "unix" "p" "/k"⟩,
      ⟨0, .answers { recallFile := .refuse ⟨-5⟩, closeFile := some ⟨0⟩ }⟩]

theorem beforeTwoRefusals_protocol :
    let a := beforeTwoRefusals.agent 0
    let s := beforeTwoRefusals.archive
    let o := a.recallFile ⟨"/t", 9⟩ s
    a.isActive = true ∧ s.Reached ∧ s.handles.keys = [⟨0⟩] ∧
      o.ending = .ok (.error (.recallRefused ⟨-5⟩)) ∧ o.state.handles = s.handles ∧
      o.trace.strays = [] := by
  intro a s o
  have hactive : a.isActive = true := by decide
  have hreached : s.Reached := ⟨{}, .empty, _, by decide, rfl⟩
  obtain ⟨-, haccepted, -, htable, hstrays⟩ := recall_protocol hactive ⟨"/t", 9⟩ s
  exact ⟨hactive, hreached, rfl, ((haccepted rfl).2.recallRefused ⟨-5⟩).2 rfl, htable hreached,
    hstrays⟩

end Agent

end TapeRecall
