import TapeRecall.Recall
import TapeRecall.Proofs.Outcome.Archive

/-!
# What a recall comes to

A recall whose opening is refused is over with that one call. Any other makes three calls, whatever
the answers are: the handle that the opening gave out is open at the recall and at the close after
it, and where the recall aborts it is the clean-up that makes the third call.
-/

set_option autoImplicit false

namespace TapeRecall

namespace Archive

/-! ## The handle of one recall -/

@[simp] theorem get?_fresh_opened (a : Archive) (file : String) :
    (a.opened file).handles.get? a.fresh = some file :=
  Table.get?_put_self _ _ _

@[simp] theorem answers_opened (a : Archive) (file : String) :
    (a.opened file).answers = a.answers := rfl

end Archive

namespace Recall

/-- How a recall ends whose opening was accepted: the recall's own refusal counts before that of
the close. -/
def verdict (answers : Answers) : Except Abort (Except RecallFault Unit) :=
  match answers.recallFile, answers.closeFile with
  | .accept, none => .ok (.ok ())
  | .accept, some status => .ok (.error (.closeRefused status))
  | .refuse status, _ => .ok (.error (.recallRefused status))
  | .abort, _ | .abortUnseen, _ => .error .recallCutShort

/-- What is reported after the calls of a recall whose opening was accepted. -/
def closing (file : String) (handle : Handle) (answers : Answers) : List Notice :=
  match answers.recallFile, answers.closeFile with
  | .accept, none => [.recallLeft file true]
  | .accept, some status => [.closeRefused file status, .recallLeft file false]
  | .refuse status, none => [.recallRefused file status, .recallLeft file false]
  | .refuse status, some second =>
    [.recallRefused file status, .closeRefusedAfterRecall file second, .recallLeft file false]
  | .abort, none | .abortUnseen, none => []
  | .abort, some status | .abortUnseen, some status => [.closeRefusedOnAbort status handle]

/-- The three calls of a recall whose opening was accepted. -/
def exchanges (r : Request) (answers : Answers) : List Exchange :=
  [(.openFile r.file .readOnlyNonblock, .accepted),
   (.recallFile r.file 0 r.length 0, answers.recallFile.reply),
   (.closeFile r.file, .ofAnswer answers.closeFile)]

theorem perform_apply_of_some {a : Archive} {status : Status}
    (h : a.answers.openFile = some status) (r : Request) :
    perform r a = ⟨.ok (.error (.openRefused status)), a,
      [.notice (.recallEntered r.file r.length),
       .call (.openFile r.file .readOnlyNonblock) (.refused status),
       .notice (.openRefused r.file status)]⟩ := by
  simp [perform, Proc.bind_apply, Proc.map_apply, Except.map,
    Archive.openFile_apply_of_some h]

/-- The close that follows a recall, by the clean-up of an abort or in the normal course. -/
theorem closeOnAbort_apply {a : Archive} {handle : Handle} {file : String}
    (h : a.handles.get? handle = some file) :
    closeOnAbort handle a = ⟨.ok (), a.closed handle,
      .call (.closeFile file) (.ofAnswer a.answers.closeFile) ::
        (match a.answers.closeFile with
          | none => []
          | some status => [.notice (.closeRefusedOnAbort status handle)])⟩ := by
  cases hc : a.answers.closeFile <;>
    simp [closeOnAbort, Proc.bind_apply, Archive.closeFile_apply_of_some h, hc, Archive.given]

theorem perform_apply_of_none {a : Archive} (h : a.answers.openFile = none) (r : Request) :
    perform r a = ⟨verdict a.answers, (a.opened r.file).closed a.fresh,
      .notice (.recallEntered r.file r.length) ::
        ((exchanges r a.answers).map fun e => .call e.1 e.2) ++
          (closing r.file a.fresh a.answers).map .notice⟩ := by
  have hopen := Archive.openFile_apply_of_none h r.file .readOnlyNonblock
  have hget := Archive.get?_fresh_opened a r.file
  have hrecall := Archive.recallFile_apply_of_some hget 0 r.length 0
  have hclose := Archive.closeFile_apply_of_some hget
  have hclean := closeOnAbort_apply hget
  -- where the recall returns the second closing is made, and where it aborts the clean-up's
  cases hr : a.answers.recallFile <;> cases hc : a.answers.closeFile <;>
    simp [perform, Proc.bind_apply, Proc.map_apply, Except.map, Proc.onAbort_apply, hopen,
      hrecall, hclose, hclean, hr, hc, RecallAnswer.ending, RecallAnswer.reply, Archive.given,
      conclude, verdict, closing, exchanges, Reply.ofAnswer, fastestTier, Except.isOk,
      Except.toBool]

/-! ## The calls and the notices of a recall -/

theorem replies_perform_of_none {a : Archive} (h : a.answers.openFile = none) (r : Request) :
    (perform r a).trace.replies = exchanges r a.answers := by
  rw [perform_apply_of_none h, List.cons_append, Trace.replies_notice, Trace.replies_append,
    Trace.replies_map_call, Trace.replies_map_notice, List.append_nil]

theorem notices_perform_of_none {a : Archive} (h : a.answers.openFile = none) (r : Request) :
    (perform r a).trace.notices =
      .recallEntered r.file r.length :: closing r.file a.fresh a.answers := by
  rw [perform_apply_of_none h, List.cons_append, Trace.notices_notice, Trace.notices_append,
    Trace.notices_map_call, Trace.notices_map_notice, List.nil_append]

end Recall

end TapeRecall
