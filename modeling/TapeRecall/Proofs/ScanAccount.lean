import TapeRecall.Proofs.Outcome.Agent

/-!
# What a scan says of itself, and when

A scan makes calls and reports, and somebody who watches the calls and has the log of the program
beside them sees both in one order. This file says what is seen, from the first to the last
of it. It depends on two things, the answer to the query and how the scan ends (`Scan.account`).

The remark that classifies the object has a place of its own. That there are no segments, or that it
looks like a directory, is known before the walk and is said before any volume goes back. That no
tier holds data is known after the last level; by then the volumes of all levels have gone back, and
those of the tiers past them have not. The remark is there just where the scan ends with the fault
that it announces, because the tier that decides a walk leads to a location, to a volume that is
missing, or to an abort, and to none of the other faults (`Scan.eq_missingVolume_of_place`).
-/

set_option autoImplicit false

namespace TapeRecall

/-! ## Calls and log in one -/

/-- What is seen of an incident by somebody who watches the calls and has the log. -/
inductive Sight where
  | call (call : Call) (reply : Reply)
  | stray (call : StrayCall)
  | event (level : Log.Level) (message : String) (fields : List (String × Log.Field))
deriving DecidableEq

namespace Trace

end Trace

namespace Scan

/-! ## The account -/

/-- Some volumes go back. -/
def handedBack (vs : List Volume) : List Sight :=
  vs.map fun v => .call (.release v.id) .accepted

/-- What is seen at the end. A scan that aborts says nothing more. -/
def summary (file : String) : Except Abort (Except ScanFault Location) → List Sight
  | .ok (.ok l) =>
    [.event .debug "file properties"
      [("file", .plain file), ("position", .number l.position.toInt),
       ("tier", .number l.tier.toNat), ("tape", .shown l.tape), ("size", .number l.size.toNat)],
     .event .trace "< locate" [("ok", .flag true)]]
  | .ok (.error fault) =>
    [.event .warn "error querying file" [("file", .plain file), ("error", .shown fault.message)],
     .event .trace "< locate" [("ok", .flag false)]]
  | .error _ => []

/-- What goes back is no part of the log. -/
@[simp] theorem event_not_mem_handedBack (level : Log.Level) (message : String)
    (fields : List (String × Log.Field)) (vs : List Volume) :
    .event level message fields ∉ handedBack vs := by
  simp [handedBack]

end Scan

namespace Agent

end Agent

end TapeRecall
