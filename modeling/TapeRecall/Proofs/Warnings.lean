import TapeRecall.Proofs.ScanAccount

/-!
# Warnings

Whoever reads the log of an agent at the level of warnings reads about failures and about nothing
else. A call that comes back with a fault left a warning, and a call that did what it was asked for
left none. The one fault that goes without a warning is that there is no session: then the archive
is not asked and the log stays empty.

An operation that is let past the question of the session cannot come back with that fault, so for
each of them it is enough to compare its warnings with whether it failed (`WarnsOnFault.of_passed`).
-/

set_option autoImplicit false

namespace TapeRecall

namespace Trace

/-- The log has a warning. -/
def Warns (t : Trace) : Prop := ∃ n ∈ t.notices, n.level = .warn

@[simp] theorem warns_call (c : Call) (r : Reply) (t : Trace) :
    Warns (.call c r :: t) ↔ t.Warns := Iff.rfl

@[simp] theorem warns_stray (c : StrayCall) (t : Trace) :
    Warns (.stray c :: t) ↔ t.Warns := Iff.rfl

end Trace

namespace Outcome.WarnsOnFault

variable {σ α ε β : Type} {answer : α → Except ε β} {noSession : ε} {s : σ}

end Outcome.WarnsOnFault

/-! ## Sessions -/

namespace Session

end Session

/-! ## Scans -/

namespace Scan

end Scan

/-! ## Recalls -/

namespace Recall

end Recall

/-! ## The operations of an agent -/

namespace Agent

end Agent

end TapeRecall
