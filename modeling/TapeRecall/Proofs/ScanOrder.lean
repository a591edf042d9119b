import TapeRecall.Proofs.Outcome.Agent

/-!
# The order of what a scan does

A scan asks once and then hands back what it was given. Where in the walk a volume goes back depends
on how the scan ends: when its tier is left, at an early end with all that is still held, after the
last level, or on the way out of an abort. All of these come to one order, the order in which the
answer lists the volumes, because whatever the walk still holds is at any point the rest of that
list (`Scan.walk_none`, where the induction on the levels is).
-/

set_option autoImplicit false

namespace TapeRecall

namespace Agent

/-- **The volumes go back in the order of the answer.** Let an agent with a session look for a file.
Its query comes back, whatever the archive is. If it was refused it is the only call; and if it was
answered, the calls after it hand back one volume each, all the volumes of all the tiers, in the
order in which the tiers and the volumes on them are listed. Nothing is assumed of the answer, which
may have any number of tiers and any volumes, the same one twice included, and nothing of how the
scan ends. -/
theorem volumes_handed_back_in_order {a : Agent} (active : a.isActive = true) (file : String)
    (s : Archive) :
    ∃ reply, (Archive.query file s).ending = .ok reply ∧
      (a.locate file s).trace.replies = match reply with
        | .error status => [(.query file, .refused status)]
        | .ok x => (.query file, .accepted) ::
            (x.tiers.flatMap Tier.volumes).map fun v => (.release v.id, .accepted) := by
  refine ⟨s.known file, Archive.ending_query s file, ?_⟩
  rw [locate_of_active active]
  rcases h : s.known file with status | x
  · exact Scan.replies_locate_of_error h
  · exact Scan.replies_locate_of_ok h

/-- A file with more tiers than there are levels and with two volumes that are listed twice. The
first level with data lists a volume that cannot be read. -/
def overlong : Attributes := .file
  [⟨.diskLevel, 0, [⟨9, 0, some "D", false⟩]⟩,
    .present 5 [⟨4, 3, none, true⟩, ⟨4, 3, some "A", false⟩],
    .onTape 9 "B" 5 1, .absent, .absent, .onTape 2 "C" 5 1, .onTape 1 "E" 5 1]

/-- The scan aborts at the second tier, and still the volumes past the fifth go back last. -/
theorem overlong_handed_back :
    let a : Agent := ⟨some ⟨.unix, "p", "/k"⟩⟩
    let s : Archive := ({} : Archive).enter "/t" overlong
    a.isActive = true ∧ (a.locate "/t" s).ending = .error (.unreadable 4) ∧
      (a.locate "/t" s).trace.replies = (.query "/t", .accepted) ::
        [9, 4, 4, 9, 2, 1].map fun v => (.release v, .accepted) := by
  intro a s
  have hactive : a.isActive = true := rfl
  obtain ⟨reply, hreply, hcalls⟩ := volumes_handed_back_in_order hactive "/t" s
  obtain rfl : .ok overlong = reply := Except.ok.inj hreply
  exact ⟨hactive, rfl, hcalls⟩

end Agent

end TapeRecall
