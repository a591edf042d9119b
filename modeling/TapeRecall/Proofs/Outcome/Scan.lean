import TapeRecall.Scan
import TapeRecall.Proofs.Outcome.Archive

/-!
# What a scan comes to

The walk through the tiers has many exits and hands volumes back at each of them. Here it is
reduced to two functions of the tiers alone: `verdict`, how the scan ends, and `reduction`, what
it leaves in the trace. Both speak of the first tier that holds data and neither of the walk.

The volumes go back in the order in which the answer lists them at every exit, because what the
walk has not handed back yet is always the rest of that list. The one thing that may come between
two of them is the notice that no tier holds data.
-/

set_option autoImplicit false

namespace TapeRecall

namespace Attributes

/-- The first of the reported levels that holds data. -/
def fastest? (a : Attributes) : Option Nat :=
  (a.tiers.take Tier.depth).findIdx? fun t => t.flags.holdsData

/-- A level of the object; one that was not reported is absent. -/
def tier (a : Attributes) (level : Nat) : Tier := a.tiers.getD level .absent

end Attributes

namespace Scan

/-- What handing back leaves in the trace. -/
def releases (vs : List Volume) : Trace :=
  vs.map fun v => .call (.release v.id) .accepted

@[simp] theorem releases_append (vs us : List Volume) :
    releases (vs ++ us) = releases vs ++ releases us := List.map_append

@[simp] theorem notices_releases (vs : List Volume) : (releases vs).notices = [] := by
  induction vs with
  | nil => rfl
  | cons v rest ih => exact ih

@[simp] theorem replies_releases (vs : List Volume) :
    (releases vs).replies = vs.map fun v => (.release v.id, .accepted) := by
  induction vs with
  | nil => rfl
  | cons v rest ih => exact congrArg (_ :: ·) ih

theorem handBack_eq (vs : List Volume) (a : Archive) :
    handBack vs a = ⟨.ok (), a.takeBack vs.length, releases vs⟩ :=
  handBack_apply vs a

/-! ## The walk -/

/-- How a walk without a location ends, and what it leaves in the trace. -/
def walkOutcome (levels level : Nat) (tiers : List Tier) (a : Archive) :
    Outcome Archive (Except ScanFault Location) :=
  let after := a.takeBack (tiers.flatMap Tier.volumes).length
  match (tiers.take levels).findIdx? fun t => t.flags.holdsData with
  | some i =>
    ⟨place (level + i) (tiers.getD i .absent), after, releases (tiers.flatMap Tier.volumes)⟩
  | none =>
    ⟨.ok (.error .emptyFile), after,
      releases ((tiers.take levels).flatMap Tier.volumes) ++ .notice .noTierHoldsData ::
        releases ((tiers.drop levels).flatMap Tier.volumes)⟩

/-- Once there is a location the rest of the walk only hands back. -/
theorem walk_some (levels level : Nat) (tiers : List Tier) (l : Location) (a : Archive) :
    walk levels level tiers (some l) a = ⟨.ok (.ok l),
      a.takeBack (tiers.flatMap Tier.volumes).length, releases (tiers.flatMap Tier.volumes)⟩ := by
  induction levels generalizing level tiers a with
  | zero =>
    simp [walk, handBackAll, Proc.bind_apply, handBack_eq]
  | succ levels ih =>
    cases tiers with
    | nil =>
      rw [walk, ih]
    | cons tier rest =>
      simp [walk, Proc.bind_apply, handBack_eq, ih]

/-- What one tier with data decides. -/
theorem walk_cons_of_holdsData (levels level : Nat) (tier : Tier) (rest : List Tier)
    (a : Archive) (h : tier.flags.holdsData = true) :
    walk (levels + 1) level (tier :: rest) none a = ⟨place level tier,
      a.takeBack ((tier :: rest).flatMap Tier.volumes).length,
      releases ((tier :: rest).flatMap Tier.volumes)⟩ := by
  rw [walk]
  simp only [Option.isNone_none, h, Bool.and_self, if_true]
  rw [Proc.bind_apply, Proc.onAbort_apply]
  cases hp : place level tier with
  | error why =>
    simp [handBackAll, handBack_eq]
  | ok r =>
    cases r with
    | error fault =>
      simp [handBackAll, handBack_eq, Proc.map_apply, Except.map]
    | ok l =>
      simp [Proc.bind_apply, handBack_eq, walk_some]

/-- The walk decides by the first tier with data among the levels it has to go, and hands back
everything. The induction is on the levels; what is left of the tiers is what is still held. -/
theorem walk_none (levels level : Nat) (tiers : List Tier) (a : Archive) :
    walk levels level tiers none a = walkOutcome levels level tiers a := by
  induction levels generalizing level tiers a with
  | zero =>
    simp [walk, walkOutcome, handBackAll, Proc.bind_apply, Proc.map_apply, Except.map,
      handBack_eq, releases]
  | succ levels ih =>
    cases tiers with
    | nil =>
      -- levels that were not reported change nothing
      rw [walk, ih]
      simp [walkOutcome]
    | cons tier rest =>
      by_cases h : tier.flags.holdsData = true
      · rw [walk_cons_of_holdsData _ _ _ _ _ h]
        simp [walkOutcome, List.findIdx?_cons, h]
      · rw [walk]
        simp only [Option.isNone_none, h, Bool.and_false, Bool.false_eq_true, if_false]
        rw [Proc.bind_apply, handBack_eq]
        dsimp only
        -- the tier goes back and the rest of the walk decides, one level further down
        rw [ih]
        unfold walkOutcome
        simp only [List.take_succ_cons, List.findIdx?_cons, h, List.drop_succ_cons]
        cases hf : (rest.take levels).findIdx? fun t => t.flags.holdsData with
        | none => simp
        | some i => simp [Nat.add_comm, Nat.add_left_comm]

/-! ## The verdict on what is known of an object -/

/-- How a scan ends that learned this of an object. -/
def verdict (a : Attributes) : Except Abort (Except ScanFault Location) :=
  if (a.tier 0).flags.isEmpty then
    .ok (.error (if a.kind.isFile then .noSegments else .isDirectory))
  else match a.fastest? with
    | some level => place level (a.tier level)
    | none => .ok (.error .emptyFile)

/-- What one tier can decide: a location of its own bytes, a fault, or the abort of a volume that
cannot be read. -/
theorem place_cases (level : Nat) (tier : Tier) :
    (∃ l, place level tier = .ok (.ok l) ∧ l.size = tier.bytes ∧ l.tier = UInt32.ofNat level) ∨
      (∃ fault, place level tier = .ok (.error fault)) ∨
      ∃ v ∈ tier.volumes, place level tier = .error (.unreadable v.id) := by
  rcases level with _ | level
  · exact Or.inl ⟨.onDisk tier.bytes, rfl, rfl, rfl⟩
  obtain ⟨flags, bytes, _ | ⟨v, rest⟩⟩ := tier
  · exact Or.inr (Or.inl ⟨.missingVolume (UInt32.ofNat (level + 1)), rfl⟩)
  by_cases hu : v.unreadable = true
  · refine Or.inr (Or.inr ⟨v, List.mem_cons_self, ?_⟩)
    simp [place, Volume.readLabel, hu, bind, Except.bind]
  rcases hl : v.label with _ | label
  · refine Or.inr (Or.inl ⟨.missingVolume (UInt32.ofNat (level + 1)), ?_⟩)
    simp [place, Volume.readLabel, hu, hl, bind, Except.bind, pure, Except.pure]
  by_cases hneg : v.position < 0
  · refine Or.inr (Or.inl ⟨.missingVolume (UInt32.ofNat (level + 1)), ?_⟩)
    simp [place, Volume.readLabel, hu, hl, hneg, bind, Except.bind, pure, Except.pure]
  · refine Or.inl ⟨⟨UInt32.ofNat (level + 1), label, bytes, v.position⟩, ?_, rfl, rfl⟩
    simp [place, Volume.readLabel, hu, hl, hneg, bind, Except.bind, pure, Except.pure]

/-- The one fault that a tier can lead to is that it names no volume. -/
theorem eq_missingVolume_of_place {level : Nat} {tier : Tier} {fault : ScanFault}
    (h : place level tier = .ok (.error fault)) : fault = .missingVolume (UInt32.ofNat level) := by
  obtain ⟨flags, bytes, volumes⟩ := tier
  rcases level with _ | level
  · cases h
  rcases volumes with _ | ⟨v, rest⟩
  · cases h
    rfl
  -- the label is read first, and its position is looked at only where there is a label
  unfold place at h
  rcases hr : v.readLabel with why | label
  · simp [hr, bind, Except.bind] at h
  rcases label with _ | label
  · simp only [hr, bind, Except.bind, pure, Except.pure, Except.ok.injEq, Except.error.injEq] at h
    exact h.symm
  · by_cases hneg : v.position < 0
    · simp only [hr, hneg, bind, Except.bind, pure, Except.pure, if_true, Except.ok.injEq,
        Except.error.injEq] at h
      exact h.symm
    · simp [hr, hneg, bind, Except.bind, pure, Except.pure] at h

/-- A scan aborts for a volume that cannot be read and for nothing else. -/
theorem exists_of_verdict_eq_error {x : Attributes} {why : Abort} (h : verdict x = .error why) :
    ∃ v, why = .unreadable v := by
  unfold verdict at h
  split at h
  · cases h
  · split at h
    · rename_i level _
      rcases place_cases level (x.tier level) with ⟨l, hp, -⟩ | ⟨fault, hp⟩ | ⟨v, -, hp⟩
      · rw [hp] at h
        cases h
      · rw [hp] at h
        cases h
      · rw [hp] at h
        exact ⟨v.id, (Except.error.inj h).symm⟩
    · cases h

/-- A location comes from the first tier with data and has the size of what lies there. -/
theorem exists_of_verdict_eq_ok {x : Attributes} {l : Location} (h : verdict x = .ok (.ok l)) :
    ∃ level, x.fastest? = some level ∧ l.size = (x.tier level).bytes ∧
      l.tier = UInt32.ofNat level := by
  unfold verdict at h
  split at h
  · cases h
  · split at h
    · rename_i level hlevel
      rcases place_cases level (x.tier level) with ⟨m, hp, hsize, htier⟩ | ⟨fault, hp⟩ | ⟨v, -, hp⟩
      · rw [hp] at h
        cases h
        exact ⟨level, hlevel, hsize, htier⟩
      · rw [hp] at h
        cases h
      · rw [hp] at h
        cases h
    · cases h

/-- What a scan leaves in the trace after it learned this of an object. -/
def reduction (a : Attributes) : Trace :=
  if (a.tier 0).flags.isEmpty then
    .notice (if a.kind.isFile then .segmentless else .likelyDirectory a.kind) ::
      releases a.volumes
  else match a.fastest? with
    | some _ => releases a.volumes
    | none =>
      releases ((a.tiers.take Tier.depth).flatMap Tier.volumes) ++ .notice .noTierHoldsData ::
        releases ((a.tiers.drop Tier.depth).flatMap Tier.volumes)

/-- Whatever is said in between, the calls are those that hand back every volume in its place. -/
@[simp] theorem replies_reduction (x : Attributes) :
    (reduction x).replies = x.volumes.map fun v => (.release v.id, .accepted) := by
  unfold reduction
  split
  · rw [Trace.replies_notice, replies_releases]
  · split
    · rw [replies_releases]
    · rw [Trace.replies_append, Trace.replies_notice, replies_releases, replies_releases,
        ← List.map_append, ← List.flatMap_append, List.take_append_drop, Attributes.volumes]

/-- What is reported while the volumes go back, which is one notice at most. -/
def findings (x : Attributes) : List Notice :=
  if (x.tier 0).flags.isEmpty then
    [if x.kind.isFile then .segmentless else .likelyDirectory x.kind]
  else if x.fastest?.isSome then [] else [.noTierHoldsData]

@[simp] theorem notices_reduction (x : Attributes) : (reduction x).notices = findings x := by
  unfold reduction findings
  split
  · rw [Trace.notices_notice, notices_releases]
  · rcases x.fastest? with _ | level
    · rw [Trace.notices_append, Trace.notices_notice, notices_releases, notices_releases]
      rfl
    · exact notices_releases _

theorem reduce_apply (x : Attributes) (a : Archive) :
    reduce x a = ⟨verdict x, a.takeBack x.volumes.length, reduction x⟩ := by
  have htier : x.tiers.headD .absent = x.tier 0 := by
    cases h : x.tiers <;> simp [Attributes.tier, h]
  rw [reduce, htier]
  unfold verdict reduction
  by_cases he : (x.tier 0).flags.isEmpty = true
  · by_cases hk : x.kind.isFile = true <;>
      simp [he, hk, Proc.bind_apply, Proc.map_apply, Except.map, handBackAll, handBack_eq,
        Attributes.volumes]
  · simp only [he, Bool.false_eq_true, if_false]
    rw [walk_none, walkOutcome]
    unfold Attributes.fastest?
    cases hf : (x.tiers.take Tier.depth).findIdx? fun t => t.flags.holdsData with
    | none => rfl
    | some i => simp [Attributes.tier, Attributes.volumes]

/-! ## The whole scan -/

/-- What a scan reports at its end; one that aborts reports nothing more. -/
def closing (file : String) : Except Abort (Except ScanFault Location) → List Notice
  | .ok (.ok l) => [.located file l, .scanLeft true]
  | .ok (.error fault) => [.scanFailed file fault, .scanLeft false]
  | .error _ => []

theorem locate_apply_of_error {a : Archive} {file : String} {status : Status}
    (h : a.known file = .error status) :
    locate file a = ⟨.ok (.error (.queryRefused status)), a,
      .notice (.scanEntered file) :: .call (.query file) (.refused status) ::
        (closing file (.ok (.error (.queryRefused status)))).map .notice⟩ := by
  simp [locate, Proc.bind_apply, Proc.map_apply, Except.map, Archive.query_apply_of_error h,
    closing, Except.isOk, Except.toBool]

/-- What a scan hands back is what its one query handed out. -/
theorem locate_apply_of_ok {a : Archive} {file : String} {x : Attributes}
    (h : a.known file = .ok x) :
    locate file a = ⟨verdict x, (a.handOut x.volumes.length).takeBack x.volumes.length,
      .notice (.scanEntered file) :: .call (.query file) .accepted ::
        (reduction x ++ (closing file (verdict x)).map .notice)⟩ := by
  cases hv : verdict x with
  | error why =>
    simp [locate, Proc.bind_apply, Archive.query_apply_of_ok h, reduce_apply, hv, closing]
  | ok r =>
    cases r <;>
      simp [locate, Proc.bind_apply, Proc.map_apply, Except.map, Archive.query_apply_of_ok h,
        reduce_apply, hv, closing, Except.isOk, Except.toBool]

/-! ## The calls and the notices of a scan -/

theorem replies_locate_of_error {a : Archive} {file : String} {status : Status}
    (h : a.known file = .error status) :
    (locate file a).trace.replies = [(.query file, .refused status)] := by
  rw [locate_apply_of_error h, Trace.replies_notice, Trace.replies_call, Trace.replies_map_notice]

theorem replies_locate_of_ok {a : Archive} {file : String} {x : Attributes}
    (h : a.known file = .ok x) :
    (locate file a).trace.replies =
      (.query file, .accepted) :: x.volumes.map fun v => (.release v.id, .accepted) := by
  rw [locate_apply_of_ok h, Trace.replies_notice, Trace.replies_call, Trace.replies_append,
    replies_reduction, Trace.replies_map_notice, List.append_nil]

theorem notices_locate_of_error {a : Archive} {file : String} {status : Status}
    (h : a.known file = .error status) :
    (locate file a).trace.notices =
      .scanEntered file :: closing file (.ok (.error (.queryRefused status))) := by
  rw [locate_apply_of_error h, Trace.notices_notice, Trace.notices_call, Trace.notices_map_notice]

theorem notices_locate_of_ok {a : Archive} {file : String} {x : Attributes}
    (h : a.known file = .ok x) :
    (locate file a).trace.notices =
      .scanEntered file :: (findings x ++ closing file (verdict x)) := by
  rw [locate_apply_of_ok h, Trace.notices_notice, Trace.notices_call, Trace.notices_append,
    notices_reduction, Trace.notices_map_notice]

end Scan

end TapeRecall
