import TapeRecall.Proofs.FirstMatch
import TapeRecall.Proofs.Outcome.Agent

/-!
# The marks of the disk

A file in the disk cache lies on no tape and has no position on one, and its location carries marks
in their place. Whoever gets a location may therefore ask in three ways whether the file is on disk,
by the tier, by the position and by the tape. This file is about whether they come to the same.

The tier and the position do, because a scan takes no volume whose position is negative. The tape
comes to the same but for one kind of file. A scan takes the label of a volume as it finds it, and
nothing keeps a tape from having the label that stands for the disk (`Attributes.NamesDisk`).
-/

set_option autoImplicit false

namespace TapeRecall

namespace Attributes

/-- The first level with data is a tape level, and its first volume has the label that stands for
the disk. -/
def NamesDisk (x : Attributes) : Prop :=
  ∃ level, 0 < level ∧ x.IsFirst level ∧
    (x.tier level).volumes.head?.bind Volume.label = some Location.diskLabel

theorem IsFirst.unique {x : Attributes} {m n : Nat} (hm : x.IsFirst m) (hn : x.IsFirst n) :
    m = n := by
  -- there is one search for it, and that came to both
  have hsome : some m = some n := by
    rw [← (x.fastest?_eq_some_iff m).2 hm, (x.fastest?_eq_some_iff n).2 hn]
  exact Option.some.inj hsome

/-- A tape level is not taken for the disk, because there are only five levels. -/
theorem IsFirst.ofNat_ne_zero {x : Attributes} {level : Nat} (h : x.IsFirst level)
    (tape : 0 < level) : UInt32.ofNat level ≠ 0 := by
  have hlt : level < UInt32.size := Nat.lt_trans h.reported (by decide)
  rw [Ne, ← UInt32.toNat_inj, UInt32.toNat_ofNat_of_lt' hlt]
  exact Nat.ne_of_gt tape

namespace Ruling

variable {x : Attributes} {l : Location}

/-- On tape no position is the disk's, which is negative. -/
theorem position_eq_iff (h : x.Ruling (.ok (.ok l))) :
    l.position = Location.diskPosition ↔ l.tier = 0 := by
  cases h with
  | onDisk segments first => exact iff_of_true rfl rfl
  | @onTape level v label segments first tape volume readable labelled positioned =>
      refine iff_of_false ?_ (first.ofNat_ne_zero tape)
      rintro (hposition : v.position = Location.diskPosition)
      rw [hposition] at positioned
      exact positioned (by decide)

theorem tape_eq_iff (h : x.Ruling (.ok (.ok l))) :
    l.tape = Location.diskLabel ↔ l.tier = 0 ∨ x.NamesDisk := by
  cases h with
  | onDisk segments first => exact iff_of_true rfl (.inl rfl)
  | @onTape level v label segments first tape volume readable labelled positioned =>
      -- the label that was taken is that of the volume which the condition is about
      have hlabel : (x.tier level).volumes.head?.bind Volume.label = some label := by
        rw [volume, Option.bind_some, labelled]
      constructor
      · rintro (rfl : label = Location.diskLabel)
        exact .inr ⟨level, tape, first, hlabel⟩
      · rintro (hzero | ⟨m, -, hfirst, hnames⟩)
        · exact absurd hzero (first.ofNat_ne_zero tape)
        · obtain rfl := hfirst.unique first
          exact Option.some.inj (hlabel.symm.trans hnames)

/-- A file whose tape is named like the disk is not on disk. -/
theorem tier_ne_zero_of_namesDisk (h : x.Ruling (.ok (.ok l))) (names : x.NamesDisk) :
    l.tier ≠ 0 := by
  obtain ⟨level, tape, hfirst, -⟩ := names
  cases h with
  | onDisk segments first => exact absurd (hfirst.unique first) (Nat.ne_of_gt tape)
  | onTape segments first tape volume readable labelled positioned =>
      exact first.ofNat_ne_zero tape

end Ruling

end Attributes

namespace Agent

/-- **The position marks the disk, and the tape nearly does.** Take any location that an agent
comes back with. Its position is the disk's just where its tier is the disk. Its tape is the disk's
there too, but also where the answer of the archive puts the file on a tape of that name; and there
the file is not on disk. -/
theorem disk_marks {a : Agent} {file : String} {s : Archive} {l : Location}
    (located : (a.locate file s).ending = .ok (.ok l)) :
    (l.position = Location.diskPosition ↔ l.tier = 0) ∧
      ∃ x, (Archive.query file s).ending = .ok (.ok x) ∧
        (l.tape = Location.diskLabel ↔ l.tier = 0 ∨ x.NamesDisk) ∧
        ¬ (l.tier = 0 ∧ x.NamesDisk) := by
  obtain ⟨x, hx, hverdict⟩ := verdict_of_located located
  have hreply : (Archive.query file s).ending = .ok (.ok x) := by
    rw [Archive.ending_query, hx]
  have hruling : x.Ruling (.ok (.ok l)) := by
    rw [← hverdict]
    exact Scan.ruling_verdict x
  refine ⟨hruling.position_eq_iff, x, hreply, hruling.tape_eq_iff, ?_⟩
  rintro ⟨hzero, hnames⟩
  exact hruling.tier_ne_zero_of_namesDisk hnames hzero

/-- A file that the disk cache lost and that lies on one tape, with this label. -/
def purgedTo (label : String) : Attributes := .file [.vacant .diskLevel, .onTape 1 label 10 3]

/-- Where the tape has a name of its own, neither the position nor the tape is the disk's. -/
theorem purgedTo_marks :
    let a : Agent := ⟨some ⟨.unix, "p", "/k"⟩⟩
    let s : Archive := ({} : Archive).enter "/t" (purgedTo "A")
    let l : Location := ⟨1, "A", 10, 3⟩
    (a.locate "/t" s).ending = .ok (.ok l) ∧ l.position ≠ Location.diskPosition ∧
      l.tape ≠ Location.diskLabel ∧ ¬ (purgedTo "A").NamesDisk := by
  intro a s l
  have located : (a.locate "/t" s).ending = .ok (.ok l) := rfl
  have htier : l.tier ≠ 0 := by decide
  have htape : l.tape ≠ Location.diskLabel := by decide
  obtain ⟨hposition, x, hx, hmarks, -⟩ := disk_marks located
  obtain rfl : purgedTo "A" = x := Except.ok.inj (Except.ok.inj hx)
  exact ⟨located, mt hposition.1 htier, htape, fun hnames => htape (hmarks.2 (.inr hnames))⟩

/-- Where it is named like the disk, the tape says that the file is on disk, and it is not. -/
theorem purgedTo_mistaken :
    let a : Agent := ⟨some ⟨.unix, "p", "/k"⟩⟩
    let s : Archive := ({} : Archive).enter "/t" (purgedTo "DISK")
    ∃ l, (a.locate "/t" s).ending = .ok (.ok l) ∧ ¬ (l.tape = Location.diskLabel ↔ l.tier = 0) := by
  refine ⟨⟨1, "DISK", 10, 3⟩, rfl, ?_⟩
  decide

end Agent

end TapeRecall
