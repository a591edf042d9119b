import Mathlib.Data.List.GetD
import TapeRecall.Proofs.Outcome.Scan

/-!
# The first tier with data decides

What a scan makes of the tiers of an object, said without the walk through them: nothing counts but
whether the fastest tier has any flag, which of the five levels is the first with the data bit, and
on a tape level the first volume there. `Attributes.Ruling` is that rule, one constructor for each
way in which it can come out, and the main statement says that a scan ends in a certain way exactly
where the rule says so.

The walk itself was reduced to `Scan.verdict` before. What is left is to read the data bit off the
flags and the first level off a search through a shortened list (`Attributes.fastest?_eq_some_iff`),
and to open the one tier that decides (`Scan.place_eq`).
-/

set_option autoImplicit false

namespace TapeRecall

/-- The data bit is the lowest one, so that it is set in the odd numbers. -/
theorem Flags.holdsData_iff (f : Flags) : f.holdsData = true ↔ f.bits.toNat % 2 = 1 := by
  have hbit : (f.bits &&& 1).toNat = f.bits.toNat % 2 := by
    rw [UInt32.toNat_and]
    exact Nat.and_one_is_mod _
  have hone : (1 : UInt32).toNat = 1 := rfl
  unfold holdsData contains dataExists
  rw [beq_iff_eq, ← UInt32.toNat_inj, hbit, hone]

namespace Attributes

/-! ## The rule -/

/-- The fastest tier has no flag at all. -/
def IsBare (x : Attributes) : Prop := (x.tier 0).flags.bits = 0

/-- The data bit of a level is set. -/
def HasData (x : Attributes) (level : Nat) : Prop := (x.tier level).flags.bits.toNat % 2 = 1

/-- The first of the five levels with the data bit. -/
structure IsFirst (x : Attributes) (level : Nat) : Prop where
  reported : level < 5
  data : x.HasData level
  least : ∀ i < level, ¬ x.HasData i

/-- The rule: how a scan of an object ends. -/
inductive Ruling (x : Attributes) : Except Abort (Except ScanFault Location) → Prop
  /-- A plain file without a segment on the fastest tier. -/
  | noSegments (bare : x.IsBare) (plain : x.kind = .file) : Ruling x (.ok (.error .noSegments))
  /-- Anything else without a segment on the fastest tier. -/
  | isDirectory (bare : x.IsBare) (other : x.kind ≠ .file) : Ruling x (.ok (.error .isDirectory))
  /-- No level that counts has data. -/
  | emptyFile (segments : ¬ x.IsBare) (none : ∀ i < 5, ¬ x.HasData i) :
      Ruling x (.ok (.error .emptyFile))
  /-- The disk has the file, and then nobody looks at a volume. -/
  | onDisk (segments : ¬ x.IsBare) (first : x.IsFirst 0) :
      Ruling x (.ok (.ok ⟨0, "DISK", (x.tier 0).bytes, -1⟩))
  /-- A tape level that lists no volume. -/
  | noVolume {level : Nat} (segments : ¬ x.IsBare) (first : x.IsFirst level) (tape : 0 < level)
      (none : (x.tier level).volumes.head? = none) :
      Ruling x (.ok (.error (.missingVolume (.ofNat level))))
  /-- A tape level whose first volume cannot be read. -/
  | unreadable {level : Nat} {v : Volume} (segments : ¬ x.IsBare) (first : x.IsFirst level)
      (tape : 0 < level) (volume : (x.tier level).volumes.head? = some v)
      (locked : v.unreadable = true) : Ruling x (.error (.unreadable v.id))
  /-- A tape level whose first volume has no label, or no position. -/
  | unusable {level : Nat} {v : Volume} (segments : ¬ x.IsBare) (first : x.IsFirst level)
      (tape : 0 < level) (volume : (x.tier level).volumes.head? = some v)
      (readable : v.unreadable = false) (lacking : v.label = none ∨ v.position < 0) :
      Ruling x (.ok (.error (.missingVolume (.ofNat level))))
  /-- A tape level with a volume that can be mounted. -/
  | onTape {level : Nat} {v : Volume} {label : String} (segments : ¬ x.IsBare)
      (first : x.IsFirst level) (tape : 0 < level)
      (volume : (x.tier level).volumes.head? = some v) (readable : v.unreadable = false)
      (labelled : v.label = some label) (positioned : ¬ v.position < 0) :
      Ruling x (.ok (.ok ⟨.ofNat level, label, (x.tier level).bytes, v.position⟩))

/-- Two objects agree in all that the rule asks about. Of a bare object that is its kind; of any
other it is the first level with data, the bytes there, and on tape the first volume there. -/
structure SameEvidence (x y : Attributes) : Prop where
  bare : x.IsBare ↔ y.IsBare
  kind : x.IsBare → (x.kind = .file ↔ y.kind = .file)
  first : ¬ x.IsBare → ∀ level, x.IsFirst level ↔ y.IsFirst level
  bytes : ¬ x.IsBare → ∀ level, x.IsFirst level → (y.tier level).bytes = (x.tier level).bytes
  volume : ¬ x.IsBare → ∀ level, 0 < level → x.IsFirst level →
    (y.tier level).volumes.head? = (x.tier level).volumes.head?

/-! ## The first level with data -/

theorem isEmpty_tier_zero_iff (x : Attributes) : (x.tier 0).flags.isEmpty = true ↔ x.IsBare := by
  unfold Flags.isEmpty IsBare
  exact beq_iff_eq

theorem isFile_kind_iff (x : Attributes) : x.kind.isFile = true ↔ x.kind = .file := by
  cases x.kind <;> simp [ObjectKind.isFile]

/-- A level past the end of the list is absent and holds nothing. -/
theorem HasData.lt_length {x : Attributes} {level : Nat} (h : x.HasData level) :
    level < x.tiers.length := by
  rcases Nat.lt_or_ge level x.tiers.length with hlt | hge
  · exact hlt
  · have habsent : x.tier level = .absent := by
      rw [tier, List.getD_eq_default _ _ hge]
    rw [HasData, habsent] at h
    cases h

/-- A search goes through every level with data, but not past the fifth. -/
theorem HasData.lt_length_take {x : Attributes} {level : Nat} (h : x.HasData level)
    (reported : level < 5) : level < (x.tiers.take Tier.depth).length := by
  have hdepth : Tier.depth = 5 := rfl
  have hlen := h.lt_length
  rw [List.length_take]
  omega

/-- The tiers that a search goes through are the levels. -/
theorem holdsData_take_iff (x : Attributes) {i : Nat} (h : i < (x.tiers.take Tier.depth).length) :
    (x.tiers.take Tier.depth)[i].flags.holdsData = true ↔ x.HasData i := by
  have hlen : i < x.tiers.length := by
    rw [List.length_take] at h
    omega
  have htier : x.tier i = x.tiers[i] := by
    rw [tier, List.getD_eq_getElem _ _ hlen]
  rw [Flags.holdsData_iff, List.getElem_take, HasData, htier]

theorem fastest?_eq_some_iff (x : Attributes) (level : Nat) :
    x.fastest? = some level ↔ x.IsFirst level := by
  have hdepth : Tier.depth = 5 := rfl
  unfold fastest?
  rw [List.findIdx?_eq_some_iff_getElem]
  constructor
  · rintro ⟨hlt, hdata, hleast⟩
    have hreported : level < 5 := by
      rw [List.length_take] at hlt
      omega
    refine ⟨hreported, (x.holdsData_take_iff hlt).1 hdata, ?_⟩
    intro i hi hd
    have hno := hleast i hi
    rw [x.holdsData_take_iff (by omega)] at hno
    exact hno hd
  · rintro ⟨hreported, hdata, hleast⟩
    have hlt := hdata.lt_length_take hreported
    refine ⟨hlt, (x.holdsData_take_iff hlt).2 hdata, ?_⟩
    intro i hi
    rw [x.holdsData_take_iff (by omega)]
    exact hleast i hi

theorem fastest?_eq_none_iff (x : Attributes) :
    x.fastest? = none ↔ ∀ i < 5, ¬ x.HasData i := by
  constructor
  · intro hnone i hi hdata
    have hlt := hdata.lt_length_take hi
    unfold fastest? at hnone
    rw [List.findIdx?_eq_none_iff] at hnone
    have hno := hnone _ (List.getElem_mem hlt)
    rw [(x.holdsData_take_iff hlt).2 hdata] at hno
    cases hno
  · intro hnone
    rcases h : x.fastest? with _ | level
    · rfl
    · have hfirst := (x.fastest?_eq_some_iff level).1 h
      exact absurd hfirst.data (hnone level hfirst.reported)

/-! ## The rule is about evidence only -/

theorem Ruling.congr {x y : Attributes} {e : Except Abort (Except ScanFault Location)}
    (h : x.Ruling e) (same : x.SameEvidence y) : y.Ruling e := by
  cases h with
  | noSegments bare plain =>
      exact .noSegments (same.bare.1 bare) ((same.kind bare).1 plain)
  | isDirectory bare other =>
      exact .isDirectory (same.bare.1 bare) (fun plain => other ((same.kind bare).2 plain))
  | emptyFile segments none =>
      refine .emptyFile (fun bare => segments (same.bare.2 bare)) ?_
      -- a level of the other object with data would give it a first one, and this object too
      refine (y.fastest?_eq_none_iff).1 ?_
      rcases hy : y.fastest? with _ | level
      · rfl
      · have hfirst := (same.first segments level).2 ((y.fastest?_eq_some_iff level).1 hy)
        exact absurd hfirst.data (none level hfirst.reported)
  | onDisk segments first =>
      rw [← same.bytes segments 0 first]
      exact .onDisk (fun bare => segments (same.bare.2 bare)) ((same.first segments 0).1 first)
  | @noVolume level segments first tape none =>
      rw [← same.volume segments level tape first] at none
      exact .noVolume (fun bare => segments (same.bare.2 bare))
        ((same.first segments level).1 first) tape none
  | @unreadable level v segments first tape volume locked =>
      rw [← same.volume segments level tape first] at volume
      exact .unreadable (fun bare => segments (same.bare.2 bare))
        ((same.first segments level).1 first) tape volume locked
  | @unusable level v segments first tape volume readable lacking =>
      rw [← same.volume segments level tape first] at volume
      exact .unusable (fun bare => segments (same.bare.2 bare))
        ((same.first segments level).1 first) tape volume readable lacking
  | @onTape level v label segments first tape volume readable labelled positioned =>
      rw [← same.volume segments level tape first] at volume
      rw [← same.bytes segments level first]
      exact .onTape (fun bare => segments (same.bare.2 bare))
        ((same.first segments level).1 first) tape volume readable labelled positioned

end Attributes

namespace Scan

/-! ## The tier that decides -/

/-- On tape the first volume decides: whether there is one, whether it can be read, and what it
says of itself. -/
theorem place_eq {level : Nat} (tape : 0 < level) (tier : Tier) :
    place level tier = match tier.volumes.head? with
      | none => .ok (.error (.missingVolume (.ofNat level)))
      | some v =>
        if v.unreadable then .error (.unreadable v.id)
        else match v.label with
          | none => .ok (.error (.missingVolume (.ofNat level)))
          | some label =>
            if v.position < 0 then .ok (.error (.missingVolume (.ofNat level)))
            else .ok (.ok ⟨.ofNat level, label, tier.bytes, v.position⟩) := by
  obtain ⟨n, rfl⟩ : ∃ n, level = n + 1 := ⟨level - 1, by omega⟩
  obtain ⟨flags, bytes, volumes⟩ := tier
  rcases volumes with _ | ⟨v, rest⟩
  · rfl
  unfold place Volume.readLabel
  by_cases hlocked : v.unreadable = true
  · simp [hlocked, bind, Except.bind]
  · rcases hlabel : v.label with _ | label
    · simp [hlocked, hlabel, bind, Except.bind, pure, Except.pure]
    · by_cases hneg : v.position < 0 <;>
        simp [hlocked, hlabel, hneg, bind, Except.bind, pure, Except.pure]

/-- The tier of the first level with data decides by the rule. -/
theorem ruling_place {x : Attributes} {level : Nat} (segments : ¬ x.IsBare)
    (first : x.IsFirst level) : x.Ruling (place level (x.tier level)) := by
  rcases Nat.eq_zero_or_pos level with rfl | tape
  · exact .onDisk segments first
  rw [place_eq tape]
  rcases hvolume : (x.tier level).volumes.head? with _ | v
  · exact .noVolume segments first tape hvolume
  by_cases hlocked : v.unreadable = true
  · simp only [hlocked, if_true]
    exact .unreadable segments first tape hvolume hlocked
  have hreadable : v.unreadable = false := by simpa using hlocked
  rcases hlabel : v.label with _ | label
  · simp only [hreadable, hlabel, Bool.false_eq_true, if_false]
    exact .unusable segments first tape hvolume hreadable (.inl hlabel)
  · by_cases hneg : v.position < 0
    · simp only [hreadable, hlabel, hneg, Bool.false_eq_true, if_false, if_true]
      exact .unusable segments first tape hvolume hreadable (.inr hneg)
    · simp only [hreadable, hlabel, hneg, Bool.false_eq_true, if_false]
      exact .onTape segments first tape hvolume hreadable hlabel hneg

/-- Some way in which the rule comes out is the one in which the scan does. -/
theorem ruling_verdict (x : Attributes) : x.Ruling (verdict x) := by
  unfold verdict
  by_cases hbare : x.IsBare
  · rw [if_pos (x.isEmpty_tier_zero_iff.2 hbare)]
    by_cases hplain : x.kind = .file
    · rw [if_pos (x.isFile_kind_iff.2 hplain)]
      exact .noSegments hbare hplain
    · rw [if_neg (mt x.isFile_kind_iff.1 hplain)]
      exact .isDirectory hbare hplain
  · rw [if_neg (mt x.isEmpty_tier_zero_iff.1 hbare)]
    rcases hf : x.fastest? with _ | level
    · exact .emptyFile hbare (x.fastest?_eq_none_iff.1 hf)
    · exact ruling_place hbare ((x.fastest?_eq_some_iff level).1 hf)

/-- And the rule comes out in no other way. -/
theorem verdict_eq_of_ruling {x : Attributes} {e : Except Abort (Except ScanFault Location)}
    (h : x.Ruling e) : verdict x = e := by
  have hplaced : ∀ {level : Nat}, ¬ x.IsBare → x.IsFirst level →
      verdict x = place level (x.tier level) := by
    intro level segments first
    rw [verdict, if_neg (mt x.isEmpty_tier_zero_iff.1 segments),
      (x.fastest?_eq_some_iff level).2 first]
  cases h with
  | noSegments bare plain =>
      rw [verdict, if_pos (x.isEmpty_tier_zero_iff.2 bare), if_pos (x.isFile_kind_iff.2 plain)]
  | isDirectory bare other =>
      rw [verdict, if_pos (x.isEmpty_tier_zero_iff.2 bare), if_neg (mt x.isFile_kind_iff.1 other)]
  | emptyFile segments none =>
      rw [verdict, if_neg (mt x.isEmpty_tier_zero_iff.1 segments), x.fastest?_eq_none_iff.2 none]
  | onDisk segments first =>
      rw [hplaced segments first]
      rfl
  | noVolume segments first tape none =>
      rw [hplaced segments first, place_eq tape, none]
  | unreadable segments first tape volume locked =>
      rw [hplaced segments first, place_eq tape, volume]
      simp [locked]
  | unusable segments first tape volume readable lacking =>
      rw [hplaced segments first, place_eq tape, volume]
      rcases lacking with hlabel | hneg
      · simp [readable, hlabel]
      · simp only [readable, hneg, Bool.false_eq_true, if_false, if_true]
        split <;> rfl
  | onTape segments first tape volume readable labelled positioned =>
      rw [hplaced segments first, place_eq tape, volume]
      simp [readable, labelled, positioned]

/-- **The first match decides.** A scan of whatever an archive may know of an object ends in a
certain way exactly where the rule comes out so; there is no other fault and no other abort. And it
depends on nothing else: two objects that agree in what the rule asks about end alike, whatever
they hold besides and in whichever archives they are. -/
theorem reduce_by_first_match (x : Attributes) (a : Archive) :
    (∀ e, (reduce x a).ending = e ↔ x.Ruling e) ∧
      ∀ y b, x.SameEvidence y → (reduce y b).ending = (reduce x a).ending := by
  have hending : ∀ z b, (reduce z b).ending = verdict z := by
    intro z b
    rw [reduce_apply]
  refine ⟨?_, ?_⟩
  · intro e
    rw [hending]
    constructor
    · rintro rfl
      exact ruling_verdict x
    · exact verdict_eq_of_ruling
  · intro y b same
    rw [hending, hending]
    exact verdict_eq_of_ruling ((ruling_verdict x).congr same)

end Scan

end TapeRecall
