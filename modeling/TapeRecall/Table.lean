/-!
# Tables

A finite map as the list of its pairs, in which each key occurs once. The size of a table is
therefore the number of its keys, and a table is changed by one `put` or one `erase` at a time.
-/

set_option autoImplicit false

namespace TapeRecall

/-- A finite map from `κ` to `α`. -/
structure Table (κ α : Type) where
  entries : List (κ × α) := []
  /-- No key has two entries. -/
  distinct : (entries.map Prod.fst).Nodup := by exact List.Pairwise.nil

namespace Table

variable {κ α : Type}

/-- The table without entries. -/
def empty : Table κ α := {}

/-- How many keys the table has. -/
def size (t : Table κ α) : Nat := t.entries.length

/-- The keys of the table. -/
def keys (t : Table κ α) : List κ := t.entries.map Prod.fst

@[ext] theorem ext {t u : Table κ α} (h : t.entries = u.entries) : t = u := by
  cases t; cases u; cases h; rfl

variable [DecidableEq κ]

/-- What the table has under a key. -/
def get? (t : Table κ α) (k : κ) : Option α :=
  (t.entries.find? fun e => e.1 = k).map Prod.snd

/-- The table without a key. -/
def erase (t : Table κ α) (k : κ) : Table κ α where
  entries := t.entries.filter fun e => e.1 ≠ k
  distinct := t.distinct.sublist (List.Sublist.map _ List.filter_sublist)

/-- The table with one more entry, which replaces what the key had before. -/
def put (t : Table κ α) (k : κ) (a : α) : Table κ α where
  entries := (k, a) :: (t.erase k).entries
  distinct := by
    refine List.nodup_cons.2 ⟨?_, (t.erase k).distinct⟩
    simp [erase]

/-- A table from a list of pairs; of two pairs with one key the later one stands. -/
def ofList (l : List (κ × α)) : Table κ α :=
  l.foldl (fun t e => t.put e.1 e.2) empty

@[simp] theorem get?_put_self (t : Table κ α) (k : κ) (a : α) : (t.put k a).get? k = some a := by
  simp [get?, put]

@[simp] theorem get?_erase_self (t : Table κ α) (k : κ) : (t.erase k).get? k = none := by
  simp [get?, erase]

theorem get?_erase_of_ne (t : Table κ α) {k l : κ} (h : l ≠ k) :
    (t.erase k).get? l = t.get? l := by
  simp only [get?, erase, List.find?_filter]
  congr 2
  funext e
  by_cases he : e.1 = l <;> simp [he, h]

theorem get?_put_of_ne (t : Table κ α) {k l : κ} (h : l ≠ k) (a : α) :
    (t.put k a).get? l = t.get? l := by
  have hk : ¬ k = l := fun e => h e.symm
  rw [← get?_erase_of_ne t h]
  simp [get?, put, hk]

/-! ## Keys -/

omit [DecidableEq κ] in
@[simp] theorem length_keys (t : Table κ α) : t.keys.length = t.size := List.length_map _

theorem keys_erase (t : Table κ α) (k : κ) : (t.erase k).keys = t.keys.erase k := by
  have hfilter : t.keys.erase k = t.keys.filter fun l => l != k := t.distinct.erase_eq_filter k
  rw [hfilter, keys, keys, List.filter_map]
  congr 1
  refine List.filter_congr fun e _ => ?_
  by_cases h : e.1 = k <;> simp [bne, h]

theorem erase_of_not_mem (t : Table κ α) {k : κ} (h : k ∉ t.keys) : t.erase k = t := by
  ext1
  refine List.filter_eq_self.2 fun e he => ?_
  have hne : e.1 ≠ k := fun hk => h (hk ▸ List.mem_map_of_mem he)
  simpa using hne

theorem not_mem_keys_of_get?_eq_none {t : Table κ α} {k : κ} (h : t.get? k = none) :
    k ∉ t.keys := by
  intro hmem
  obtain ⟨e, he, hk⟩ := List.mem_map.1 hmem
  rw [get?, Option.map_eq_none_iff, List.find?_eq_none] at h
  exact h e he (by simpa using hk)

theorem get?_eq_none_of_not_mem_keys {t : Table κ α} {k : κ} (h : k ∉ t.keys) :
    t.get? k = none := by
  rw [get?, Option.map_eq_none_iff, List.find?_eq_none]
  intro e he hk
  exact h (List.mem_map.2 ⟨e, he, by simpa using hk⟩)

theorem mem_keys_iff (t : Table κ α) (k : κ) : k ∈ t.keys ↔ (t.get? k).isSome = true := by
  constructor
  · intro hmem
    by_cases hk : t.get? k = none
    · exact absurd hmem (not_mem_keys_of_get?_eq_none hk)
    · exact Option.isSome_iff_ne_none.2 hk
  · intro hsome
    by_cases hk : k ∈ t.keys
    · exact hk
    · rw [get?_eq_none_of_not_mem_keys hk] at hsome
      cases hsome

@[simp] theorem erase_put_self (t : Table κ α) (k : κ) (a : α) :
    (t.put k a).erase k = t.erase k := by
  ext1
  simp [erase, put]

@[simp] theorem put_put_self (t : Table κ α) (k : κ) (a b : α) :
    (t.put k a).put k b = t.put k b := by
  have hput : ∀ u : Table κ α, (u.put k b).entries = (k, b) :: (u.erase k).entries := fun _ => rfl
  ext1
  rw [hput, hput, erase_put_self]

theorem keys_put_of_not_mem (t : Table κ α) {k : κ} (h : k ∉ t.keys) (a : α) :
    (t.put k a).keys = k :: t.keys := by
  have hput : (t.put k a).keys = k :: (t.erase k).keys := rfl
  rw [hput, erase_of_not_mem t h]

end Table

end TapeRecall
