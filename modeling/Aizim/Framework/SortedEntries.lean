import Mathlib.Order.Lattice
import Mathlib.Tactic.Lemma

/-!
# Sorted entries and keyed tables

A finite map kept as the list of its entries in strictly increasing key order.  Two shapes of
data in this development are such maps: the object that a canonical serializer writes, and a
table with a primary key that its readers always ask for in key order.

`getEntry` reads a list of entries at its first match, so it is meaningful on any list of entries;
`insertEntry` inserts or replaces in key order.  `getEntry_insertEntry` holds on every list, and
on sorted lists `SortedEntries.ext` says that the entries are determined by what they read.
`Table` carries the order as a field, so an unsorted table cannot be built.
-/

namespace Aizim

universe u v

variable {κ : Type u} {β : Type v} [LinearOrder κ]

/-! ## Reading and inserting -/

/-- The value of the first entry with the key `k`. -/
def getEntry (k : κ) : List (κ × β) → Option β
  | [] => none
  | (k', v) :: es => if k = k' then some v else getEntry k es

/-- Insert the entry `(k, v)` before the first larger key, replacing an entry of the same key. -/
def insertEntry (k : κ) (v : β) : List (κ × β) → List (κ × β)
  | [] => [(k, v)]
  | (k', v') :: es =>
    if k < k' then (k, v) :: (k', v') :: es
    else if k = k' then (k, v) :: es
    else (k', v') :: insertEntry k v es

@[simp] lemma getEntry_nil (k : κ) : getEntry k ([] : List (κ × β)) = none := rfl

@[simp] lemma getEntry_cons (k k' : κ) (v : β) (es : List (κ × β)) :
    getEntry k ((k', v) :: es) = if k = k' then some v else getEntry k es := rfl

/-- Reading after an insertion: the inserted key reads the new value, every other key is as
before. -/
@[simp] lemma getEntry_insertEntry (k k' : κ) (v : β) (es : List (κ × β)) :
    getEntry k' (insertEntry k v es) = if k' = k then some v else getEntry k' es := by
  induction es with
  | nil => simp [insertEntry]
  | cons e es ih =>
    obtain ⟨k₀, v₀⟩ := e
    unfold insertEntry
    split
    · simp
    · split
      · rename_i hk
        subst hk
        by_cases h : k' = k <;> simp [h]
      · rename_i hne
        by_cases h : k' = k₀
        · have hk : k' ≠ k := fun hk => hne (hk ▸ h)
          simp [h, Ne.symm hne]
        · simp [h, ih]

lemma mem_of_getEntry {k : κ} {v : β} {es : List (κ × β)} (h : getEntry k es = some v) :
    (k, v) ∈ es := by
  induction es with
  | nil => simp at h
  | cons e es ih =>
    obtain ⟨k₀, v₀⟩ := e
    rw [getEntry_cons] at h
    split at h
    · rename_i hk
      simp_all
    · exact List.mem_cons_of_mem _ (ih h)

lemma getEntry_isSome_of_mem {k : κ} {v : β} {es : List (κ × β)} (h : (k, v) ∈ es) :
    (getEntry k es).isSome := by
  induction es with
  | nil => simp at h
  | cons e es ih =>
    obtain ⟨k₀, v₀⟩ := e
    rw [getEntry_cons]
    split
    · rfl
    · rename_i hne
      rcases List.mem_cons.1 h with h | h
      · exact absurd (congrArg Prod.fst h) hne
      · exact ih h

lemma getEntry_eq_none_iff {k : κ} {es : List (κ × β)} :
    getEntry k es = none ↔ k ∉ es.map Prod.fst := by
  induction es with
  | nil => simp
  | cons e es ih =>
    obtain ⟨k₀, v₀⟩ := e
    by_cases h : k = k₀ <;> simp [h, ih]

lemma mem_insertEntry {k : κ} {v : β} {e : κ × β} {es : List (κ × β)}
    (h : e ∈ insertEntry k v es) : e = (k, v) ∨ e ∈ es := by
  induction es with
  | nil => simpa [insertEntry] using h
  | cons e₀ es ih =>
    obtain ⟨k₀, v₀⟩ := e₀
    unfold insertEntry at h
    split at h
    · simpa using h
    · split at h
      · rcases List.mem_cons.1 h with h | h
        · exact Or.inl h
        · exact Or.inr (List.mem_cons_of_mem _ h)
      · rcases List.mem_cons.1 h with h | h
        · exact Or.inr (h ▸ List.mem_cons_self)
        · exact (ih h).imp_right (List.mem_cons_of_mem _)

/-! ## Sorted lists of entries -/

/-- The keys are strictly increasing. -/
def SortedEntries (es : List (κ × β)) : Prop :=
  es.Pairwise fun a b => a.1 < b.1

lemma sortedEntries_nil : SortedEntries ([] : List (κ × β)) := List.Pairwise.nil

lemma SortedEntries.insertEntry {es : List (κ × β)} (hes : SortedEntries es) (k : κ) (v : β) :
    SortedEntries (insertEntry k v es) := by
  induction es with
  | nil => simp [SortedEntries, Aizim.insertEntry]
  | cons e es ih =>
    obtain ⟨k₀, v₀⟩ := e
    obtain ⟨hhead, htail⟩ := List.pairwise_cons.1 hes
    unfold Aizim.insertEntry
    split
    · rename_i hlt
      refine List.pairwise_cons.2 ⟨fun e he => ?_, hes⟩
      rcases List.mem_cons.1 he with rfl | he
      · exact hlt
      · exact hlt.trans (hhead e he)
    · rename_i hnlt
      split
      · rename_i hk
        subst hk
        exact List.pairwise_cons.2 ⟨hhead, htail⟩
      · rename_i hne
        refine List.pairwise_cons.2 ⟨fun e he => ?_, ih htail⟩
        rcases mem_insertEntry he with rfl | he
        · exact lt_of_le_of_ne (not_lt.1 hnlt) (Ne.symm hne)
        · exact hhead e he

lemma SortedEntries.filter {es : List (κ × β)} (hes : SortedEntries es) (p : κ × β → Bool) :
    SortedEntries (es.filter p) :=
  List.Pairwise.filter p hes

lemma SortedEntries.getEntry_of_mem {es : List (κ × β)} (hes : SortedEntries es) {k : κ} {v : β}
    (h : (k, v) ∈ es) : getEntry k es = some v := by
  induction es with
  | nil => simp at h
  | cons e es ih =>
    obtain ⟨k₀, v₀⟩ := e
    obtain ⟨hhead, htail⟩ := List.pairwise_cons.1 hes
    rcases List.mem_cons.1 h with h | h
    · cases h
      simp
    · have hne : k ≠ k₀ := (hhead (k, v) h).ne'
      simp [hne, ih htail h]

lemma SortedEntries.mem_iff {es : List (κ × β)} (hes : SortedEntries es) {k : κ} {v : β} :
    (k, v) ∈ es ↔ getEntry k es = some v :=
  ⟨hes.getEntry_of_mem, mem_of_getEntry⟩

/-- Sorted entries are determined by what they read. -/
lemma SortedEntries.ext {es fs : List (κ × β)} (hes : SortedEntries es) (hfs : SortedEntries fs)
    (h : ∀ k, getEntry k es = getEntry k fs) : es = fs := by
  induction es generalizing fs with
  | nil =>
    cases fs with
    | nil => rfl
    | cons f fs =>
      have := h f.1
      simp [getEntry] at this
  | cons e es ih =>
    cases fs with
    | nil =>
      have := h e.1
      simp [getEntry] at this
    | cons f fs =>
      obtain ⟨k, v⟩ := e
      obtain ⟨l, w⟩ := f
      obtain ⟨hk, hes'⟩ := List.pairwise_cons.1 hes
      obtain ⟨hl, hfs'⟩ := List.pairwise_cons.1 hfs
      -- the least keys agree, because each one is read on the other side
      have hkl : k = l := by
        by_contra hne
        have h₁ : getEntry k fs = some v := by simpa [hne] using (h k).symm
        have h₂ : getEntry l es = some w := by simpa [Ne.symm hne] using h l
        exact lt_asymm (hl _ (mem_of_getEntry h₁)) (hk _ (mem_of_getEntry h₂))
      subst hkl
      have hvw : v = w := by simpa using h k
      subst hvw
      refine congrArg _ (ih hes' hfs' fun k' => ?_)
      by_cases hk' : k' = k
      · subst hk'
        have h₁ : getEntry k' es = none :=
          getEntry_eq_none_iff.2 fun hmem => by
            obtain ⟨e, he, rfl⟩ := List.mem_map.1 hmem
            exact lt_irrefl _ (hk e he)
        have h₂ : getEntry k' fs = none :=
          getEntry_eq_none_iff.2 fun hmem => by
            obtain ⟨e, he, rfl⟩ := List.mem_map.1 hmem
            exact lt_irrefl _ (hl e he)
        rw [h₁, h₂]
      · simpa [hk'] using h k'

/-! ## Tables with a primary key -/

/-- A table with a primary key, as the list of its rows in key order. -/
structure Table (κ : Type u) (β : Type v) [LinearOrder κ] where
  entries : List (κ × β)
  sorted : SortedEntries entries

namespace Table

instance [DecidableEq β] : DecidableEq (Table κ β) := fun s t =>
  decidable_of_iff (s.entries = t.entries) ⟨fun h => by cases s; cases t; simp_all, fun h => h ▸ rfl⟩

/-- The table without rows. -/
def empty : Table κ β := ⟨[], sortedEntries_nil⟩

/-- The row at a key. -/
def get? (t : Table κ β) (k : κ) : Option β := getEntry k t.entries

/-- Insert the row at a key, or replace it there. -/
def upsert (t : Table κ β) (k : κ) (v : β) : Table κ β :=
  ⟨insertEntry k v t.entries, t.sorted.insertEntry k v⟩

@[simp] lemma get?_empty (k : κ) : (empty : Table κ β).get? k = none := rfl

@[simp] lemma get?_upsert (t : Table κ β) (k k' : κ) (v : β) :
    (t.upsert k v).get? k' = if k' = k then some v else t.get? k' :=
  getEntry_insertEntry k k' v t.entries

lemma mem_entries_iff (t : Table κ β) {k : κ} {v : β} :
    (k, v) ∈ t.entries ↔ t.get? k = some v :=
  t.sorted.mem_iff

@[ext] lemma ext {s t : Table κ β} (h : ∀ k, s.get? k = t.get? k) : s = t := by
  have : s.entries = t.entries := s.sorted.ext t.sorted h
  cases s; cases t; simp_all

end Table

end Aizim
