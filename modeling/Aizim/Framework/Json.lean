import Mathlib.Data.String.Basic
import Aizim.Framework.SortedEntries

/-!
# JSON values and their canonical form

`JsonValue` is the value that `json.loads` returns: an object keeps its entries in the order they
were inserted, and is read at the first entry of a key.  Numbers with a fraction or an exponent
are kept as the text they print as, so every value is finite.

`canonical` sorts the entries of every object by key and drops shadowed ones.  It is what
printing with sorted keys and reading back does to a value, which is why a text column is
represented here by a `JsonText`, a value equal to its own canonical form: two texts are equal
exactly when the values are.  The lemmas are `getEntry_canonicalEntries` (canonicalisation
commutes with reading), `canonical_canonical` (it is idempotent), and the two congruence facts
`canonicalEntries_update_right` and `canonicalEntries_cons_congr`, by which a value that was
stored and read back may replace the original inside a larger object.
-/

namespace Aizim

/-- A JSON value. -/
inductive JsonValue
  | null
  | bool (value : Bool)
  | int (value : Int)
  | float (text : String)
  | str (value : String)
  | list (items : List JsonValue)
  | dict (entries : List (String × JsonValue))

/-- The entries of a JSON object, in insertion order. -/
abbrev JsonObject := List (String × JsonValue)

namespace JsonValue

/-! ## Equality -/

mutual

/-- Structural equality. -/
def beq : JsonValue → JsonValue → Bool
  | null, null => true
  | bool a, bool b => a == b
  | int a, int b => a == b
  | float a, float b => a == b
  | str a, str b => a == b
  | list xs, list ys => beqList xs ys
  | dict xs, dict ys => beqEntries xs ys
  | _, _ => false

/-- Structural equality of arrays. -/
def beqList : List JsonValue → List JsonValue → Bool
  | [], [] => true
  | x :: xs, y :: ys => beq x y && beqList xs ys
  | _, _ => false

/-- Structural equality of entries. -/
def beqEntries : JsonObject → JsonObject → Bool
  | [], [] => true
  | (k, x) :: xs, (l, y) :: ys => k == l && beq x y && beqEntries xs ys
  | _, _ => false

end

mutual

lemma beq_iff : ∀ a b : JsonValue, beq a b = true ↔ a = b
  | null, b => by cases b <;> simp [beq]
  | bool _, b => by cases b <;> simp [beq]
  | int _, b => by cases b <;> simp [beq]
  | float _, b => by cases b <;> simp [beq]
  | str _, b => by cases b <;> simp [beq]
  | list xs, b => by cases b <;> simp [beq, beqList_iff xs]
  | dict xs, b => by cases b <;> simp [beq, beqEntries_iff xs]

lemma beqList_iff : ∀ xs ys : List JsonValue, beqList xs ys = true ↔ xs = ys
  | [], ys => by cases ys <;> simp [beqList]
  | x :: xs, ys => by cases ys <;> simp [beqList, beq_iff x, beqList_iff xs]

lemma beqEntries_iff : ∀ xs ys : JsonObject, beqEntries xs ys = true ↔ xs = ys
  | [], ys => by cases ys <;> simp [beqEntries]
  | (k, x) :: xs, ys => by
    cases ys with
    | nil => simp [beqEntries]
    | cons y ys =>
      obtain ⟨l, y⟩ := y
      simp [beqEntries, beq_iff x, beqEntries_iff xs]

end

instance : DecidableEq JsonValue := fun a b => decidable_of_iff _ (beq_iff a b)

/-! ## The canonical form -/

mutual

/-- Sort the entries of every object by key. -/
def canonical : JsonValue → JsonValue
  | list xs => list (canonicalList xs)
  | dict es => dict (canonicalEntries es)
  | null => null
  | bool b => bool b
  | int i => int i
  | float t => float t
  | str s => str s

/-- The canonical forms of the items of an array. -/
def canonicalList : List JsonValue → List JsonValue
  | [] => []
  | x :: xs => canonical x :: canonicalList xs

/-- The entries of an object sorted by key, the first entry of a key winning. -/
def canonicalEntries : JsonObject → JsonObject
  | [] => []
  | (k, v) :: es => insertEntry k (canonical v) (canonicalEntries es)

end

@[simp] lemma canonical_null : canonical null = null := rfl
@[simp] lemma canonical_bool (b : Bool) : canonical (bool b) = bool b := rfl
@[simp] lemma canonical_int (i : Int) : canonical (int i) = int i := rfl
@[simp] lemma canonical_float (t : String) : canonical (float t) = float t := rfl
@[simp] lemma canonical_str (s : String) : canonical (str s) = str s := rfl
@[simp] lemma canonical_list (xs : List JsonValue) :
    canonical (list xs) = list (xs.map canonical) := by
  rw [canonical]
  congr 1
  induction xs with
  | nil => rfl
  | cons x xs ih => simp [canonicalList, ih]
@[simp] lemma canonical_dict (es : JsonObject) :
    canonical (dict es) = dict (canonicalEntries es) := rfl

@[simp] lemma canonicalEntries_nil : canonicalEntries [] = [] := rfl

@[simp] lemma canonicalEntries_cons (k : String) (v : JsonValue) (es : JsonObject) :
    canonicalEntries ((k, v) :: es) = insertEntry k (canonical v) (canonicalEntries es) := rfl

lemma sortedEntries_canonicalEntries (es : JsonObject) : SortedEntries (canonicalEntries es) := by
  induction es with
  | nil => exact sortedEntries_nil
  | cons e es ih => exact ih.insertEntry _ _

/-- Canonicalisation commutes with reading a key. -/
@[simp] lemma getEntry_canonicalEntries (k : String) (es : JsonObject) :
    getEntry k (canonicalEntries es) = (getEntry k es).map canonical := by
  induction es with
  | nil => rfl
  | cons e es ih =>
    obtain ⟨l, v⟩ := e
    by_cases h : k = l <;> simp [h, ih]

/-- Two objects that read the same up to canonical form have the same canonical form. -/
lemma canonicalEntries_congr {es fs : JsonObject}
    (h : ∀ k, (getEntry k es).map canonical = (getEntry k fs).map canonical) :
    canonicalEntries es = canonicalEntries fs :=
  (sortedEntries_canonicalEntries es).ext (sortedEntries_canonicalEntries fs) fun k => by
    simp only [getEntry_canonicalEntries, h]

lemma getEntry_canonical_of_congr {es fs : JsonObject}
    (h : canonicalEntries es = canonicalEntries fs) (k : String) :
    (getEntry k es).map canonical = (getEntry k fs).map canonical := by
  simpa using congrArg (getEntry k) h

lemma getEntry_str_of_congr {es fs : JsonObject} (h : canonicalEntries es = canonicalEntries fs)
    {k t : String} (hk : getEntry k es = some (str t)) : getEntry k fs = some (str t) := by
  have hmap := getEntry_canonical_of_congr h k
  rw [hk] at hmap
  obtain ⟨v, hv, hcanonical⟩ := Option.map_eq_some_iff.1 hmap.symm
  cases v <;> simp_all

lemma getEntry_int_of_congr {es fs : JsonObject} (h : canonicalEntries es = canonicalEntries fs)
    {k : String} {i : Int} (hk : getEntry k es = some (int i)) : getEntry k fs = some (int i) := by
  have hmap := getEntry_canonical_of_congr h k
  rw [hk] at hmap
  obtain ⟨v, hv, hcanonical⟩ := Option.map_eq_some_iff.1 hmap.symm
  cases v <;> simp_all

lemma mem_canonicalEntries {e : String × JsonValue} {es : JsonObject}
    (h : e ∈ canonicalEntries es) : ∃ v, (e.1, v) ∈ es ∧ e.2 = canonical v := by
  induction es with
  | nil => simp at h
  | cons f es ih =>
    obtain ⟨k, v⟩ := f
    rcases mem_insertEntry h with rfl | h
    · exact ⟨v, by simp⟩
    · obtain ⟨w, hw, heq⟩ := ih h
      exact ⟨w, List.mem_cons_of_mem _ hw, heq⟩

mutual

/-- Canonicalisation is idempotent. -/
lemma canonical_canonical : ∀ v : JsonValue, canonical (canonical v) = canonical v
  | null => rfl
  | bool _ => rfl
  | int _ => rfl
  | float _ => rfl
  | str _ => rfl
  | list xs => by
    show list _ = list _
    rw [canonicalList_canonicalList xs]
  | dict es => by
    show dict _ = dict _
    rw [canonicalEntries_canonicalEntries es]

lemma canonicalList_canonicalList :
    ∀ xs : List JsonValue, canonicalList (canonicalList xs) = canonicalList xs
  | [] => rfl
  | x :: xs => by
    simp only [canonicalList, canonical_canonical x, canonicalList_canonicalList xs]

lemma canonicalEntries_canonicalEntries :
    ∀ es : JsonObject, canonicalEntries (canonicalEntries es) = canonicalEntries es
  | [] => rfl
  | (k, v) :: es => by
    have hv := canonical_canonical v
    have hes := canonicalEntries_canonicalEntries es
    refine (sortedEntries_canonicalEntries _).ext (sortedEntries_canonicalEntries _) fun l => ?_
    have hl := congrArg (getEntry l) hes
    simp only [getEntry_canonicalEntries] at hl
    by_cases h : l = k
    · subst h
      simp [hv]
    · simp [h, hl]

end

attribute [simp] canonical_canonical canonicalEntries_canonicalEntries

end JsonValue

/-! ## Objects -/

namespace JsonObject

open JsonValue

/-- The value at a key, as `dict.get` returns it. -/
abbrev get? (o : JsonObject) (k : String) : Option JsonValue := getEntry k o

/-- Assign one key: the old entry keeps its place, a new one comes last. -/
def set (k : String) (v : JsonValue) : JsonObject → JsonObject
  | [] => [(k, v)]
  | (l, w) :: es => if k = l then (l, v) :: es else (l, w) :: set k v es

/-- Assign every key of the second object, as `dict.update` does. -/
def update (o : JsonObject) : JsonObject → JsonObject
  | [] => o
  | (k, v) :: es => set k v (update o es)

/-- The keys. -/
def keys (o : JsonObject) : List String := o.map Prod.fst

@[simp] lemma getEntry_set (k l : String) (v : JsonValue) (o : JsonObject) :
    getEntry l (set k v o) = if l = k then some v else getEntry l o := by
  induction o with
  | nil => simp [set]
  | cons e o ih =>
    obtain ⟨m, w⟩ := e
    unfold set
    split
    · rename_i h
      subst h
      by_cases hl : l = k <;> simp [hl]
    · rename_i h
      by_cases hl : l = m
      · have : m ≠ k := fun hmk => h hmk.symm
        simp [hl, this]
      · simp [hl, ih]

/-- An update reads the second object first. -/
@[simp] lemma getEntry_update (l : String) (o p : JsonObject) :
    getEntry l (update o p) = (getEntry l p).or (getEntry l o) := by
  induction p with
  | nil => simp [update]
  | cons e p ih =>
    obtain ⟨k, v⟩ := e
    by_cases h : l = k <;> simp [update, h, ih]

/-- An object may be replaced by its canonical form under an update. -/
lemma canonicalEntries_update_right (o p : JsonObject) :
    canonicalEntries (update o (canonicalEntries p)) = canonicalEntries (update o p) :=
  canonicalEntries_congr fun k => by
    cases h : getEntry k p <;> simp [h]

lemma canonicalEntries_set_congr {k : String} {v w : JsonValue} {o p : JsonObject}
    (hv : canonical v = canonical w) (ho : canonicalEntries o = canonicalEntries p) :
    canonicalEntries (set k v o) = canonicalEntries (set k w p) :=
  canonicalEntries_congr fun l => by
    have hl := congrArg (getEntry l) ho
    simp only [getEntry_canonicalEntries] at hl
    by_cases h : l = k <;> simp [h, hv, hl]

lemma canonicalEntries_cons_congr {k : String} {v w : JsonValue} {o p : JsonObject}
    (hv : canonical v = canonical w) (ho : canonicalEntries o = canonicalEntries p) :
    canonicalEntries ((k, v) :: o) = canonicalEntries ((k, w) :: p) := by
  simp [hv, ho]

lemma mem_keys_iff {o : JsonObject} {k : String} : k ∈ o.keys ↔ (getEntry k o).isSome := by
  have h := @getEntry_eq_none_iff _ _ _ k o
  rw [← Option.ne_none_iff_isSome, Ne, h, not_not]
  rfl

@[simp] lemma mem_keys_canonicalEntries {o : JsonObject} {k : String} :
    k ∈ keys (canonicalEntries o) ↔ k ∈ o.keys := by
  simp [mem_keys_iff]

/-- The object has exactly these keys (`keys() == {...}`). -/
def hasKeys (o : JsonObject) (keys : List String) : Bool :=
  keys.all (fun k => (getEntry k o).isSome) && o.all fun e => keys.contains e.1

/-- Which keys an object has does not change when it is stored. -/
lemma all_keys_canonicalEntries (o : JsonObject) (p : String → Bool) :
    (canonicalEntries o).all (fun e => p e.1) = o.all (fun e => p e.1) := by
  rw [Bool.eq_iff_iff, List.all_eq_true, List.all_eq_true]
  constructor
  · rintro h ⟨k, v⟩ he
    have hk : k ∈ keys (canonicalEntries o) :=
      mem_keys_canonicalEntries.2 (List.mem_map.2 ⟨(k, v), he, rfl⟩)
    obtain ⟨e, he', rfl⟩ := List.mem_map.1 hk
    exact h e he'
  · rintro h e he
    obtain ⟨v, hv, -⟩ := mem_canonicalEntries he
    exact h (e.1, v) hv

@[simp] lemma hasKeys_canonicalEntries (o : JsonObject) (keys : List String) :
    hasKeys (canonicalEntries o) keys = hasKeys o keys := by
  simp only [hasKeys, getEntry_canonicalEntries, Option.isSome_map,
    all_keys_canonicalEntries o fun k => keys.contains k]

end JsonObject

/-! ## Canonical texts -/

/-- The text that the canonical serializer writes for a value, represented by the value that
reading the text back returns. -/
structure JsonText where
  value : JsonValue
  canonical : value.canonical = value
  deriving DecidableEq

namespace JsonText

/-- The canonical text of a value. -/
def ofValue (v : JsonValue) : JsonText := ⟨v.canonical, v.canonical_canonical⟩

/-- The canonical text of an object. -/
def ofObject (o : JsonObject) : JsonText := ofValue (.dict o)

/-- The object read back from a text, if the text is an object. -/
def object? (t : JsonText) : Option JsonObject :=
  match t.value with
  | .dict es => some es
  | _ => none

@[ext] lemma ext {s t : JsonText} (h : s.value = t.value) : s = t := by
  cases s; cases t; simp_all

@[simp] lemma value_ofObject (o : JsonObject) :
    (ofObject o).value = .dict (JsonValue.canonicalEntries o) := rfl

@[simp] lemma object?_ofObject (o : JsonObject) :
    (ofObject o).object? = some (JsonValue.canonicalEntries o) := rfl

lemma ofObject_eq_iff {o p : JsonObject} :
    ofObject o = ofObject p ↔ JsonValue.canonicalEntries o = JsonValue.canonicalEntries p := by
  constructor
  · intro h
    simpa using congrArg JsonText.value h
  · intro h
    ext
    simp [h]

@[simp] lemma ofObject_canonicalEntries (o : JsonObject) :
    ofObject (JsonValue.canonicalEntries o) = ofObject o := by
  simp [ofObject_eq_iff]

lemma canonicalEntries_of_object? {t : JsonText} {o : JsonObject} (h : t.object? = some o) :
    JsonValue.canonicalEntries o = o := by
  obtain ⟨v, hv⟩ := t
  cases v with
  | dict es =>
    have ho : es = o := by simpa [object?] using h
    subst ho
    exact JsonValue.dict.inj hv
  | _ => simp [object?] at h

end JsonText

end Aizim
