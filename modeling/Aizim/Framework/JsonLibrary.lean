import Aizim.Framework.Fallible
import Aizim.Framework.JsonLines

/-!
# The JSON library of an interpreter

How deep a value may nest and how many digits an integer may have is for the interpreter to say.  A
`JsonLibrary` is the part of it that the program calls: `accepts` says which values the serializer
prints, and `loads` and `loadsBytes` are the reader.  Only what the reader does with a printed text
is fixed; any other text it may read as any value, or refuse with one of its two exceptions.
`unlimitedJson` is the library without limits.

`Same` is the equality of values: objects are equal when they have equal values at the same keys,
in whatever order they were inserted (`same_dict_iff`).
-/

namespace Aizim

namespace JsonValue

/-! ## Equality of values -/

/-- The two values are equal; the order of the keys of an object is no part of it. -/
def Same (v w : JsonValue) : Prop := v.canonical = w.canonical

lemma same_refl (v : JsonValue) : v.Same v := rfl

lemma Same.symm {v w : JsonValue} (h : v.Same w) : w.Same v := Eq.symm h

lemma Same.trans {u v w : JsonValue} (h : u.Same v) (h' : v.Same w) : u.Same w := Eq.trans h h'

/-- A value is equal to what is stored of it. -/
lemma canonical_same (v : JsonValue) : v.canonical.Same v := v.canonical_canonical

/-- Arrays are equal item by item. -/
lemma same_list_iff {xs ys : List JsonValue} :
    (list xs).Same (list ys) ↔ List.Forall₂ Same xs ys := by
  simp only [Same, canonical_list, list.injEq]
  rw [← List.forall₂_eq_eq_eq, List.forall₂_map_left_iff, List.forall₂_map_right_iff]
  rfl

/-- Objects are equal when they have equal values at the same keys. -/
lemma same_dict_iff {es fs : JsonObject} :
    (dict es).Same (dict fs) ↔ ∀ k, Option.Rel Same (getEntry k es) (getEntry k fs) := by
  have hrel : ∀ a b : Option JsonValue, Option.Rel Same a b ↔ a.map canonical = b.map canonical := by
    intro a b
    constructor
    · rintro (⟨h⟩ | _)
      · exact congrArg some h
      · rfl
    · intro h
      cases a with
      | none =>
        cases b with
        | none => exact .none
        | some b => simp at h
      | some a =>
        cases b with
        | none => simp at h
        | some b => exact .some (Option.some.inj h)
  simp only [hrel, Same, canonical_dict, dict.injEq]
  constructor
  · intro h k
    exact getEntry_canonical_of_congr h k
  · exact canonicalEntries_congr

end JsonValue

open JsonValue

/-! ## Libraries -/

/-- The exceptions of the reader: a `ValueError`, or a `RecursionError`. -/
inductive LoadError
  | value
  | recursion
  deriving DecidableEq

/-- The JSON library of an interpreter. -/
structure JsonLibrary where
  /-- The values that the canonical serializer prints. -/
  accepts : JsonValue → Bool
  /-- `json.loads` of a text. -/
  loads : String → Except LoadError JsonValue
  /-- `json.loads` of bytes. -/
  loadsBytes : Bytes → Except LoadError JsonValue
  printable_of_accepts : ∀ v, accepts v = true → printable v = true
  loads_canonicalJson : ∀ v, accepts v = true → loads v.canonicalJson = .ok v.canonical
  loadsBytes_encode : ∀ v, accepts v = true →
    loadsBytes (encode v.canonicalJson) = .ok v.canonical

/-- `canonical_json(value)`, which raises for a value that is not accepted. -/
def JsonLibrary.canonicalBytes (lib : JsonLibrary) (v : JsonValue) : Except LoadError Bytes :=
  if lib.accepts v then .ok (encode v.canonicalJson) else .error .value

lemma JsonLibrary.canonicalBytes_eq_ok {lib : JsonLibrary} {v : JsonValue} {bytes : Bytes} :
    lib.canonicalBytes v = .ok bytes ↔ lib.accepts v = true ∧ encode v.canonicalJson = bytes := by
  unfold canonicalBytes
  split_ifs with h <;> simp [h]

/-- The library without limits. -/
def unlimitedJson : JsonLibrary where
  accepts := printable
  loads text := orThrow (JsonValue.loads text) .value
  loadsBytes bytes := orThrow (Aizim.loadsBytes bytes) .value
  printable_of_accepts _ h := h
  loads_canonicalJson v h := by rw [JsonValue.loads_canonicalJson h]; rfl
  loadsBytes_encode v h := by rw [Aizim.loadsBytes_encode h]; rfl

end Aizim
