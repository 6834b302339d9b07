import Mathlib.Data.String.Basic
import Mathlib.Tactic.Lemma

/-!
# UTF-8

Byte strings are lists of numbers.  `encode` writes a text, and `decode` reads one the strict way:
it accepts the shortest form of each character and nothing else, so that a byte string decodes
exactly when it is the encoding of a text (`encode_of_decode`, `decode_encode`).
-/

namespace Aizim

/-- A byte string. -/
abbrev Bytes := List ℕ

/-! ## Encoding -/

/-- The UTF-8 bytes of a character. -/
def utf8Char (c : Char) : Bytes :=
  let n := c.toNat
  if n < 0x80 then [n]
  else if n < 0x800 then [0xc0 + n / 64, 0x80 + n % 64]
  else if n < 0x10000 then [0xe0 + n / 4096, 0x80 + n / 64 % 64, 0x80 + n % 64]
  else [0xf0 + n / 262144, 0x80 + n / 4096 % 64, 0x80 + n / 64 % 64, 0x80 + n % 64]

/-- `value.encode()` -/
def encode (value : String) : Bytes := value.toList.flatMap utf8Char

/-! ## Decoding -/

/-- The number of bytes of a character, from its first byte. -/
def utf8Length (first : ℕ) : ℕ :=
  if first < 0x80 then 1 else if first < 0xe0 then 2 else if first < 0xf0 then 3 else 4

/-- The code that the bytes of one character carry. -/
def utf8Code : Bytes → ℕ
  | [b] => b
  | [b, b₁] => (b - 0xc0) * 64 + (b₁ - 0x80)
  | [b, b₁, b₂] => (b - 0xe0) * 4096 + (b₁ - 0x80) * 64 + (b₂ - 0x80)
  | [b, b₁, b₂, b₃] =>
    (b - 0xf0) * 262144 + (b₁ - 0x80) * 4096 + (b₂ - 0x80) * 64 + (b₃ - 0x80)
  | _ => 0

/-- Read a number of characters at most; each must stand in the form that `utf8Char` writes. -/
def decodeChars : (limit : ℕ) → Bytes → Option (List Char)
  | _, [] => some []
  | 0, _ :: _ => none
  | limit + 1, b :: bs =>
    let head := (b :: bs).take (utf8Length b)
    let c := Char.ofNat (utf8Code head)
    if utf8Char c = head then (c :: ·) <$> decodeChars limit ((b :: bs).drop (utf8Length b))
    else none

/-- `value.decode("utf-8")`, or nothing where it raises. -/
def decode (value : Bytes) : Option String := String.ofList <$> decodeChars value.length value

example : decode (encode "aé∀😀") = some "aé∀😀" := by decide

example : decode [0xc0, 0x80] = none ∧ decode [0xed, 0xa0, 0x80] = none := by decide

/-! ## Round trips -/

lemma toNat_lt_of_char (c : Char) : c.toNat < 0x110000 := by
  rcases c.valid with h | ⟨-, h⟩
  · exact lt_trans h (by decide)
  · exact h

lemma utf8Code_two (b b₁ : ℕ) : utf8Code [b, b₁] = (b - 0xc0) * 64 + (b₁ - 0x80) := rfl

lemma utf8Code_three (b b₁ b₂ : ℕ) :
    utf8Code [b, b₁, b₂] = (b - 0xe0) * 4096 + (b₁ - 0x80) * 64 + (b₂ - 0x80) := rfl

lemma utf8Code_four (b b₁ b₂ b₃ : ℕ) : utf8Code [b, b₁, b₂, b₃] =
    (b - 0xf0) * 262144 + (b₁ - 0x80) * 4096 + (b₂ - 0x80) * 64 + (b₃ - 0x80) := rfl

/-- The first byte of a character tells how many there are, and they carry its code. -/
lemma utf8Char_spec (c : Char) : ∃ b bs, utf8Char c = b :: bs ∧ utf8Length b = bs.length + 1 ∧
    utf8Code (b :: bs) = c.toNat := by
  have hlt := toNat_lt_of_char c
  simp only [utf8Char]
  split_ifs with h₁ h₂ h₃
  · refine ⟨_, _, rfl, ?_, ?_⟩
    · simp only [utf8Length, if_pos h₁, List.length_nil]
    · rfl
  · refine ⟨_, _, rfl, ?_, ?_⟩
    · have hfirst : ¬ 0xc0 + c.toNat / 64 < 0x80 := by omega
      have hsecond : 0xc0 + c.toNat / 64 < 0xe0 := by omega
      simp only [utf8Length, if_neg hfirst, if_pos hsecond, List.length_cons, List.length_nil]
    · rw [utf8Code_two]
      omega
  · refine ⟨_, _, rfl, ?_, ?_⟩
    · have hfirst : ¬ 0xe0 + c.toNat / 4096 < 0x80 := by omega
      have hsecond : ¬ 0xe0 + c.toNat / 4096 < 0xe0 := by omega
      have hthird : 0xe0 + c.toNat / 4096 < 0xf0 := by omega
      simp only [utf8Length, if_neg hfirst, if_neg hsecond, if_pos hthird, List.length_cons,
        List.length_nil]
    · rw [utf8Code_three]
      omega
  · refine ⟨_, _, rfl, ?_, ?_⟩
    · have hfirst : ¬ 0xf0 + c.toNat / 262144 < 0x80 := by omega
      have hsecond : ¬ 0xf0 + c.toNat / 262144 < 0xe0 := by omega
      have hthird : ¬ 0xf0 + c.toNat / 262144 < 0xf0 := by omega
      simp only [utf8Length, if_neg hfirst, if_neg hsecond, if_neg hthird, List.length_cons,
        List.length_nil]
    · rw [utf8Code_four]
      omega

lemma decodeChars_flatMap (cs : List Char) {limit : ℕ}
    (hlimit : (cs.flatMap utf8Char).length ≤ limit) :
    decodeChars limit (cs.flatMap utf8Char) = some cs := by
  induction cs generalizing limit with
  | nil => cases limit <;> rfl
  | cons c cs ih =>
    obtain ⟨b, bs, hbytes, hlength, hcode⟩ := utf8Char_spec c
    rw [List.flatMap_cons, hbytes, List.cons_append] at hlimit ⊢
    cases limit with
    | zero => simp at hlimit
    | succ limit =>
      have htake : (b :: (bs ++ cs.flatMap utf8Char)).take (utf8Length b) = b :: bs := by
        rw [hlength, List.take_succ_cons, List.take_left']
        rfl
      have hdrop : (b :: (bs ++ cs.flatMap utf8Char)).drop (utf8Length b) =
          cs.flatMap utf8Char := by
        rw [hlength, List.drop_succ_cons, List.drop_left']
        rfl
      rw [List.length_cons, List.length_append] at hlimit
      have hrest := @ih limit (by omega)
      simp only [decodeChars, htake, hdrop, hcode, Char.ofNat_toNat, hbytes, if_true, hrest]
      rfl

/-- A text is read back from its encoding. -/
theorem decode_encode (value : String) : decode (encode value) = some value := by
  rw [decode, encode, decodeChars_flatMap value.toList le_rfl]
  exact congrArg some String.ofList_toList

lemma flatMap_of_decodeChars {limit : ℕ} {bs : Bytes} {cs : List Char}
    (h : decodeChars limit bs = some cs) : cs.flatMap utf8Char = bs := by
  induction limit generalizing bs cs with
  | zero =>
    cases bs with
    | nil =>
      obtain rfl := Option.some.inj h
      rfl
    | cons b bs => simp [decodeChars] at h
  | succ limit ih =>
    cases bs with
    | nil =>
      obtain rfl := Option.some.inj h
      rfl
    | cons b bs =>
      simp only [decodeChars] at h
      split at h
      · rename_i hhead
        obtain ⟨rest, hrest, rfl⟩ := Option.map_eq_some_iff.1 h
        rw [List.flatMap_cons, hhead, ih hrest, List.take_append_drop]
      · simp at h

/-- Only encodings decode. -/
theorem encode_of_decode {bs : Bytes} {value : String} (h : decode bs = some value) :
    encode value = bs := by
  obtain ⟨cs, hcs, rfl⟩ := Option.map_eq_some_iff.1 h
  rw [encode, String.toList_ofList]
  exact flatMap_of_decodeChars hcs

/-! ## Boundaries of characters -/

lemma flatMap_utf8Char_injective {cs ds : List Char}
    (h : cs.flatMap utf8Char = ds.flatMap utf8Char) : cs = ds := by
  have hread := decodeChars_flatMap cs le_rfl
  rw [h, decodeChars_flatMap ds le_rfl] at hread
  exact (Option.some.inj hread).symm

lemma encode_injective {s t : String} (h : encode s = encode t) : s = t :=
  String.toList_injective (flatMap_utf8Char_injective h)

/-- The encodings of texts, as lists of characters. -/
lemma isSome_decode_iff {bs : Bytes} :
    (decode bs).isSome = true ↔ ∃ cs : List Char, bs = cs.flatMap utf8Char := by
  constructor
  · intro h
    obtain ⟨value, hvalue⟩ := Option.isSome_iff_exists.1 h
    exact ⟨value.toList, (encode_of_decode hvalue).symm⟩
  · rintro ⟨cs, rfl⟩
    rw [decode, decodeChars_flatMap cs le_rfl]
    rfl

/-- A character of the byte string begins at the offset, or the byte string ends there. -/
def IsCharBoundary (bs : Bytes) (offset : ℕ) : Prop :=
  ∃ cs ds : List Char, bs = cs.flatMap utf8Char ++ ds.flatMap utf8Char ∧
    (cs.flatMap utf8Char).length = offset

lemma IsCharBoundary.le_length {bs : Bytes} {offset : ℕ} (h : IsCharBoundary bs offset) :
    offset ≤ bs.length := by
  obtain ⟨cs, ds, rfl, rfl⟩ := h
  rw [List.length_append]
  omega

/-- Cutting at a boundary leaves two encodings. -/
lemma isCharBoundary_iff {bs : Bytes} {offset : ℕ} (hle : offset ≤ bs.length) :
    IsCharBoundary bs offset ↔
      (decode (bs.take offset)).isSome = true ∧ (decode (bs.drop offset)).isSome = true := by
  rw [isSome_decode_iff, isSome_decode_iff]
  constructor
  · rintro ⟨cs, ds, rfl, rfl⟩
    exact ⟨⟨cs, List.take_left⟩, ds, List.drop_left⟩
  · rintro ⟨⟨cs, hcs⟩, ds, hds⟩
    refine ⟨cs, ds, ?_, ?_⟩
    · rw [← hcs, ← hds, List.take_append_drop]
    · rw [← hcs, List.length_take, min_eq_left hle]

lemma length_flatMap_utf8Char_pos {cs : List Char} (h : cs ≠ []) :
    0 < (cs.flatMap utf8Char).length := by
  cases cs with
  | nil => exact absurd rfl h
  | cons c cs =>
    obtain ⟨b, bs, hbytes, -⟩ := utf8Char_spec c
    rw [List.flatMap_cons, hbytes, List.cons_append, List.length_cons]
    omega

/-- What lies between two boundaries is an encoding. -/
theorem IsCharBoundary.slice {bs : Bytes} {i j : ℕ} (hi : IsCharBoundary bs i)
    (hj : IsCharBoundary bs j) (hle : i ≤ j) : (decode ((bs.take j).drop i)).isSome = true := by
  obtain ⟨cs, ds, rfl, rfl⟩ := hi
  obtain ⟨cs', ds', hsame, rfl⟩ := hj
  rw [← List.flatMap_append, ← List.flatMap_append] at hsame
  rw [isSome_decode_iff]
  -- the characters before the first boundary are a prefix of those before the second
  rcases List.append_eq_append_iff.1 (flatMap_utf8Char_injective hsame) with
    ⟨ms, rfl, -⟩ | ⟨ms, rfl, rfl⟩
  · refine ⟨ms, ?_⟩
    have hwhole : cs.flatMap utf8Char ++ ds.flatMap utf8Char =
        (cs ++ ms).flatMap utf8Char ++ ds'.flatMap utf8Char := by
      rw [← List.flatMap_append, hsame, List.flatMap_append]
    rw [hwhole, List.take_left, List.flatMap_append, List.drop_left]
  · rw [List.flatMap_append, List.length_append] at hle
    have hms : ms = [] := by
      by_contra hne
      have hpos := length_flatMap_utf8Char_pos hne
      omega
    subst hms
    refine ⟨[], ?_⟩
    rw [List.append_nil, List.take_left, List.drop_length]
    rfl

end Aizim
