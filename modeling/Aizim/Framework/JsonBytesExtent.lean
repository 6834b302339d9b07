import Aizim.Framework.JsonBytes
import Aizim.Framework.JsonExtent

/-!
# Texts in bytes

The bytes of a text, with surrogates as the handler that lets them pass writes them, and the bytes
that `json.loads` takes for such a text.  A byte string without zeros that holds an object is the
bytes of its text, after the byte order mark of UTF-8 if it starts with one
(`text_of_decodeBytes`); the other encodings have a zero in each character of ASCII.
-/

namespace Aizim

namespace PyJson

open Metered PyValue

variable {ε F : Type}

/-! ## Encoding -/

/-- The bytes of a character with `surrogatepass`. -/
def charBytes : PyChar → Bytes
  | .char c => utf8Char c
  | .surrogate n => [0xed, 0x80 + (n.val + 0x800) / 64, 0x80 + (n.val + 0x800) % 64]

/-- `text.encode("utf-8", "surrogatepass")` -/
def textBytes (text : PyText) : Bytes := text.flatMap charBytes

lemma textBytes_cons (c : PyChar) (cs : PyText) :
    textBytes (c :: cs) = charBytes c ++ textBytes cs := List.flatMap_cons

lemma textBytes_append (cs ds : PyText) : textBytes (cs ++ ds) = textBytes cs ++ textBytes ds :=
  List.flatMap_append

lemma charBytes_of_surrogateBytes? {head : Bytes} {s : PyChar} (h : surrogateBytes? head = some s) :
    charBytes s = head := by
  unfold surrogateBytes? at h
  split at h
  · rename_i b c
    split_ifs at h with hrange
    obtain rfl := Option.some.inj h
    have hcode : 0xd800 ≤ 0xd000 + (b - 0x80) * 64 + (c - 0x80) ∧
        0xd000 + (b - 0x80) * 64 + (c - 0x80) < 0xe000 := by omega
    rw [unitChar, dif_pos hcode]
    simp only [charBytes, List.cons.injEq, and_true, true_and]
    omega
  · cases h

/-- What is decoded is the bytes of a text. -/
lemma textBytes_of_decodeUtf8 {n : ℕ} {bytes : Bytes} {text : PyText}
    (h : decodeUtf8 n bytes = some text) : textBytes text = bytes := by
  induction n generalizing bytes text with
  | zero =>
    cases bytes with
    | nil =>
      obtain rfl := Option.some.inj h
      rfl
    | cons b bs => simp [decodeUtf8] at h
  | succ n ih =>
    cases bytes with
    | nil =>
      obtain rfl := Option.some.inj h
      rfl
    | cons b bs =>
      simp only [decodeUtf8] at h
      split at h
      · rename_i hhead
        obtain ⟨rest, hrest, rfl⟩ := Option.map_eq_some_iff.1 h
        rw [textBytes_cons, charBytes, hhead, ih hrest, List.take_append_drop]
      · obtain ⟨s, hs, hmap⟩ := Option.bind_eq_some_iff.1 h
        obtain ⟨rest, hrest, rfl⟩ := Option.map_eq_some_iff.1 hmap
        rw [textBytes_cons, charBytes_of_surrogateBytes? hs, ih hrest, List.take_append_drop]

lemma decodeUtf8_surrogate (n : ℕ) (s : Fin 2048) (bs : Bytes) :
    decodeUtf8 (n + 1) (charBytes (.surrogate s) ++ bs) =
      (.surrogate s :: ·) <$> decodeUtf8 n bs := by
  have hs := s.isLt
  generalize hb : 0x80 + (s.val + 0x800) / 64 = b
  generalize hc : 0x80 + (s.val + 0x800) % 64 = c
  have hrange : 0xa0 ≤ b ∧ b < 0xc0 ∧ 0x80 ≤ c ∧ c < 0xc0 := by omega
  have hcode : 0xd800 ≤ 0xd000 + (b - 0x80) * 64 + (c - 0x80) ∧
      0xd000 + (b - 0x80) * 64 + (c - 0x80) < 0xe000 := by omega
  have hsurrogate : surrogateBytes? [0xed, b, c] = some (.surrogate s) := by
    rw [surrogateBytes?, if_pos hrange, unitChar, dif_pos hcode]
    refine congrArg (fun n => some (PyChar.surrogate n)) (Fin.ext ?_)
    show 0xd000 + (b - 0x80) * 64 + (c - 0x80) - 0xd800 = s.val
    omega
  have hlength : utf8Length 0xed = 3 := by decide
  have hhead : ¬ utf8Char (Char.ofNat (utf8Code [0xed, b, c])) = [0xed, b, c] := by
    intro h
    obtain ⟨b', bs', hbytes, -, hcode'⟩ := utf8Char_spec (Char.ofNat (utf8Code [0xed, b, c]))
    rw [h] at hbytes
    rw [← hbytes] at hcode'
    generalize Char.ofNat (utf8Code [0xed, b, c]) = d at hcode'
    rw [utf8Code_three] at hcode'
    rcases d.valid with hlow | ⟨hhigh, -⟩
    · have hlow' : d.toNat < 0xd800 := hlow
      omega
    · have hhigh' : 0xdfff < d.toNat := hhigh
      omega
  simp only [charBytes, hb, hc, List.cons_append, List.nil_append, decodeUtf8, hlength,
    List.take_succ_cons, List.take_zero, List.drop_succ_cons, List.drop_zero, if_neg hhead,
    hsurrogate, Option.bind_some]

lemma decodeUtf8_char (n : ℕ) (c : Char) (bs : Bytes) :
    decodeUtf8 (n + 1) (utf8Char c ++ bs) = (.char c :: ·) <$> decodeUtf8 n bs := by
  obtain ⟨b, rest, hbytes, hlength, hcode⟩ := utf8Char_spec c
  have htake : (b :: (rest ++ bs)).take (utf8Length b) = b :: rest := by
    rw [hlength, List.take_succ_cons, List.take_left']
    rfl
  have hdrop : (b :: (rest ++ bs)).drop (utf8Length b) = bs := by
    rw [hlength, List.drop_succ_cons, List.drop_left']
    rfl
  rw [hbytes, List.cons_append]
  simp only [decodeUtf8, htake, hdrop, hcode, Char.ofNat_toNat, hbytes, if_true]

lemma length_charBytes_pos (c : PyChar) : 0 < (charBytes c).length := by
  cases c with
  | surrogate n => simp [charBytes]
  | char c =>
    obtain ⟨b, rest, hbytes, -⟩ := utf8Char_spec c
    simp [charBytes, hbytes]

/-- The bytes of a text are decoded as the text. -/
lemma decodeUtf8_textBytes {n : ℕ} {text : PyText} (hn : (textBytes text).length ≤ n) :
    decodeUtf8 n (textBytes text) = some text := by
  induction text generalizing n with
  | nil => cases n <;> rfl
  | cons c cs ih =>
    have hpos := length_charBytes_pos c
    rw [textBytes_cons, List.length_append] at hn
    obtain ⟨n, rfl⟩ : ∃ m, n = m + 1 := ⟨n - 1, by omega⟩
    have hrest : decodeUtf8 n (textBytes cs) = some cs := ih (by omega)
    rw [textBytes_cons]
    cases c with
    | surrogate s =>
      rw [decodeUtf8_surrogate, hrest]
      rfl
    | char c =>
      rw [charBytes, decodeUtf8_char, hrest]
      rfl

/-! ## The guess of an encoding -/

/-- The byte order mark of UTF-8. -/
def utf8Mark : Bytes := [0xef, 0xbb, 0xbf]

/-- Only byte order marks are looked for in bytes without zeros. -/
lemma decodeBytes_of_no_zero {bytes : Bytes} (h : 0 ∉ bytes) :
    decodeBytes bytes =
      if [0xfe, 0xff].isPrefixOf bytes then decodeUtf16 true (bytes.drop 2)
      else if [0xff, 0xfe].isPrefixOf bytes then decodeUtf16 false (bytes.drop 2)
      else if utf8Mark.isPrefixOf bytes then decodeUtf8 bytes.length (bytes.drop 3)
      else decodeUtf8 bytes.length bytes := by
  have hmiss : ∀ mark : Bytes, 0 ∈ mark → mark.isPrefixOf bytes = false := by
    intro mark hmark
    rw [← Bool.not_eq_true, List.isPrefixOf_iff_prefix]
    exact fun hp => h (hp.subset hmark)
  have hzero : ∀ x ∈ bytes, x ≠ 0 := by
    rintro x hx rfl
    exact h hx
  unfold decodeBytes
  rw [hmiss [0, 0, 0xfe, 0xff] (by decide), hmiss [0xff, 0xfe, 0, 0] (by decide)]
  simp only [Bool.false_eq_true, if_false, utf8Mark]
  congr 1
  congr 1
  congr 1
  split
  · rename_i x y
    rw [if_neg (hzero x (by simp)), if_neg (hzero y (by simp))]
  · rename_i x y z w rest
    rw [if_neg (hzero x (by simp)), if_neg (hzero y (by simp))]
  · rfl

lemma toNat_ofNat (n : ℕ) : (Char.ofNat n).toNat = n ∨ (Char.ofNat n).toNat = 0 := by
  by_cases hvalid : n.isValidChar
  · left
    rw [Char.ofNat, dif_pos hvalid]
    rfl
  · right
    rw [Char.ofNat, dif_neg hvalid]
    rfl

/-- The first unit of a text that starts with a character of ASCII is small. -/
lemma head_of_joinUnits {us : List ℕ} {c : Char} {cs : PyText} (h : joinUnits us = .char c :: cs)
    (hc : 0 < c.toNat) (hascii : c.toNat < 0x80) : ∃ u rest, us = u :: rest ∧ u < 0x80 := by
  have hunit : ∀ u, unitChar u = .char c → u < 0x80 := by
    intro u hu
    unfold unitChar at hu
    split_ifs at hu
    obtain rfl := PyChar.char.inj hu
    rcases toNat_ofNat u with hu | hu <;> omega
  have hpair : ∀ n, 0x10000 ≤ n → Char.ofNat n ≠ c := by
    rintro n hlow rfl
    rcases toNat_ofNat n with hn | hn <;> omega
  unfold joinUnits at h
  split at h
  · cases h
  · rename_i high low us
    split_ifs at h with hsurrogates
    · exact absurd (PyChar.char.inj (List.cons.inj h).1) (hpair _ (by omega))
    · exact ⟨high, low :: us, rfl, hunit high (List.cons.inj h).1⟩
  · rename_i u
    exact ⟨u, [], rfl, hunit u (List.cons.inj h).1⟩

/-- A text that starts with a character of ASCII has a zero in its first two bytes. -/
lemma zero_mem_of_decodeUtf16 {big : Bool} {bytes : Bytes} {c : Char} {cs : PyText}
    (h : decodeUtf16 big bytes = some (.char c :: cs)) (hc : 0 < c.toNat)
    (hascii : c.toNat < 0x80) : 0 ∈ bytes := by
  obtain ⟨us, hunits, hjoin⟩ := Option.map_eq_some_iff.1 h
  obtain ⟨u, rest, rfl, hu⟩ := head_of_joinUnits hjoin hc hascii
  unfold units16 at hunits
  split at hunits
  · cases hunits
  · cases hunits
  · rename_i a b bs
    obtain ⟨vs, -, hcons⟩ := Option.map_eq_some_iff.1 hunits
    have hfirst := (List.cons.inj hcons).1
    cases big with
    | true =>
      have hfirst' : a * 256 + b = u := hfirst
      obtain rfl : a = 0 := by omega
      exact List.mem_cons_self
    | false =>
      have hfirst' : b * 256 + a = u := hfirst
      obtain rfl : b = 0 := by omega
      exact List.mem_cons_of_mem a List.mem_cons_self

/-- Bytes without zeros whose text starts with a character of ASCII are the bytes of that text,
after a byte order mark or none. -/
lemma textBytes_of_decodeBytes {bytes : Bytes} (h0 : 0 ∉ bytes) {c : Char} {cs : PyText}
    (h : decodeBytes bytes = some (.char c :: cs)) (hc : 0 < c.toNat) (hascii : c.toNat < 0x80) :
    bytes = utf8Mark ++ textBytes (.char c :: cs) ∨ bytes = textBytes (.char c :: cs) := by
  rw [decodeBytes_of_no_zero h0] at h
  split_ifs at h with hbig hlittle hmark
  · exact absurd (List.mem_of_mem_drop (zero_mem_of_decodeUtf16 h hc hascii)) h0
  · exact absurd (List.mem_of_mem_drop (zero_mem_of_decodeUtf16 h hc hascii)) h0
  · left
    obtain ⟨rest, rfl⟩ := List.isPrefixOf_iff_prefix.1 hmark
    rw [textBytes_of_decodeUtf8 h]
    rfl
  · right
    exact (textBytes_of_decodeUtf8 h).symm

/-- Bytes after the byte order mark are read as UTF-8. -/
lemma decodeBytes_utf8Mark {text : PyText} (h : 0 ∉ textBytes text) :
    decodeBytes (utf8Mark ++ textBytes text) = some text := by
  have h0 : 0 ∉ utf8Mark ++ textBytes text := by
    rw [List.mem_append, not_or]
    exact ⟨by decide, h⟩
  rw [decodeBytes_of_no_zero h0, if_neg (by simp [utf8Mark]), if_neg (by simp [utf8Mark]),
    if_pos (by simp)]
  exact decodeUtf8_textBytes (by simp)

/-- Bytes of a text that starts with a character of ASCII are read as UTF-8. -/
lemma decodeBytes_textBytes {c : Char} {cs : PyText} (h : 0 ∉ textBytes (.char c :: cs))
    (hascii : c.toNat < 0x80) : decodeBytes (textBytes (.char c :: cs)) = some (.char c :: cs) := by
  have hbytes : textBytes (.char c :: cs) = c.toNat :: textBytes cs := by
    rw [textBytes_cons, charBytes, utf8Char, if_pos hascii]
    rfl
  rw [hbytes] at h ⊢
  have hzero : ∀ x ∈ c.toNat :: textBytes cs, x ≠ 0 := by
    rintro x hx rfl
    exact h hx
  rw [decodeBytes_of_ascii hascii hzero, ← hbytes]
  exact decodeUtf8_textBytes le_rfl

end PyJson

end Aizim
