import Aizim.Framework.Sha256
import Aizim.Framework.Text
import Aizim.Framework.Utf8

/-!
# Hexadecimal text

`toHex` writes a byte string with two lowercase digits a byte, as content hashes, encoded edits and
random identifiers are written.  Its length is twice that of the byte string
(`length_toHex`), and its characters are lowercase hexadecimal digits (`isLowerHex_toHex`).
-/

namespace Aizim

/-- `value.hex()` -/
def toHex (value : Bytes) : String := String.ofList (value.flatMap Sha256.hexByte)

/-- A digit that is written is lowercase. -/
lemma isLowerHex_digitChar {n : ℕ} (h : n < 16) : isLowerHex (Nat.digitChar n) = true := by
  have hall : ∀ n < 16, isLowerHex (Nat.digitChar n) = true := by decide
  exact hall n h

lemma length_toHex (value : Bytes) : (toHex value).toList.length = 2 * value.length := by
  rw [toHex, String.toList_ofList]
  induction value with
  | nil => rfl
  | cons b bs ih =>
    simp only [List.flatMap_cons, List.length_append, ih, Sha256.hexByte, List.length_cons,
      List.length_nil]
    omega

lemma isLowerHex_toHex {value : Bytes} (h : ∀ b ∈ value, b < 256) :
    (toHex value).toList.all isLowerHex = true := by
  rw [toHex, String.toList_ofList, List.all_eq_true]
  intro c hc
  obtain ⟨b, hb, hc⟩ := List.mem_flatMap.1 hc
  have hlt : b < 256 := h b hb
  simp only [Sha256.hexByte, List.mem_cons, List.not_mem_nil, or_false] at hc
  rcases hc with rfl | rfl
  · exact isLowerHex_digitChar (by omega)
  · exact isLowerHex_digitChar (by omega)

lemma toHex_eq_empty_iff {value : Bytes} : toHex value = "" ↔ value = [] := by
  constructor
  · intro h
    have hlength : (toHex value).toList.length = 0 := by rw [h]; rfl
    rw [length_toHex] at hlength
    exact List.length_eq_zero_iff.1 (by omega)
  · rintro rfl
    rfl

end Aizim
