import Aizim.Framework.Json
import Aizim.Framework.Sha256
import Aizim.Framework.Text
import Aizim.Framework.Utf8

/-!
# The canonical serializer

`canonicalJson` prints a value the way the program's serializer does: keys sorted, no space after
a separator, characters outside ASCII written as themselves.  Content identifiers are the SHA-256
digests of such texts in UTF-8, `sha256Json`.

Only the value behind a text is ever compared in the model (`JsonText`); the printed text serves
the identifiers and the length limits.
-/

namespace Aizim

/-- `sha256_bytes(value.encode())` -/
def sha256Text (value : String) : String := Sha256.hexdigest (encode value)

/-- A digest is 64 lowercase hexadecimal digits. -/
lemma isSha256_hexdigest (bytes : List ℕ) : isSha256 (Sha256.hexdigest bytes) = true := by
  have hdigit : ∀ n < 16, isLowerHex (Nat.digitChar n) = true := by decide
  have hlength : ((Sha256.digest bytes).flatMap Sha256.hexByte).length = 64 := by
    simp [List.length_flatMap, Sha256.hexByte, Sha256.length_digest]
  have hall : ((Sha256.digest bytes).flatMap Sha256.hexByte).all isLowerHex = true := by
    rw [List.all_eq_true]
    intro c hc
    obtain ⟨b, hb, hc⟩ := List.mem_flatMap.1 hc
    have hlt := Sha256.lt_of_mem_digest hb
    simp only [Sha256.hexByte, List.mem_cons, List.not_mem_nil, or_false] at hc
    rcases hc with rfl | rfl
    · exact hdigit _ (by omega)
    · exact hdigit _ (by omega)
  simp [isSha256, Sha256.hexdigest, hlength, hall]

namespace JsonValue

/-! ## Printing -/

/-- One character inside a printed string. -/
def escape (c : Char) : List Char :=
  if c == '"' then ['\\', '"']
  else if c == '\\' then ['\\', '\\']
  else if c == '\n' then ['\\', 'n']
  else if c == '\r' then ['\\', 'r']
  else if c == '\t' then ['\\', 't']
  else if c.toNat == 12 then ['\\', 'f']
  else if c.toNat == 8 then ['\\', 'b']
  else if c.toNat < 32 then ['\\', 'u', '0', '0'] ++ Sha256.hexByte c.toNat
  else [c]

/-- A printed string. -/
def quote (s : String) : List Char := '"' :: s.toList.flatMap escape ++ ['"']

mutual

/-- `json.dumps` with the separators `,` and `:`, entries in the order they have. -/
def dumps : JsonValue → List Char
  | null => "null".toList
  | bool true => "true".toList
  | bool false => "false".toList
  | int i => (toString i).toList
  | float t => t.toList
  | str s => quote s
  | list xs => '[' :: dumpsItems xs ++ [']']
  | dict es => '{' :: dumpsEntries es ++ ['}']

/-- The items of an array, separated by commas. -/
def dumpsItems : List JsonValue → List Char
  | [] => []
  | [x] => dumps x
  | x :: xs => dumps x ++ ',' :: dumpsItems xs

/-- The entries of an object, separated by commas. -/
def dumpsEntries : JsonObject → List Char
  | [] => []
  | [(k, v)] => quote k ++ ':' :: dumps v
  | (k, v) :: es => quote k ++ ':' :: dumps v ++ ',' :: dumpsEntries es

end

/-- `canonical_json(value).decode()` -/
def canonicalJson (v : JsonValue) : String := String.ofList v.canonical.dumps

/-- `sha256_json(value)` -/
def sha256Json (v : JsonValue) : String := sha256Text v.canonicalJson

/-- The digest is taken of the printed characters. -/
lemma sha256Json_eq (v : JsonValue) :
    v.sha256Json = Sha256.hexdigest (v.canonical.dumps.flatMap utf8Char) := by
  rw [sha256Json, sha256Text, encode, canonicalJson, String.toList_ofList]

lemma isSha256_sha256Json (v : JsonValue) : isSha256 v.sha256Json = true := isSha256_hexdigest _

/-- Equal canonical forms print the same text. -/
lemma canonicalJson_congr {v w : JsonValue} (h : v.canonical = w.canonical) :
    v.canonicalJson = w.canonicalJson := by
  simp [canonicalJson, h]

lemma sha256Json_congr {v w : JsonValue} (h : v.canonical = w.canonical) :
    v.sha256Json = w.sha256Json := by
  simp [sha256Json, canonicalJson_congr h]

example : (dict [("b", list [int (-1), null]), ("a", str "x\ny")]).canonicalJson =
    "\x7b\"a\":\"x\\ny\",\"b\":[-1,null]\x7d" := by
  decide

end JsonValue

end Aizim
