import Aizim.Framework.JsonReader

/-!
# JSON lines

A byte string of JSON lines is one canonical text a line.  `splitLines` is how the program cuts a
byte string into lines, and `loadsBytes` how it reads the text of one.  Printing values and reading
the lines back gives their canonical forms (`splitLines_jsonLines`, `loadsBytes_encode`), and equal
byte strings come from equal values (`canonical_of_jsonLines`).
-/

namespace Aizim

open JsonValue

/-! ## Lines -/

/-- The rest of `value.splitlines()`, from inside a line; `afterReturn` says that the last byte
was a carriage return, which takes a line feed after it into the same line end. -/
def splitLinesFrom : (afterReturn : Bool) → (line : Bytes) → Bytes → List Bytes
  | _, line, [] => if line.isEmpty then [] else [line]
  | afterReturn, line, b :: bs =>
    if b == 10 then
      if afterReturn then splitLinesFrom false line bs else line :: splitLinesFrom false [] bs
    else if b == 13 then line :: splitLinesFrom true [] bs
    else splitLinesFrom false (line ++ [b]) bs

/-- `value.splitlines()` of a byte string. -/
def splitLines (value : Bytes) : List Bytes := splitLinesFrom false [] value

example : splitLines [97, 13, 10, 98, 13, 10, 10, 99] = [[97], [98], [], [99]] := by decide

/-- The bytes hold no line end. -/
def isLine (line : Bytes) : Prop := ∀ b ∈ line, b ≠ 10 ∧ b ≠ 13

lemma splitLinesFrom_append {line : Bytes} (h : isLine line) (start rest : Bytes) :
    splitLinesFrom false start (line ++ 10 :: rest) =
      (start ++ line) :: splitLinesFrom false [] rest := by
  induction line generalizing start with
  | nil =>
    rw [List.append_nil]
    rfl
  | cons b line ih =>
    obtain ⟨hfeed, hreturn⟩ := h b (List.mem_cons_self ..)
    have hline : isLine line := fun b hb => h b (List.mem_cons_of_mem _ hb)
    rw [List.cons_append]
    simp only [splitLinesFrom, beq_iff_eq, if_neg hfeed, if_neg hreturn]
    rw [ih hline (start ++ [b]), List.append_assoc]
    rfl

/-- Lines that each end with a line feed are cut apart again. -/
lemma splitLines_flatMap {lines : List Bytes} (h : ∀ line ∈ lines, isLine line) :
    splitLines (lines.flatMap fun line => line ++ [10]) = lines := by
  induction lines with
  | nil => rfl
  | cons line lines ih =>
    have hhead := splitLinesFrom_append (h line (List.mem_cons_self ..)) []
      (lines.flatMap fun line => line ++ [10])
    have htail := ih fun l hl => h l (List.mem_cons_of_mem _ hl)
    rw [List.flatMap_cons, List.append_assoc]
    show splitLinesFrom false [] (line ++ 10 :: lines.flatMap fun line => line ++ [10]) = _
    rw [hhead, List.nil_append]
    exact congrArg (line :: ·) htail

lemma le_of_mem_utf8Char {c : Char} (hc : 32 ≤ c.toNat) {b : ℕ} (h : b ∈ utf8Char c) :
    32 ≤ b := by
  unfold utf8Char at h
  simp only at h
  split_ifs at h <;> simp only [List.mem_cons, List.not_mem_nil, or_false] at h <;> omega

/-! ## Canonical texts as lines -/

/-- `json.loads(line)` of bytes.  The program writes UTF-8, and only UTF-8 is read here. -/
def loadsBytes (line : Bytes) : Option JsonValue :=
  let body := if line.take 3 == [0xef, 0xbb, 0xbf] then line.drop 3 else line
  (decode body).bind loads

lemma loadsBytes_nil : loadsBytes [] = none := by decide

/-- One canonical text a line. -/
def jsonLines (values : List JsonValue) : Bytes :=
  (values.map fun v => encode v.canonicalJson).flatMap fun line => line ++ [10]

lemma isLine_encode {v : JsonValue} (hv : printable v = true) : isLine (encode v.canonicalJson) := by
  intro b hb
  obtain ⟨c, hc, hb⟩ := List.mem_flatMap.1 hb
  have hle := le_of_mem_utf8Char (le_toNat_of_mem_canonicalJson hv hc) hb
  omega

/-- The lines of printed values. -/
theorem splitLines_jsonLines {values : List JsonValue} (h : ∀ v ∈ values, printable v = true) :
    splitLines (jsonLines values) = values.map fun v => encode v.canonicalJson := by
  apply splitLines_flatMap
  intro line hline
  obtain ⟨v, hv, rfl⟩ := List.mem_map.1 hline
  exact isLine_encode (h v hv)

/-- A printed value is read back from its bytes. -/
theorem loadsBytes_encode {v : JsonValue} (hv : printable v = true) :
    loadsBytes (encode v.canonicalJson) = some v.canonical := by
  have hmark : (encode v.canonicalJson).take 3 ≠ [0xef, 0xbb, 0xbf] := by
    obtain ⟨c, cs, hcs, hc⟩ := head_canonicalJson hv
    intro htake
    have hfirst := congrArg List.head? htake
    rw [encode, hcs, List.flatMap_cons] at hfirst
    have hchar : utf8Char c = [c.toNat] := if_pos hc
    rw [hchar] at hfirst
    have hcode : c.toNat = 0xef := Option.some.inj hfirst
    omega
  rw [loadsBytes]
  simp only [beq_iff_eq, if_neg hmark, decode_encode, Option.bind_some, loads_canonicalJson hv]

/-- Values that print the same lines have the same canonical forms. -/
theorem canonical_of_jsonLines {xs ys : List JsonValue} (hxs : ∀ v ∈ xs, printable v = true)
    (hys : ∀ v ∈ ys, printable v = true) (h : jsonLines xs = jsonLines ys) :
    xs.map canonical = ys.map canonical := by
  have hlines := splitLines_jsonLines hxs
  rw [h, splitLines_jsonLines hys] at hlines
  have hread := congrArg (List.map loadsBytes) hlines
  have hof : ∀ {vs : List JsonValue}, (∀ v ∈ vs, printable v = true) →
      (vs.map fun v => encode v.canonicalJson).map loadsBytes = (vs.map canonical).map some := by
    intro vs hvs
    rw [List.map_map, List.map_map]
    exact List.map_congr_left fun v hv => loadsBytes_encode (hvs v hv)
  rw [hof hys, hof hxs] at hread
  exact (List.map_injective_iff.2 (fun _ _ h => Option.some.inj h) hread).symm

end Aizim
