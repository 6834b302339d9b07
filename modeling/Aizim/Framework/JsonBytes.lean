import Aizim.Framework.JsonLines
import Aizim.Framework.JsonRoundTrip

/-!
# JSON in bytes

`json.loads` of bytes guesses their encoding from the first of them and decodes them with the
handler that lets surrogates pass.  The guess for a canonical encoding is UTF-8
(`decodeBytes_canonicalJson`), so what the serializer wrote is decoded as its text.

A value that was read asked for its frames and digits while it was read (`asks_loads`), so reading
its canonical text asks for nothing new.
-/

namespace Aizim

namespace PyJson

open Metered PyValue

/-! ## Encodings -/

/-- The surrogate that three bytes carry, which no strict decoder accepts. -/
def surrogateBytes? : Bytes → Option PyChar
  | [0xed, b, c] =>
    if 0xa0 ≤ b ∧ b < 0xc0 ∧ 0x80 ≤ c ∧ c < 0xc0 then
      some (unitChar (0xd000 + (b - 0x80) * 64 + (c - 0x80)))
    else none
  | _ => none

/-- `value.decode("utf-8", "surrogatepass")`, with a number of characters at most. -/
def decodeUtf8 : ℕ → Bytes → Option PyText
  | _, [] => some []
  | 0, _ :: _ => none
  | n + 1, b :: bs =>
    let head := (b :: bs).take (utf8Length b)
    let rest := (b :: bs).drop (utf8Length b)
    let c := Char.ofNat (utf8Code head)
    if utf8Char c = head then (.char c :: ·) <$> decodeUtf8 n rest
    else (surrogateBytes? head).bind fun s => (s :: ·) <$> decodeUtf8 n rest

/-- The units of two bytes. -/
def units16 (big : Bool) : Bytes → Option (List ℕ)
  | [] => some []
  | [_] => none
  | a :: b :: bs => ((if big then a * 256 + b else b * 256 + a) :: ·) <$> units16 big bs

/-- The units of four bytes. -/
def units32 (big : Bool) : Bytes → Option (List ℕ)
  | [] => some []
  | a :: b :: c :: d :: bs =>
    ((if big then ((a * 256 + b) * 256 + c) * 256 + d else ((d * 256 + c) * 256 + b) * 256 + a) :: ·)
      <$> units32 big bs
  | _ => none

/-- The characters of units of two bytes: a high surrogate takes the low one that follows it. -/
def joinUnits : List ℕ → PyText
  | [] => []
  | high :: low :: us =>
    if (0xd800 ≤ high ∧ high < 0xdc00) ∧ 0xdc00 ≤ low ∧ low < 0xe000 then
      .char (Char.ofNat (0x10000 + (high - 0xd800) * 1024 + (low - 0xdc00))) :: joinUnits us
    else unitChar high :: joinUnits (low :: us)
  | [u] => [unitChar u]

/-- `value.decode("utf-16-be", "surrogatepass")`, or of the other byte order. -/
def decodeUtf16 (big : Bool) (bytes : Bytes) : Option PyText :=
  (units16 big bytes).map joinUnits

/-- `value.decode("utf-32-be", "surrogatepass")`, or of the other byte order. -/
def decodeUtf32 (big : Bool) (bytes : Bytes) : Option PyText :=
  (units32 big bytes).bind fun us =>
    if us.all fun u => u < 0x110000 then some (us.map unitChar) else none

/-- `b.decode(detect_encoding(b), "surrogatepass")` -/
def decodeBytes (b : Bytes) : Option PyText :=
  if [0, 0, 0xfe, 0xff].isPrefixOf b then decodeUtf32 true (b.drop 4)
  else if [0xff, 0xfe, 0, 0].isPrefixOf b then decodeUtf32 false (b.drop 4)
  else if [0xfe, 0xff].isPrefixOf b then decodeUtf16 true (b.drop 2)
  else if [0xff, 0xfe].isPrefixOf b then decodeUtf16 false (b.drop 2)
  else if [0xef, 0xbb, 0xbf].isPrefixOf b then decodeUtf8 b.length (b.drop 3)
  else
    match b with
    | [x, y] =>
      if x = 0 then decodeUtf16 true b
      else if y = 0 then decodeUtf16 false b
      else decodeUtf8 b.length b
    | x :: y :: z :: w :: _ =>
      if x = 0 then if y ≠ 0 then decodeUtf16 true b else decodeUtf32 true b
      else if y = 0 then if z ≠ 0 ∨ w ≠ 0 then decodeUtf16 false b else decodeUtf32 false b
      else decodeUtf8 b.length b
    | _ => decodeUtf8 b.length b

/-! ## Canonical encodings -/

lemma decodeUtf8_flatMap (cs : List Char) {n : ℕ} (hn : (cs.flatMap utf8Char).length ≤ n) :
    decodeUtf8 n (cs.flatMap utf8Char) = some (pyText cs) := by
  induction cs generalizing n with
  | nil => cases n <;> rfl
  | cons c cs ih =>
    obtain ⟨b, bs, hbytes, hlength, hcode⟩ := utf8Char_spec c
    rw [List.flatMap_cons, hbytes, List.cons_append] at hn ⊢
    cases n with
    | zero => simp at hn
    | succ n =>
      have htake : (b :: (bs ++ cs.flatMap utf8Char)).take (utf8Length b) = b :: bs := by
        rw [hlength, List.take_succ_cons, List.take_left']
        rfl
      have hdrop : (b :: (bs ++ cs.flatMap utf8Char)).drop (utf8Length b) =
          cs.flatMap utf8Char := by
        rw [hlength, List.drop_succ_cons, List.drop_left']
        rfl
      rw [List.length_cons, List.length_append] at hn
      have hrest := @ih n (by omega)
      simp only [decodeUtf8, htake, hdrop, hcode, Char.ofNat_toNat, hbytes, if_true, hrest]
      rfl

/-- Bytes without zeros that start with an ASCII one are taken for UTF-8. -/
lemma decodeBytes_of_ascii {b : ℕ} {bs : Bytes} (hascii : b < 0x80)
    (hzero : ∀ x ∈ b :: bs, x ≠ 0) :
    decodeBytes (b :: bs) = decodeUtf8 (b :: bs).length (b :: bs) := by
  have hb : b ≠ 0 := hzero b List.mem_cons_self
  have hmark : ∀ x ∈ [0xff, 0xfe, 0xef], (x == b) = false := by
    intro x hx
    rw [beq_eq_false_iff_ne]
    simp only [List.mem_cons, List.not_mem_nil, or_false] at hx
    omega
  have hff := hmark 0xff (by simp)
  have hfe := hmark 0xfe (by simp)
  have hef := hmark 0xef (by simp)
  have h0 : ((0 : ℕ) == b) = false := beq_eq_false_iff_ne.mpr hb.symm
  unfold decodeBytes
  simp only [List.isPrefixOf, hff, hfe, hef, h0, Bool.false_and, Bool.false_eq_true, if_false]
  split
  · rename_i x y heq
    obtain ⟨rfl, hrest⟩ := List.cons.inj heq
    have hy : y ≠ 0 := hzero y (by rw [hrest]; simp)
    rw [if_neg hb, if_neg hy]
  · rename_i x y z w rest heq
    obtain ⟨rfl, hrest⟩ := List.cons.inj heq
    have hy : y ≠ 0 := hzero y (by rw [hrest]; simp)
    rw [if_neg hb, if_neg hy]
  · rfl

/-- A canonical encoding is decoded as its text. -/
lemma decodeBytes_canonicalJson {j : JsonValue} (h : j.printable = true) :
    decodeBytes (encode j.canonicalJson) = some (pyText j.canonicalJson.toList) := by
  obtain ⟨c, cs, hcs, hc⟩ := JsonValue.head_canonicalJson h
  have hbytes : ∀ x ∈ encode j.canonicalJson, x ≠ 0 := by
    intro x hx
    obtain ⟨d, hd, hx⟩ := List.mem_flatMap.mp hx
    have hle := le_of_mem_utf8Char (JsonValue.le_toNat_of_mem_canonicalJson h hd) hx
    omega
  have hdecode := decodeUtf8_flatMap j.canonicalJson.toList (le_refl _)
  have hchar : utf8Char c = [c.toNat] := if_pos hc
  have hfirst : encode j.canonicalJson = c.toNat :: cs.flatMap utf8Char := by
    rw [encode, hcs, List.flatMap_cons, hchar]
    rfl
  rw [← encode] at hdecode
  rw [hfirst] at hdecode hbytes ⊢
  rw [decodeBytes_of_ascii hc hbytes, hdecode]

/-! ## What a value has asked for -/

section

variable {ε F : Type} [PyFloat F] {hook : PyObject F → Except ε (PyObject F)}

lemma asks_readScalar {cs rest : PyText} {v : PyValue F} (d : ℕ)
    (h : (readScalar cs : JsonUse ε (PyValue F × PyText)).outcome = .ok (v, rest)) :
    textAsks d v ⊆ (readScalar cs : JsonUse ε (PyValue F × PyText)).demands := by
  unfold readScalar at h ⊢
  split at h
  · rename_i number rest' hnumber
    obtain ⟨w, hw, h⟩ := outcome_bind_eq_ok.mp h
    obtain ⟨rfl, rfl⟩ := Prod.mk.inj (Except.ok.inj h)
    intro ask hask
    refine mem_demands_bind.mpr (.inl ?_)
    cases number with
    | int i =>
      obtain rfl := Except.ok.inj hw
      rw [textAsks_of_leaf rfl] at hask
      exact hask
    | float t =>
      obtain rfl := Except.ok.inj hw
      rw [textAsks_of_leaf rfl] at hask
      cases hask
    | _ => cases hw
  · have hconstant := outcome_expect.mp h
    have hleaf : textAsks d v = [] := by
      simp only [readConstant, readName, Option.or_eq_some_iff] at hconstant
      rcases hconstant with h | ⟨-, h | ⟨-, h | ⟨-, h | ⟨-, h | ⟨-, h⟩⟩⟩⟩⟩ <;> split_ifs at h <;>
        obtain ⟨rfl, -⟩ := Prod.mk.inj (Option.some.inj h) <;> rfl
    rw [hleaf]
    exact List.nil_subset _

/-- A value that was read has asked for what its text asks for. -/
lemma asks_read (hhook : ∀ es fs, hook es = .ok fs → fs ⊆ es) (n : ℕ) :
    (∀ d cs v rest, (readValue hook n d cs).outcome = .ok (v, rest) →
      textAsks (d + 1) v ⊆ (readValue hook n d cs).demands) ∧
    (∀ d cs xs rest, (readItems hook n d cs).outcome = .ok (xs, rest) →
      (partsOfItems (d + 1) xs).flatMap readingAsks ⊆ (readItems hook n d cs).demands) ∧
    ∀ d cs es rest, (readEntries hook n d cs).outcome = .ok (es, rest) →
      (partsOfEntries (d + 1) es).flatMap readingAsks ⊆ (readEntries hook n d cs).demands := by
  have hobject : ∀ {d es w}, (ofPairs hook es).outcome = .ok w →
      textAsks d w ⊆ .reading d :: (partsOfEntries (d + 1) es).flatMap readingAsks := by
    intro d es w hw
    obtain ⟨fs, hfs, rfl⟩ := map_eq_ok.mp hw
    rw [mapError_eq_ok] at hfs
    rw [textAsks_dict]
    refine List.cons_subset_cons _ fun ask hask => ?_
    obtain ⟨p, hp, hask⟩ := List.mem_flatMap.mp hask
    obtain ⟨e, he, hp⟩ := mem_partsOfEntries.mp hp
    exact List.mem_flatMap.mpr ⟨p, mem_partsOfEntries.mpr ⟨e, hhook es fs hfs he, hp⟩, hask⟩
  induction n with
  | zero =>
    refine ⟨?_, ?_, ?_⟩
    · rintro d cs v rest ⟨⟩
    · rintro d cs v rest ⟨⟩
    · rintro d cs v rest ⟨⟩
  | succ n ih =>
    obtain ⟨hvalue, hitems, hentries⟩ := ih
    refine ⟨fun d cs v rest h => ?_, fun d cs xs rest h => ?_, fun d cs es rest h => ?_⟩
    · cases cs with
      | nil => cases h
      | cons c cs =>
        cases c with
        | surrogate s => cases h
        | char c =>
          unfold readValue at h ⊢
          split_ifs at h ⊢
          · obtain ⟨⟨s, rest'⟩, -, h⟩ := outcome_bind_eq_ok.mp h
            obtain ⟨rfl, -⟩ := Prod.mk.inj (Except.ok.inj h)
            exact List.nil_subset _
          · obtain ⟨-, -, h⟩ := outcome_bind_eq_ok.mp h
            obtain ⟨w, hw, h⟩ := outcome_bind_eq_ok.mp h
            obtain ⟨rfl, -⟩ := Prod.mk.inj (Except.ok.inj h)
            intro ask hask
            rcases List.mem_cons.mp (hobject hw hask) with rfl | hask
            · exact mem_demands_bind.mpr (.inl List.mem_cons_self)
            · cases hask
          · obtain ⟨-, -, h⟩ := outcome_bind_eq_ok.mp h
            obtain ⟨⟨pairs, rest'⟩, hpairs, h⟩ := outcome_bind_eq_ok.mp h
            obtain ⟨w, hw, h⟩ := outcome_bind_eq_ok.mp h
            obtain ⟨rfl, -⟩ := Prod.mk.inj (Except.ok.inj h)
            intro ask hask
            rcases List.mem_cons.mp (hobject hw hask) with rfl | hask
            · exact mem_demands_bind.mpr (.inl List.mem_cons_self)
            · refine mem_demands_bind.mpr (.inr ⟨(), rfl, mem_demands_bind.mpr (.inl ?_)⟩)
              exact hentries _ _ _ _ hpairs hask
          · obtain ⟨-, -, h⟩ := outcome_bind_eq_ok.mp h
            obtain ⟨rfl, -⟩ := Prod.mk.inj (Except.ok.inj h)
            intro ask hask
            exact mem_demands_bind.mpr (.inl hask)
          · obtain ⟨-, -, h⟩ := outcome_bind_eq_ok.mp h
            obtain ⟨⟨items, rest'⟩, hread, h⟩ := outcome_bind_eq_ok.mp h
            obtain ⟨rfl, -⟩ := Prod.mk.inj (Except.ok.inj h)
            intro ask hask
            rw [textAsks_list] at hask
            rcases List.mem_cons.mp hask with rfl | hask
            · exact mem_demands_bind.mpr (.inl List.mem_cons_self)
            · refine mem_demands_bind.mpr (.inr ⟨(), rfl, mem_demands_bind.mpr (.inl ?_)⟩)
              exact hitems _ _ _ _ hread hask
          · exact asks_readScalar (d + 1) h
    · rw [readItems] at h ⊢
      obtain ⟨⟨x, tail⟩, hx, h⟩ := outcome_bind_eq_ok.mp h
      have hhead := hvalue _ _ _ _ hx
      intro ask hask
      rw [mem_demands_bind]
      dsimp only at h
      split at h
      · rename_i rest' hcomma
        obtain ⟨⟨ys, rest''⟩, hys, h⟩ := outcome_bind_eq_ok.mp h
        obtain ⟨rfl, -⟩ := Prod.mk.inj (Except.ok.inj h)
        rw [partsOfItems, List.flatMap_append, List.mem_append] at hask
        rcases hask with hask | hask
        · exact .inl (hhead hask)
        · refine .inr ⟨_, hx, ?_⟩
          simp only [hcomma]
          exact mem_demands_bind.mpr (.inl (hitems _ _ _ _ hys hask))
      · obtain ⟨rfl, -⟩ := Prod.mk.inj (Except.ok.inj h)
        rw [partsOfItems, partsOfItems, List.append_nil] at hask
        exact .inl (hhead hask)
      · cases h
    · cases cs with
      | nil => cases h
      | cons c cs =>
        unfold readEntries at h ⊢
        split_ifs at h ⊢
        · obtain ⟨⟨k, colon⟩, hk, h⟩ := outcome_bind_eq_ok.mp h
          intro ask hask
          refine mem_demands_bind.mpr (.inr ⟨_, hk, ?_⟩)
          dsimp only at h ⊢
          split at h
          · rename_i afterColon hcolon
            obtain ⟨⟨v, tail⟩, hv, h⟩ := outcome_bind_eq_ok.mp h
            have hhead := hvalue _ _ _ _ hv
            rw [mem_demands_bind]
            dsimp only at h
            split at h
            · rename_i afterComma hcomma
              obtain ⟨⟨fs, rest'⟩, hfs, h⟩ := outcome_bind_eq_ok.mp h
              obtain ⟨rfl, -⟩ := Prod.mk.inj (Except.ok.inj h)
              rw [partsOfEntries, List.flatMap_append, List.mem_append] at hask
              rcases hask with hask | hask
              · exact .inl (hhead hask)
              · refine .inr ⟨_, hv, ?_⟩
                simp only [hcomma]
                exact mem_demands_bind.mpr (.inl (hentries _ _ _ _ hfs hask))
            · obtain ⟨rfl, -⟩ := Prod.mk.inj (Except.ok.inj h)
              rw [partsOfEntries, partsOfEntries, List.append_nil] at hask
              exact .inl (hhead hask)
            · cases h
          · cases h
        · cases h

/-- A value that was read has asked for what its text asks for. -/
theorem asks_loads (hhook : ∀ es fs, hook es = .ok fs → fs ⊆ es) {text : PyText} {v : PyValue F}
    (h : (loads hook text).outcome = .ok v) : textAsks 1 v ⊆ (loads hook text).demands := by
  obtain ⟨⟨w, rest⟩, hread, h⟩ := outcome_bind_eq_ok.mp h
  dsimp only at h
  split_ifs at h
  swap
  · cases h
  obtain rfl := Except.ok.inj h
  intro ask hask
  exact mem_demands_bind.mpr (.inl ((asks_read hhook _).1 0 _ _ _ hread hask))

end

end PyJson

end Aizim
