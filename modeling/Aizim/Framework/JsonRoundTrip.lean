import Mathlib.Data.List.Nodup
import Aizim.Framework.CanonicalJson

/-!
# Reading canonical texts

The decoder reads what the canonical serializer wrote.  `readValue_dumps` is the induction: a
printed value is read back, and reading it asks for a frame for each container and for the digits of
each integer.  `loads_canonicalJson` says it of a whole text, and `canonicalJson_ofJson` that the
value that is read back is serialized again, with nothing asked for that was not granted before.
-/

namespace Aizim

open Metered PyJson PyValue

variable {ε F : Type}

/-! ## Tokens -/

@[simp] lemma pyText_nil : pyText [] = [] := rfl

@[simp] lemma pyText_cons (c : Char) (cs : List Char) : pyText (c :: cs) = .char c :: pyText cs :=
  rfl

@[simp] lemma pyText_append (cs ds : List Char) : pyText (cs ++ ds) = pyText cs ++ pyText ds :=
  List.map_append

lemma skipBlanks_cons {c : Char} (h : JsonValue.isJsonBlank c = false) (cs : PyText) :
    skipBlanks (.char c :: cs) = .char c :: cs := by
  have hblank : ¬ PyJson.isBlank (.char c) = true := by
    show ¬ JsonValue.isJsonBlank c = true
    rw [h]
    exact Bool.false_ne_true
  rw [PyJson.skipBlanks, List.dropWhile_cons_of_neg hblank]

lemma skipBlanks_pyText_cons {c : Char} (h : JsonValue.isJsonBlank c = false) (cs : List Char) :
    skipBlanks (pyText (c :: cs)) = pyText (c :: cs) :=
  skipBlanks_cons h (pyText cs)

/-- A printed character is read back. -/
lemma readText_escape (n : ℕ) (c : Char) (rest : PyText) :
    readText (n + 1) (pyText (JsonValue.escape c) ++ rest) =
      (readText n rest).map fun r => (.char c :: r.1, r.2) := by
  unfold JsonValue.escape
  simp only [beq_iff_eq]
  split_ifs with hquote hslash hn hr ht hf hb hlow
  · subst hquote
    rfl
  · subst hslash
    rfl
  · subst hn
    rfl
  · subst hr
    rfl
  · subst ht
    rfl
  · obtain rfl := JsonValue.eq_ofNat_of_toNat hf
    rfl
  · obtain rfl := JsonValue.eq_ofNat_of_toNat hb
    rfl
  · have hunit := JsonValue.readUnit_hexByte (n := c.toNat) (by omega) []
    have hbounds : ¬ (0xd800 ≤ c.toNat ∧ c.toNat < 0xe000) := by omega
    have hhigh : ¬ (0xd800 ≤ c.toNat ∧ c.toNat < 0xdc00) := by omega
    have hread : readUnicode (pyText ('0' :: '0' :: Sha256.hexByte c.toNat) ++ rest) =
        some (.char c, rest) := by
      have hpython : PyJson.readUnit (pyText ('0' :: '0' :: Sha256.hexByte c.toNat) ++ rest) =
          some (c.toNat, rest) := by
        show (JsonValue.readUnit ('0' :: '0' :: (Sha256.hexByte c.toNat ++ []))).map _ = _
        rw [hunit]
        rfl
      rw [readUnicode, hpython]
      show (if 0xd800 ≤ c.toNat ∧ c.toNat < 0xdc00 then _ else _) = _
      rw [if_neg hhigh, unitChar, dif_neg hbounds, Char.ofNat_toNat]
      rfl
    show (readUnicode (pyText ('0' :: '0' :: Sha256.hexByte c.toNat) ++ rest)).bind _ = _
    rw [hread, Option.bind_some]
  · simp only [List.cons_append, List.nil_append, pyText_cons, pyText_nil, readText, beq_iff_eq,
      hquote, hslash, hlow, if_false]

lemma readText_flatMap (s : List Char) {n : ℕ} (h : s.length < n) (rest : List Char) :
    readText n (pyText (s.flatMap JsonValue.escape ++ '"' :: rest)) =
      some (pyText s, pyText rest) := by
  induction s generalizing n with
  | nil =>
    obtain ⟨n, rfl⟩ : ∃ k, n = k + 1 := ⟨n - 1, by simp at h; omega⟩
    rfl
  | cons c s ih =>
    rw [List.length_cons] at h
    obtain ⟨n, rfl⟩ : ∃ k, n = k + 1 := ⟨n - 1, by omega⟩
    rw [List.flatMap_cons, List.append_assoc, pyText_append, readText_escape, ih (by omega)]
    rfl

/-- What follows does not go on with a number. -/
def endsNumber (rest : PyText) : Prop :=
  ∀ c, rest.head? = some (.char c) → JsonValue.isNumberChar c = false

lemma endsNumber_pyText {rest : List Char} (h : JsonValue.endsNumber rest) :
    endsNumber (pyText rest) := by
  intro c hc
  rw [pyText, List.head?_map, Option.map_eq_some_iff] at hc
  obtain ⟨d, hd, hsame⟩ := hc
  obtain rfl := PyChar.char.inj hsame
  obtain ⟨hdigit, hdot, he, hE, hplus, hminus⟩ := h d hd
  simp [JsonValue.isNumberChar, hdigit, hdot, he, hE, hplus, hminus]

/-- The characters of a number end where what follows does not go on with it. -/
lemma spanNumber_append {cs : List Char} {rest : PyText}
    (h : ∀ c ∈ cs, JsonValue.isNumberChar c = true) (hrest : endsNumber rest) :
    spanNumber (pyText cs ++ rest) = (cs, rest) := by
  induction cs with
  | nil =>
    cases rest with
    | nil => rfl
    | cons c rest =>
      cases c with
      | surrogate n => rfl
      | char c => simp [spanNumber, hrest c rfl]
  | cons c cs ih =>
    rw [List.forall_mem_cons] at h
    rw [pyText_cons, List.cons_append, spanNumber, if_pos h.1, ih h.2]

lemma readNumber_of_text {cs : List Char} {rest : PyText} {v : JsonValue}
    (hread : JsonValue.readNumber cs = some (v, []))
    (h : ∀ c ∈ cs, JsonValue.isNumberChar c = true) (hrest : endsNumber rest) :
    PyJson.readNumber (pyText cs ++ rest) = some (v, rest) := by
  rw [PyJson.readNumber, spanNumber_append h hrest, hread]
  rfl

lemma isNumberChar_of_mem_toString {i : Int} {c : Char} (h : c ∈ (toString i).toList) :
    JsonValue.isNumberChar c = true := by
  rw [JsonValue.toList_toString_int, List.mem_append] at h
  rcases h with h | h
  · split_ifs at h
    · rw [List.mem_singleton.mp h]
      decide
    · cases h
  · rw [JsonValue.isNumberChar, JsonValue.isAsciiDigit_of_mem_toDigits h, Bool.true_or]

/-! ## Dictionaries -/

lemma set_of_notMem {k : PyText} {v : PyValue F} {o : PyObject F} (h : k ∉ o.map Prod.fst) :
    PyObject.set k v o = o ++ [(k, v)] := by
  induction o with
  | nil => rfl
  | cons e o ih =>
    obtain ⟨l, w⟩ := e
    rw [List.map_cons, List.mem_cons, not_or] at h
    rw [PyObject.set, if_neg (Ne.symm h.1), ih h.2, List.cons_append]

lemma foldl_set (o p : PyObject F) (h : ((o ++ p).map Prod.fst).Nodup) :
    p.foldl (fun o e => PyObject.set e.1 e.2 o) o = o ++ p := by
  induction p generalizing o with
  | nil => rw [List.foldl_nil, List.append_nil]
  | cons e p ih =>
    obtain ⟨k, v⟩ := e
    have hk : k ∉ o.map Prod.fst := by
      rw [List.map_append, List.map_cons, List.nodup_append] at h
      intro hk
      exact h.2.2 k hk k List.mem_cons_self rfl
    rw [List.foldl_cons, set_of_notMem hk, ih (o ++ [(k, v)]) (by simpa using h),
      List.append_assoc]
    rfl

/-- Entries with distinct keys are the dictionary made of them. -/
lemma pyDict_of_nodup {pairs : PyObject F} (h : (pairs.map Prod.fst).Nodup) :
    pyDict pairs = pairs := foldl_set [] pairs h

lemma pyText_injective : Function.Injective pyText :=
  List.map_injective_iff.mpr fun _ _ h => PyChar.char.inj h

/-! ## Values -/

/-- What reading a text of the value asks for. -/
def textAsks (d : ℕ) (v : PyValue F) : List JsonDemand := (v.parts d).flatMap readingAsks

lemma textAsks_of_leaf {d : ℕ} {v : PyValue F} (h : v.parts d = [(d, v)]) :
    textAsks d v = readingAsks (d, v) := by
  rw [textAsks, h, List.flatMap_cons, List.flatMap_nil, List.append_nil]

lemma textAsks_list (d : ℕ) (xs : List (PyValue F)) : textAsks d (.list xs) =
    .reading d :: (partsOfItems (d + 1) xs).flatMap readingAsks := rfl

lemma textAsks_dict (d : ℕ) (es : PyObject F) : textAsks d (.dict es) =
    .reading d :: (partsOfEntries (d + 1) es).flatMap readingAsks := rfl

section

variable [PyFloat F] (hook : PyObject F → Except ε (PyObject F))

lemma readValue_of_number {n d : ℕ} {cs : List Char} {rest : PyText} {v : JsonValue}
    (hread : JsonValue.readNumber cs = some (v, []))
    (h : ∀ c ∈ cs, JsonValue.isNumberChar c = true) (hrest : endsNumber rest) :
    PyJson.readValue hook (n + 1) d (pyText cs ++ rest) =
      ofNumber v >>= fun w => pure (w, rest) := by
  have hnumber := readNumber_of_text hread h hrest
  obtain ⟨c, ds, rfl, hc⟩ := JsonValue.head_of_readNumber hread
  rw [pyText_cons, List.cons_append] at hnumber ⊢
  simp only [PyJson.readValue, beq_iff_eq,
    if_neg (JsonValue.ne_of_startsNumber hc (d := '"') (by decide)),
    if_neg (JsonValue.ne_of_startsNumber hc (d := '{') (by decide)),
    if_neg (JsonValue.ne_of_startsNumber hc (d := '[') (by decide)), readScalar, hnumber]

/-- The keys of an object stay distinct as strings. -/
lemma nodup_keys_ofJsonEntries {es : JsonObject} (h : (es.map Prod.fst).Nodup) :
    ((ofJsonEntries es : PyObject F).map Prod.fst).Nodup := by
  rw [ofJsonEntries_eq_map, List.map_map]
  have hmap : es.map (Prod.fst ∘ fun e => (pyText e.1.toList, (ofJson e.2 : PyValue F))) =
      (es.map Prod.fst).map fun k => pyText k.toList := by
    rw [List.map_map]
    rfl
  rw [hmap]
  exact List.Nodup.map (fun k l hk => String.toList_injective (pyText_injective hk)) h

/-- An array that holds something. -/
lemma readValue_bracket {n d : ℕ} {c : Char} {cs : PyText} {ds : List JsonDemand}
    {xs : List (PyValue F)} {rest : PyText} (hblank : JsonValue.isJsonBlank c = false)
    (hc : c ≠ ']')
    (hitems : PyJson.readItems hook n (d + 1) (.char c :: cs) = ⟨ds, .ok (xs, rest)⟩) :
    PyJson.readValue hook (n + 1) d (.char '[' :: .char c :: cs) =
      ⟨JsonDemand.reading (d + 1) :: ds, .ok (.list xs, rest)⟩ := by
  have hhead : ¬ (.char c :: cs : PyText).head? = some (.char ']') := by simpa using hc
  have hskip := skipBlanks_cons hblank cs
  generalize (.char c :: cs : PyText) = text at hitems hhead hskip ⊢
  have hbrace : ('[' == '"') = false ∧ ('[' == '{') = false := by decide
  simp only [PyJson.readValue, hbrace, Bool.false_eq_true, if_false, beq_self_eq_true, if_true,
    hskip, hhead, hitems, demand, mk_ok_bind, pure_eq, List.append_nil, List.singleton_append]

/-- An object that holds something. -/
lemma readValue_brace {n d : ℕ} {cs : PyText} {ds : List JsonDemand} {es fs : PyObject F}
    {rest : PyText} (hhook : hook es = .ok fs)
    (hentries : PyJson.readEntries hook n (d + 1) (.char '"' :: cs) = ⟨ds, .ok (es, rest)⟩) :
    PyJson.readValue hook (n + 1) d (.char '{' :: .char '"' :: cs) =
      ⟨JsonDemand.reading (d + 1) :: ds, .ok (.dict fs, rest)⟩ := by
  have hhead : ¬ (.char '"' :: cs : PyText).head? = some (.char '}') := by simp
  have hskip := skipBlanks_cons (c := '"') (by decide) cs
  generalize (.char '"' :: cs : PyText) = text at hentries hhead hskip ⊢
  have hquote : ('{' == '"') = false := by decide
  simp only [PyJson.readValue, hquote, Bool.false_eq_true, if_false, beq_self_eq_true, if_true,
    hskip, hhead, hentries, demand, ofPairs, hhook, lift, Except.mapError, Except.map_ok, mk_ok_bind,
    pure_eq, List.append_nil, List.singleton_append]

/-- The last item of an array. -/
lemma readItems_last {n d : ℕ} {cs rest : PyText} {ds : List JsonDemand} {x : PyValue F}
    (hx : PyJson.readValue hook n d cs = ⟨ds, .ok (x, .char ']' :: rest)⟩) :
    PyJson.readItems hook (n + 1) d cs = ⟨ds, .ok ([x], rest)⟩ := by
  have hskip : PyJson.skipBlanks (.char ']' :: rest) = .char ']' :: rest := rfl
  simp only [PyJson.readItems, hx, mk_ok_bind, hskip, pure_eq, List.append_nil]

/-- An item of an array before others. -/
lemma readItems_comma {n d : ℕ} {cs rest r : PyText} {ds es : List JsonDemand} {x : PyValue F}
    {xs : List (PyValue F)}
    (hx : PyJson.readValue hook n d cs = ⟨ds, .ok (x, .char ',' :: rest)⟩)
    (hxs : PyJson.readItems hook n d (PyJson.skipBlanks rest) = ⟨es, .ok (xs, r)⟩) :
    PyJson.readItems hook (n + 1) d cs = ⟨ds ++ es, .ok (x :: xs, r)⟩ := by
  have hskip : PyJson.skipBlanks (.char ',' :: rest) = .char ',' :: rest := rfl
  simp only [PyJson.readItems, hx, mk_ok_bind, hskip, hxs, pure_eq, List.append_nil]

/-- The last entry of an object. -/
lemma readEntries_last {n d : ℕ} {cs k colon rest : PyText} {ds : List JsonDemand} {v : PyValue F}
    (hk : readText n cs = some (k, .char ':' :: colon))
    (hv : PyJson.readValue hook n d (PyJson.skipBlanks colon) = ⟨ds, .ok (v, .char '}' :: rest)⟩) :
    PyJson.readEntries hook (n + 1) d (.char '"' :: cs) = ⟨ds, .ok ([(k, v)], rest)⟩ := by
  have hcolon : PyJson.skipBlanks (.char ':' :: colon) = .char ':' :: colon := rfl
  have hskip : PyJson.skipBlanks (.char '}' :: rest) = .char '}' :: rest := rfl
  simp only [PyJson.readEntries, if_true, expect, hk, orThrow, lift, mk_ok_bind, hcolon, hv, hskip,
    pure_eq, List.append_nil, List.nil_append]

/-- An entry of an object before others. -/
lemma readEntries_comma {n d : ℕ} {cs k colon rest r : PyText} {ds es : List JsonDemand}
    {v : PyValue F} {fs : PyObject F} (hk : readText n cs = some (k, .char ':' :: colon))
    (hv : PyJson.readValue hook n d (PyJson.skipBlanks colon) = ⟨ds, .ok (v, .char ',' :: rest)⟩)
    (hfs : PyJson.readEntries hook n d (PyJson.skipBlanks rest) = ⟨es, .ok (fs, r)⟩) :
    PyJson.readEntries hook (n + 1) d (.char '"' :: cs) = ⟨ds ++ es, .ok ((k, v) :: fs, r)⟩ := by
  have hcolon : PyJson.skipBlanks (.char ':' :: colon) = .char ':' :: colon := rfl
  have hskip : PyJson.skipBlanks (.char ',' :: rest) = .char ',' :: rest := rfl
  simp only [PyJson.readEntries, if_true, expect, hk, orThrow, lift, mk_ok_bind, hcolon, hv, hskip,
    hfs, pure_eq, List.append_nil, List.nil_append]

variable {hook}

mutual

/-- A printed value is read back, with enough fuel and before what may follow a value. -/
lemma readValue_dumps (hhook : ∀ es : PyObject F, (es.map Prod.fst).Nodup → hook es = .ok es) :
    ∀ {v : JsonValue} {n d : ℕ} {r : List Char}, v.exact = true → 2 * v.dumps.length < n →
      JsonValue.Follows r → PyJson.readValue hook n d (pyText (v.dumps ++ r)) =
        ⟨textAsks (d + 1) (ofJson v : PyValue F), .ok (ofJson v, pyText r)⟩
  | .null, n + 1, d, r, _, _, _ => by
    rw [textAsks_of_leaf rfl]
    rfl
  | .bool true, n + 1, d, r, _, _, _ => by
    rw [textAsks_of_leaf rfl]
    rfl
  | .bool false, n + 1, d, r, _, _, _ => by
    rw [textAsks_of_leaf rfl]
    rfl
  | .int i, n + 1, d, r, _, _, hr => by
    have hnumber := readValue_of_number hook (n := n) (d := d) (JsonValue.readNumber_toString i)
      (fun c hc => isNumberChar_of_mem_toString hc) (endsNumber_pyText hr.endsNumber)
    rw [textAsks_of_leaf rfl, pyText_append]
    exact hnumber
  | .float t, n + 1, d, r, h, _, hr => by
    have hnumber := readValue_of_number hook (n := n) (d := d)
      (JsonValue.readNumber_of_isFloatText h) (JsonValue.isNumberChar_of_isFloatText h)
      (endsNumber_pyText hr.endsNumber)
    rw [textAsks_of_leaf rfl, pyText_append]
    exact hnumber
  | .str s, n + 1, d, r, _, hn, _ => by
    have hlength := JsonValue.length_le_flatMap_escape s.toList
    have hquote : (JsonValue.str s).dumps = '"' :: (s.toList.flatMap JsonValue.escape ++ ['"']) :=
      rfl
    rw [hquote] at hn ⊢
    rw [List.length_cons, List.length_append] at hn
    have htext := readText_flatMap s.toList (n := n) (by omega) r
    rw [textAsks_of_leaf rfl, List.cons_append, List.append_assoc, pyText_cons]
    show (expect (readText n (pyText (s.toList.flatMap JsonValue.escape ++ '"' :: r))) >>= _) = _
    rw [htext]
    rfl
  | .list [], n + 1, _, _, _, _, _ => rfl
  | .list (x :: xs), n + 1, d, r, h, hn, hr => by
    have hx : x.exact = true := (Bool.and_eq_true_iff.1 h).1
    have hdumps : (JsonValue.list (x :: xs)).dumps =
        '[' :: (JsonValue.dumpsItems (x :: xs) ++ [']']) := rfl
    have hone : [']'].length = 1 := rfl
    rw [hdumps, List.length_cons, List.length_append] at hn
    have hitems := readItems_dumpsItems hhook (x := x) (l := xs) (n := n) (d := d + 1) (r := r) h
      (by omega)
    obtain ⟨c, cs, hcs, hblank, -, hbracket⟩ := JsonValue.head_dumps hx
    have hfirst : ∃ cs, JsonValue.dumpsItems (x :: xs) ++ ']' :: r = c :: cs := by
      cases xs with
      | nil => exact ⟨_, by rw [JsonValue.dumpsItems, hcs]; rfl⟩
      | cons y ys => exact ⟨_, by rw [JsonValue.dumpsItems_cons, hcs]; rfl⟩
    obtain ⟨cs', hcs'⟩ := hfirst
    rw [hdumps, List.cons_append, List.append_assoc, List.singleton_append]
    rw [hcs'] at hitems ⊢
    exact readValue_bracket hook hblank hbracket hitems
  | .dict [], n + 1, d, r, _, _, _ => by
    have hempty : hook [] = .ok [] := hhook [] List.nodup_nil
    show (demand (JsonDemand.reading (d + 1)) >>= fun _ =>
      ofPairs hook [] >>= fun v => pure (v, pyText r)) = _
    rw [ofPairs, hempty]
    rfl
  | .dict ((k, v) :: es), n + 1, d, r, h, hn, hr => by
    obtain ⟨hnodup, hentries⟩ := Bool.and_eq_true_iff.1 h
    have hdumps : (JsonValue.dict ((k, v) :: es)).dumps =
        '{' :: (JsonValue.dumpsEntries ((k, v) :: es) ++ ['}']) := rfl
    have hone : ['}'].length = 1 := rfl
    rw [hdumps, List.length_cons, List.length_append] at hn
    have hread := readEntries_dumpsEntries hhook (k := k) (v := v) (l := es) (n := n) (d := d + 1)
      (r := r) hentries (by omega)
    have hfirst : ∃ cs, JsonValue.dumpsEntries ((k, v) :: es) ++ '}' :: r = '"' :: cs := by
      cases es with
      | nil => exact ⟨_, rfl⟩
      | cons e es => exact ⟨_, rfl⟩
    obtain ⟨cs, hcs⟩ := hfirst
    rw [hdumps, List.cons_append, List.append_assoc, List.singleton_append]
    rw [hcs] at hread ⊢
    refine readValue_brace hook (hhook _ ?_) hread
    exact nodup_keys_ofJsonEntries (of_decide_eq_true hnodup)

lemma readItems_dumpsItems
    (hhook : ∀ es : PyObject F, (es.map Prod.fst).Nodup → hook es = .ok es) :
    ∀ {x : JsonValue} {l : List JsonValue} {n d : ℕ} {r : List Char},
      JsonValue.exactItems (x :: l) = true → 2 * (JsonValue.dumpsItems (x :: l)).length + 1 < n →
        PyJson.readItems hook n d (pyText (JsonValue.dumpsItems (x :: l) ++ ']' :: r)) =
          ⟨(partsOfItems (d + 1) (ofJsonItems (x :: l) : List (PyValue F))).flatMap readingAsks,
            .ok (ofJsonItems (x :: l), pyText r)⟩
  | x, [], n + 1, d, r, h, hn => by
    have hx : x.exact = true := (Bool.and_eq_true_iff.1 h).1
    rw [JsonValue.dumpsItems] at hn ⊢
    have hvalue := readValue_dumps hhook (v := x) (n := n) (d := d) (r := ']' :: r) hx (by omega)
      (.token (by simp))
    rw [pyText_cons] at hvalue
    rw [readItems_last hook hvalue, ofJsonItems, ofJsonItems, partsOfItems, partsOfItems,
      List.append_nil, textAsks]
  | x, y :: ys, n + 1, d, r, h, hn => by
    obtain ⟨hx, hxs⟩ := Bool.and_eq_true_iff.1 h
    obtain ⟨c, cs, hcs, hblank, -⟩ := JsonValue.head_dumps (v := y) (Bool.and_eq_true_iff.1 hxs).1
    have hdumps := JsonValue.dumpsItems_cons x y ys
    rw [hdumps, List.length_append, List.length_cons] at hn
    have hvalue := readValue_dumps hhook (v := x) (n := n) (d := d)
      (r := ',' :: (JsonValue.dumpsItems (y :: ys) ++ ']' :: r)) hx (by omega) (.token (by simp))
    have hitems := readItems_dumpsItems hhook (x := y) (l := ys) (n := n) (d := d) (r := r) hxs
      (by omega)
    have hskip : PyJson.skipBlanks (pyText (JsonValue.dumpsItems (y :: ys) ++ ']' :: r)) =
        pyText (JsonValue.dumpsItems (y :: ys) ++ ']' :: r) := by
      cases ys with
      | nil => rw [JsonValue.dumpsItems, hcs, List.cons_append, skipBlanks_pyText_cons hblank]
      | cons z zs =>
        rw [JsonValue.dumpsItems_cons, hcs, List.cons_append, List.cons_append,
          skipBlanks_pyText_cons hblank]
    have hparts : (partsOfItems (d + 1) (ofJsonItems (x :: y :: ys) : List (PyValue F))).flatMap
        readingAsks = textAsks (d + 1) (ofJson x : PyValue F) ++
          (partsOfItems (d + 1) (ofJsonItems (y :: ys))).flatMap readingAsks := List.flatMap_append
    rw [pyText_cons] at hvalue
    rw [hdumps, List.append_assoc, List.cons_append, hparts,
      readItems_comma hook hvalue (by rw [hskip]; exact hitems)]
    rfl

lemma readEntries_dumpsEntries
    (hhook : ∀ es : PyObject F, (es.map Prod.fst).Nodup → hook es = .ok es) :
    ∀ {k : String} {v : JsonValue} {l : JsonObject} {n d : ℕ} {r : List Char},
      JsonValue.exactEntries ((k, v) :: l) = true →
        2 * (JsonValue.dumpsEntries ((k, v) :: l)).length + 1 < n →
          PyJson.readEntries hook n d (pyText (JsonValue.dumpsEntries ((k, v) :: l) ++ '}' :: r)) =
            ⟨(partsOfEntries (d + 1) (ofJsonEntries ((k, v) :: l) : PyObject F)).flatMap readingAsks,
              .ok (ofJsonEntries ((k, v) :: l), pyText r)⟩
  | k, v, [], n + 1, d, r, h, hn => by
    have hv : v.exact = true := (Bool.and_eq_true_iff.1 h).1
    have hlength := JsonValue.length_le_flatMap_escape k.toList
    have hdumps : JsonValue.dumpsEntries [(k, v)] =
        '"' :: (k.toList.flatMap JsonValue.escape ++ '"' :: ':' :: v.dumps) := by
      simp [JsonValue.dumpsEntries, JsonValue.quote]
    rw [hdumps] at hn ⊢
    simp only [List.length_cons, List.length_append] at hn
    have hkey := readText_flatMap k.toList (n := n) (by omega) (':' :: (v.dumps ++ '}' :: r))
    have hvalue := readValue_dumps hhook (v := v) (n := n) (d := d) (r := '}' :: r) hv (by omega)
      (.token (by simp))
    obtain ⟨c, cs, hcs, hblank, -⟩ := JsonValue.head_dumps hv
    have hskip : PyJson.skipBlanks (pyText (v.dumps ++ '}' :: r)) = pyText (v.dumps ++ '}' :: r) := by
      rw [hcs, List.cons_append, skipBlanks_pyText_cons hblank]
    have happend : '"' :: (k.toList.flatMap JsonValue.escape ++ '"' :: ':' :: v.dumps) ++ '}' :: r =
        '"' :: (k.toList.flatMap JsonValue.escape ++ '"' :: ':' :: (v.dumps ++ '}' :: r)) := by simp
    rw [pyText_cons] at hkey hvalue
    rw [happend, pyText_cons, readEntries_last hook hkey (by rw [hskip]; exact hvalue),
      ofJsonEntries, ofJsonEntries, partsOfEntries, partsOfEntries, List.append_nil, textAsks]
  | k, v, (k', v') :: es, n + 1, d, r, h, hn => by
    obtain ⟨hv, hes⟩ := Bool.and_eq_true_iff.1 h
    have hlength := JsonValue.length_le_flatMap_escape k.toList
    have hdumps : JsonValue.dumpsEntries ((k, v) :: (k', v') :: es) =
        '"' :: (k.toList.flatMap JsonValue.escape ++ '"' :: ':' ::
          (v.dumps ++ ',' :: JsonValue.dumpsEntries ((k', v') :: es))) := by
      simp [JsonValue.dumpsEntries, JsonValue.quote]
    rw [hdumps] at hn ⊢
    simp only [List.length_cons, List.length_append] at hn
    have hkey := readText_flatMap k.toList (n := n) (by omega)
      (':' :: (v.dumps ++ ',' :: (JsonValue.dumpsEntries ((k', v') :: es) ++ '}' :: r)))
    have hvalue := readValue_dumps hhook (v := v) (n := n) (d := d)
      (r := ',' :: (JsonValue.dumpsEntries ((k', v') :: es) ++ '}' :: r)) hv (by omega)
      (.token (by simp))
    have hentries := readEntries_dumpsEntries hhook (k := k') (v := v') (l := es) (n := n) (d := d)
      (r := r) hes (by omega)
    obtain ⟨c, cs, hcs, hblank, -⟩ := JsonValue.head_dumps hv
    have hskip : PyJson.skipBlanks
        (pyText (v.dumps ++ ',' :: (JsonValue.dumpsEntries ((k', v') :: es) ++ '}' :: r))) =
          pyText (v.dumps ++ ',' :: (JsonValue.dumpsEntries ((k', v') :: es) ++ '}' :: r)) := by
      rw [hcs, List.cons_append, skipBlanks_pyText_cons hblank]
    have hskip' : PyJson.skipBlanks
        (pyText (JsonValue.dumpsEntries ((k', v') :: es) ++ '}' :: r)) =
          pyText (JsonValue.dumpsEntries ((k', v') :: es) ++ '}' :: r) := by
      cases es with
      | nil => rfl
      | cons f fs => rfl
    have happend : '"' :: (k.toList.flatMap JsonValue.escape ++ '"' :: ':' ::
        (v.dumps ++ ',' :: JsonValue.dumpsEntries ((k', v') :: es))) ++ '}' :: r =
          '"' :: (k.toList.flatMap JsonValue.escape ++ '"' :: ':' ::
            (v.dumps ++ ',' :: (JsonValue.dumpsEntries ((k', v') :: es) ++ '}' :: r))) := by simp
    have hparts : (partsOfEntries (d + 1) (ofJsonEntries ((k, v) :: (k', v') :: es) :
        PyObject F)).flatMap readingAsks = textAsks (d + 1) (ofJson v : PyValue F) ++
          (partsOfEntries (d + 1) (ofJsonEntries ((k', v') :: es))).flatMap readingAsks :=
      List.flatMap_append
    rw [pyText_cons] at hkey hvalue
    rw [happend, pyText_cons, hparts, readEntries_comma hook hkey (by rw [hskip]; exact hvalue)
      (by rw [hskip']; exact hentries)]
    rfl

end

/-- **Round trip.** The decoder reads the value of a canonical text, in canonical form, and asks for
what the containers and the integers of that value ask for. -/
theorem loads_canonicalJson (hhook : ∀ es : PyObject F, (es.map Prod.fst).Nodup → hook es = .ok es)
    {j : JsonValue} (h : j.printable = true) :
    PyJson.loads hook (pyText j.canonicalJson.toList) =
      ⟨textAsks 1 (ofJson j.canonical : PyValue F), .ok (ofJson j.canonical)⟩ := by
  have hexact := JsonValue.exact_canonical h
  obtain ⟨c, cs, hcs, hblank, -⟩ := JsonValue.head_dumps hexact
  have hskip : PyJson.skipBlanks (pyText j.canonical.dumps) = pyText j.canonical.dumps := by
    rw [hcs, skipBlanks_pyText_cons hblank]
  have hvalue := readValue_dumps hhook (v := j.canonical)
    (n := 2 * (pyText j.canonical.dumps).length + 1) (d := 0) (r := []) hexact
    (by rw [pyText, List.length_map]; omega) .done
  rw [List.append_nil] at hvalue
  rw [PyJson.loads, JsonValue.canonicalJson, String.toList_ofList, hskip, hvalue, mk_ok_bind]
  show (⟨_ ++ [], _⟩ : JsonUse ε _) = _
  rw [List.append_nil]
  rfl

/-! ## Serializing what was read -/

variable {granted : JsonDemand → Bool}

lemma run_visit_eq_ok_iff {p : ℕ × PyValue F} :
    (visit p : JsonUse ε Unit).run granted JsonDemand.refusal = .ok () ↔
      granted (.visiting p.1) = true ∧ ∀ f, p.2 = .float f → PyFloat.isFinite f = true := by
  rw [visit, run_bind, run_demand, bind_eq_ok]
  simp only [require_eq_ok, exists_const]
  refine and_congr_right fun _ => ?_
  obtain ⟨d, v⟩ := p
  cases v with
  | float f => by_cases h : PyFloat.isFinite f = true <;> simp [run, fail, h]
  | _ => simp [run]

lemma run_demandAll {ds : List JsonDemand} :
    (demandAll ds : JsonUse ε Unit).run granted JsonDemand.refusal = .ok () ↔
      ∀ d ∈ ds, granted d = true := by
  rw [run_eq_ok_iff]
  exact and_iff_left rfl

/-- When the serializer writes a value: what it asks for is granted, the floats are finite, and the
value has a text. -/
lemma run_canonicalJson_eq_ok_iff {v : PyValue F} {bytes : Bytes} :
    (v.canonicalJson : JsonUse ε Bytes).run granted JsonDemand.refusal = .ok bytes ↔
      (∀ p ∈ v.parts 1, (granted (.visiting p.1) = true ∧
        ∀ f, p.2 = .float f → PyFloat.isFinite f = true) ∧
        (∀ d ∈ containerDepth p, granted (.printing d) = true) ∧
        ∀ n ∈ integerDigits p, granted (.digits n) = true) ∧
      ∃ j, v.toJson? = some j ∧ encode j.canonicalJson = bytes := by
  rw [canonicalJson]
  simp only [run_bind, bind_eq_ok, run_lift, orThrow_eq_ok, Option.map_eq_some_iff]
  constructor
  · rintro ⟨⟨⟩, hvisit, ⟨⟩, hprint, ⟨⟩, hdigits, htext⟩
    refine ⟨fun p hp => ⟨run_visit_eq_ok_iff.mp (run_forM_eq_ok_iff.mp hvisit p hp),
      fun d hd => ?_, fun n hn => ?_⟩, htext⟩
    · refine run_demandAll.mp hprint _ (List.mem_map_of_mem ?_)
      exact List.mem_filterMap.mpr ⟨p, hp, hd⟩
    · refine run_demandAll.mp hdigits _ (List.mem_map_of_mem ?_)
      exact List.mem_filterMap.mpr ⟨p, hp, hn⟩
  · rintro ⟨hparts, htext⟩
    refine ⟨(), run_forM_eq_ok_iff.mpr fun p hp => run_visit_eq_ok_iff.mpr (hparts p hp).1, (),
      run_demandAll.mpr fun ask hask => ?_, (), run_demandAll.mpr fun ask hask => ?_, htext⟩
    · obtain ⟨d, hd, rfl⟩ := List.mem_map.mp hask
      obtain ⟨p, hp, hdepth⟩ := List.mem_filterMap.mp hd
      exact (hparts p hp).2.1 d hdepth
    · obtain ⟨n, hn, rfl⟩ := List.mem_map.mp hask
      obtain ⟨p, hp, hcount⟩ := List.mem_filterMap.mp hn
      exact (hparts p hp).2.2 n hcount

/-- A value and its canonical form are of one kind. -/
lemma kind_canonical (d : ℕ) (k : JsonValue) :
    containerDepth (d, (ofJson k.canonical : PyValue F)) =
        containerDepth (d, (ofJson k : PyValue F)) ∧
      integerDigits (d, (ofJson k.canonical : PyValue F)) =
        integerDigits (d, (ofJson k : PyValue F)) ∧
      ∀ f : F, ofJson k.canonical = .float f → ofJson k = .float f := by
  cases k with
  | list js =>
    rw [JsonValue.canonical_list]
    exact ⟨rfl, rfl, fun _ h => by cases h⟩
  | dict js => exact ⟨rfl, rfl, fun _ h => by cases h⟩
  | _ => exact ⟨rfl, rfl, fun _ h => h⟩

/-- A canonical form is serialized where the value is. -/
theorem canonicalJson_ofJson {j : JsonValue} {bytes : Bytes}
    (h : ((ofJson j : PyValue F).canonicalJson : JsonUse ε Bytes).run granted JsonDemand.refusal =
      .ok bytes) :
    ∃ bytes', ((ofJson j.canonical : PyValue F).canonicalJson : JsonUse ε Bytes).run granted
      JsonDemand.refusal = .ok bytes' := by
  rw [run_canonicalJson_eq_ok_iff] at h
  have hparts : ∀ p ∈ (ofJson j.canonical : PyValue F).parts 1,
      (granted (.visiting p.1) = true ∧ ∀ f, p.2 = .float f → PyFloat.isFinite f = true) ∧
      (∀ d ∈ containerDepth p, granted (.printing d) = true) ∧
      ∀ n ∈ integerDigits p, granted (.digits n) = true := by
    rintro ⟨d, v⟩ hp
    obtain ⟨k, hk, hv⟩ := exists_part_of_canonical j 1 hp
    obtain ⟨hcontainer, hinteger, hfloat⟩ := kind_canonical (F := F) d k
    obtain ⟨⟨hvisit, hfinite⟩, hprint, hdigits⟩ := h.1 _ hk
    obtain rfl : v = ofJson k.canonical := hv
    rw [hcontainer, hinteger]
    exact ⟨⟨hvisit, fun f hf => hfinite f (hfloat f hf)⟩, hprint, hdigits⟩
  obtain ⟨k, hk⟩ := exists_toJson?_ofJson (F := F) (j := j.canonical) 1
    fun p hp => (hparts p hp).1.2
  exact ⟨_, run_canonicalJson_eq_ok_iff.mpr ⟨hparts, k, hk, rfl⟩⟩

/-! ## Deep texts -/

/-- An array in an array in an array asks for a frame for each. -/
lemma mem_demands_brackets (hook : PyObject F → Except ε (PyObject F)) (k n d : ℕ) :
    .reading (d + k + 1) ∈ (PyJson.readValue hook (2 * k + n + 1) d
      (pyText (List.replicate (k + 1) '['))).demands := by
  have hquote : ('[' == '"') = false ∧ ('[' == '{') = false := by decide
  induction k generalizing d with
  | zero =>
    rw [List.replicate_one, pyText_cons]
    simp only [PyJson.readValue, hquote, Bool.false_eq_true, if_false, beq_self_eq_true, if_true]
    exact mem_demands_bind.mpr (.inl List.mem_cons_self)
  | succ k ih =>
    have hskip := skipBlanks_pyText_cons (c := '[') (by decide) (List.replicate k '[')
    have hhead : ¬ (pyText ('[' :: List.replicate k '[')).head? = some (.char ']') := by simp
    have hfuel : 2 * (k + 1) + n + 1 = 2 * k + n + 1 + 1 + 1 := by omega
    rw [List.replicate_succ, List.replicate_succ, pyText_cons, hfuel]
    have hdeep := ih (d + 1)
    rw [List.replicate_succ, show d + 1 + k + 1 = d + (k + 1) + 1 by omega] at hdeep
    generalize pyText ('[' :: List.replicate k '[') = text at hskip hhead hdeep ⊢
    rw [PyJson.readValue]
    simp only [hquote, Bool.false_eq_true, if_false, beq_self_eq_true, if_true, hskip, hhead]
    refine mem_demands_bind.mpr (.inr ⟨(), rfl, mem_demands_bind.mpr (.inl ?_)⟩)
    rw [PyJson.readItems]
    exact mem_demands_bind.mpr (.inl hdeep)

/-- What reading a canonical text asks for is what the value asks for. -/
lemma textAsks_canonical_subset (d : ℕ) (j : JsonValue) :
    textAsks d (ofJson j.canonical : PyValue F) ⊆ textAsks d (ofJson j : PyValue F) := by
  intro ask hask
  obtain ⟨⟨d', v⟩, hp, hask⟩ := List.mem_flatMap.mp hask
  obtain ⟨k, hk, hv⟩ := exists_part_of_canonical j d hp
  obtain ⟨hcontainer, hinteger, -⟩ := kind_canonical (F := F) d' k
  obtain rfl : v = ofJson k.canonical := hv
  rw [readingAsks, hcontainer, hinteger] at hask
  exact List.mem_flatMap.mpr ⟨_, hk, hask⟩

end

end Aizim
