import Aizim.Framework.JsonRoundTrip

/-!
# Printing into another text

`PyJson.dumps` is the printer of an interpreter with its usual separators.  A text that is put into
another one often has some characters of its strings rewritten so that they mean nothing there: a
`Guard` is such a rewriting, which leaves what stands outside of strings and which the reader undoes.
`loads_guarded` is the round trip: the reader reads a value back from its guarded text, and asks for
what the containers and the integers of the value ask for.

The values are those of JSON (`PyValue.isJson`): their floats are finite, and no object has a key
twice.
-/

namespace Aizim

open Metered PyJson

variable {ε F : Type}

/-! ## Printing -/

namespace PyJson

/-- A character within a string, as it prints. -/
def escape : PyChar → PyText
  | .char c => pyText (JsonValue.escape c)
  | .surrogate n => [.surrogate n]

/-- A string in quotation marks. -/
def quote (s : PyText) : PyText := .char '"' :: (s.flatMap escape ++ [.char '"'])

variable [PyFloat F]

mutual

/-- `json.dumps(value, ensure_ascii=False)`, for a value whose floats are finite. -/
def dumps : PyValue F → PyText
  | .null => pyString "null"
  | .bool true => pyString "true"
  | .bool false => pyString "false"
  | .int i => pyString (toString i)
  | .float f => pyString (PyFloat.repr f)
  | .str s => quote s
  | .list xs => .char '[' :: (dumpsItems xs ++ [.char ']'])
  | .dict es => .char '{' :: (dumpsEntries es ++ [.char '}'])

/-- The items of an array. -/
def dumpsItems : List (PyValue F) → PyText
  | [] => []
  | [x] => dumps x
  | x :: y :: xs => dumps x ++ .char ',' :: .char ' ' :: dumpsItems (y :: xs)

/-- The entries of an object. -/
def dumpsEntries : PyObject F → PyText
  | [] => []
  | [(k, v)] => quote k ++ .char ':' :: .char ' ' :: dumps v
  | (k, v) :: e :: es => quote k ++ .char ':' :: .char ' ' ::
    (dumps v ++ .char ',' :: .char ' ' :: dumpsEntries (e :: es))

end

end PyJson

namespace PyValue

variable [PyFloat F]

mutual

/-- The floats of a value are finite, and no object in it has a key twice. -/
def isJson : PyValue F → Bool
  | .float f => PyFloat.isFinite f
  | .list xs => isJsonItems xs
  | .dict es => decide (es.map Prod.fst).Nodup && isJsonEntries es
  | .null => true
  | .bool _ => true
  | .int _ => true
  | .str _ => true

/-- The same of the items of an array. -/
def isJsonItems : List (PyValue F) → Bool
  | [] => true
  | x :: xs => isJson x && isJsonItems xs

/-- The same of the entries of an object. -/
def isJsonEntries : PyObject F → Bool
  | [] => true
  | (_, v) :: es => isJson v && isJsonEntries es

end

end PyValue

/-! ## Guards -/

/-- The characters that stand outside of strings, apart from those of numbers. -/
def structuralChars : List Char := "[]{}:, \"nulltruefalse".toList

/-- A rewriting of the characters of a text that the reader undoes within strings. -/
structure Guard where
  write : PyChar → PyText
  write_ne : ∀ c, write c ≠ []
  outside : ∀ c, c ∈ structuralChars ∨ JsonValue.isNumberChar c = true →
    write (.char c) = [.char c]
  within : ∀ n c rest, readText (n + 1) ((escape c).flatMap write ++ rest) =
    (readText n rest).map fun r => (c :: r.1, r.2)

namespace Guard

variable (g : Guard)

/-- A text with its characters rewritten. -/
def apply (text : PyText) : PyText := text.flatMap g.write

@[simp] lemma apply_nil : g.apply [] = [] := rfl

@[simp] lemma apply_append (s t : PyText) : g.apply (s ++ t) = g.apply s ++ g.apply t :=
  List.flatMap_append

lemma apply_cons {c : Char} (h : c ∈ structuralChars) (s : PyText) :
    g.apply (.char c :: s) = .char c :: g.apply s := by
  rw [apply, List.flatMap_cons, g.outside c (.inl h)]
  rfl

lemma apply_pyText {cs : List Char}
    (h : ∀ c ∈ cs, c ∈ structuralChars ∨ JsonValue.isNumberChar c = true) :
    g.apply (pyText cs) = pyText cs := by
  induction cs with
  | nil => rfl
  | cons c cs ih =>
    rw [List.forall_mem_cons] at h
    rw [pyText_cons, apply, List.flatMap_cons, g.outside c h.1]
    exact congrArg _ (ih h.2)

/-- A word outside of strings. -/
lemma apply_word {cs : List Char} (h : cs.all structuralChars.contains = true) :
    g.apply (pyText cs) = pyText cs := by
  refine g.apply_pyText fun c hc => .inl ?_
  simpa using List.all_eq_true.1 h c hc

/-- A rewritten string is read back. -/
lemma readText_apply (s : PyText) {n : ℕ} (h : s.length < n) (rest : PyText) :
    readText n (g.apply (s.flatMap escape) ++ .char '"' :: rest) = some (s, rest) := by
  induction s generalizing n with
  | nil =>
    obtain ⟨n, rfl⟩ : ∃ k, n = k + 1 := ⟨n - 1, by simp at h; omega⟩
    rfl
  | cons c s ih =>
    rw [List.length_cons] at h
    obtain ⟨n, rfl⟩ : ∃ k, n = k + 1 := ⟨n - 1, by omega⟩
    rw [List.flatMap_cons, apply_append, List.append_assoc, apply, g.within, ih (by omega)]
    rfl

lemma length_le_apply (s : PyText) : s.length ≤ (g.apply (s.flatMap escape)).length := by
  induction s with
  | nil => exact le_rfl
  | cons c s ih =>
    have hc : 0 < (g.apply (escape c)).length := by
      rw [List.length_pos_iff]
      intro hempty
      have hwrite : ∀ d ∈ escape c, g.write d = [] := List.flatMap_eq_nil_iff.1 hempty
      obtain ⟨d, hd⟩ : ∃ d, d ∈ escape c := by
        cases c with
        | surrogate n => exact ⟨_, List.mem_singleton_self _⟩
        | char c =>
          simp only [escape, JsonValue.escape]
          split_ifs <;> exact ⟨_, List.mem_cons_self⟩
      exact g.write_ne d (hwrite d hd)
    rw [List.flatMap_cons, apply_append, List.length_append, List.length_cons]
    omega

/-- A string as it is rewritten. -/
lemma apply_quote (s : PyText) :
    g.apply (PyJson.quote s) = .char '"' :: (g.apply (s.flatMap escape) ++ [.char '"']) := by
  rw [PyJson.quote, apply_cons _ (by decide), apply_append, apply_cons _ (by decide), apply_nil]

/-! ## Guarded texts -/

section

variable [PyFloat F]

/-- The guarded text of a value. -/
def dumps (v : PyValue F) : PyText := g.apply (PyJson.dumps v)

/-- The guarded text of the items of an array. -/
def dumpsItems (xs : List (PyValue F)) : PyText := g.apply (PyJson.dumpsItems xs)

/-- The guarded text of the entries of an object. -/
def dumpsEntries (es : PyObject F) : PyText := g.apply (PyJson.dumpsEntries es)

lemma dumps_int (i : Int) : g.dumps (.int i : PyValue F) = pyText (toString i).toList := by
  rw [dumps, PyJson.dumps, pyString]
  exact g.apply_pyText fun c hc => .inr (isNumberChar_of_mem_toString hc)

lemma dumps_float {f : F} (h : PyFloat.isFinite f = true) :
    g.dumps (.float f) = pyText (PyFloat.repr f).toList := by
  rw [dumps, PyJson.dumps, pyString]
  refine g.apply_pyText fun c hc => .inr ?_
  exact JsonValue.isNumberChar_of_isFloatText (PyFloat.isFloatText_repr f h) c hc

lemma dumps_list (xs : List (PyValue F)) :
    g.dumps (.list xs) = .char '[' :: (g.dumpsItems xs ++ [.char ']']) := by
  rw [dumps, PyJson.dumps, apply_cons _ (by decide), apply_append, apply_cons _ (by decide),
    apply_nil, dumpsItems]

lemma dumps_dict (es : PyObject F) :
    g.dumps (.dict es) = .char '{' :: (g.dumpsEntries es ++ [.char '}']) := by
  rw [dumps, PyJson.dumps, apply_cons _ (by decide), apply_append, apply_cons _ (by decide),
    apply_nil, dumpsEntries]

lemma dumpsItems_cons (x y : PyValue F) (xs : List (PyValue F)) : g.dumpsItems (x :: y :: xs) =
    g.dumps x ++ .char ',' :: .char ' ' :: g.dumpsItems (y :: xs) := by
  rw [dumpsItems, PyJson.dumpsItems, apply_append, apply_cons _ (by decide),
    apply_cons _ (by decide), dumps, dumpsItems]

lemma dumpsEntries_single (k : PyText) (v : PyValue F) : g.dumpsEntries [(k, v)] =
    .char '"' :: (g.apply (k.flatMap escape) ++
      .char '"' :: .char ':' :: .char ' ' :: g.dumps v) := by
  rw [dumpsEntries, PyJson.dumpsEntries, apply_append, apply_quote, apply_cons _ (by decide),
    apply_cons _ (by decide), List.cons_append, List.append_assoc, List.singleton_append, dumps]

lemma dumpsEntries_cons (k : PyText) (v : PyValue F) (e : PyText × PyValue F) (es : PyObject F) :
    g.dumpsEntries ((k, v) :: e :: es) =
      .char '"' :: (g.apply (k.flatMap escape) ++ .char '"' :: .char ':' :: .char ' ' ::
        (g.dumps v ++ .char ',' :: .char ' ' :: g.dumpsEntries (e :: es))) := by
  rw [dumpsEntries, PyJson.dumpsEntries, apply_append, apply_quote, apply_cons _ (by decide),
    apply_cons _ (by decide), apply_append, apply_cons _ (by decide), apply_cons _ (by decide),
    List.cons_append, List.append_assoc, List.singleton_append, dumps, dumpsEntries]

/-- A text of a value begins with a character that is no blank and no closing bracket. -/
lemma head_dumps {v : PyValue F} (h : v.isJson = true) : ∃ c cs, g.dumps v = .char c :: cs ∧
    JsonValue.isJsonBlank c = false ∧ c ≠ ']' := by
  have hnumber : ∀ {cs : List Char} {r : JsonValue × List Char}, JsonValue.readNumber cs = some r →
      ∃ c ds, pyText cs = .char c :: ds ∧ JsonValue.isJsonBlank c = false ∧ c ≠ ']' := by
    intro cs r hr
    obtain ⟨c, ds, rfl, hc⟩ := JsonValue.head_of_readNumber hr
    exact ⟨c, pyText ds, rfl, JsonValue.isJsonBlank_of_startsNumber hc,
      JsonValue.ne_of_startsNumber hc (by decide)⟩
  cases v with
  | null => exact ⟨'n', _, g.apply_word (by decide), by decide, by decide⟩
  | bool b =>
    cases b with
    | true => exact ⟨'t', _, g.apply_word (by decide), by decide, by decide⟩
    | false => exact ⟨'f', _, g.apply_word (by decide), by decide, by decide⟩
  | int i =>
    rw [dumps_int]
    exact hnumber (JsonValue.readNumber_toString i)
  | float f =>
    rw [g.dumps_float h]
    exact hnumber (JsonValue.readNumber_of_isFloatText (PyFloat.isFloatText_repr f h))
  | str s => exact ⟨'"', _, g.apply_quote s, by decide, by decide⟩
  | list xs => exact ⟨'[', _, g.dumps_list xs, by decide, by decide⟩
  | dict es => exact ⟨'{', _, g.dumps_dict es, by decide, by decide⟩

end

/-! ## Reading guarded texts -/

/-- What may follow a value in a text. -/
def Follows (r : PyText) : Prop :=
  ∀ c, r.head? = some c → c = .char ',' ∨ c = .char ']' ∨ c = .char '}'

lemma follows_nil : Follows [] := by
  intro c hc
  cases hc

lemma follows_cons {c : Char} (h : c = ',' ∨ c = ']' ∨ c = '}') (r : PyText) :
    Follows (.char c :: r) := by
  intro d hd
  obtain rfl := Option.some.inj hd
  simpa using h

lemma Follows.endsNumber {r : PyText} (h : Follows r) : endsNumber r := by
  intro c hc
  rcases h _ hc with h | h | h
  · rw [PyChar.char.inj h]
    decide
  · rw [PyChar.char.inj h]
    decide
  · rw [PyChar.char.inj h]
    decide

open PyValue

variable [PyFloat F] {hook : PyObject F → Except ε (PyObject F)}

mutual

/-- A guarded text is read back, with enough fuel and before what may follow a value. -/
lemma readValue_dumps (hhook : ∀ es : PyObject F, (es.map Prod.fst).Nodup → hook es = .ok es) :
    ∀ {v : PyValue F} {n d : ℕ} {r : PyText}, v.isJson = true → 2 * (g.dumps v).length < n →
      Follows r → readValue hook n d (g.dumps v ++ r) = ⟨textAsks (d + 1) v, .ok (v, r)⟩
  | .null, n + 1, d, r, _, _, _ => by
    have hword : g.dumps (.null : PyValue F) = pyText ['n', 'u', 'l', 'l'] :=
      g.apply_word (by decide)
    rw [textAsks_of_leaf rfl, hword]
    rfl
  | .bool true, n + 1, d, r, _, _, _ => by
    have hword : g.dumps (.bool true : PyValue F) = pyText ['t', 'r', 'u', 'e'] :=
      g.apply_word (by decide)
    rw [textAsks_of_leaf rfl, hword]
    rfl
  | .bool false, n + 1, d, r, _, _, _ => by
    have hword : g.dumps (.bool false : PyValue F) = pyText ['f', 'a', 'l', 's', 'e'] :=
      g.apply_word (by decide)
    rw [textAsks_of_leaf rfl, hword]
    rfl
  | .int i, n + 1, d, r, _, _, hr => by
    rw [textAsks_of_leaf rfl, dumps_int]
    exact readValue_of_number hook (JsonValue.readNumber_toString i)
      (fun c hc => isNumberChar_of_mem_toString hc) hr.endsNumber
  | .float f, n + 1, d, r, h, _, hr => by
    have htext := PyFloat.isFloatText_repr f h
    rw [textAsks_of_leaf rfl, g.dumps_float h,
      readValue_of_number hook (JsonValue.readNumber_of_isFloatText htext)
        (JsonValue.isNumberChar_of_isFloatText htext) hr.endsNumber, ofNumber,
      PyFloat.ofText_repr f h]
    rfl
  | .str s, n + 1, d, r, _, hn, _ => by
    have hlength := g.length_le_apply s
    have hquote : g.dumps (.str s : PyValue F) =
        .char '"' :: (g.apply (s.flatMap escape) ++ [.char '"']) := g.apply_quote s
    rw [hquote, List.length_cons, List.length_append] at hn
    rw [textAsks_of_leaf rfl, hquote, List.cons_append, List.append_assoc, List.singleton_append]
    have htext := g.readText_apply s (n := n) (by omega) r
    show (expect (readText n _) >>= _) = _
    rw [htext]
    rfl
  | .list [], n + 1, d, r, _, _, _ => by
    rw [dumps_list]
    rfl
  | .list (x :: xs), n + 1, d, r, h, hn, hr => by
    have hx : x.isJson = true := (Bool.and_eq_true_iff.1 h).1
    rw [dumps_list] at hn ⊢
    rw [List.length_cons, List.length_append, List.length_singleton] at hn
    have hitems := readItems_dumpsItems hhook (x := x) (l := xs) (n := n) (d := d + 1) (r := r) h
      (by omega)
    obtain ⟨c, cs, hcs, hblank, hbracket⟩ := g.head_dumps hx
    have hfirst : ∃ cs, g.dumpsItems (x :: xs) ++ .char ']' :: r = .char c :: cs := by
      cases xs with
      | nil => exact ⟨_, by rw [show g.dumpsItems [x] = g.dumps x from rfl, hcs]; rfl⟩
      | cons y ys => exact ⟨_, by rw [dumpsItems_cons, hcs]; rfl⟩
    obtain ⟨cs', hcs'⟩ := hfirst
    rw [List.cons_append, List.append_assoc, List.singleton_append]
    rw [hcs'] at hitems ⊢
    exact readValue_bracket hook hblank hbracket hitems
  | .dict [], n + 1, d, r, _, _, _ => by
    have hempty : hook [] = .ok [] := hhook [] List.nodup_nil
    rw [dumps_dict]
    show (demand (JsonDemand.reading (d + 1)) >>= fun _ =>
      ofPairs hook [] >>= fun v => pure (v, r)) = _
    rw [ofPairs, hempty]
    rfl
  | .dict ((k, v) :: es), n + 1, d, r, h, hn, hr => by
    obtain ⟨hnodup, hentries⟩ := Bool.and_eq_true_iff.1 h
    rw [dumps_dict] at hn ⊢
    rw [List.length_cons, List.length_append, List.length_singleton] at hn
    have hread := readEntries_dumpsEntries hhook (k := k) (v := v) (l := es) (n := n) (d := d + 1)
      (r := r) hentries (by omega)
    have hfirst : ∃ cs, g.dumpsEntries ((k, v) :: es) ++ .char '}' :: r = .char '"' :: cs := by
      cases es with
      | nil => exact ⟨_, by rw [dumpsEntries_single]; rfl⟩
      | cons e es => exact ⟨_, by rw [dumpsEntries_cons]; rfl⟩
    obtain ⟨cs, hcs⟩ := hfirst
    rw [List.cons_append, List.append_assoc, List.singleton_append]
    rw [hcs] at hread ⊢
    exact readValue_brace hook (hhook _ (of_decide_eq_true hnodup)) hread

lemma readItems_dumpsItems
    (hhook : ∀ es : PyObject F, (es.map Prod.fst).Nodup → hook es = .ok es) :
    ∀ {x : PyValue F} {l : List (PyValue F)} {n d : ℕ} {r : PyText},
      isJsonItems (x :: l) = true → 2 * (g.dumpsItems (x :: l)).length + 1 < n →
        readItems hook n d (g.dumpsItems (x :: l) ++ .char ']' :: r) =
          ⟨(partsOfItems (d + 1) (x :: l)).flatMap readingAsks, .ok (x :: l, r)⟩
  | x, [], n + 1, d, r, h, hn => by
    have hx : x.isJson = true := (Bool.and_eq_true_iff.1 h).1
    rw [show g.dumpsItems [x] = g.dumps x from rfl] at hn ⊢
    have hvalue := readValue_dumps hhook (v := x) (n := n) (d := d) (r := .char ']' :: r) hx
      (by omega) (follows_cons (by simp) r)
    rw [readItems_last hook hvalue, partsOfItems, partsOfItems, List.append_nil, textAsks]
  | x, y :: ys, n + 1, d, r, h, hn => by
    obtain ⟨hx, hxs⟩ := Bool.and_eq_true_iff.1 h
    obtain ⟨c, cs, hcs, hblank, -⟩ := g.head_dumps (v := y) (Bool.and_eq_true_iff.1 hxs).1
    rw [dumpsItems_cons, List.length_append, List.length_cons, List.length_cons] at hn
    have hvalue := readValue_dumps hhook (v := x) (n := n) (d := d)
      (r := .char ',' :: .char ' ' :: (g.dumpsItems (y :: ys) ++ .char ']' :: r)) hx (by omega)
      (follows_cons (by simp) _)
    have hitems := readItems_dumpsItems hhook (x := y) (l := ys) (n := n) (d := d) (r := r) hxs
      (by omega)
    have hskip : skipBlanks (.char ' ' :: (g.dumpsItems (y :: ys) ++ .char ']' :: r)) =
        g.dumpsItems (y :: ys) ++ .char ']' :: r := by
      show skipBlanks (g.dumpsItems (y :: ys) ++ .char ']' :: r) = _
      cases ys with
      | nil =>
        rw [show g.dumpsItems [y] = g.dumps y from rfl, hcs, List.cons_append,
          skipBlanks_cons hblank]
      | cons z zs =>
        rw [dumpsItems_cons, hcs, List.cons_append, List.cons_append, skipBlanks_cons hblank]
    have hparts : (partsOfItems (d + 1) (x :: y :: ys)).flatMap readingAsks =
        textAsks (d + 1) x ++ (partsOfItems (d + 1) (y :: ys)).flatMap readingAsks :=
      List.flatMap_append
    rw [dumpsItems_cons, List.append_assoc, List.cons_append, List.cons_append, hparts,
      readItems_comma hook hvalue (by rw [hskip]; exact hitems)]

lemma readEntries_dumpsEntries
    (hhook : ∀ es : PyObject F, (es.map Prod.fst).Nodup → hook es = .ok es) :
    ∀ {k : PyText} {v : PyValue F} {l : PyObject F} {n d : ℕ} {r : PyText},
      isJsonEntries ((k, v) :: l) = true → 2 * (g.dumpsEntries ((k, v) :: l)).length + 1 < n →
        readEntries hook n d (g.dumpsEntries ((k, v) :: l) ++ .char '}' :: r) =
          ⟨(partsOfEntries (d + 1) ((k, v) :: l)).flatMap readingAsks, .ok ((k, v) :: l, r)⟩
  | k, v, [], n + 1, d, r, h, hn => by
    have hv : v.isJson = true := (Bool.and_eq_true_iff.1 h).1
    have hlength := g.length_le_apply k
    rw [dumpsEntries_single] at hn ⊢
    simp only [List.length_cons, List.length_append] at hn
    have hkey := g.readText_apply k (n := n) (by omega)
      (.char ':' :: .char ' ' :: (g.dumps v ++ .char '}' :: r))
    have hvalue := readValue_dumps hhook (v := v) (n := n) (d := d) (r := .char '}' :: r) hv
      (by omega) (follows_cons (by simp) r)
    obtain ⟨c, cs, hcs, hblank, -⟩ := g.head_dumps hv
    have hskip : skipBlanks (.char ' ' :: (g.dumps v ++ .char '}' :: r)) =
        g.dumps v ++ .char '}' :: r := by
      show skipBlanks (g.dumps v ++ .char '}' :: r) = _
      rw [hcs, List.cons_append, skipBlanks_cons hblank]
    simp only [List.cons_append, List.append_assoc]
    rw [readEntries_last hook hkey (by rw [hskip]; exact hvalue), partsOfEntries, partsOfEntries,
      List.append_nil, textAsks]
  | k, v, (k', v') :: es, n + 1, d, r, h, hn => by
    obtain ⟨hv, hes⟩ := Bool.and_eq_true_iff.1 h
    have hlength := g.length_le_apply k
    rw [dumpsEntries_cons] at hn ⊢
    simp only [List.length_cons, List.length_append] at hn
    have hkey := g.readText_apply k (n := n) (by omega) (.char ':' :: .char ' ' ::
      (g.dumps v ++ .char ',' :: .char ' ' :: (g.dumpsEntries ((k', v') :: es) ++ .char '}' :: r)))
    have hvalue := readValue_dumps hhook (v := v) (n := n) (d := d)
      (r := .char ',' :: .char ' ' :: (g.dumpsEntries ((k', v') :: es) ++ .char '}' :: r)) hv (by omega)
      (follows_cons (by simp) _)
    have hentries := readEntries_dumpsEntries hhook (k := k') (v := v') (l := es) (n := n) (d := d)
      (r := r) hes (by omega)
    obtain ⟨c, cs, hcs, hblank, -⟩ := g.head_dumps hv
    have hskip : skipBlanks (.char ' ' :: (g.dumps v ++ .char ',' :: .char ' ' ::
        (g.dumpsEntries ((k', v') :: es) ++ .char '}' :: r))) =
          g.dumps v ++ .char ',' :: .char ' ' :: (g.dumpsEntries ((k', v') :: es) ++ .char '}' :: r) := by
      show skipBlanks (g.dumps v ++ _) = _
      rw [hcs, List.cons_append, skipBlanks_cons hblank]
    have hskip' : skipBlanks (.char ' ' :: (g.dumpsEntries ((k', v') :: es) ++ .char '}' :: r)) =
        g.dumpsEntries ((k', v') :: es) ++ .char '}' :: r := by
      show skipBlanks (g.dumpsEntries ((k', v') :: es) ++ _) = _
      cases es with
      | nil => rw [dumpsEntries_single, List.cons_append, skipBlanks_cons (by decide)]
      | cons f fs => rw [dumpsEntries_cons, List.cons_append, skipBlanks_cons (by decide)]
    have hparts : (partsOfEntries (d + 1) ((k, v) :: (k', v') :: es)).flatMap readingAsks =
        textAsks (d + 1) v ++ (partsOfEntries (d + 1) ((k', v') :: es)).flatMap readingAsks :=
      List.flatMap_append
    simp only [List.cons_append, List.append_assoc]
    rw [hparts, readEntries_comma hook hkey (by rw [hskip]; exact hvalue)
      (by rw [hskip']; exact hentries)]

end

/-- **Round trip.** The reader reads a value back from its guarded text, and asks for what the
containers and the integers of the value ask for. -/
theorem loads_guarded (hhook : ∀ es : PyObject F, (es.map Prod.fst).Nodup → hook es = .ok es)
    {v : PyValue F} (h : v.isJson = true) :
    loads hook (g.dumps v) = ⟨textAsks 1 v, .ok v⟩ := by
  obtain ⟨c, cs, hcs, hblank, -⟩ := g.head_dumps h
  have hskip : skipBlanks (g.dumps v) = g.dumps v := by
    rw [hcs, skipBlanks_cons hblank]
  have hvalue := g.readValue_dumps hhook (v := v) (n := 2 * (g.dumps v).length + 1) (d := 0)
    (r := []) h (by omega) follows_nil
  rw [List.append_nil] at hvalue
  rw [loads, hskip, hvalue, mk_ok_bind]
  show (⟨_ ++ [], _⟩ : JsonUse ε _) = _
  rw [List.append_nil]
  rfl

end Guard

end Aizim
