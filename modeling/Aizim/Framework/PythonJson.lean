import Mathlib.Algebra.Order.Ring.Rat
import Aizim.Framework.JsonReader
import Aizim.Framework.Metered

/-!
# The JSON decoder of an interpreter

`JsonReader` reads the texts that the program prints.  This file has the decoder as it meets any
text: a string may hold surrogates that stand alone, a number may be too large to be finite, an
object is handed to a hook, and on its way the decoder asks the interpreter for a frame of the stack
for each array or object that it enters and for the digits of each integer.  `loads` is a `Metered`
computation with these demands; an interpreter that refuses one of them makes it raise a
`RecursionError` or a `ValueError` that is no `JSONDecodeError`.

What a float is, is for the interpreter to say (`PyFloat`).

The fuel of the reader never runs out: `readValue_eq_of_fuel` says that any more of it reads the
same.
-/

namespace Aizim

/-! ## Texts -/

/-- A character of a string: a scalar value, or a surrogate that stands alone. -/
inductive PyChar
  | char (c : Char)
  | surrogate (n : Fin 2048)
  deriving DecidableEq

/-- A string. -/
abbrev PyText := List PyChar

/-- A text without surrogates as a string. -/
def pyText (cs : List Char) : PyText := cs.map PyChar.char

/-- A string of the program. -/
def pyString (s : String) : PyText := pyText s.toList

/-- The characters of a string without surrogates. -/
def plainChars? : PyText → Option (List Char)
  | [] => some []
  | .char c :: cs => (c :: ·) <$> plainChars? cs
  | .surrogate _ :: _ => none

@[simp] lemma plainChars?_pyText (cs : List Char) : plainChars? (pyText cs) = some cs := by
  induction cs with
  | nil => rfl
  | cons c cs ih =>
    rw [pyText, List.map_cons, plainChars?]
    show (c :: ·) <$> plainChars? (pyText cs) = some (c :: cs)
    rw [ih]
    rfl

lemma pyText_of_plainChars? {s : PyText} {cs : List Char} (h : plainChars? s = some cs) :
    pyText cs = s := by
  induction s generalizing cs with
  | nil =>
    obtain rfl := Option.some.inj h
    rfl
  | cons c s ih =>
    cases c with
    | surrogate n => cases h
    | char c =>
      simp only [plainChars?, Option.map_eq_map, Option.map_eq_some_iff] at h
      obtain ⟨cs, hcs, rfl⟩ := h
      rw [pyText, List.map_cons, ← ih hcs, pyText]

/-! ## Values -/

/-- The floats of an interpreter. -/
class PyFloat (F : Type) where
  /-- `float(text)` -/
  ofText : String → F
  nan : F
  infinity : F
  negInfinity : F
  /-- `math.isfinite(value)` -/
  isFinite : F → Bool
  /-- `repr(value)` -/
  repr : F → String
  isFloatText_repr : ∀ f, isFinite f = true → JsonValue.isFloatText (repr f) = true
  ofText_repr : ∀ f, isFinite f = true → ofText (repr f) = f

/-- A float as the text that it prints as, and nothing for a float that is not finite. -/
abbrev TextFloat := Option {t : String // JsonValue.isFloatText t = true}

/-- The floats of an interpreter that keeps the digits it has read. -/
instance : PyFloat TextFloat where
  ofText t := if h : JsonValue.isFloatText t = true then some ⟨t, h⟩ else none
  nan := none
  infinity := none
  negInfinity := none
  isFinite f := f.isSome
  repr f := (f.map Subtype.val).getD "nan"
  isFloatText_repr f h := by
    obtain ⟨t, rfl⟩ := Option.isSome_iff_exists.mp h
    exact t.property
  ofText_repr f h := by
    obtain ⟨t, rfl⟩ := Option.isSome_iff_exists.mp h
    exact dif_pos t.property

/-- The exact values of the finite floats. -/
class PyFloatValue (F : Type) where
  value : F → ℚ

/-- The number that a text with a fraction or an exponent writes. -/
def decimalValue (t : String) : ℚ :=
  let negative := t.toList.head? == some '-'
  let (digits, rest) := JsonValue.spanDigits (if negative then t.toList.tail else t.toList)
  let (fraction, rest) := JsonValue.readFraction rest
  let power : Int := match (JsonValue.readExponent rest).1 with
    | _ :: '-' :: exponent => -(JsonValue.digitsValue exponent : Int)
    | _ :: '+' :: exponent => JsonValue.digitsValue exponent
    | _ :: exponent => JsonValue.digitsValue exponent
    | [] => 0
  let magnitude : ℚ := JsonValue.digitsValue (digits ++ fraction.tail) *
    (10 : ℚ) ^ (power - (fraction.tail.length : Int))
  if negative then -magnitude else magnitude

instance : PyFloatValue TextFloat where
  value f := (f.map fun t => decimalValue t.val).getD 0

/-- A value that the decoder returns. -/
inductive PyValue (F : Type)
  | null
  | bool (value : Bool)
  | int (value : Int)
  | float (value : F)
  | str (value : PyText)
  | list (items : List (PyValue F))
  | dict (entries : List (PyText × PyValue F))

/-- The entries of a dictionary, in insertion order. -/
abbrev PyObject (F : Type) := List (PyText × PyValue F)

/-- `o.get(key)` -/
def PyObject.get? {F : Type} (o : PyObject F) (key : PyText) : Option (PyValue F) :=
  (o.find? fun e => e.1 = key).map Prod.snd

/-- `o.keys() == keys` -/
def PyObject.hasKeys {F : Type} (o : PyObject F) (keys : List String) : Bool :=
  (o.all fun e => (keys.map pyString).contains e.1) &&
    keys.all fun key => (o.map Prod.fst).contains (pyString key)

/-- `o[key] = value` -/
def PyObject.set {F : Type} (key : PyText) (value : PyValue F) : PyObject F → PyObject F
  | [] => [(key, value)]
  | (k, v) :: o => if k = key then (k, value) :: o else (k, v) :: PyObject.set key value o

/-- `dict(pairs)` -/
def pyDict {F : Type} (pairs : PyObject F) : PyObject F :=
  pairs.foldl (fun o e => PyObject.set e.1 e.2 o) []

/-! ## Exceptions and demands -/

/-- The exceptions that the library raises, and those of the program. -/
inductive PyFault (ε : Type)
  /-- `UnicodeDecodeError` -/
  | unicode
  /-- `json.JSONDecodeError` -/
  | decode
  /-- Any other `ValueError` -/
  | value
  /-- `TypeError` -/
  | type
  /-- `RecursionError` -/
  | recursion
  /-- `OverflowError` -/
  | overflow
  | raised (fault : ε)
  deriving DecidableEq

/-- What the library asks of the interpreter. -/
inductive JsonDemand
  /-- The frame in which the decoder reads an array or an object that lies this deep. -/
  | reading (depth : ℕ)
  /-- The frame in which `_canonicalize` visits a value that lies this deep. -/
  | visiting (depth : ℕ)
  /-- The frame in which the encoder prints an array or an object that lies this deep. -/
  | printing (depth : ℕ)
  /-- An integer of this many digits. -/
  | digits (count : ℕ)
  deriving DecidableEq

/-- The exception that a refused demand raises. -/
def JsonDemand.refusal {ε : Type} : JsonDemand → PyFault ε
  | digits _ => .value
  | _ => .recursion

/-- A use of the library. -/
abbrev JsonUse (ε : Type) := Metered JsonDemand (PyFault ε)

/-- How many digits an integer has. -/
def digitCount (i : Int) : ℕ := (Nat.toDigits 10 i.natAbs).length

namespace PyJson

open Metered

variable {ε F : Type}

/-- The value of an option, or a `JSONDecodeError`. -/
def expect {α : Type} (o : Option α) : JsonUse ε α := lift (orThrow o .decode)

/-! ## Tokens -/

/-- A blank between two tokens. -/
def isBlank : PyChar → Bool
  | .char c => JsonValue.isJsonBlank c
  | .surrogate _ => false

/-- The text after the blanks at its start. -/
def skipBlanks (cs : PyText) : PyText := cs.dropWhile isBlank

/-- The four hexadecimal digits of an escape, and the text after them. -/
def readUnit : PyText → Option (ℕ × PyText)
  | .char a :: .char b :: .char c :: .char d :: cs =>
    (JsonValue.readUnit [a, b, c, d]).map fun r => (r.1, cs)
  | _ => none

/-- The character with the code of an escape. -/
def unitChar (n : ℕ) : PyChar :=
  if h : 0xd800 ≤ n ∧ n < 0xe000 then .surrogate ⟨n - 0xd800, by omega⟩ else .char (Char.ofNat n)

/-- The second half of a surrogate pair, joined to its first. -/
def joinSurrogates (high : ℕ) : PyText → Option (PyChar × PyText)
  | .char '\\' :: .char 'u' :: rest => do
    let (low, rest) ← readUnit rest
    if 0xdc00 ≤ low ∧ low < 0xe000 then
      pure (.char (Char.ofNat (0x10000 + (high - 0xd800) * 1024 + (low - 0xdc00))), rest)
    else none
  | _ => none

/-- The character of an escape `\u`: a high surrogate takes the low one that follows it, and stands
alone if none does. -/
def readUnicode (cs : PyText) : Option (PyChar × PyText) := do
  let (n, rest) ← readUnit cs
  if 0xd800 ≤ n ∧ n < 0xdc00 then
    pure ((joinSurrogates n rest).getD (unitChar n, rest))
  else pure (unitChar n, rest)

/-- The character of an escape, from the character after the backslash. -/
def readEscape : PyText → Option (PyChar × PyText)
  | .char c :: cs =>
    if c == 'u' then readUnicode cs
    else (JsonValue.readEscape [c]).map fun r => (.char r.1, cs)
  | _ => none

/-- The characters of a string up to its closing quote, and the text after it. -/
def readText : ℕ → PyText → Option (PyText × PyText)
  | n + 1, .surrogate s :: cs => (readText n cs).map fun r => (.surrogate s :: r.1, r.2)
  | n + 1, .char c :: cs =>
    if c == '"' then some ([], cs)
    else if c == '\\' then
      (readEscape cs).bind fun e => (readText n e.2).map fun r => (e.1 :: r.1, r.2)
    else if c.toNat < 32 then none
    else (readText n cs).map fun r => (.char c :: r.1, r.2)
  | _, _ => none

/-- The characters at the start of a text that may be part of a number, and the text after them. -/
def spanNumber : PyText → List Char × PyText
  | .char c :: cs =>
    if JsonValue.isNumberChar c then (c :: (spanNumber cs).1, (spanNumber cs).2)
    else ([], .char c :: cs)
  | cs => ([], cs)

/-- A number at the start of a text, and the text after it. -/
def readNumber (cs : PyText) : Option (JsonValue × PyText) :=
  (JsonValue.readNumber (spanNumber cs).1).map fun r => (r.1, pyText r.2 ++ (spanNumber cs).2)

/-- The value of a name, if the text starts with it. -/
def readName (name : String) (v : PyValue F) (cs : PyText) : Option (PyValue F × PyText) :=
  if (pyText name.toList).isPrefixOf cs then some (v, cs.drop name.toList.length) else none

variable [PyFloat F]

/-- The names of constants. -/
def readConstant (cs : PyText) : Option (PyValue F × PyText) :=
  (readName "null" .null cs).or <| (readName "true" (.bool true) cs).or <|
    (readName "false" (.bool false) cs).or <| (readName "NaN" (.float PyFloat.nan) cs).or <|
    (readName "Infinity" (.float PyFloat.infinity) cs).or <|
    readName "-Infinity" (.float PyFloat.negInfinity) cs

/-- The value of a number. -/
def ofNumber : JsonValue → JsonUse ε (PyValue F)
  | .int i => do
    demand (.digits (digitCount i))
    pure (.int i)
  | .float t => pure (.float (PyFloat.ofText t))
  | _ => fail .decode

/-- A number, or one of the names of constants. -/
def readScalar (cs : PyText) : JsonUse ε (PyValue F × PyText) :=
  match readNumber cs with
  | some (number, rest) => do
    let v ← ofNumber number
    pure (v, rest)
  | none => expect (readConstant cs)

/-! ## Reading -/

section

-- The hook is `object_pairs_hook`, which `dict` takes the place of where none is given.
variable (hook : PyObject F → Except ε (PyObject F))

/-- The object that the hook makes of its entries. -/
def ofPairs (pairs : PyObject F) : JsonUse ε (PyValue F) :=
  lift (PyValue.dict <$> (hook pairs).mapError PyFault.raised)

mutual

/-- A value at the start of a text, and the text after it. -/
def readValue : ℕ → ℕ → PyText → JsonUse ε (PyValue F × PyText)
  | n + 1, d, .char c :: cs =>
    if c == '"' then do
      let (s, rest) ← expect (readText n cs)
      pure (.str s, rest)
    else if c == '{' then do
      demand (.reading (d + 1))
      if (skipBlanks cs).head? = some (.char '}') then do
        let v ← ofPairs hook []
        pure (v, (skipBlanks cs).tail)
      else do
        let (pairs, rest) ← readEntries n (d + 1) (skipBlanks cs)
        let v ← ofPairs hook pairs
        pure (v, rest)
    else if c == '[' then do
      demand (.reading (d + 1))
      if (skipBlanks cs).head? = some (.char ']') then pure (.list [], (skipBlanks cs).tail)
      else do
        let (items, rest) ← readItems n (d + 1) (skipBlanks cs)
        pure (.list items, rest)
    else readScalar (.char c :: cs)
  | _, _, _ => fail .decode

/-- The items of an array up to its closing bracket, and the text after it. -/
def readItems : ℕ → ℕ → PyText → JsonUse ε (List (PyValue F) × PyText)
  | n + 1, d, cs => do
    let (x, rest) ← readValue n d cs
    match skipBlanks rest with
    | .char ',' :: rest => do
      let (xs, rest) ← readItems n d (skipBlanks rest)
      pure (x :: xs, rest)
    | .char ']' :: rest => pure ([x], rest)
    | _ => fail .decode
  | 0, _, _ => fail .decode

/-- The entries of an object up to its closing brace, and the text after it. -/
def readEntries : ℕ → ℕ → PyText → JsonUse ε (PyObject F × PyText)
  | n + 1, d, c :: cs =>
    if c = .char '"' then do
      let (k, rest) ← expect (readText n cs)
      match skipBlanks rest with
      | .char ':' :: rest => do
        let (v, rest) ← readValue n d (skipBlanks rest)
        match skipBlanks rest with
        | .char ',' :: rest => do
          let (es, rest) ← readEntries n d (skipBlanks rest)
          pure ((k, v) :: es, rest)
        | .char '}' :: rest => pure ([(k, v)], rest)
        | _ => fail .decode
      | _ => fail .decode
    else fail .decode
  | _, _, _ => fail .decode

end

/-- `json.loads(text, object_pairs_hook=hook)`.  A text that starts with a byte order mark is no
value, so the reader refuses it as the function does that looks for the mark first. -/
def loads (text : PyText) : JsonUse ε (PyValue F) := do
  let (v, rest) ← readValue hook (2 * text.length + 1) 0 (skipBlanks text)
  if skipBlanks rest = [] then pure v else fail .decode

end


/-! ## What is left to read -/

lemma length_skipBlanks_le (cs : PyText) : (skipBlanks cs).length ≤ cs.length :=
  (List.dropWhile_suffix _).length_le

lemma length_of_readUnit {cs rest : PyText} {n : ℕ} (h : readUnit cs = some (n, rest)) :
    rest.length < cs.length := by
  unfold readUnit at h
  split at h
  · simp only [Option.map_eq_some_iff, Prod.mk.injEq] at h
    obtain ⟨-, -, -, rfl⟩ := h
    simp only [List.length_cons]
    omega
  · cases h

lemma length_of_joinSurrogates {high : ℕ} {cs rest : PyText} {c : PyChar}
    (h : joinSurrogates high cs = some (c, rest)) : rest.length < cs.length := by
  unfold joinSurrogates at h
  split at h
  · simp only [Option.bind_eq_bind, Option.bind_eq_some_iff, Option.pure_def] at h
    obtain ⟨⟨low, rest'⟩, hunit, h⟩ := h
    have hlength := length_of_readUnit hunit
    split_ifs at h
    · obtain ⟨-, rfl⟩ := Prod.mk.inj (Option.some.inj h)
      simp only [List.length_cons]
      omega
  · cases h

lemma length_of_readEscape {cs rest : PyText} {c : PyChar} (h : readEscape cs = some (c, rest)) :
    rest.length < cs.length := by
  unfold readEscape at h
  split at h
  · rename_i a cs
    rw [List.length_cons]
    split_ifs at h
    · simp only [readUnicode, Option.bind_eq_bind, Option.bind_eq_some_iff, Option.pure_def] at h
      obtain ⟨⟨n, rest'⟩, hunit, h⟩ := h
      have hlength := length_of_readUnit hunit
      split_ifs at h
      · cases hjoin : joinSurrogates n rest' with
        | none =>
          rw [hjoin] at h
          obtain ⟨-, rfl⟩ := Prod.mk.inj (Option.some.inj h)
          exact lt_trans hlength (Nat.lt_succ_self _)
        | some r =>
          rw [hjoin] at h
          obtain rfl := Option.some.inj h
          have hjoined := length_of_joinSurrogates hjoin
          omega
      · obtain ⟨-, rfl⟩ := Prod.mk.inj (Option.some.inj h)
        exact lt_trans hlength (Nat.lt_succ_self _)
    · simp only [Option.map_eq_some_iff, Prod.mk.injEq] at h
      obtain ⟨-, -, -, rfl⟩ := h
      omega
  · cases h

lemma length_of_readText {n : ℕ} {cs s rest : PyText} (h : readText n cs = some (s, rest)) :
    rest.length < cs.length := by
  induction n generalizing cs s rest with
  | zero => simp [readText] at h
  | succ n ih =>
    cases cs with
    | nil => simp [readText] at h
    | cons c cs =>
      rw [List.length_cons]
      cases c with
      | surrogate k =>
        simp only [readText, Option.map_eq_some_iff, Prod.mk.injEq] at h
        obtain ⟨⟨s', rest'⟩, hrest, -, rfl⟩ := h
        exact lt_trans (ih hrest) (Nat.lt_succ_self _)
      | char c =>
        simp only [readText] at h
        split_ifs at h
        · obtain ⟨-, rfl⟩ := Prod.mk.inj (Option.some.inj h)
          omega
        · simp only [Option.bind_eq_some_iff, Option.map_eq_some_iff, Prod.mk.injEq] at h
          obtain ⟨⟨c', tail⟩, hescape, ⟨s', rest'⟩, hrest, -, rfl⟩ := h
          have htail := length_of_readEscape hescape
          have htext : rest'.length < tail.length := ih hrest
          show rest'.length < cs.length + 1
          omega
        · simp only [Option.map_eq_some_iff, Prod.mk.injEq] at h
          obtain ⟨⟨s', rest'⟩, hrest, -, rfl⟩ := h
          exact lt_trans (ih hrest) (Nat.lt_succ_self _)

/-- A string is read with any fuel that is more than the text is long. -/
lemma readText_eq_of_fuel {n m : ℕ} {cs : PyText} (hn : cs.length < n) (hm : cs.length < m) :
    readText n cs = readText m cs := by
  induction n generalizing m cs with
  | zero => omega
  | succ n ih =>
    obtain ⟨m, rfl⟩ : ∃ k, m = k + 1 := ⟨m - 1, by omega⟩
    cases cs with
    | nil => simp [readText]
    | cons c cs =>
      rw [List.length_cons] at hn hm
      have hrest : readText n cs = readText m cs := ih (by omega) (by omega)
      cases c with
      | surrogate k => simp only [readText, hrest]
      | char c =>
        have hescape : ((readEscape cs).bind fun e => (readText n e.2).map fun r =>
            (e.1 :: r.1, r.2)) = (readEscape cs).bind fun e => (readText m e.2).map fun r =>
            (e.1 :: r.1, r.2) := by
          cases h : readEscape cs with
          | none => rfl
          | some e =>
            obtain ⟨x, tail⟩ := e
            have hlength := length_of_readEscape h
            have htext : readText n tail = readText m tail := ih (by omega) (by omega)
            rw [Option.bind_some, Option.bind_some, htext]
        simp only [readText, hrest, hescape]

lemma length_spanNumber (cs : PyText) :
    (spanNumber cs).1.length + (spanNumber cs).2.length = cs.length := by
  induction cs with
  | nil => rfl
  | cons c cs ih =>
    cases c with
    | surrogate n => simp [spanNumber]
    | char c =>
      unfold spanNumber
      split_ifs
      · simp only [List.length_cons]
        omega
      · simp


lemma length_of_readNatural {cs digits rest : List Char}
    (h : JsonValue.readNatural cs = some (digits, rest)) : rest.length < cs.length := by
  cases cs with
  | nil => cases h
  | cons c cs =>
    simp only [JsonValue.readNatural] at h
    split_ifs at h with hzero hdigit
    · obtain ⟨-, rfl⟩ := Prod.mk.inj (Option.some.inj h)
      exact Nat.lt_succ_self _
    · obtain ⟨-, rfl⟩ := Prod.mk.inj (Option.some.inj h)
      rw [List.dropWhile_cons_of_pos hdigit, List.length_cons]
      have hdrop := (List.dropWhile_suffix (l := cs) isAsciiDigit).length_le
      omega

lemma length_readFraction_le (cs : List Char) :
    (JsonValue.readFraction cs).2.length ≤ cs.length := by
  unfold JsonValue.readFraction
  split
  · rename_i cs
    have hdrop := (List.dropWhile_suffix (l := cs) isAsciiDigit).length_le
    by_cases hdigits : (cs.takeWhile isAsciiDigit).isEmpty = true
    · simp [JsonValue.spanDigits, hdigits]
    · simp only [JsonValue.spanDigits, hdigits, Bool.false_eq_true, if_false, List.length_cons]
      omega
  · exact Nat.le_refl _

lemma length_readExponent_le (cs : List Char) :
    (JsonValue.readExponent cs).2.length ≤ cs.length := by
  unfold JsonValue.readExponent
  split
  · exact Nat.le_refl _
  · rename_i e cs
    by_cases hletter : (e == 'e' || e == 'E') = true
    · rw [if_pos hletter]
      generalize hsign : (List.filter (fun c => c == '-' || c == '+') (cs.take 1)) = sign
      have hdrop := (List.dropWhile_suffix (l := cs.drop sign.length) isAsciiDigit).length_le
      rw [List.length_drop] at hdrop
      by_cases hdigits : ((cs.drop sign.length).takeWhile isAsciiDigit).isEmpty = true
      · simp [JsonValue.spanDigits, hdigits]
      · simp only [JsonValue.spanDigits, hdigits, Bool.false_eq_true, if_false, List.length_cons]
        omega
    · rw [if_neg hletter]

lemma length_of_readNumber {cs rest : PyText} {v : JsonValue}
    (h : readNumber cs = some (v, rest)) : rest.length < cs.length := by
  simp only [readNumber, Option.map_eq_some_iff, Prod.mk.injEq] at h
  obtain ⟨⟨number, r⟩, hnumber, -, rfl⟩ := h
  have hspan := length_spanNumber cs
  have hread : r.length < (spanNumber cs).1.length := by
    simp only [JsonValue.readNumber, Option.bind_eq_bind, Option.bind_eq_some_iff] at hnumber
    obtain ⟨⟨digits, tail⟩, hnatural, hnumber⟩ := hnumber
    have htail := length_of_readNatural hnatural
    have hsign : (if (spanNumber cs).1.head? == some '-' then (spanNumber cs).1.tail
        else (spanNumber cs).1).length ≤ (spanNumber cs).1.length := by
      split_ifs <;> simp
    have hfraction := length_readFraction_le tail
    have hexponent := length_readExponent_le (JsonValue.readFraction tail).2
    have hr : r = (JsonValue.readExponent (JsonValue.readFraction tail).2).2 := by
      split_ifs at hnumber <;>
        exact (Prod.mk.inj (Option.some.inj hnumber)).2.symm
    rw [hr]
    omega
  rw [List.length_append, pyText, List.length_map]
  show r.length + (spanNumber cs).2.length < cs.length
  omega

omit [PyFloat F] in
lemma length_of_readName {name : String} {v w : PyValue F} {cs rest : PyText}
    (hname : name.toList ≠ []) (h : readName name v cs = some (w, rest)) :
    rest.length < cs.length := by
  unfold readName at h
  split_ifs at h with hprefix
  obtain ⟨-, rfl⟩ := Prod.mk.inj (Option.some.inj h)
  have hlength := (List.isPrefixOf_iff_prefix.mp hprefix).length_le
  have hpos : 0 < name.toList.length := List.length_pos_iff.mpr hname
  rw [pyText, List.length_map] at hlength
  rw [List.length_drop]
  omega

lemma length_of_readConstant {cs rest : PyText} {v : PyValue F}
    (h : readConstant cs = some (v, rest)) : rest.length < cs.length := by
  simp only [readConstant, Option.or_eq_some_iff] at h
  rcases h with h | ⟨-, h | ⟨-, h | ⟨-, h | ⟨-, h | ⟨-, h⟩⟩⟩⟩⟩ <;>
    exact length_of_readName (by decide) h

/-- What a successful reading leaves is shorter than what it read. -/
def Shortens {α : Type} (cs : PyText) (x : JsonUse ε (α × PyText)) : Prop :=
  ∀ r, x.outcome = .ok r → r.2.length < cs.length

omit [PyFloat F] in
lemma outcome_expect {α : Type} {o : Option α} {a : α} :
    (expect o : JsonUse ε α).outcome = .ok a ↔ o = some a := by
  simp only [expect, lift, orThrow_eq_ok]

omit [PyFloat F] in
lemma shortens_fail {α : Type} (cs : PyText) (fault : PyFault ε) :
    Shortens cs (fail fault : JsonUse ε (α × PyText)) := by
  intro r h
  cases h

lemma shortens_readScalar (cs : PyText) :
    Shortens cs (readScalar cs : JsonUse ε (PyValue F × PyText)) := by
  rintro ⟨v, rest⟩ h
  unfold readScalar at h
  split at h
  · rename_i number rest' hnumber
    simp only [outcome_bind_eq_ok] at h
    obtain ⟨w, -, h⟩ := h
    obtain ⟨-, rfl⟩ := Prod.mk.inj (Except.ok.inj h)
    exact length_of_readNumber hnumber
  · exact length_of_readConstant (outcome_expect.mp h)

section

variable (hook : PyObject F → Except ε (PyObject F))

/-- What a reading with the fuel `n` leaves is shorter than what it read. -/
lemma shortens_read (n : ℕ) :
    (∀ d cs, Shortens cs (readValue hook n d cs)) ∧ (∀ d cs, Shortens cs (readItems hook n d cs)) ∧
      ∀ d cs, Shortens cs (readEntries hook n d cs) := by
  induction n with
  | zero =>
    refine ⟨fun d cs => ?_, fun d cs => ?_, fun d cs => ?_⟩
    · exact shortens_fail cs _
    · exact shortens_fail cs _
    · exact shortens_fail cs _
  | succ n ih =>
    obtain ⟨hvalue, hitems, hentries⟩ := ih
    refine ⟨fun d cs => ?_, fun d cs => ?_, fun d cs => ?_⟩
    · match cs with
      | [] => exact shortens_fail _ _
      | .surrogate s :: cs => exact shortens_fail _ _
      | .char c :: cs =>
        rintro ⟨v, rest⟩ h
        have hskip := length_skipBlanks_le cs
        rw [List.length_cons]
        unfold readValue at h
        split_ifs at h with hquote hbrace hclosed hbracket hclosed
        · simp only [outcome_bind_eq_ok, outcome_expect] at h
          obtain ⟨⟨s, rest'⟩, htext, h⟩ := h
          obtain ⟨-, rfl⟩ := Prod.mk.inj (Except.ok.inj h)
          have hlength := length_of_readText htext
          exact lt_trans hlength (Nat.lt_succ_self _)
        · simp only [outcome_bind_eq_ok] at h
          obtain ⟨-, -, w, -, h⟩ := h
          obtain ⟨-, rfl⟩ := Prod.mk.inj (Except.ok.inj h)
          show (skipBlanks cs).tail.length < cs.length + 1
          rw [List.length_tail]
          omega
        · simp only [outcome_bind_eq_ok] at h
          obtain ⟨-, -, ⟨pairs, rest'⟩, hpairs, w, -, h⟩ := h
          obtain ⟨-, rfl⟩ := Prod.mk.inj (Except.ok.inj h)
          have hlength : rest'.length < (skipBlanks cs).length := hentries _ _ _ hpairs
          show rest'.length < cs.length + 1
          omega
        · simp only [outcome_bind_eq_ok] at h
          obtain ⟨-, -, h⟩ := h
          obtain ⟨-, rfl⟩ := Prod.mk.inj (Except.ok.inj h)
          show (skipBlanks cs).tail.length < cs.length + 1
          rw [List.length_tail]
          omega
        · simp only [outcome_bind_eq_ok] at h
          obtain ⟨-, -, ⟨items, rest'⟩, hread, h⟩ := h
          obtain ⟨-, rfl⟩ := Prod.mk.inj (Except.ok.inj h)
          have hlength : rest'.length < (skipBlanks cs).length := hitems _ _ _ hread
          show rest'.length < cs.length + 1
          omega
        · exact shortens_readScalar _ _ h
    · rintro ⟨xs, rest⟩ h
      simp only [readItems, outcome_bind_eq_ok] at h
      obtain ⟨⟨x, tail⟩, hx, h⟩ := h
      have htail : tail.length < cs.length := hvalue d cs _ hx
      have hskip := length_skipBlanks_le tail
      split at h
      · rename_i rest' hcomma
        simp only [outcome_bind_eq_ok] at h
        obtain ⟨⟨ys, rest''⟩, hys, h⟩ := h
        obtain ⟨-, rfl⟩ := Prod.mk.inj (Except.ok.inj h)
        have hrest : rest''.length < (skipBlanks rest').length := hitems _ _ _ hys
        have hskip' := length_skipBlanks_le rest'
        rw [hcomma, List.length_cons] at hskip
        show rest''.length < cs.length
        omega
      · rename_i rest' hclose
        obtain ⟨-, rfl⟩ := Prod.mk.inj (Except.ok.inj h)
        rw [hclose, List.length_cons] at hskip
        show rest'.length < cs.length
        omega
      · cases h
    · match cs with
      | [] => exact shortens_fail _ _
      | c :: cs =>
        rintro ⟨es, rest⟩ h
        rw [List.length_cons]
        unfold readEntries at h
        split_ifs at h
        · simp only [outcome_bind_eq_ok, outcome_expect] at h
          obtain ⟨⟨k, colon⟩, htext, h⟩ := h
          have hcolon : colon.length < cs.length := length_of_readText htext
          have hskip := length_skipBlanks_le colon
          split at h
          · rename_i afterColon heq
            rw [heq, List.length_cons] at hskip
            have hskip' := length_skipBlanks_le afterColon
            simp only [outcome_bind_eq_ok] at h
            obtain ⟨⟨v, tail⟩, hv, h⟩ := h
            have htail : tail.length < (skipBlanks afterColon).length := hvalue _ _ _ hv
            have hskipTail := length_skipBlanks_le tail
            split at h
            · rename_i afterComma hcomma
              rw [hcomma, List.length_cons] at hskipTail
              have hskipComma := length_skipBlanks_le afterComma
              simp only [outcome_bind_eq_ok] at h
              obtain ⟨⟨fs, rest'⟩, hfs, h⟩ := h
              obtain ⟨-, rfl⟩ := Prod.mk.inj (Except.ok.inj h)
              have hrest : rest'.length < (skipBlanks afterComma).length := hentries _ _ _ hfs
              show rest'.length < cs.length + 1
              omega
            · rename_i rest' hclose
              obtain ⟨-, rfl⟩ := Prod.mk.inj (Except.ok.inj h)
              rw [hclose, List.length_cons] at hskipTail
              show rest'.length < cs.length + 1
              omega
            · cases h
          · cases h
        · cases h

/-- More fuel than the text is long reads the same. -/
lemma read_eq_of_fuel (n : ℕ) :
    (∀ m d cs, 2 * cs.length + 1 ≤ n → 2 * cs.length + 1 ≤ m →
      readValue hook n d cs = readValue hook m d cs) ∧
    (∀ m d cs, 2 * cs.length + 2 ≤ n → 2 * cs.length + 2 ≤ m →
      readItems hook n d cs = readItems hook m d cs) ∧
    ∀ m d cs, 2 * cs.length + 2 ≤ n → 2 * cs.length + 2 ≤ m →
      readEntries hook n d cs = readEntries hook m d cs := by
  induction n with
  | zero => refine ⟨?_, ?_, ?_⟩ <;> (intros; omega)
  | succ n ih =>
    obtain ⟨hvalue, hitems, hentries⟩ := ih
    refine ⟨fun m d cs hn hm => ?_, fun m d cs hn hm => ?_, fun m d cs hn hm => ?_⟩
    · obtain ⟨m, rfl⟩ : ∃ k, m = k + 1 := ⟨m - 1, by omega⟩
      match cs with
      | [] => rfl
      | .surrogate s :: cs => rfl
      | .char c :: cs =>
        rw [List.length_cons] at hn hm
        have hskip := length_skipBlanks_le cs
        have htext : readText n cs = readText m cs := readText_eq_of_fuel (by omega) (by omega)
        have hpairs := hentries m (d + 1) (skipBlanks cs) (by omega) (by omega)
        have hlist := hitems m (d + 1) (skipBlanks cs) (by omega) (by omega)
        simp only [readValue, htext, hpairs, hlist]
    · obtain ⟨m, rfl⟩ : ∃ k, m = k + 1 := ⟨m - 1, by omega⟩
      have hhead := hvalue m d cs (by omega) (by omega)
      simp only [readItems, hhead]
      refine bind_congr fun r hr => ?_
      have hlength := (shortens_read hook m).1 d cs r hr
      have hskip := length_skipBlanks_le r.2
      split
      · rename_i rest hcomma
        have hskip' := length_skipBlanks_le rest
        rw [hcomma, List.length_cons] at hskip
        rw [hitems m d (skipBlanks rest) (by omega) (by omega)]
      · rfl
      · rfl
    · obtain ⟨m, rfl⟩ : ∃ k, m = k + 1 := ⟨m - 1, by omega⟩
      match cs with
      | [] => rfl
      | c :: cs =>
        rw [List.length_cons] at hn hm
        have htext : readText n cs = readText m cs := readText_eq_of_fuel (by omega) (by omega)
        simp only [readEntries, htext]
        split_ifs
        · refine bind_congr fun r hr => ?_
          have hlength := length_of_readText (outcome_expect.mp hr)
          have hskip := length_skipBlanks_le r.2
          split
          · rename_i afterColon hcolon
            have hskipColon := length_skipBlanks_le afterColon
            rw [hcolon, List.length_cons] at hskip
            rw [hvalue m d (skipBlanks afterColon) (by omega) (by omega)]
            refine bind_congr fun e he => ?_
            have hlength' := (shortens_read hook m).1 d _ e he
            have hskipTail := length_skipBlanks_le e.2
            split
            · rename_i afterComma hcomma
              have hskipComma := length_skipBlanks_le afterComma
              rw [hcomma, List.length_cons] at hskipTail
              rw [hentries m d (skipBlanks afterComma) (by omega) (by omega)]
            · rfl
            · rfl
          · rfl
        · rfl

/-- The fuel of `loads` never runs out: any more of it reads the same. -/
theorem readValue_eq_of_fuel {n m : ℕ} (d : ℕ) {cs : PyText} (hn : 2 * cs.length + 1 ≤ n)
    (hm : 2 * cs.length + 1 ≤ m) : readValue hook n d cs = readValue hook m d cs :=
  (read_eq_of_fuel hook n).1 m d cs hn hm

/-! ## Exceptions -/

variable {hook} {faults : List (PyFault ε)}

omit [PyFloat F] in
lemma raises_fail {α : Type} : Raises (.decode :: faults)
    (fail .decode : JsonUse ε α).outcome := by
  rintro fault ⟨⟩
  exact List.mem_cons_self

omit [PyFloat F] in
lemma raises_expect {α : Type} (o : Option α) :
    Raises (.decode :: faults) (expect o : JsonUse ε α).outcome :=
  raises_orThrow fun _ => List.mem_cons_self

lemma raises_readScalar (cs : PyText) : Raises (.decode :: faults)
    (readScalar cs : JsonUse ε (PyValue F × PyText)).outcome := by
  unfold readScalar
  split
  · rename_i number rest _
    refine raises_outcome_bind ?_ fun _ _ => raises_pure _
    cases number with
    | int i => exact raises_pure _
    | float t => exact raises_pure _
    | _ => exact raises_fail
  · exact raises_expect _

lemma raises_read (hhook : ∀ es, Raises faults ((hook es).mapError PyFault.raised)) (n : ℕ) :
    (∀ d cs, Raises (.decode :: faults) (readValue hook n d cs).outcome) ∧
    (∀ d cs, Raises (.decode :: faults) (readItems hook n d cs).outcome) ∧
    ∀ d cs, Raises (.decode :: faults) (readEntries hook n d cs).outcome := by
  have hpairs : ∀ es, Raises (.decode :: faults) (ofPairs hook es).outcome := by
    intro es fault h
    apply List.mem_cons_of_mem
    unfold ofPairs lift at h
    cases hes : (hook es).mapError PyFault.raised with
    | ok fs =>
      rw [hes] at h
      cases h
    | error other =>
      rw [hes] at h
      obtain rfl := Except.error.inj h
      exact hhook es _ hes
  induction n with
  | zero => exact ⟨fun d cs => raises_fail, fun d cs => raises_fail, fun d cs => raises_fail⟩
  | succ n ih =>
    obtain ⟨hvalue, hitems, hentries⟩ := ih
    refine ⟨fun d cs => ?_, fun d cs => ?_, fun d cs => ?_⟩
    · match cs with
      | [] => exact raises_fail
      | .surrogate s :: cs => exact raises_fail
      | .char c :: cs =>
        unfold readValue
        split_ifs
        · exact raises_outcome_bind (raises_expect _) fun _ _ => raises_pure _
        · refine raises_outcome_bind (raises_pure _) fun _ _ => ?_
          exact raises_outcome_bind (hpairs _) fun _ _ => raises_pure _
        · refine raises_outcome_bind (raises_pure _) fun _ _ => ?_
          refine raises_outcome_bind (hentries _ _) fun _ _ => ?_
          exact raises_outcome_bind (hpairs _) fun _ _ => raises_pure _
        · exact raises_outcome_bind (raises_pure _) fun _ _ => raises_pure _
        · refine raises_outcome_bind (raises_pure _) fun _ _ => ?_
          exact raises_outcome_bind (hitems _ _) fun _ _ => raises_pure _
        · exact raises_readScalar _
    · rw [readItems]
      refine raises_outcome_bind (hvalue _ _) fun ⟨x, rest⟩ _ => ?_
      dsimp only
      split
      · exact raises_outcome_bind (hitems _ _) fun _ _ => raises_pure _
      · exact raises_pure _
      · exact raises_fail
    · match cs with
      | [] => exact raises_fail
      | c :: cs =>
        unfold readEntries
        split_ifs
        · refine raises_outcome_bind (raises_expect _) fun ⟨k, rest⟩ _ => ?_
          dsimp only
          split
          · refine raises_outcome_bind (hvalue _ _) fun ⟨v, rest⟩ _ => ?_
            dsimp only
            split
            · exact raises_outcome_bind (hentries _ _) fun _ _ => raises_pure _
            · exact raises_pure _
            · exact raises_fail
          · exact raises_fail
        · exact raises_fail

/-- What the decoder raises when all that it asks for is granted: a `JSONDecodeError`, or what the
hook raises. -/
theorem raises_loads (hhook : ∀ es, Raises faults ((hook es).mapError PyFault.raised))
    (text : PyText) : Raises (.decode :: faults) (loads hook text).outcome := by
  refine raises_outcome_bind ((raises_read hhook _).1 _ _) fun ⟨v, rest⟩ _ => ?_
  dsimp only
  split_ifs
  · exact raises_pure _
  · exact raises_fail

end

end PyJson

end Aizim
