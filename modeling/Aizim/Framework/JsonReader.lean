import Aizim.Framework.JsonPrinter

/-!
# Reading JSON

`loads` reads a JSON text the way the program's reader does: blanks between the tokens, the escapes
of a string with surrogate pairs, integers apart from numbers with a fraction or an exponent, and
for a repeated key of an object the last value at the place of the first.  A text with a surrogate
that stands alone is refused here; no serializer of the program writes one.

The main result is the round trip `loads_canonicalJson`: a value whose numbers print as numbers is
read back, in its canonical form, from the text that the canonical serializer prints.  Equal texts
therefore come from equal values (`canonical_of_canonicalJson`), which is what an argument about
digests of such texts rests on.
-/

namespace Aizim

namespace JsonValue

/-! ## Tokens -/

/-- A blank between two tokens. -/
def isJsonBlank (c : Char) : Bool := c == ' ' || c == '\t' || c == '\n' || c == '\r'

/-- The text after the blanks at its start. -/
def skipBlanks (cs : List Char) : List Char := cs.dropWhile isJsonBlank

/-- The value of a hexadecimal digit. -/
def hexDigit? (c : Char) : Option ℕ :=
  if isAsciiDigit c then some (c.toNat - 48)
  else if 'a' ≤ c && c ≤ 'f' then some (c.toNat - 87)
  else if 'A' ≤ c && c ≤ 'F' then some (c.toNat - 55)
  else none

/-- The four hexadecimal digits of an escape, and the text after them. -/
def readUnit : List Char → Option (ℕ × List Char)
  | a :: b :: c :: d :: cs => do
    let a ← hexDigit? a
    let b ← hexDigit? b
    let c ← hexDigit? c
    let d ← hexDigit? d
    pure (4096 * a + 256 * b + 16 * c + d, cs)
  | _ => none

/-- The character of an escape `\u`, which may take a second one for a surrogate pair. -/
def readUnicode (cs : List Char) : Option (Char × List Char) := do
  let (high, rest) ← readUnit cs
  if 0xd800 ≤ high && high < 0xdc00 then
    match rest with
    | '\\' :: 'u' :: rest => do
      let (low, rest) ← readUnit rest
      if 0xdc00 ≤ low && low < 0xe000 then
        pure (Char.ofNat (0x10000 + (high - 0xd800) * 1024 + (low - 0xdc00)), rest)
      else none
    | _ => none
  else if 0xdc00 ≤ high && high < 0xe000 then none
  else pure (Char.ofNat high, rest)

/-- The character of an escape, from the character after the backslash. -/
def readEscape : List Char → Option (Char × List Char)
  | [] => none
  | c :: cs =>
    if c == '"' || c == '\\' || c == '/' then some (c, cs)
    else if c == 'n' then some ('\n', cs)
    else if c == 'r' then some ('\r', cs)
    else if c == 't' then some ('\t', cs)
    else if c == 'f' then some (Char.ofNat 12, cs)
    else if c == 'b' then some (Char.ofNat 8, cs)
    else if c == 'u' then readUnicode cs
    else none

/-- The characters of a string up to its closing quote, and the text after it. -/
def readChars : ℕ → List Char → Option (List Char × List Char)
  | 0, _ => none
  | _, [] => none
  | n + 1, c :: cs =>
    if c == '"' then some ([], cs)
    else if c == '\\' then do
      let (c, rest) ← readEscape cs
      let (s, rest) ← readChars n rest
      pure (c :: s, rest)
    else if c.toNat < 32 then none
    else do
      let (s, rest) ← readChars n cs
      pure (c :: s, rest)

/-- The digits at the start of a text, and the text after them. -/
def spanDigits (cs : List Char) : List Char × List Char :=
  (cs.takeWhile isAsciiDigit, cs.dropWhile isAsciiDigit)

/-- `0|[1-9]\d*` -/
def readNatural : List Char → Option (List Char × List Char)
  | [] => none
  | c :: cs =>
    if c == '0' then some (['0'], cs)
    else if isAsciiDigit c then some (spanDigits (c :: cs))
    else none

/-- `(\.\d+)?` -/
def readFraction : List Char → List Char × List Char
  | '.' :: cs =>
    let (digits, rest) := spanDigits cs
    if digits.isEmpty then ([], '.' :: cs) else ('.' :: digits, rest)
  | cs => ([], cs)

/-- `([eE][-+]?\d+)?` -/
def readExponent : List Char → List Char × List Char
  | [] => ([], [])
  | e :: cs =>
    if e == 'e' || e == 'E' then
      let sign := cs.take 1 |>.filter fun c => c == '-' || c == '+'
      let (digits, rest) := spanDigits (cs.drop sign.length)
      if digits.isEmpty then ([], e :: cs) else (e :: sign ++ digits, rest)
    else ([], e :: cs)

/-- The natural number that a row of digits writes. -/
def digitsValue (digits : List Char) : ℕ := Nat.ofDigitChars 10 digits 0

/-- A number: an integer, or the text of a number with a fraction or an exponent. -/
def readNumber (cs : List Char) : Option (JsonValue × List Char) := do
  let negative := cs.head? == some '-'
  let (digits, rest) ← readNatural (if negative then cs.tail else cs)
  let (fraction, rest) := readFraction rest
  let (exponent, rest) := readExponent rest
  let sign := if negative then ['-'] else []
  if fraction.isEmpty && exponent.isEmpty then
    pure (int (if negative then -(digitsValue digits : Int) else digitsValue digits), rest)
  else pure (float (String.ofList (sign ++ digits ++ fraction ++ exponent)), rest)

/-- The text of a number with a fraction or an exponent, which is what a finite float prints as. -/
def isFloatText (t : String) : Bool := readNumber t.toList = some (float t, [])

/-- The value of a name, if the text starts with it. -/
def readName (name : String) (v : JsonValue) (cs : List Char) : Option (JsonValue × List Char) :=
  if name.toList.isPrefixOf cs then some (v, cs.drop name.toList.length) else none

/-- `null`, `true`, `false`, a number, or one of the names of the numbers that are not finite. -/
def readScalar (cs : List Char) : Option (JsonValue × List Char) :=
  (readName "null" null cs).or <| (readName "true" (bool true) cs).or <|
    (readName "false" (bool false) cs).or <| (readNumber cs).or <|
    (readName "NaN" (float "NaN") cs).or <| (readName "Infinity" (float "Infinity") cs).or <|
    readName "-Infinity" (float "-Infinity") cs

/-! ## Values -/

/-- `dict(pairs)` -/
def ofPairs (pairs : List (String × JsonValue)) : JsonObject :=
  pairs.foldl (fun o e => JsonObject.set e.1 e.2 o) []

mutual

/-- A value at the start of a text, and the text after it. -/
def readValue : ℕ → List Char → Option (JsonValue × List Char)
  | 0, _ => none
  | _, [] => none
  | n + 1, c :: cs =>
    if c == '"' then do
      let (s, rest) ← readChars n cs
      pure (str (String.ofList s), rest)
    else if c == '{' then
      let rest := skipBlanks cs
      if rest.head? == some '}' then some (dict [], rest.tail)
      else do
        let (pairs, rest) ← readEntries n rest
        pure (dict (ofPairs pairs), rest)
    else if c == '[' then
      let rest := skipBlanks cs
      if rest.head? == some ']' then some (list [], rest.tail)
      else do
        let (items, rest) ← readItems n rest
        pure (list items, rest)
    else readScalar (c :: cs)

/-- The items of an array up to its closing bracket, and the text after it. -/
def readItems : ℕ → List Char → Option (List JsonValue × List Char)
  | 0, _ => none
  | n + 1, cs => do
    let (x, rest) ← readValue n cs
    match skipBlanks rest with
    | ',' :: rest => do
      let (xs, rest) ← readItems n (skipBlanks rest)
      pure (x :: xs, rest)
    | ']' :: rest => pure ([x], rest)
    | _ => none

/-- The entries of an object up to its closing brace, and the text after it. -/
def readEntries : ℕ → List Char → Option (JsonObject × List Char)
  | 0, _ => none
  | n + 1, cs =>
    match cs with
    | '"' :: cs => do
      let (k, rest) ← readChars n cs
      match skipBlanks rest with
      | ':' :: rest => do
        let (v, rest) ← readValue n (skipBlanks rest)
        match skipBlanks rest with
        | ',' :: rest => do
          let (es, rest) ← readEntries n (skipBlanks rest)
          pure ((String.ofList k, v) :: es, rest)
        | '}' :: rest => pure ([(String.ofList k, v)], rest)
        | _ => none
      | _ => none
    | _ => none

end

/-- `json.loads(text)`, or nothing where it raises. -/
def loads (text : String) : Option JsonValue := do
  let (v, rest) ← readValue (text.toList.length + 1) (skipBlanks text.toList)
  if skipBlanks rest = [] then pure v else none

example : loads "\x7b \"a\" : [1, \"\\ud83d\\ude00\"], \"b\":\x7b\x7d, \"a\":-2.5e3 \x7d" =
    some (dict [("a", float "-2.5e3"), ("b", dict [])]) := by
  decide +kernel

/-! ## Round trip of tokens -/

lemma hexDigit?_digitChar : ∀ n < 16, hexDigit? (Nat.digitChar n) = some n := by decide

lemma readUnit_hexByte {n : ℕ} (h : n < 256) (rest : List Char) :
    readUnit ('0' :: '0' :: (Sha256.hexByte n ++ rest)) = some (n, rest) := by
  have hhigh := hexDigit?_digitChar (n / 16) (by omega)
  have hlow := hexDigit?_digitChar (n % 16) (by omega)
  have hzero : hexDigit? '0' = some 0 := by decide
  have hn : 4096 * 0 + 256 * 0 + 16 * (n / 16) + n % 16 = n := by omega
  simp only [Sha256.hexByte, List.cons_append, List.nil_append, readUnit, hzero, hhigh, hlow,
    Option.bind_eq_bind, Option.bind_some, Option.pure_def, hn]

lemma eq_ofNat_of_toNat {c : Char} {n : ℕ} (h : c.toNat = n) : c = Char.ofNat n := by
  rw [← h, Char.ofNat_toNat]

/-- A printed character is read back. -/
lemma readChars_escape (n : ℕ) (c : Char) (rest : List Char) :
    readChars (n + 1) (escape c ++ rest) =
      (readChars n rest).map fun r => (c :: r.1, r.2) := by
  have hmap : ∀ c : Char, ((readChars n rest).bind fun r => some (c :: r.1, r.2)) =
      (readChars n rest).map fun r => (c :: r.1, r.2) := by
    intro c
    cases readChars n rest <;> rfl
  unfold escape
  simp only [beq_iff_eq]
  split_ifs with hquote hslash hn hr ht hf hb hlow
  · subst hquote
    exact hmap _
  · subst hslash
    exact hmap _
  · subst hn
    exact hmap _
  · subst hr
    exact hmap _
  · subst ht
    exact hmap _
  · obtain rfl := eq_ofNat_of_toNat hf
    exact hmap _
  · obtain rfl := eq_ofNat_of_toNat hb
    exact hmap _
  · have hunit := readUnit_hexByte (n := c.toNat) (by omega) rest
    have hhigh : ¬ 0xd800 ≤ c.toNat := by omega
    have hhigh' : ¬ 0xdc00 ≤ c.toNat := by omega
    have hunicode : readEscape ('u' :: '0' :: '0' :: (Sha256.hexByte c.toNat ++ rest)) =
        some (c, rest) := by
      show readUnicode ('0' :: '0' :: (Sha256.hexByte c.toNat ++ rest)) = some (c, rest)
      simp [readUnicode, hunit, hhigh, hhigh', Char.ofNat_toNat]
    show (readEscape ('u' :: '0' :: '0' :: (Sha256.hexByte c.toNat ++ rest))).bind _ = _
    rw [hunicode]
    exact hmap c
  · simp only [List.cons_append, List.nil_append, readChars, beq_iff_eq, hquote, hslash, hlow,
      if_false]
    exact hmap c

lemma readChars_flatMap (s : List Char) {n : ℕ} (h : s.length < n) (rest : List Char) :
    readChars n (s.flatMap escape ++ '"' :: rest) = some (s, rest) := by
  induction s generalizing n with
  | nil =>
    cases n with
    | zero => simp at h
    | succ n => rfl
  | cons c s ih =>
    cases n with
    | zero => simp at h
    | succ n =>
      rw [List.length_cons] at h
      rw [List.flatMap_cons, List.append_assoc, readChars_escape, ih (by omega)]
      rfl

lemma length_le_flatMap_escape (s : List Char) : s.length ≤ (s.flatMap escape).length := by
  induction s with
  | nil => exact le_rfl
  | cons c s ih =>
    have hc : 0 < (escape c).length := by
      unfold escape
      split_ifs <;> simp
    rw [List.flatMap_cons, List.length_append, List.length_cons]
    omega

/-- A text that does not go on with a number. -/
def endsNumber (rest : List Char) : Prop :=
  ∀ c ∈ rest.head?, isAsciiDigit c = false ∧ c ≠ '.' ∧ c ≠ 'e' ∧ c ≠ 'E' ∧ c ≠ '+' ∧ c ≠ '-'

lemma isAsciiDigit_of_mem_toDigits {n : ℕ} {c : Char} (h : c ∈ Nat.toDigits 10 n) :
    isAsciiDigit c = true := by
  have hdigit := Nat.isDigit_of_mem_toDigits (by omega) (by omega) h
  simp only [Char.isDigit, ge_iff_le, Bool.and_eq_true, decide_eq_true_eq] at hdigit
  simp only [isAsciiDigit, Bool.and_eq_true, decide_eq_true_eq]
  exact hdigit

lemma spanDigits_of_endsNumber {rest : List Char} (h : endsNumber rest) :
    spanDigits rest = ([], rest) := by
  cases rest with
  | nil => rfl
  | cons c rest => simp [spanDigits, (h c rfl).1]

/-- What does not go on with a number is no part of its digits. -/
lemma spanDigits_append (cs : List Char) {rest : List Char} (hrest : endsNumber rest) :
    spanDigits (cs ++ rest) = ((spanDigits cs).1, (spanDigits cs).2 ++ rest) := by
  induction cs with
  | nil => exact spanDigits_of_endsNumber hrest
  | cons c cs ih =>
    simp only [spanDigits, Prod.mk.injEq] at ih
    by_cases hc : isAsciiDigit c = true
    · simp [spanDigits, hc, ih]
    · simp [spanDigits, hc]

lemma spanDigits_of_all {digits : List Char} (h : ∀ c ∈ digits, isAsciiDigit c = true) :
    spanDigits digits = (digits, []) := by
  have htake : (digits ++ []).takeWhile isAsciiDigit = digits ++ [].takeWhile isAsciiDigit :=
    List.takeWhile_append_of_pos h
  have hdrop : (digits ++ []).dropWhile isAsciiDigit = [].dropWhile isAsciiDigit :=
    List.dropWhile_append_of_pos h
  simp only [List.append_nil, List.takeWhile_nil, List.dropWhile_nil] at htake hdrop
  rw [spanDigits, htake, hdrop]

lemma isAsciiDigit_of_mem_spanDigits {cs : List Char} {c : Char} (h : c ∈ (spanDigits cs).1) :
    isAsciiDigit c = true :=
  List.all_eq_true.1 List.all_takeWhile c h

/-- A natural number prints without a zero in front, unless it is zero. -/
lemma head_toDigits {n : ℕ} (h : 0 < n) : ∃ c cs, Nat.toDigits 10 n = c :: cs ∧ c ≠ '0' := by
  induction n using Nat.strongRecOn with
  | ind n ih =>
    by_cases hn : n < 10
    · refine ⟨Nat.digitChar n, [], Nat.toDigits_of_lt_base hn, ?_⟩
      have hdigit : ∀ m < 10, 0 < m → Nat.digitChar m ≠ '0' := by decide
      exact hdigit n hn h
    · obtain ⟨c, cs, hcs, hc⟩ := ih (n / 10) (by omega) (by omega)
      refine ⟨c, cs ++ [Nat.digitChar (n % 10)], ?_, hc⟩
      rw [Nat.toDigits_of_base_le (by omega) (by omega), hcs, List.cons_append]

lemma readNatural_toDigits (n : ℕ) {rest : List Char} (hrest : endsNumber rest) :
    readNatural (Nat.toDigits 10 n ++ rest) = some (Nat.toDigits 10 n, rest) := by
  cases n with
  | zero => rw [Nat.toDigits_zero]; rfl
  | succ n =>
    obtain ⟨c, cs, hcs, hc⟩ := head_toDigits (Nat.succ_pos n)
    have hdigits : ∀ d ∈ c :: cs, isAsciiDigit d = true := fun d hd =>
      isAsciiDigit_of_mem_toDigits (hcs ▸ hd)
    have hspan := spanDigits_append (c :: cs) hrest
    rw [spanDigits_of_all hdigits, List.nil_append] at hspan
    rw [hcs]
    rw [List.cons_append] at hspan ⊢
    simp only [readNatural, beq_iff_eq, if_neg hc, hdigits c (List.mem_cons_self ..), if_true, hspan]

lemma readFraction_of_endsNumber {rest : List Char} (h : endsNumber rest) :
    readFraction rest = ([], rest) := by
  cases rest with
  | nil => rfl
  | cons c rest =>
    have hc := (h c rfl).2.1
    unfold readFraction
    split
    · rename_i cs hcs
      exact absurd (List.cons.inj hcs).1 hc
    · rfl

lemma readExponent_of_endsNumber {rest : List Char} (h : endsNumber rest) :
    readExponent rest = ([], rest) := by
  cases rest with
  | nil => rfl
  | cons c rest =>
    obtain ⟨-, -, he, hE, -⟩ := h c rfl
    simp [readExponent, he, hE]

/-! ### The texts of numbers -/

lemma readNatural_append {cs digits r rest : List Char} (h : readNatural cs = some (digits, r))
    (hrest : endsNumber rest) : readNatural (cs ++ rest) = some (digits, r ++ rest) := by
  cases cs with
  | nil => simp [readNatural] at h
  | cons c cs =>
    have hspan := spanDigits_append (c :: cs) hrest
    rw [List.cons_append] at hspan ⊢
    simp only [readNatural] at h ⊢
    split_ifs at h ⊢ with hzero hdigit
    · simp only [Option.some.injEq, Prod.mk.injEq] at h
      obtain ⟨rfl, rfl⟩ := h
      rfl
    · rw [hspan, Option.some.inj h]

lemma readFraction_append (cs : List Char) {rest : List Char} (hrest : endsNumber rest) :
    readFraction (cs ++ rest) = ((readFraction cs).1, (readFraction cs).2 ++ rest) := by
  cases cs with
  | nil => exact readFraction_of_endsNumber hrest
  | cons c cs =>
    by_cases hc : c = '.'
    · subst hc
      have hspan := spanDigits_append cs hrest
      simp only [List.cons_append, readFraction, hspan]
      split_ifs <;> rfl
    · have hother : ∀ ds, readFraction (c :: ds) = ([], c :: ds) := by
        intro ds
        unfold readFraction
        split
        · rename_i h
          exact absurd (List.cons.inj h).1 hc
        · rfl
      rw [List.cons_append, hother, hother, List.cons_append]

lemma readExponent_append (cs : List Char) {rest : List Char} (hrest : endsNumber rest) :
    readExponent (cs ++ rest) = ((readExponent cs).1, (readExponent cs).2 ++ rest) := by
  cases cs with
  | nil => exact readExponent_of_endsNumber hrest
  | cons e cs =>
    have hsign : ((cs ++ rest).take 1).filter (fun c => c == '-' || c == '+') =
        (cs.take 1).filter fun c => c == '-' || c == '+' := by
      cases cs with
      | nil =>
        cases rest with
        | nil => rfl
        | cons c rest =>
          obtain ⟨-, -, -, -, hplus, hminus⟩ := hrest c rfl
          simp [hplus, hminus]
      | cons c cs => rfl
    have hdrop : (cs ++ rest).drop ((cs.take 1).filter fun c => c == '-' || c == '+').length =
        cs.drop ((cs.take 1).filter fun c => c == '-' || c == '+').length ++ rest := by
      cases cs with
      | nil => rfl
      | cons c cs =>
        by_cases hc : (c == '-' || c == '+') = true
        · simp [hc]
        · simp [hc]
    simp only [List.cons_append, readExponent, hsign, hdrop, spanDigits_append _ hrest]
    split_ifs <;> rfl

/-- What does not go on with a number is no part of it. -/
lemma readNumber_append {cs r rest : List Char} {v : JsonValue}
    (h : readNumber cs = some (v, r)) (hrest : endsNumber rest) :
    readNumber (cs ++ rest) = some (v, r ++ rest) := by
  cases cs with
  | nil => simp [readNumber, readNatural] at h
  | cons c cs =>
    have hhead : ((c :: cs ++ rest).head? == some '-') = ((c :: cs).head? == some '-') := rfl
    have htail : (if ((c :: cs).head? == some '-') = true then (c :: cs ++ rest).tail
        else c :: cs ++ rest) =
          (if ((c :: cs).head? == some '-') = true then (c :: cs).tail else c :: cs) ++ rest := by
      split_ifs <;> rfl
    simp only [readNumber, Option.bind_eq_bind, Option.bind_eq_some_iff, Prod.exists] at h
    obtain ⟨digits, r', hnatural, h⟩ := h
    simp only [readNumber, hhead, htail, readNatural_append hnatural hrest, Option.bind_eq_bind,
      Option.bind_some, readFraction_append _ hrest, readExponent_append _ hrest]
    by_cases hempty : ((readFraction r').1.isEmpty &&
        (readExponent (readFraction r').2).1.isEmpty) = true
    · rw [if_pos hempty] at h ⊢
      simp only [Option.pure_def, Option.some.injEq, Prod.mk.injEq] at h ⊢
      exact ⟨h.1, congrArg (· ++ rest) h.2⟩
    · rw [if_neg hempty] at h ⊢
      simp only [Option.pure_def, Option.some.injEq, Prod.mk.injEq] at h ⊢
      exact ⟨h.1, congrArg (· ++ rest) h.2⟩

lemma digitsValue_toDigits (n : ℕ) : digitsValue (Nat.toDigits 10 n) = n :=
  Nat.ofDigitChars_ten_toDigits

/-- The characters of a printed integer. -/
lemma toList_toString_int (i : Int) : (toString i).toList =
    (if i < 0 then ['-'] else []) ++ Nat.toDigits 10 i.natAbs := by
  cases i with
  | ofNat n =>
    show (Nat.repr n).toList = _
    rw [Nat.toList_repr]
    rfl
  | negSucc n =>
    show ("-" ++ Nat.repr (n + 1)).toList = _
    have hneg : Int.negSucc n < 0 := Int.negSucc_lt_zero n
    rw [String.toList_append, Nat.toList_repr, if_pos hneg]
    rfl

lemma readNumber_int (i : Int) {rest : List Char} (hrest : endsNumber rest) :
    readNumber ((toString i).toList ++ rest) = some (int i, rest) := by
  have hnatural := readNatural_toDigits i.natAbs hrest
  have hfraction := readFraction_of_endsNumber hrest
  have hexponent := readExponent_of_endsNumber hrest
  have hvalue := digitsValue_toDigits i.natAbs
  rw [toList_toString_int]
  by_cases hi : i < 0
  · have habs : -(i.natAbs : Int) = i := by omega
    have hhead : ((['-'] ++ Nat.toDigits 10 i.natAbs ++ rest).head? == some '-') = true := rfl
    have htail : (['-'] ++ Nat.toDigits 10 i.natAbs ++ rest).tail =
        Nat.toDigits 10 i.natAbs ++ rest := rfl
    rw [if_pos hi]
    simp only [readNumber, hhead, if_true, htail, hnatural, Option.bind_eq_bind,
      Option.bind_some, hfraction, hexponent, hvalue, habs, List.isEmpty_nil, Bool.and_self,
      Option.pure_def]
  · have hhead : ((Nat.toDigits 10 i.natAbs ++ rest).head? == some '-') = false := by
      cases hdigits : Nat.toDigits 10 i.natAbs with
      | nil => exact absurd hdigits Nat.toDigits_ne_nil
      | cons c cs =>
        have hc := isAsciiDigit_of_mem_toDigits (n := i.natAbs) (c := c) (by simp [hdigits])
        have hminus : c ≠ '-' := by
          rintro rfl
          exact absurd hc (by decide)
        simpa using hminus
    have habs : (i.natAbs : Int) = i := by omega
    rw [if_neg hi, List.nil_append]
    simp only [readNumber, hhead, Bool.false_eq_true, if_false, hnatural, Option.bind_eq_bind,
      Option.bind_some, hfraction, hexponent, hvalue, habs, List.isEmpty_nil, Bool.and_self,
      if_true, Option.pure_def]


/-- A number starts with a digit or a minus sign. -/
lemma head_of_readNumber {cs : List Char} {r : JsonValue × List Char} (h : readNumber cs = some r) :
    ∃ c ds, cs = c :: ds ∧ (c = '-' ∨ isAsciiDigit c = true) := by
  cases cs with
  | nil => simp [readNumber, readNatural] at h
  | cons c ds =>
    refine ⟨c, ds, rfl, ?_⟩
    by_contra hc
    rw [not_or] at hc
    have hzero : c ≠ '0' := by
      rintro rfl
      exact hc.2 (by decide)
    have hhead : ((c :: ds).head? == some '-') = false := by simpa using hc.1
    have hnatural : readNatural (c :: ds) = none := by simp [readNatural, hzero, hc.2]
    simp only [readNumber, hhead, Bool.false_eq_true, if_false, hnatural, Option.bind_eq_bind,
      Option.bind_none, reduceCtorEq] at h

lemma ne_of_startsNumber {c d : Char} (hc : c = '-' ∨ isAsciiDigit c = true)
    (hd : ((d == '-') || isAsciiDigit d) = false) : c ≠ d := by
  rintro rfl
  rcases hc with rfl | hc
  · simp at hd
  · simp [hc] at hd

lemma toNat_lt_of_startsNumber {c : Char} (hc : c = '-' ∨ isAsciiDigit c = true) :
    c.toNat < 0x80 := by
  rcases hc with rfl | hc
  · decide
  · simp only [isAsciiDigit, Bool.and_eq_true, decide_eq_true_eq] at hc
    have hle : c.toNat ≤ '9'.toNat := hc.2
    exact lt_of_le_of_lt hle (by decide)

lemma isJsonBlank_of_startsNumber {c : Char} (hc : c = '-' ∨ isAsciiDigit c = true) :
    isJsonBlank c = false := by
  simp only [isJsonBlank, Bool.or_eq_false_iff, beq_eq_false_iff_ne]
  exact ⟨⟨⟨ne_of_startsNumber hc (by decide), ne_of_startsNumber hc (by decide)⟩,
    ne_of_startsNumber hc (by decide)⟩, ne_of_startsNumber hc (by decide)⟩

/-- A number is no name. -/
lemma readScalar_of_readNumber {cs : List Char} {r : JsonValue × List Char}
    (h : readNumber cs = some r) : readScalar cs = some r := by
  obtain ⟨c, ds, rfl, hc⟩ := head_of_readNumber h
  have hname : ∀ name ∈ ["null", "true", "false"], ∀ v, readName name v (c :: ds) = none := by
    intro name hname v
    have hprefix : name.toList.isPrefixOf (c :: ds) = false := by
      simp only [List.mem_cons, List.not_mem_nil, or_false] at hname
      rcases hname with rfl | rfl | rfl
      · simp [List.isPrefixOf, (ne_of_startsNumber hc (d := 'n') (by decide)).symm]
      · simp [List.isPrefixOf, (ne_of_startsNumber hc (d := 't') (by decide)).symm]
      · simp [List.isPrefixOf, (ne_of_startsNumber hc (d := 'f') (by decide)).symm]
    rw [readName, hprefix]
    rfl
  rw [readScalar, hname "null" (by simp), hname "true" (by simp), hname "false" (by simp), h]
  rfl

/-- A number in front of what does not go on with it is read as a value. -/
lemma readValue_of_readNumber {n : ℕ} {cs rest : List Char} {v : JsonValue}
    (h : readNumber cs = some (v, [])) (hrest : endsNumber rest) :
    readValue (n + 1) (cs ++ rest) = some (v, rest) := by
  have hnumber := readNumber_append h hrest
  have hscalar := readScalar_of_readNumber hnumber
  obtain ⟨c, ds, rfl, hc⟩ := head_of_readNumber h
  rw [List.cons_append] at hscalar ⊢
  simp only [readValue, beq_iff_eq, if_neg (ne_of_startsNumber hc (d := '"') (by decide)),
    if_neg (ne_of_startsNumber hc (d := '{') (by decide)),
    if_neg (ne_of_startsNumber hc (d := '[') (by decide)), hscalar, List.nil_append]

lemma readNumber_toString (i : Int) : readNumber (toString i).toList = some (int i, []) := by
  have hempty : endsNumber [] := by simp [endsNumber]
  simpa using readNumber_int i hempty

lemma readNumber_of_isFloatText {t : String} (h : isFloatText t = true) :
    readNumber t.toList = some (float t, []) := of_decide_eq_true h

/-- The characters of numbers. -/
def isNumberChar (c : Char) : Bool := isAsciiDigit c || ['-', '+', '.', 'e', 'E'].contains c

lemma le_toNat_of_isNumberChar {c : Char} (h : isNumberChar c = true) : 32 ≤ c.toNat := by
  simp only [isNumberChar, Bool.or_eq_true, List.contains_eq_mem, decide_eq_true_eq, List.mem_cons,
    List.not_mem_nil, or_false] at h
  rcases h with h | rfl | rfl | rfl | rfl | rfl
  · simp only [isAsciiDigit, Bool.and_eq_true, decide_eq_true_eq] at h
    have hle : '0'.toNat ≤ c.toNat := h.1
    exact le_trans (by decide) hle
  all_goals decide

lemma isNumberChar_of_readNatural {cs digits rest : List Char}
    (h : readNatural cs = some (digits, rest)) : ∀ c ∈ digits, isNumberChar c = true := by
  cases cs with
  | nil => simp [readNatural] at h
  | cons c cs =>
    intro d hd
    simp only [readNatural] at h
    split_ifs at h
    · simp only [Option.some.injEq, Prod.mk.injEq] at h
      obtain ⟨rfl, -⟩ := h
      obtain rfl := List.mem_singleton.1 hd
      decide
    · obtain rfl : (spanDigits (c :: cs)).1 = digits := congrArg Prod.fst (Option.some.inj h)
      simp [isNumberChar, isAsciiDigit_of_mem_spanDigits hd]

lemma isNumberChar_of_readFraction {cs : List Char} :
    ∀ c ∈ (readFraction cs).1, isNumberChar c = true := by
  intro c hc
  unfold readFraction at hc
  split at hc
  · simp only at hc
    split_ifs at hc
    · exact absurd hc List.not_mem_nil
    · rcases List.mem_cons.1 hc with rfl | hc
      · decide
      · simp [isNumberChar, isAsciiDigit_of_mem_spanDigits hc]
  · exact absurd hc List.not_mem_nil

lemma isNumberChar_of_readExponent {cs : List Char} :
    ∀ c ∈ (readExponent cs).1, isNumberChar c = true := by
  intro c hc
  cases cs with
  | nil => exact absurd hc List.not_mem_nil
  | cons e cs =>
    simp only [readExponent] at hc
    split_ifs at hc with he hempty
    · exact absurd hc List.not_mem_nil
    · simp only [List.cons_append, List.mem_cons, List.mem_append, List.mem_filter] at hc
      rcases hc with rfl | ⟨-, hc⟩ | hc
      · simp only [Bool.or_eq_true, beq_iff_eq] at he
        rcases he with rfl | rfl <;> decide
      · simp only [Bool.or_eq_true, beq_iff_eq] at hc
        rcases hc with rfl | rfl <;> decide
      · simp [isNumberChar, isAsciiDigit_of_mem_spanDigits hc]
    · exact absurd hc List.not_mem_nil

lemma isNumberChar_of_isFloatText {t : String} (h : isFloatText t = true) :
    ∀ c ∈ t.toList, isNumberChar c = true := by
  have hread := readNumber_of_isFloatText h
  simp only [readNumber, Option.bind_eq_bind, Option.bind_eq_some_iff, Prod.exists] at hread
  obtain ⟨digits, rest, hnatural, hread⟩ := hread
  generalize hsign : (if (t.toList.head? == some '-') = true then ['-'] else []) = sign at hread
  have hminus : ∀ c ∈ sign, c = '-' := by
    intro c hc
    rw [← hsign] at hc
    split_ifs at hc
    · exact List.mem_singleton.1 hc
    · exact absurd hc List.not_mem_nil
  by_cases hempty : ((readFraction rest).1.isEmpty &&
      (readExponent (readFraction rest).2).1.isEmpty) = true
  · rw [if_pos hempty] at hread
    simp at hread
  · rw [if_neg hempty] at hread
    simp only [Option.pure_def, Option.some.injEq, Prod.mk.injEq, float.injEq] at hread
    intro c hc
    rw [← hread.1, String.toList_ofList] at hc
    simp only [List.mem_append] at hc
    rcases hc with ((hc | hc) | hc) | hc
    · obtain rfl := hminus c hc
      decide
    · exact isNumberChar_of_readNatural hnatural c hc
    · exact isNumberChar_of_readFraction c hc
    · exact isNumberChar_of_readExponent c hc

/-! ## Round trip of values -/

mutual

/-- Fractions print as numbers, and no key is repeated: the value prints to a text that holds
it. -/
def exact : JsonValue → Bool
  | float t => isFloatText t
  | list xs => exactItems xs
  | dict es => (es.map Prod.fst).Nodup && exactEntries es
  | null => true
  | bool _ => true
  | int _ => true
  | str _ => true

/-- Every item is exact. -/
def exactItems : List JsonValue → Bool
  | [] => true
  | x :: xs => exact x && exactItems xs

/-- The value of every entry is exact. -/
def exactEntries : JsonObject → Bool
  | [] => true
  | (_, v) :: es => exact v && exactEntries es

end

lemma set_of_notMem {k : String} {v : JsonValue} {o : JsonObject} (h : k ∉ o.map Prod.fst) :
    JsonObject.set k v o = o ++ [(k, v)] := by
  induction o with
  | nil => rfl
  | cons e o ih =>
    obtain ⟨l, w⟩ := e
    rw [List.map_cons, List.mem_cons, not_or] at h
    rw [JsonObject.set, if_neg h.1, ih h.2, List.cons_append]

lemma foldl_set (o p : JsonObject) (h : ((o ++ p).map Prod.fst).Nodup) :
    p.foldl (fun o e => JsonObject.set e.1 e.2 o) o = o ++ p := by
  induction p generalizing o with
  | nil => rw [List.foldl_nil, List.append_nil]
  | cons e p ih =>
    obtain ⟨k, v⟩ := e
    have hk : k ∉ o.map Prod.fst := by
      rw [List.map_append, List.map_cons, List.nodup_append] at h
      intro hk
      exact h.2.2 k hk k (List.mem_cons_self ..) rfl
    rw [List.foldl_cons, set_of_notMem hk, ih (o ++ [(k, v)]) (by simpa using h),
      List.append_assoc]
    rfl

/-- Pairs with distinct keys are the entries of the object read from them. -/
lemma ofPairs_of_nodup {pairs : JsonObject} (h : (pairs.map Prod.fst).Nodup) :
    ofPairs pairs = pairs := foldl_set [] pairs h

/-- What may follow a value. -/
inductive Follows : List Char → Prop
  | done : Follows []
  | token {c : Char} {rest : List Char} (h : c = ',' ∨ c = ']' ∨ c = '}') : Follows (c :: rest)

lemma Follows.endsNumber {rest : List Char} (h : Follows rest) : endsNumber rest := by
  cases h with
  | done => simp [JsonValue.endsNumber]
  | token h =>
    intro c hc
    obtain rfl := Option.some.inj hc
    rcases h with rfl | rfl | rfl <;> decide

lemma skipBlanks_cons {c : Char} (h : isJsonBlank c = false) (cs : List Char) :
    skipBlanks (c :: cs) = c :: cs := by
  simp [skipBlanks, h]

/-- The first character of a printed value is an ASCII one that starts a token and closes none. -/
lemma head_dumps {v : JsonValue} (h : exact v = true) : ∃ c cs, dumps v = c :: cs ∧
    isJsonBlank c = false ∧ c.toNat < 0x80 ∧ c ≠ ']' := by
  have hnumber : ∀ {cs : List Char} {r : JsonValue × List Char}, readNumber cs = some r →
      ∃ c ds, cs = c :: ds ∧ isJsonBlank c = false ∧ c.toNat < 0x80 ∧ c ≠ ']' := by
    intro cs r hr
    obtain ⟨c, ds, hcs, hc⟩ := head_of_readNumber hr
    exact ⟨c, ds, hcs, isJsonBlank_of_startsNumber hc, toNat_lt_of_startsNumber hc,
      ne_of_startsNumber hc (by decide)⟩
  cases v with
  | null => exact ⟨'n', ['u', 'l', 'l'], rfl, by decide, by decide, by decide⟩
  | bool b =>
    cases b with
    | true => exact ⟨'t', ['r', 'u', 'e'], rfl, by decide, by decide, by decide⟩
    | false => exact ⟨'f', ['a', 'l', 's', 'e'], rfl, by decide, by decide, by decide⟩
  | int i => exact hnumber (readNumber_toString i)
  | float t => exact hnumber (readNumber_of_isFloatText h)
  | str s => exact ⟨'"', _, rfl, by decide, by decide, by decide⟩
  | list xs => exact ⟨'[', _, rfl, by decide, by decide, by decide⟩
  | dict es => exact ⟨'{', _, rfl, by decide, by decide, by decide⟩

lemma readValue_bracket {n : ℕ} {c : Char} {cs : List Char} (hblank : isJsonBlank c = false)
    (hc : c ≠ ']') : readValue (n + 1) ('[' :: c :: cs) =
      (readItems n (c :: cs)).bind fun r => some (list r.1, r.2) := by
  have hhead : ((c :: cs).head? == some ']') = false := by simpa using hc
  show (if (skipBlanks (c :: cs)).head? == some ']' then _ else _) = _
  rw [skipBlanks_cons hblank, hhead]
  rfl

lemma dumpsItems_cons (x y : JsonValue) (ys : List JsonValue) :
    dumpsItems (x :: y :: ys) = dumps x ++ ',' :: dumpsItems (y :: ys) := rfl

lemma readValue_brace {n : ℕ} (cs : List Char) : readValue (n + 1) ('{' :: '"' :: cs) =
    (readEntries n ('"' :: cs)).bind fun r => some (dict (ofPairs r.1), r.2) := rfl

mutual

/-- A printed value is read back, with enough fuel and before what may follow a value. -/
lemma readValue_dumps : ∀ {v : JsonValue} {n : ℕ} {r : List Char}, exact v = true →
    (dumps v).length < n → Follows r → readValue n (dumps v ++ r) = some (v, r)
  | null, n + 1, _, _, _, _ => rfl
  | bool true, n + 1, _, _, _, _ => rfl
  | bool false, n + 1, _, _, _, _ => rfl
  | int i, n + 1, _, _, _, hrest => readValue_of_readNumber (readNumber_toString i) hrest.endsNumber
  | float _, n + 1, _, h, _, hrest =>
    readValue_of_readNumber (readNumber_of_isFloatText h) hrest.endsNumber
  | str s, n + 1, rest, _, hn, _ => by
    have hlength := length_le_flatMap_escape s.toList
    have hquote : dumps (str s) = '"' :: (s.toList.flatMap escape ++ ['"']) := rfl
    rw [hquote] at hn ⊢
    rw [List.length_cons, List.length_append] at hn
    have hchars := readChars_flatMap s.toList (n := n) (by omega) rest
    rw [List.cons_append, List.append_assoc]
    show (readChars n (s.toList.flatMap escape ++ '"' :: rest)).bind _ = _
    rw [hchars]
    show some (str (String.ofList s.toList), rest) = _
    rw [String.ofList_toList]
  | list [], n + 1, _, _, _, _ => rfl
  | list (x :: xs), n + 1, rest, h, hn, hrest => by
    have hx : exact x = true := (Bool.and_eq_true_iff.1 h).1
    have hdumps : dumps (list (x :: xs)) = '[' :: (dumpsItems (x :: xs) ++ [']']) := rfl
    rw [hdumps, List.length_cons, List.length_append] at hn
    have hlength : (dumpsItems (x :: xs)).length + 1 < n := by
      have hone : [']'].length = 1 := rfl
      omega
    have hitems := readItems_dumpsItems (x := x) (l := xs) (r := rest) h hlength
    obtain ⟨c, cs, hcs, hblank, -, hbracket⟩ := head_dumps hx
    have hfirst : ∃ cs, dumpsItems (x :: xs) ++ ']' :: rest = c :: cs := by
      cases xs with
      | nil => exact ⟨_, by rw [dumpsItems, hcs]; rfl⟩
      | cons y ys => exact ⟨_, by rw [dumpsItems_cons, hcs]; rfl⟩
    obtain ⟨cs', hcs'⟩ := hfirst
    rw [hdumps, List.cons_append, List.append_assoc]
    show readValue (n + 1) ('[' :: (dumpsItems (x :: xs) ++ ']' :: rest)) = _
    rw [hcs'] at hitems ⊢
    rw [readValue_bracket hblank hbracket, hitems]
    rfl
  | dict [], n + 1, _, _, _, _ => rfl
  | dict ((k, v) :: es), n + 1, rest, h, hn, hrest => by
    obtain ⟨hnodup, hentries⟩ := Bool.and_eq_true_iff.1 h
    have hdumps : dumps (dict ((k, v) :: es)) = '{' :: (dumpsEntries ((k, v) :: es) ++ ['}']) := rfl
    rw [hdumps, List.length_cons, List.length_append] at hn
    have hlength : (dumpsEntries ((k, v) :: es)).length + 1 < n := by
      have hone : ['}'].length = 1 := rfl
      omega
    have hread := readEntries_dumpsEntries (k := k) (v := v) (l := es) (r := rest) hentries
      hlength
    have hfirst : ∃ cs, dumpsEntries ((k, v) :: es) ++ '}' :: rest = '"' :: cs := by
      cases es with
      | nil => exact ⟨_, rfl⟩
      | cons e es => exact ⟨_, rfl⟩
    obtain ⟨cs, hcs⟩ := hfirst
    rw [hdumps, List.cons_append, List.append_assoc]
    show readValue (n + 1) ('{' :: (dumpsEntries ((k, v) :: es) ++ '}' :: rest)) = _
    rw [hcs] at hread ⊢
    rw [readValue_brace, hread]
    show some (dict (ofPairs ((k, v) :: es)), rest) = _
    rw [ofPairs_of_nodup (by simpa using hnodup)]

lemma readItems_dumpsItems : ∀ {x : JsonValue} {l : List JsonValue} {n : ℕ} {r : List Char},
    exactItems (x :: l) = true → (dumpsItems (x :: l)).length + 1 < n →
      readItems n (dumpsItems (x :: l) ++ ']' :: r) = some (x :: l, r)
  | x, [], n + 1, rest, h, hn => by
    have hx : exact x = true := (Bool.and_eq_true_iff.1 h).1
    rw [dumpsItems] at hn ⊢
    have hvalue := readValue_dumps (v := x) (n := n) (r := ']' :: rest) hx (by omega)
      (.token (by simp))
    rw [readItems, hvalue]
    rfl
  | x, y :: ys, n + 1, rest, h, hn => by
    obtain ⟨hx, hxs⟩ := Bool.and_eq_true_iff.1 h
    obtain ⟨c, cs, hcs, hblank, -⟩ := head_dumps (v := y) (Bool.and_eq_true_iff.1 hxs).1
    have hdumps := dumpsItems_cons x y ys
    rw [hdumps, List.length_append, List.length_cons] at hn
    have hvalue := readValue_dumps (v := x) (n := n)
      (r := ',' :: (dumpsItems (y :: ys) ++ ']' :: rest)) hx (by omega) (.token (by simp))
    have hitems := readItems_dumpsItems (x := y) (l := ys) (n := n) (r := rest) hxs (by omega)
    have hskip : skipBlanks (dumpsItems (y :: ys) ++ ']' :: rest) =
        dumpsItems (y :: ys) ++ ']' :: rest := by
      cases ys with
      | nil => rw [dumpsItems, hcs, List.cons_append, skipBlanks_cons hblank]
      | cons z zs =>
        rw [dumpsItems_cons, hcs, List.cons_append, List.cons_append, skipBlanks_cons hblank]
    rw [hdumps, List.append_assoc, List.cons_append, readItems, hvalue]
    show (readItems n (skipBlanks (dumpsItems (y :: ys) ++ ']' :: rest))).bind _ = _
    rw [hskip, hitems]
    rfl

lemma readEntries_dumpsEntries : ∀ {k : String} {v : JsonValue} {l : JsonObject} {n : ℕ}
    {r : List Char}, exactEntries ((k, v) :: l) = true →
      (dumpsEntries ((k, v) :: l)).length + 1 < n →
        readEntries n (dumpsEntries ((k, v) :: l) ++ '}' :: r) = some ((k, v) :: l, r)
  | k, v, [], n + 1, rest, h, hn => by
    have hv : exact v = true := (Bool.and_eq_true_iff.1 h).1
    have hlength := length_le_flatMap_escape k.toList
    have hdumps : dumpsEntries [(k, v)] =
        '"' :: (k.toList.flatMap escape ++ '"' :: ':' :: dumps v) := by
      simp [dumpsEntries, quote]
    rw [hdumps] at hn ⊢
    rw [List.length_cons, List.length_append, List.length_cons, List.length_cons] at hn
    have hkey := readChars_flatMap k.toList (n := n) (by omega) (':' :: (dumps v ++ '}' :: rest))
    have hvalue := readValue_dumps (v := v) (n := n) (r := '}' :: rest) hv (by omega)
      (.token (by simp))
    obtain ⟨c, cs, hcs, hblank, -⟩ := head_dumps hv
    have hskip : skipBlanks (dumps v ++ '}' :: rest) = dumps v ++ '}' :: rest := by
      rw [hcs, List.cons_append, skipBlanks_cons hblank]
    have happend : '"' :: (k.toList.flatMap escape ++ '"' :: ':' :: dumps v) ++ '}' :: rest =
        '"' :: (k.toList.flatMap escape ++ '"' :: ':' :: (dumps v ++ '}' :: rest)) := by simp
    rw [happend, readEntries, hkey]
    show (readValue n (skipBlanks (dumps v ++ '}' :: rest))).bind _ = _
    rw [hskip, hvalue]
    show some ([(String.ofList k.toList, v)], rest) = _
    rw [String.ofList_toList]
  | k, v, e :: es, n + 1, rest, h, hn => by
    obtain ⟨hv, hes⟩ := Bool.and_eq_true_iff.1 h
    have hlength := length_le_flatMap_escape k.toList
    have hdumps : dumpsEntries ((k, v) :: e :: es) =
        '"' :: (k.toList.flatMap escape ++ '"' :: ':' :: (dumps v ++ ',' :: dumpsEntries (e :: es))) := by
      simp [dumpsEntries, quote]
    rw [hdumps] at hn ⊢
    simp only [List.length_cons, List.length_append] at hn
    have hkey := readChars_flatMap k.toList (n := n) (by omega)
      (':' :: (dumps v ++ ',' :: (dumpsEntries (e :: es) ++ '}' :: rest)))
    have hvalue := readValue_dumps (v := v) (n := n)
      (r := ',' :: (dumpsEntries (e :: es) ++ '}' :: rest)) hv (by omega) (.token (by simp))
    have hentries := readEntries_dumpsEntries (k := e.1) (v := e.2) (l := es) (n := n)
      (r := rest) hes (by rw [Prod.mk.eta]; omega)
    obtain ⟨c, cs, hcs, hblank, -⟩ := head_dumps hv
    have hskip : skipBlanks (dumps v ++ ',' :: (dumpsEntries (e :: es) ++ '}' :: rest)) =
        dumps v ++ ',' :: (dumpsEntries (e :: es) ++ '}' :: rest) := by
      rw [hcs, List.cons_append, skipBlanks_cons hblank]
    have hskip' : skipBlanks (dumpsEntries (e :: es) ++ '}' :: rest) =
        dumpsEntries (e :: es) ++ '}' :: rest := by
      cases es with
      | nil => rfl
      | cons f fs => rfl
    have happend : '"' :: (k.toList.flatMap escape ++ '"' :: ':' ::
        (dumps v ++ ',' :: dumpsEntries (e :: es))) ++ '}' :: rest =
          '"' :: (k.toList.flatMap escape ++ '"' :: ':' ::
            (dumps v ++ ',' :: (dumpsEntries (e :: es) ++ '}' :: rest))) := by simp
    rw [happend, readEntries, hkey]
    show (readValue n (skipBlanks (dumps v ++ ',' :: (dumpsEntries (e :: es) ++ '}' :: rest)))).bind
      _ = _
    rw [hskip, hvalue]
    show (readEntries n (skipBlanks (dumpsEntries (e :: es) ++ '}' :: rest))).bind _ = _
    rw [hskip', hentries]
    show some ((String.ofList k.toList, v) :: e :: es, rest) = _
    rw [String.ofList_toList]

end

mutual

/-- Fractions print as numbers: the canonical form of the value is exact. -/
def printable : JsonValue → Bool
  | float t => isFloatText t
  | list xs => printableItems xs
  | dict es => printableEntries es
  | null => true
  | bool _ => true
  | int _ => true
  | str _ => true

/-- Every item is printable. -/
def printableItems : List JsonValue → Bool
  | [] => true
  | x :: xs => printable x && printableItems xs

/-- The value of every entry is printable. -/
def printableEntries : JsonObject → Bool
  | [] => true
  | (_, v) :: es => printable v && printableEntries es

end

lemma exactEntries_insertEntry {k : String} {v : JsonValue} {es : JsonObject}
    (hv : exact v = true) (hes : exactEntries es = true) :
    exactEntries (insertEntry k v es) = true := by
  induction es with
  | nil => simp [insertEntry, exactEntries, hv]
  | cons e es ih =>
    obtain ⟨l, w⟩ := e
    obtain ⟨hw, hes⟩ := Bool.and_eq_true_iff.1 hes
    unfold insertEntry
    split_ifs <;> simp [exactEntries, hv, hw, hes, ih]

lemma nodup_keys_canonicalEntries (es : JsonObject) :
    ((canonicalEntries es).map Prod.fst).Nodup := by
  rw [List.Nodup, List.pairwise_map]
  exact (sortedEntries_canonicalEntries es).imp fun h => ne_of_lt h

mutual

lemma exact_canonical : ∀ {v : JsonValue}, printable v = true → exact v.canonical = true
  | null, _ => rfl
  | bool _, _ => rfl
  | int _, _ => rfl
  | str _, _ => rfl
  | float _, h => h
  | list xs, h => exactItems_canonicalList (l := xs) h
  | dict es, h => by
    have hentries := exactEntries_canonicalEntries (l := es) h
    have hnodup := nodup_keys_canonicalEntries es
    rw [canonical_dict, exact, hentries, decide_eq_true hnodup]
    rfl

lemma exactItems_canonicalList : ∀ {l : List JsonValue}, printableItems l = true →
    exactItems (canonicalList l) = true
  | [], _ => rfl
  | x :: xs, h => by
    obtain ⟨hx, hxs⟩ := Bool.and_eq_true_iff.1 h
    rw [canonicalList, exactItems, exact_canonical hx, exactItems_canonicalList hxs]
    rfl

lemma exactEntries_canonicalEntries : ∀ {l : JsonObject}, printableEntries l = true →
    exactEntries (canonicalEntries l) = true
  | [], _ => rfl
  | (k, v) :: es, h => by
    obtain ⟨hv, hes⟩ := Bool.and_eq_true_iff.1 h
    exact exactEntries_insertEntry (exact_canonical hv) (exactEntries_canonicalEntries hes)

end

/-- A printed text starts with an ASCII character. -/
lemma head_canonicalJson {v : JsonValue} (h : printable v = true) :
    ∃ c cs, v.canonicalJson.toList = c :: cs ∧ c.toNat < 0x80 := by
  obtain ⟨c, cs, hcs, -, hc, -⟩ := head_dumps (exact_canonical h)
  exact ⟨c, cs, by rw [canonicalJson, String.toList_ofList, hcs], hc⟩

/-- **Round trip.** A printable value is read back in canonical form from the text that the
canonical serializer prints. -/
theorem loads_canonicalJson {v : JsonValue} (h : printable v = true) :
    loads v.canonicalJson = some v.canonical := by
  have hexact := exact_canonical h
  obtain ⟨c, cs, hcs, hblank, -⟩ := head_dumps hexact
  have hskip : skipBlanks v.canonical.dumps = v.canonical.dumps := by
    rw [hcs, skipBlanks_cons hblank]
  have hvalue := readValue_dumps (v := v.canonical) (n := v.canonical.dumps.length + 1) (r := [])
    hexact (by omega) .done
  rw [List.append_nil] at hvalue
  rw [loads, canonicalJson, String.toList_ofList, hskip, hvalue]
  rfl

/-- Printable values that print the same text have the same canonical form. -/
theorem canonical_of_canonicalJson {v w : JsonValue} (hv : printable v = true)
    (hw : printable w = true) (h : v.canonicalJson = w.canonicalJson) :
    v.canonical = w.canonical := by
  have hloads := loads_canonicalJson hv
  rw [h, loads_canonicalJson hw] at hloads
  exact (Option.some.inj hloads).symm


/-! ## Printed characters -/

lemma le_toNat_of_mem_escape {c d : Char} (h : d ∈ escape c) : 32 ≤ d.toNat := by
  have hpair : ∀ e : Char, 32 ≤ e.toNat → d ∈ ['\\', e] → 32 ≤ d.toNat := by
    intro e he hd
    rw [List.mem_cons, List.mem_singleton] at hd
    rcases hd with rfl | rfl
    · decide
    · exact he
  have hhex : ∀ n < 16, 32 ≤ (Nat.digitChar n).toNat := by decide
  unfold escape at h
  simp only [beq_iff_eq] at h
  split_ifs at h with hquote hslash hn hr ht hf hb hlow
  · exact hpair _ (by decide) h
  · exact hpair _ (by decide) h
  · exact hpair _ (by decide) h
  · exact hpair _ (by decide) h
  · exact hpair _ (by decide) h
  · exact hpair _ (by decide) h
  · exact hpair _ (by decide) h
  · simp only [Sha256.hexByte, List.cons_append, List.nil_append, List.mem_cons,
      List.not_mem_nil, or_false] at h
    rcases h with rfl | rfl | rfl | rfl | rfl | rfl
    · decide
    · decide
    · decide
    · decide
    · exact hhex _ (by omega)
    · exact hhex _ (by omega)
  · rw [List.mem_singleton] at h
    subst h
    omega

lemma le_toNat_of_mem_quote {s : String} {d : Char} (h : d ∈ quote s) : 32 ≤ d.toNat := by
  rw [quote, List.mem_append, List.mem_cons, List.mem_singleton, List.mem_flatMap] at h
  rcases h with (rfl | ⟨c, -, hc⟩) | rfl
  · decide
  · exact le_toNat_of_mem_escape hc
  · decide

lemma le_toNat_of_mem {cs : List Char} (h : (cs.all fun c => 32 ≤ c.toNat) = true) {d : Char}
    (hd : d ∈ cs) : 32 ≤ d.toNat := by
  simpa using List.all_eq_true.1 h d hd

mutual

/-- A printed value holds no control character. -/
lemma le_toNat_of_mem_dumps : ∀ {v : JsonValue} {d : Char}, exact v = true → d ∈ dumps v →
    32 ≤ d.toNat
  | null, d, _, h => le_toNat_of_mem (by decide) h
  | bool true, d, _, h => le_toNat_of_mem (by decide) h
  | bool false, d, _, h => le_toNat_of_mem (by decide) h
  | int i, d, _, h => by
    rw [dumps, toList_toString_int, List.mem_append] at h
    rcases h with h | h
    · split_ifs at h
      · rw [List.mem_singleton] at h
        subst h
        decide
      · simp at h
    · have hdigit := isAsciiDigit_of_mem_toDigits h
      exact le_toNat_of_isNumberChar (by simp [isNumberChar, hdigit])
  | float _, _, hv, h => le_toNat_of_isNumberChar (isNumberChar_of_isFloatText hv _ h)
  | str s, d, _, h => le_toNat_of_mem_quote h
  | list xs, d, hv, h => by
    rw [dumps, List.mem_append, List.mem_cons, List.mem_singleton] at h
    rcases h with (rfl | h) | rfl
    · decide
    · exact le_toNat_of_mem_dumpsItems hv h
    · decide
  | dict es, d, hv, h => by
    rw [dumps, List.mem_append, List.mem_cons, List.mem_singleton] at h
    rcases h with (rfl | h) | rfl
    · decide
    · exact le_toNat_of_mem_dumpsEntries (Bool.and_eq_true_iff.1 hv).2 h
    · decide

lemma le_toNat_of_mem_dumpsItems : ∀ {xs : List JsonValue} {d : Char}, exactItems xs = true →
    d ∈ dumpsItems xs → 32 ≤ d.toNat
  | [], d, _, h => by simp [dumpsItems] at h
  | [x], d, hxs, h => le_toNat_of_mem_dumps (Bool.and_eq_true_iff.1 hxs).1 h
  | x :: y :: ys, d, hxs, h => by
    obtain ⟨hx, hys⟩ := Bool.and_eq_true_iff.1 hxs
    rw [dumpsItems_cons, List.mem_append, List.mem_cons] at h
    rcases h with h | rfl | h
    · exact le_toNat_of_mem_dumps hx h
    · decide
    · exact le_toNat_of_mem_dumpsItems hys h

lemma le_toNat_of_mem_dumpsEntries : ∀ {es : JsonObject} {d : Char}, exactEntries es = true →
    d ∈ dumpsEntries es → 32 ≤ d.toNat
  | [], d, _, h => by simp [dumpsEntries] at h
  | [(k, v)], d, hes, h => by
    rw [dumpsEntries, List.mem_append, List.mem_cons] at h
    rcases h with h | rfl | h
    · exact le_toNat_of_mem_quote h
    · decide
    · exact le_toNat_of_mem_dumps (Bool.and_eq_true_iff.1 hes).1 h
  | (k, v) :: e :: es, d, hes, h => by
    obtain ⟨hv, hes⟩ := Bool.and_eq_true_iff.1 hes
    have hdumps : dumpsEntries ((k, v) :: e :: es) =
        quote k ++ ':' :: dumps v ++ ',' :: dumpsEntries (e :: es) := rfl
    rw [hdumps, List.mem_append, List.mem_append, List.mem_cons, List.mem_cons] at h
    rcases h with (h | rfl | h) | rfl | h
    · exact le_toNat_of_mem_quote h
    · decide
    · exact le_toNat_of_mem_dumps hv h
    · decide
    · exact le_toNat_of_mem_dumpsEntries hes h

end

lemma le_toNat_of_mem_canonicalJson {v : JsonValue} (hv : printable v = true) {d : Char}
    (h : d ∈ v.canonicalJson.toList) : 32 ≤ d.toNat := by
  rw [canonicalJson, String.toList_ofList] at h
  exact le_toNat_of_mem_dumps (exact_canonical hv) h

end JsonValue

end Aizim
