import Aizim.Framework.PythonJson

/-!
# TOML

`loads` reads a document of keys and values as the reader of the standard library does: dotted keys
of bare and quoted parts, strings on one line, booleans and inline tables.  Table headers, arrays,
numbers, dates and strings over several lines are not read, so a document is read here only if the
library reads it, and as the same table.

`quote` writes a string as the printer of JSON does that keeps what is not ASCII.  What it writes is
read back unless the text holds a delete character, which that printer does not escape
(`readBasic_quote`).  So a row of quoted pairs is read as an inline table exactly when it holds none
and no key occurs twice (`readInline_pairs`).
-/

namespace Aizim.Toml

/-! ## Values -/

/-- A value.  What is written in braces is an inline table, which no dotted key extends. -/
inductive TomlValue
  | text (s : PyText)
  | bool (b : Bool)
  | table (inline : Bool) (entries : List (PyText × TomlValue))

/-- The entries of a table, in the order in which they were written. -/
abbrev TomlTable := List (PyText × TomlValue)

/-- The value of a key. -/
def TomlTable.get? (t : TomlTable) (key : PyText) : Option TomlValue :=
  (t.find? fun e => e.1 == key).map Prod.snd

/-- Add a value under a dotted key, which must not have one. -/
def TomlTable.insert (t : TomlTable) : List PyText → TomlValue → Option TomlTable
  | [], _ => none
  | [k], v => if (t.get? k).isSome then none else some (t ++ [(k, v)])
  | k :: k' :: ks, v =>
    match t.get? k with
    | none => (TomlTable.insert [] (k' :: ks) v).map fun nest => t ++ [(k, .table false nest)]
    | some (.table false nest) => (TomlTable.insert nest (k' :: ks) v).map fun nest =>
      t.map fun e => if e.1 == k then (k, .table false nest) else e
    | some _ => none

/-! ## Tokens -/

/-- `TOML_WS` -/
def isBlank : PyChar → Bool
  | .char c => c == ' ' || c == '\t'
  | .surrogate _ => false

/-- `skip_chars(src, pos, TOML_WS)` -/
def skipBlanks (cs : PyText) : PyText := cs.dropWhile isBlank

/-- `BARE_KEY_CHARS` -/
def isBareKeyChar : PyChar → Bool
  | .char c => ('a' ≤ c && c ≤ 'z') || ('A' ≤ c && c ≤ 'Z') || ('0' ≤ c && c ≤ '9') || c == '-' ||
    c == '_'
  | .surrogate _ => false

/-- `ILLEGAL_BASIC_STR_CHARS` -/
def isIllegal : PyChar → Bool
  | .char c => (c.toNat < 32 && c != '\t') || c.toNat == 127
  | .surrogate _ => false

/-- The value of a hexadecimal digit. -/
def hexValue : PyChar → Option ℕ
  | .char c =>
    if '0' ≤ c && c ≤ '9' then some (c.toNat - '0'.toNat)
    else if 'a' ≤ c && c ≤ 'f' then some (c.toNat - 'a'.toNat + 10)
    else if 'A' ≤ c && c ≤ 'F' then some (c.toNat - 'A'.toNat + 10)
    else none
  | .surrogate _ => none

/-- `parse_hex_char` -/
def readHex (digits : ℕ) (cs : PyText) : Option (PyChar × PyText) := do
  let values ← (cs.take digits).mapM hexValue
  let code := values.foldl (fun code value => 16 * code + value) 0
  if values.length = digits ∧ code.isValidChar then pure (.char (Char.ofNat code), cs.drop digits)
  else none

/-- `BASIC_STR_ESCAPE_REPLACEMENTS` -/
def escapeReplacement (c : Char) : Option Char :=
  if c == 'b' then some (Char.ofNat 8)
  else if c == 't' then some '\t'
  else if c == 'n' then some '\n'
  else if c == 'f' then some (Char.ofNat 12)
  else if c == 'r' then some '\r'
  else if c == '"' || c == '\\' then some c
  else none

/-- `parse_basic_str_escape`, from the character after the backslash. -/
def readEscape : PyText → Option (PyChar × PyText)
  | .char c :: cs =>
    if c == 'u' then readHex 4 cs
    else if c == 'U' then readHex 8 cs
    else (escapeReplacement c).map fun r => (.char r, cs)
  | _ => none

/-- `parse_basic_str` on one line, from the character after the opening quote. -/
def readBasic : ℕ → PyText → Option (PyText × PyText)
  | n + 1, c :: cs =>
    if c = .char '"' then some ([], cs)
    else if c = .char '\\' then
      (readEscape cs).bind fun e => (readBasic n e.2).map fun r => (e.1 :: r.1, r.2)
    else if isIllegal c then none
    else (readBasic n cs).map fun r => (c :: r.1, r.2)
  | _, _ => none

/-- `parse_literal_str`, from the character after the opening quote. -/
def readLiteral : PyText → Option (PyText × PyText)
  | c :: cs =>
    if c = .char '\'' then some ([], cs)
    else if isIllegal c then none
    else (readLiteral cs).map fun r => (c :: r.1, r.2)
  | [] => none

/-- `parse_key_part` -/
def readKeyPart (n : ℕ) : PyText → Option (PyText × PyText)
  | .char '"' :: cs => readBasic n cs
  | .char '\'' :: cs => readLiteral cs
  | cs =>
    if cs.takeWhile isBareKeyChar = [] then none
    else some (cs.takeWhile isBareKeyChar, cs.dropWhile isBareKeyChar)

/-- `parse_key` -/
def readKey : ℕ → PyText → Option (List PyText × PyText)
  | n + 1, cs => do
    let (part, rest) ← readKeyPart n cs
    match skipBlanks rest with
    | .char '.' :: rest => do
      let (parts, rest) ← readKey n (skipBlanks rest)
      pure (part :: parts, rest)
    | rest => pure ([part], rest)
  | 0, _ => none

/-- A constant at the start of a text, and what is after it. -/
def readConstant (cs : PyText) : Option (TomlValue × PyText) :=
  if (pyString "true").isPrefixOf cs then some (.bool true, cs.drop 4)
  else if (pyString "false").isPrefixOf cs then some (.bool false, cs.drop 5)
  else none

/-! ## Documents -/

mutual

/-- `parse_value` -/
def readValue : ℕ → PyText → Option (TomlValue × PyText)
  | n + 1, c :: cs =>
    if c = .char '"' then
      if cs.take 2 = pyString "\"\"" then none
      else (readBasic n cs).map fun r => (.text r.1, r.2)
    else if c = .char '\'' then
      if cs.take 2 = pyString "''" then none
      else (readLiteral cs).map fun r => (.text r.1, r.2)
    else if c = .char '\x7b' then
      match skipBlanks cs with
      | .char '\x7d' :: rest => some (.table true [], rest)
      | rest => (readInline n [] rest).map fun r => (.table true r.1, r.2)
    else readConstant (c :: cs)
  | _, _ => none

/-- `parse_inline_table`, from the next key, with the entries before it. -/
def readInline : ℕ → TomlTable → PyText → Option (TomlTable × PyText)
  | n + 1, seen, cs => do
    let (key, rest) ← readKey n cs
    match rest with
    | .char '=' :: rest => do
      let (value, rest) ← readValue n (skipBlanks rest)
      let seen ← seen.insert key value
      match skipBlanks rest with
      | .char '\x7d' :: rest => pure (seen, rest)
      | .char ',' :: rest => readInline n seen (skipBlanks rest)
      | _ => none
    | _ => none
  | 0, _, _ => none

end

/-- `skip_comment` -/
def skipComment : PyText → Option PyText
  | .char '#' :: cs =>
    if (cs.takeWhile (· ≠ .char '\n')).any isIllegal then none
    else some (cs.dropWhile (· ≠ .char '\n'))
  | cs => some cs

/-- The statements of a document, after those that were read. -/
def readStatements : ℕ → TomlTable → PyText → Option TomlTable
  | n + 1, seen, cs =>
    match skipBlanks cs with
    | [] => some seen
    | .char '\n' :: rest => readStatements n seen rest
    | .char '#' :: rest => do
      match ← skipComment (.char '#' :: rest) with
      | [] => pure seen
      | _ :: rest => readStatements n seen rest
    | cs => do
      let (key, rest) ← readKey n cs
      match rest with
      | .char '=' :: rest => do
        let (value, rest) ← readValue n (skipBlanks rest)
        let seen ← seen.insert key value
        match ← skipComment (skipBlanks rest) with
        | [] => pure seen
        | .char '\n' :: rest => readStatements n seen rest
        | _ => none
      | _ => none
  | 0, _, _ => none

/-- `s.replace("\r\n", "\n")` -/
def replaceNewlines : PyText → PyText
  | .char '\r' :: .char '\n' :: cs => .char '\n' :: replaceNewlines cs
  | c :: cs => c :: replaceNewlines cs
  | [] => []

/-- `loads` -/
def loads (s : PyText) : Option TomlTable :=
  readStatements (2 * s.length + 2) [] (replaceNewlines s)

/-! ## Quoted strings -/

/-- A character as the printer writes it. -/
def escape : PyChar → PyText
  | .char c => pyText (JsonValue.escape c)
  | .surrogate n => [.surrogate n]

/-- `json.dumps(value, ensure_ascii=False)` -/
def quote (value : PyText) : PyText := .char '"' :: (value.flatMap escape ++ [.char '"'])

/-- The delete character, which the printer leaves as it is. -/
def delete : PyChar := .char (Char.ofNat 127)

/-! ## Reading what was quoted -/

lemma hexValue_digitChar : ∀ n < 16, hexValue (.char (Nat.digitChar n)) = some n := by decide

lemma readHex_hexByte {n : ℕ} (h : n < 128) (rest : PyText) :
    readHex 4 (pyText ('0' :: '0' :: Sha256.hexByte n) ++ rest) =
      some (.char (Char.ofNat n), rest) := by
  have hhigh := hexValue_digitChar (n / 16) (by omega)
  have hlow := hexValue_digitChar (n % 16) (by omega)
  have hzero : hexValue (.char '0') = some 0 := by decide
  have hn : 16 * (n / 16) + n % 16 = n := by omega
  have hvalid : n.isValidChar := Or.inl (by omega)
  simp [readHex, pyText, Sha256.hexByte, hzero, hhigh, hlow, hn, hvalid]

lemma readBasic_escape_delete (n : ℕ) (rest : PyText) :
    readBasic (n + 1) (escape delete ++ rest) = none := by
  have hescape : escape delete = [delete] := by decide
  have hillegal : isIllegal delete = true := by decide
  have hquote : delete ≠ .char '"' := by decide
  have hslash : delete ≠ .char '\\' := by decide
  simp [hescape, readBasic, hillegal, hquote, hslash]

/-- What the printer replaced is read back as what it was. -/
lemma readBasic_replaced {d r : Char}
    (h : ∀ cs, readEscape (.char d :: cs) = some (.char r, cs)) (n : ℕ) (rest : PyText) :
    readBasic (n + 1) (pyText ['\\', d] ++ rest) =
      (readBasic n rest).map fun e => (.char r :: e.1, e.2) := by
  show (readEscape (.char d :: rest)).bind _ = _
  rw [h]
  rfl

/-- Any other character is read back from what the printer writes. -/
lemma readBasic_escape {c : PyChar} (hc : c ≠ delete) (n : ℕ) (rest : PyText) :
    readBasic (n + 1) (escape c ++ rest) = (readBasic n rest).map fun r => (c :: r.1, r.2) := by
  cases c with
  | surrogate m =>
    have hillegal : isIllegal (.surrogate m) = false := rfl
    simp [escape, readBasic, hillegal]
  | char c =>
    unfold escape JsonValue.escape
    simp only [beq_iff_eq]
    split_ifs with hquote hslash hn hr ht hf hb hlow
    · subst hquote
      exact readBasic_replaced (fun _ => rfl) n rest
    · subst hslash
      exact readBasic_replaced (fun _ => rfl) n rest
    · subst hn
      exact readBasic_replaced (fun _ => rfl) n rest
    · subst hr
      exact readBasic_replaced (fun _ => rfl) n rest
    · subst ht
      exact readBasic_replaced (fun _ => rfl) n rest
    · obtain rfl := JsonValue.eq_ofNat_of_toNat hf
      exact readBasic_replaced (fun _ => rfl) n rest
    · obtain rfl := JsonValue.eq_ofNat_of_toNat hb
      exact readBasic_replaced (fun _ => rfl) n rest
    · have hhex := readHex_hexByte (n := c.toNat) (by omega) rest
      rw [Char.ofNat_toNat] at hhex
      show (readHex 4 (pyText ('0' :: '0' :: Sha256.hexByte c.toNat) ++ rest)).bind _ = _
      rw [hhex]
      rfl
    · have hdelete : c.toNat ≠ 127 := by
        intro h
        rw [JsonValue.eq_ofNat_of_toNat h] at hc
        exact hc rfl
      have hillegal : isIllegal (.char c) = false := by
        simp [isIllegal, hlow, hdelete]
      simp [pyText, readBasic, hillegal, hquote, hslash]

/-- A text is read back from what was quoted exactly if it holds no delete character. -/
lemma readBasic_flatMap (s : PyText) {n : ℕ} (h : s.length < n) (rest : PyText) :
    readBasic n (s.flatMap escape ++ .char '"' :: rest) =
      if delete ∈ s then none else some (s, rest) := by
  induction s generalizing n with
  | nil =>
    obtain ⟨n, rfl⟩ := Nat.exists_eq_add_of_lt h
    rfl
  | cons c s ih =>
    rw [List.length_cons] at h
    obtain ⟨n, rfl⟩ : ∃ m, n = m + 1 := Nat.exists_eq_succ_of_ne_zero (by omega)
    rw [List.flatMap_cons, List.append_assoc]
    by_cases hc : c = delete
    · subst hc
      rw [readBasic_escape_delete, if_pos List.mem_cons_self]
    · have hmem : delete ∈ c :: s ↔ delete ∈ s := by
        simp [Ne.symm hc]
      rw [readBasic_escape hc, ih (by omega)]
      simp only [hmem]
      split_ifs <;> rfl

lemma length_le_flatMap_escape (s : PyText) : s.length ≤ (s.flatMap escape).length := by
  induction s with
  | nil => exact le_rfl
  | cons c s ih =>
    have hc : 0 < (escape c).length := by
      cases c with
      | surrogate n => simp [escape]
      | char c =>
        simp only [escape, JsonValue.escape]
        split_ifs <;> simp [pyText]
    rw [List.flatMap_cons, List.length_append, List.length_cons]
    omega

/-- `escape` never starts with a quote. -/
lemma head_escape (c : PyChar) (cs : PyText) : (escape c ++ cs).head? ≠ some (.char '"') := by
  cases c with
  | surrogate n => simp [escape]
  | char c =>
    unfold escape JsonValue.escape
    simp only [beq_iff_eq]
    split_ifs <;> simp_all [pyText]

lemma length_quote (s : PyText) : s.length + 2 ≤ (quote s).length := by
  have hlength := length_le_flatMap_escape s
  simp only [quote, List.length_cons, List.length_append, List.length_nil]
  omega

lemma skipBlanks_cons {c : PyChar} (h : isBlank c = false) (cs : PyText) :
    skipBlanks (c :: cs) = c :: cs := by
  simp [skipBlanks, h]

lemma skipBlanks_of_bare {c : PyChar} (h : isBareKeyChar c = true) (cs : PyText) :
    skipBlanks (c :: cs) = c :: cs := by
  apply skipBlanks_cons
  cases c with
  | surrogate m => rfl
  | char c =>
    by_contra hblank
    simp only [isBlank, Bool.not_eq_false, Bool.or_eq_true, beq_iff_eq] at hblank
    rcases hblank with rfl | rfl <;> exact absurd h (by decide)

/-- A quoted key is read, before the sign of equality. -/
lemma readKey_quote {k : PyText} {n : ℕ} (h : k.length < n) (rest : PyText) :
    readKey (n + 1) (quote k ++ .char '=' :: rest) =
      if delete ∈ k then none else some ([k], .char '=' :: rest) := by
  have hpart : readKeyPart n (quote k ++ .char '=' :: rest) =
      if delete ∈ k then none else some (k, .char '=' :: rest) := by
    simp only [quote, List.cons_append, List.append_assoc, List.nil_append, readKeyPart]
    exact readBasic_flatMap k h _
  have hblank := skipBlanks_cons (c := .char '=') rfl rest
  simp only [readKey, hpart]
  split_ifs
  · rfl
  · simp [hblank]

/-- A bare part of a key is read, before anything that is not of it. -/
lemma readKeyPart_bare {k : PyText} (hne : k ≠ []) (hk : k.all isBareKeyChar = true) {c : PyChar}
    (hc : isBareKeyChar c = false) (n : ℕ) (rest : PyText) :
    readKeyPart n (k ++ c :: rest) = some (k, c :: rest) := by
  have htake : (k ++ c :: rest).takeWhile isBareKeyChar = k := by
    rw [List.takeWhile_append_of_pos (List.all_eq_true.1 hk),
      List.takeWhile_cons_of_neg (by simp [hc]), List.append_nil]
  have hdrop : (k ++ c :: rest).dropWhile isBareKeyChar = c :: rest := by
    rw [List.dropWhile_append_of_pos (List.all_eq_true.1 hk),
      List.dropWhile_cons_of_neg (by simp [hc])]
  cases k with
  | nil => exact absurd rfl hne
  | cons d k =>
    have hd : isBareKeyChar d = true := List.all_eq_true.1 hk d List.mem_cons_self
    rw [List.cons_append] at htake hdrop ⊢
    unfold readKeyPart
    split
    · next heq =>
      obtain ⟨rfl, -⟩ := List.cons.inj heq
      exact absurd hd (by decide)
    · next heq =>
      obtain ⟨rfl, -⟩ := List.cons.inj heq
      exact absurd hd (by decide)
    · rw [htake, hdrop, if_neg (List.cons_ne_nil d k)]

/-- A bare key is read, before the sign of equality. -/
lemma readKey_bare {k : PyText} (hne : k ≠ []) (hk : k.all isBareKeyChar = true) (n : ℕ)
    (rest : PyText) :
    readKey (n + 1) (k ++ .char '=' :: rest) = some ([k], .char '=' :: rest) := by
  have hpart := readKeyPart_bare hne hk (c := .char '=') (by decide) n rest
  have hblank := skipBlanks_cons (c := .char '=') rfl rest
  simp [readKey, hpart, hblank]

/-- A dotted key of two bare parts is read, before the sign of equality. -/
lemma readKey_dotted {k l : PyText} (hk : k ≠ []) (hkbare : k.all isBareKeyChar = true)
    (hl : l ≠ []) (hlbare : l.all isBareKeyChar = true) (n : ℕ) (rest : PyText) :
    readKey (n + 2) (k ++ .char '.' :: (l ++ .char '=' :: rest)) =
      some ([k, l], .char '=' :: rest) := by
  have hpart := readKeyPart_bare hk hkbare (c := .char '.') (by decide) (n + 1)
    (l ++ .char '=' :: rest)
  have hblank := skipBlanks_cons (c := .char '.') rfl (l ++ .char '=' :: rest)
  have hnext : skipBlanks (l ++ .char '=' :: rest) = l ++ .char '=' :: rest := by
    cases l with
    | nil => exact absurd rfl hl
    | cons d l => exact skipBlanks_of_bare (List.all_eq_true.1 hlbare d List.mem_cons_self) _
  have hlast := readKey_bare hl hlbare n rest
  rw [readKey, hpart]
  simp [hblank, hnext, hlast]

/-- A quoted value is read, before anything but one more quote. -/
lemma readValue_quote {v : PyText} {n : ℕ} (h : v.length < n) {c : PyChar} (hc : c ≠ .char '"')
    (rest : PyText) :
    readValue (n + 1) (quote v ++ c :: rest) =
      if delete ∈ v then none else some (.text v, c :: rest) := by
  have htake : (v.flatMap escape ++ .char '"' :: c :: rest).take 2 ≠ pyString "\"\"" := by
    intro htake
    cases v with
    | nil =>
      have htwo : [PyChar.char '"', c] = [.char '"', .char '"'] := htake
      exact hc (by simpa using htwo)
    | cons d v =>
      rw [List.flatMap_cons, List.append_assoc] at htake
      have hhead := congrArg List.head? htake
      rw [List.head?_take, if_neg (by decide)] at hhead
      exact head_escape d _ hhead
  simp only [quote, List.cons_append, List.append_assoc, List.nil_append, readValue, if_pos,
    if_neg htake, readBasic_flatMap v h]
  split_ifs <;> rfl

/-- A row of quoted pairs. -/
def pairsText (pairs : List (PyText × PyText)) : PyText :=
  [PyChar.char ','].intercalate (pairs.map fun p => quote p.1 ++ .char '=' :: quote p.2)

/-- Add a pair that was quoted. -/
def TomlTable.addQuoted (seen : TomlTable) (p : PyText × PyText) : Option TomlTable :=
  if delete ∈ p.1 ∨ delete ∈ p.2 then none else seen.insert [p.1] (.text p.2)

/-- One pair of an inline table is read, before what goes on with the table or ends it. -/
lemma readInline_pair {p : PyText × PyText} {n : ℕ} (hkey : p.1.length < n)
    (hvalue : p.2.length < n) {c : PyChar} (hc : c = .char ',' ∨ c = .char '\x7d')
    (seen : TomlTable) (rest : PyText) :
    readInline (n + 2) seen (quote p.1 ++ .char '=' :: quote p.2 ++ c :: rest) =
      (seen.addQuoted p).bind fun seen =>
        if c = .char ',' then readInline (n + 1) seen (skipBlanks rest) else some (seen, rest) := by
  have hread := readKey_quote hkey (quote p.2 ++ c :: rest)
  have hne : c ≠ .char '"' := by
    rcases hc with rfl | rfl <;> decide
  have hblank : skipBlanks (quote p.2 ++ c :: rest) = quote p.2 ++ c :: rest :=
    skipBlanks_cons (c := .char '"') rfl _
  have hlast := readValue_quote hvalue hne rest
  rw [List.append_assoc, List.cons_append, readInline, hread]
  by_cases hdelete : delete ∈ p.1
  · simp [TomlTable.addQuoted, hdelete]
  by_cases hdelete' : delete ∈ p.2
  · simp [TomlTable.addQuoted, hdelete, hblank, hlast, hdelete']
  · have hclose := skipBlanks_cons (c := c) (by rcases hc with rfl | rfl <;> rfl) rest
    simp only [hdelete, if_false, Option.bind_eq_bind, Option.bind_some, hblank, hlast, hdelete',
      hclose, TomlTable.addQuoted, or_self]
    rcases hc with rfl | rfl <;> rfl

@[simp] lemma pairsText_singleton (p : PyText × PyText) :
    pairsText [p] = quote p.1 ++ .char '=' :: quote p.2 :=
  List.intercalate_singleton

@[simp] lemma pairsText_cons_cons (p q : PyText × PyText) (pairs : List (PyText × PyText)) :
    pairsText (p :: q :: pairs) =
      quote p.1 ++ .char '=' :: quote p.2 ++ .char ',' :: pairsText (q :: pairs) := by
  simp [pairsText, List.intercalate_cons_cons]

lemma exists_pairsText (p : PyText × PyText) (pairs : List (PyText × PyText)) :
    ∃ cs, pairsText (p :: pairs) = .char '"' :: cs := by
  cases pairs with
  | nil => exact ⟨_, pairsText_singleton p⟩
  | cons q pairs => exact ⟨_, pairsText_cons_cons p q pairs⟩

lemma skipBlanks_pairsText (p : PyText × PyText) (pairs : List (PyText × PyText)) (rest : PyText) :
    skipBlanks (pairsText (p :: pairs) ++ rest) = pairsText (p :: pairs) ++ rest := by
  obtain ⟨cs, hcs⟩ := exists_pairsText p pairs
  rw [hcs]
  exact skipBlanks_cons rfl _

/-- A row of quoted pairs is read pair by pair. -/
lemma readInline_pairsText {pairs : List (PyText × PyText)} (hne : pairs ≠ []) {n : ℕ}
    (h : (pairsText pairs).length < n) (seen : TomlTable) (rest : PyText) :
    readInline n seen (pairsText pairs ++ .char '\x7d' :: rest) =
      (pairs.foldlM TomlTable.addQuoted seen).map fun seen => (seen, rest) := by
  induction pairs generalizing n seen with
  | nil => exact absurd rfl hne
  | cons p pairs ih =>
    have hkey := length_quote p.1
    have hvalue := length_quote p.2
    cases pairs with
    | nil =>
      rw [pairsText_singleton, List.length_append, List.length_cons] at h
      obtain ⟨n, rfl⟩ : ∃ m, n = m + 2 := ⟨n - 2, by omega⟩
      rw [pairsText_singleton, readInline_pair (by omega) (by omega) (Or.inr rfl),
        List.foldlM_cons]
      cases seen.addQuoted p <;> rfl
    | cons q pairs =>
      rw [pairsText_cons_cons, List.length_append, List.length_append, List.length_cons,
        List.length_cons] at h
      obtain ⟨n, rfl⟩ : ∃ m, n = m + 2 := ⟨n - 2, by omega⟩
      rw [pairsText_cons_cons, List.append_assoc, List.cons_append,
        readInline_pair (by omega) (by omega) (Or.inl rfl), List.foldlM_cons, skipBlanks_pairsText]
      cases seen.addQuoted p with
      | none => rfl
      | some seen => exact ih (by simp) (by omega) seen

lemma isSome_get?_iff {t : TomlTable} {key : PyText} :
    (t.get? key).isSome = true ↔ key ∈ t.map Prod.fst := by
  simp [TomlTable.get?]

/-- Pairs that a table can take: they hold no delete character and no key that is there. -/
structure Addable (seen : TomlTable) (pairs : List (PyText × PyText)) : Prop where
  plain : ∀ p ∈ pairs, delete ∉ p.1 ∧ delete ∉ p.2
  nodup : (pairs.map Prod.fst).Nodup
  fresh : ∀ p ∈ pairs, p.1 ∉ seen.map Prod.fst

/-- The entries of a row of pairs. -/
def textEntries (pairs : List (PyText × PyText)) : TomlTable := pairs.map fun p => (p.1, .text p.2)

lemma addQuoted_eq (seen : TomlTable) (p : PyText × PyText) :
    seen.addQuoted p = if (delete ∉ p.1 ∧ delete ∉ p.2) ∧ p.1 ∉ seen.map Prod.fst
      then some (seen ++ [(p.1, .text p.2)]) else none := by
  simp only [TomlTable.addQuoted, TomlTable.insert, isSome_get?_iff]
  split_ifs <;> first | rfl | tauto

lemma foldlM_addQuoted_of_addable {seen : TomlTable} {pairs : List (PyText × PyText)}
    (h : Addable seen pairs) :
    pairs.foldlM TomlTable.addQuoted seen = some (seen ++ textEntries pairs) := by
  induction pairs generalizing seen with
  | nil => simp [textEntries]
  | cons p pairs ih =>
    have hhead : p.1 ∉ pairs.map Prod.fst ∧ (pairs.map Prod.fst).Nodup := List.nodup_cons.1 h.nodup
    have hnext : Addable (seen ++ [(p.1, .text p.2)]) pairs := by
      refine ⟨fun q hq => h.plain q (List.mem_cons_of_mem p hq), hhead.2, fun q hq hseen => ?_⟩
      simp only [List.map_append, List.map_cons, List.map_nil, List.mem_append,
        List.mem_singleton] at hseen
      rcases hseen with hseen | heq
      · exact h.fresh q (List.mem_cons_of_mem p hq) hseen
      · exact hhead.1 (heq ▸ List.mem_map_of_mem hq)
    rw [List.foldlM_cons, addQuoted_eq,
      if_pos ⟨h.plain p List.mem_cons_self, h.fresh p List.mem_cons_self⟩]
    show pairs.foldlM TomlTable.addQuoted (seen ++ [(p.1, .text p.2)]) = _
    rw [ih hnext]
    simp [textEntries]

lemma addable_of_foldlM {seen t : TomlTable} {pairs : List (PyText × PyText)}
    (h : pairs.foldlM TomlTable.addQuoted seen = some t) : Addable seen pairs := by
  induction pairs generalizing seen with
  | nil => exact ⟨by simp, by simp, by simp⟩
  | cons p pairs ih =>
    rw [List.foldlM_cons, addQuoted_eq] at h
    split_ifs at h with hp
    · have htail := ih h
      have hfresh : ∀ q ∈ pairs, q.1 ∉ seen.map Prod.fst ∧ q.1 ≠ p.1 := by
        intro q hq
        simpa [not_or] using htail.fresh q hq
      refine ⟨?_, ?_, ?_⟩
      · exact List.forall_mem_cons.2 ⟨hp.1, htail.plain⟩
      · refine List.nodup_cons.2 ⟨fun hmem => ?_, htail.nodup⟩
        obtain ⟨q, hq, heq⟩ := List.mem_map.1 hmem
        exact (hfresh q hq).2 heq
      · exact List.forall_mem_cons.2 ⟨hp.2, fun q hq => (hfresh q hq).1⟩
    · cases h

/-- A row of quoted pairs is read as an inline table if it holds no delete character and no key
twice. -/
theorem readInline_of_addable {pairs : List (PyText × PyText)} (hne : pairs ≠ []) {n : ℕ}
    (hlength : (pairsText pairs).length < n) (h : Addable [] pairs) (rest : PyText) :
    readInline n [] (pairsText pairs ++ .char '\x7d' :: rest) = some (textEntries pairs, rest) := by
  rw [readInline_pairsText hne hlength, foldlM_addQuoted_of_addable h]
  rfl

/-- No other row of quoted pairs is read. -/
theorem readInline_of_not_addable {pairs : List (PyText × PyText)} (hne : pairs ≠ []) {n : ℕ}
    (hlength : (pairsText pairs).length < n) (h : ¬ Addable [] pairs) (rest : PyText) :
    readInline n [] (pairsText pairs ++ .char '\x7d' :: rest) = none := by
  rw [readInline_pairsText hne hlength]
  cases hfold : pairs.foldlM TomlTable.addQuoted [] with
  | none => rfl
  | some t => exact absurd (addable_of_foldlM hfold) h

/-! ## Tables and documents -/

/-- A brace before a key opens a table. -/
lemma readValue_openBrace {n : ℕ} {cs : PyText} (h : skipBlanks cs = cs)
    (hclose : cs.head? ≠ some (.char '\x7d')) :
    readValue (n + 1) (.char '\x7b' :: cs) =
      (readInline n [] cs).map fun r => (.table true r.1, r.2) := by
  have hquote : PyChar.char '\x7b' ≠ .char '"' := by decide
  have hliteral : PyChar.char '\x7b' ≠ .char '\'' := by decide
  simp only [readValue, hquote, hliteral, if_false, if_true, h]
  split
  · exact absurd rfl hclose
  · rfl

/-- A row of quoted pairs in braces. -/
lemma readValue_pairsText {pairs : List (PyText × PyText)} (hne : pairs ≠ []) {n : ℕ}
    (h : (pairsText pairs).length < n) (rest : PyText) :
    readValue (n + 1) (.char '\x7b' :: (pairsText pairs ++ .char '\x7d' :: rest)) =
      (pairs.foldlM TomlTable.addQuoted []).map fun t => (.table true t, rest) := by
  obtain ⟨p, ps, rfl⟩ := List.exists_cons_of_ne_nil hne
  have hclose : (pairsText (p :: ps) ++ .char '\x7d' :: rest).head? ≠ some (.char '\x7d') := by
    obtain ⟨cs, hcs⟩ := exists_pairsText p ps
    simp [hcs]
  rw [readValue_openBrace (skipBlanks_pairsText p ps _) hclose, readInline_pairsText hne h,
    Option.map_map]
  rfl

/-- A table whose next value is not read is not read. -/
lemma readInline_of_value_none {n : ℕ} {seen : TomlTable} {key : List PyText} {cs rest : PyText}
    (hkey : readKey n cs = some (key, .char '=' :: rest))
    (hvalue : readValue n (skipBlanks rest) = none) : readInline (n + 1) seen cs = none := by
  simp [readInline, hkey, hvalue]

lemma insert_of_notMem {seen : TomlTable} {k : PyText} (h : k ∉ seen.map Prod.fst)
    (v : TomlValue) : seen.insert [k] v = some (seen ++ [(k, v)]) := by
  simp only [TomlTable.insert, isSome_get?_iff, h, if_false]

/-- The entry that ends a table. -/
lemma readInline_last {n : ℕ} {seen : TomlTable} {k cs rest after : PyText} {v : TomlValue}
    (hkey : readKey n cs = some ([k], .char '=' :: rest))
    (hvalue : readValue n (skipBlanks rest) = some (v, .char '\x7d' :: after))
    (hseen : k ∉ seen.map Prod.fst) :
    readInline (n + 1) seen cs = some (seen ++ [(k, v)], after) := by
  have hinsert := insert_of_notMem hseen v
  have hblank := skipBlanks_cons (c := .char '\x7d') rfl after
  simp [readInline, hkey, hvalue, hinsert, hblank]

/-- An entry that a comma follows. -/
lemma readInline_next {n : ℕ} {seen : TomlTable} {k cs rest after : PyText} {v : TomlValue}
    (hkey : readKey n cs = some ([k], .char '=' :: rest))
    (hvalue : readValue n (skipBlanks rest) = some (v, .char ',' :: after))
    (hseen : k ∉ seen.map Prod.fst) :
    readInline (n + 1) seen cs = readInline n (seen ++ [(k, v)]) (skipBlanks after) := by
  have hinsert := insert_of_notMem hseen v
  have hblank := skipBlanks_cons (c := .char ',') rfl after
  simp [readInline, hkey, hvalue, hinsert, hblank]

/-- A document of one statement, which starts with a bare key. -/
lemma readStatements_single {n : ℕ} {c : PyChar} {cs rest : PyText} {key : List PyText}
    (hc : isBareKeyChar c = true)
    (hkey : readKey n (c :: cs) = some (key, .char '=' :: rest))
    {value : Option TomlValue}
    (hvalue : readValue n (skipBlanks rest) = value.map fun v => (v, [])) :
    readStatements (n + 1) [] (c :: cs) = value.bind (TomlTable.insert [] key) := by
  rw [readStatements, skipBlanks_of_bare hc]
  split
  · next heq => cases heq
  · next heq =>
    obtain ⟨rfl, -⟩ := List.cons.inj heq
    exact absurd hc (by decide)
  · next heq =>
    obtain ⟨rfl, -⟩ := List.cons.inj heq
    exact absurd hc (by decide)
  · cases value with
    | none => simp [hkey, hvalue]
    | some v =>
      simp only [hkey, hvalue, Option.map_some, Option.bind_eq_bind, Option.bind_some]
      cases TomlTable.insert [] key v <;> rfl

/-! ## Lines -/

lemma replaceNewlines_of_notMem {s : PyText} (h : .char '\r' ∉ s) : replaceNewlines s = s := by
  induction s with
  | nil => rfl
  | cons c s ih =>
    obtain ⟨hc, hs⟩ := not_or.1 (List.mem_cons.not.1 h)
    unfold replaceNewlines
    split
    · next heq => exact absurd (List.cons.inj heq).1.symm hc
    · next heq =>
      obtain ⟨rfl, rfl⟩ := List.cons.inj heq
      rw [ih hs]
    · next heq => cases heq

lemma return_notMem_escape (c : PyChar) : .char '\r' ∉ escape c := by
  cases c with
  | surrogate n => simp [escape]
  | char c =>
    have hdigit : ∀ n < 16, '\r' ≠ Nat.digitChar n := by decide
    simp only [escape, JsonValue.escape, beq_iff_eq, pyText]
    split_ifs with hquote hslash hn hr ht hf hb hlow
    · simp
    · simp
    · simp
    · simp
    · simp
    · simp
    · simp
    · have hhigh := hdigit (c.toNat / 16) (by omega)
      have hlow := hdigit (c.toNat % 16) (by omega)
      simp [Sha256.hexByte, hhigh, hlow]
    · simpa using Ne.symm hr

/-- The printer escapes the carriage return. -/
lemma return_notMem_quote (s : PyText) : .char '\r' ∉ quote s := by
  have hchars : ∀ c ∈ s, .char '\r' ∉ escape c := fun c _ => return_notMem_escape c
  simpa [quote] using hchars

lemma return_notMem_pairsText (pairs : List (PyText × PyText)) :
    .char '\r' ∉ pairsText pairs := by
  induction pairs with
  | nil => simp [pairsText, List.intercalate]
  | cons p pairs ih =>
    cases pairs with
    | nil => simp [return_notMem_quote]
    | cons q pairs =>
      rw [pairsText_cons_cons]
      simp [return_notMem_quote, ih]

end Aizim.Toml
