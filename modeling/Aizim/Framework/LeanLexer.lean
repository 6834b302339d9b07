import Mathlib.Data.Nat.Notation
import Mathlib.Data.List.Basic
import Mathlib.Tactic.Lemma

/-!
# The lexical grammar of Lean

`lexTokens` splits a text into tokens: comments, string literals, raw string literals, character
literals, names, and single characters for the rest, white space and the digits of numbers among
them.  It is total: a comment or literal that is not closed takes all that follows.  No character
is lost (`flatMap_text_lexTokens`), so that every place of a text lies in one token, and
`regions` says for each place whether it is code, a comment or a string literal.

A line comment ends before its newline.  Block comments nest, and the opening of a documentation
comment has three characters; after that of another the reader takes one character unread.  A prime is the start of a character literal only where the literal
is complete, and a part of the name where it follows one.  An interpolated string is the literal
that it looks like.
-/

namespace Aizim.LeanLexer

/-! ## Characters -/

/-- `isLetterLike` -/
def isLetterLike (c : Char) : Bool :=
  let n := c.toNat
  (0x3b1 ≤ n && n ≤ 0x3c9 && n != 0x3bb) || (0x391 ≤ n && n ≤ 0x3a9 && n != 0x3a0 && n != 0x3a3) ||
    (0x3ca ≤ n && n ≤ 0x3fb) || (0x1f00 ≤ n && n ≤ 0x1ffe) || (0x2100 ≤ n && n ≤ 0x214f) ||
    (0x1d49c ≤ n && n ≤ 0x1d59f) || (0xc0 ≤ n && n ≤ 0xff && n != 0xd7 && n != 0xf7) ||
    (0x100 ≤ n && n ≤ 0x17f)

/-- `isSubScriptAlnum` -/
def isSubScriptAlnum (c : Char) : Bool :=
  let n := c.toNat
  (0x2080 ≤ n && n ≤ 0x2089) || (0x2090 ≤ n && n ≤ 0x209c) || (0x1d62 ≤ n && n ≤ 0x1d6a) ||
    n == 0x2c7c

/-- `[A-Za-z]` -/
def isLetter (c : Char) : Bool := ('a' ≤ c && c ≤ 'z') || ('A' ≤ c && c ≤ 'Z')

/-- `[0-9]` -/
def isDigit (c : Char) : Bool := '0' ≤ c && c ≤ '9'

/-- `[0-9A-Fa-f]` -/
def isHexDigit (c : Char) : Bool :=
  isDigit c || ('a' ≤ c && c ≤ 'f') || ('A' ≤ c && c ≤ 'F')

/-- `isIdFirst` -/
def isIdFirst (c : Char) : Bool := isLetter c || c == '_' || isLetterLike c

/-- `isIdRest` -/
def isIdRest (c : Char) : Bool :=
  isIdFirst c || isDigit c || c == '\'' || c == '!' || c == '?' || isSubScriptAlnum c

/-! ## Tokens -/

/-- What a token is. -/
inductive TokenKind
  | lineComment
  | blockComment
  | string
  | rawString
  | character
  | name
  /-- a single character that belongs to none of these -/
  | symbol
  deriving DecidableEq

/-- A token with its text. -/
structure Token where
  kind : TokenKind
  text : List Char
  deriving DecidableEq

/-- Put a character before what was read. -/
def before (c : Char) (read : List Char × List Char) : List Char × List Char :=
  (c :: read.1, read.2)

/-- A string literal from after its first quote. -/
def readString : List Char → List Char × List Char
  | [] => ([], [])
  | '\\' :: c :: cs => before '\\' (before c (readString cs))
  | '"' :: cs => (['"'], cs)
  | c :: cs => before c (readString cs)

/-- A block comment inside `depth` others, from after its opening. -/
def readBlock : (depth : ℕ) → List Char → List Char × List Char
  | _, [] => ([], [])
  | depth, '/' :: '-' :: cs => before '/' (before '-' (readBlock (depth + 1) cs))
  | 0, '-' :: '/' :: cs => (['-', '/'], cs)
  | depth + 1, '-' :: '/' :: cs => before '-' (before '/' (readBlock depth cs))
  | depth, c :: cs => before c (readBlock depth cs)

/-- The number of hashes between the `r` of a raw string literal and its quote. -/
def rawHashes : List Char → Option ℕ
  | '"' :: _ => some 0
  | '#' :: cs => (rawHashes cs).map (· + 1)
  | _ => none

/-- A raw string literal from after its first quote: it ends with a quote and that many hashes. -/
def readRaw (hashes : ℕ) : List Char → List Char × List Char
  | [] => ([], [])
  | c :: cs =>
    if c = '"' ∧ cs.take hashes = List.replicate hashes '#' then
      (c :: cs.take hashes, cs.drop hashes)
    else before c (readRaw hashes cs)

/-- The length of the character literal that starts here, if one does. -/
def characterLength : List Char → Option ℕ
  | '\'' :: '\\' :: 'x' :: a :: b :: '\'' :: _ => if isHexDigit a && isHexDigit b then some 6 else none
  | '\'' :: '\\' :: 'u' :: a :: b :: c :: d :: '\'' :: _ =>
    if isHexDigit a && isHexDigit b && isHexDigit c && isHexDigit d then some 8 else none
  | '\'' :: '\\' :: _ :: '\'' :: _ => some 4
  | '\'' :: c :: '\'' :: _ => if c == '\'' || c == '\\' then none else some 3
  | _ => none

/-- Where in a name the reader stands: in a part, between the quotation marks of a quoted part, or
after these. -/
inductive NameState
  | part
  | quoted
  | closed

/-- A name from after its first character; a part may follow a dot. -/
def readName : NameState → List Char → List Char × List Char
  | _, [] => ([], [])
  | .quoted, c :: cs => before c (readName (if c = '»' then .closed else .quoted) cs)
  | .part, c :: cs =>
    if isIdRest c then before c (readName .part cs)
    else
      match c, cs with
      | '.', d :: ds =>
        if isIdFirst d then before '.' (before d (readName .part ds))
        else if d = '«' ∧ '»' ∈ ds then before '.' (before d (readName .quoted ds))
        else ([], c :: cs)
      | _, _ => ([], c :: cs)
  | .closed, '.' :: d :: ds =>
    if isIdFirst d then before '.' (before d (readName .part ds))
    else if d = '«' ∧ '»' ∈ ds then before '.' (before d (readName .quoted ds))
    else ([], '.' :: d :: ds)
  | .closed, c :: cs => ([], c :: cs)

/-- A token and what follows it. -/
def tokenOf (kind : TokenKind) (read : List Char × List Char) : Token × List Char :=
  (⟨kind, read.1⟩, read.2)

/-- The first token of a text that is not empty, and what follows it. -/
def readToken : List Char → Token × List Char
  | [] => (⟨.symbol, []⟩, [])
  | '-' :: '-' :: cs =>
    tokenOf .lineComment
      (before '-' (before '-' (cs.takeWhile (· != '\n'), cs.dropWhile (· != '\n'))))
  | '/' :: '-' :: '-' :: cs =>
    tokenOf .blockComment (before '/' (before '-' (before '-' (readBlock 0 cs))))
  | '/' :: '-' :: '!' :: cs =>
    tokenOf .blockComment (before '/' (before '-' (before '!' (readBlock 0 cs))))
  | ['/', '-'] => (⟨.blockComment, ['/', '-']⟩, [])
  -- the character after the opening is taken unread: it opens or closes nothing
  | '/' :: '-' :: c :: cs =>
    tokenOf .blockComment (before '/' (before '-' (before c (readBlock 0 cs))))
  | '"' :: cs => tokenOf .string (before '"' (readString cs))
  | c :: cs =>
    match characterLength (c :: cs), if c = 'r' then rawHashes cs else none with
    | some length, _ => tokenOf .character ((c :: cs).splitAt length)
    | none, some hashes =>
      let read := readRaw hashes (cs.drop (hashes + 1))
      tokenOf .rawString (c :: cs.take (hashes + 1) ++ read.1, read.2)
    | none, none =>
      if isIdFirst c then tokenOf .name (before c (readName .part cs))
      else if c = '«' ∧ '»' ∈ cs then tokenOf .name (before c (readName .quoted cs))
      else tokenOf .symbol ([c], cs)

/-- The tokens of a text, at most a number of them. -/
def tokensOf : (limit : ℕ) → List Char → List Token
  | 0, _ => []
  | _ + 1, [] => []
  | limit + 1, c :: cs =>
    let (token, rest) := readToken (c :: cs)
    token :: tokensOf limit rest

/-- The tokens of a text. -/
def lexTokens (cs : List Char) : List Token := tokensOf cs.length cs

/-! ## Regions -/

/-- What a place of a text belongs to. -/
inductive Region
  | code
  | comment
  | literal
  deriving DecidableEq

/-- The region of a kind of token. -/
def TokenKind.region : TokenKind → Region
  | lineComment | blockComment => .comment
  | string | rawString => .literal
  | character | name | symbol => .code

/-- The regions of the places of a token. -/
def Token.regions (token : Token) : List Region :=
  List.replicate token.text.length token.kind.region

/-- The regions of the places of a text. -/
def regions (cs : List Char) : List Region := (lexTokens cs).flatMap Token.regions

/-! ## No character is lost -/

/-- Reading splits a text. -/
def Splits (read : List Char × List Char) (cs : List Char) : Prop := read.1 ++ read.2 = cs

lemma splits_nil (cs : List Char) : Splits ([], cs) cs := rfl

lemma Splits.before {read : List Char × List Char} {cs : List Char} (h : Splits read cs) (c : Char) :
    Splits (before c read) (c :: cs) :=
  congrArg (c :: ·) h

lemma splits_readString (cs : List Char) : Splits (readString cs) cs := by
  fun_induction readString cs with
  | case1 => exact splits_nil []
  | case2 c cs ih => exact (ih.before c).before '\\'
  | case3 cs => rfl
  | case4 c cs _ _ ih => exact ih.before c

lemma splits_readBlock (depth : ℕ) (cs : List Char) : Splits (readBlock depth cs) cs := by
  fun_induction readBlock depth cs with
  | case1 => exact splits_nil []
  | case2 depth cs ih => exact (ih.before '-').before '/'
  | case3 cs => rfl
  | case4 cs depth ih => exact (ih.before '/').before '-'
  | case5 depth c cs _ _ _ ih => exact ih.before c

lemma splits_readRaw (hashes : ℕ) (cs : List Char) : Splits (readRaw hashes cs) cs := by
  fun_induction readRaw hashes cs with
  | case1 => exact splits_nil []
  | case2 c cs _ =>
    rw [Splits, List.cons_append, List.take_append_drop]
  | case3 c cs _ ih => exact ih.before c

lemma splits_readName (state : NameState) (cs : List Char) : Splits (readName state cs) cs := by
  fun_induction readName state cs with
  | case1 => exact splits_nil []
  | case2 c cs ih => exact ih.before c
  | case3 c cs _ ih => exact ih.before c
  | case4 _ _ _ _ ih => exact (ih.before _).before '.'
  | case5 _ _ _ _ _ ih => exact (ih.before _).before '.'
  | case6 => rfl
  | case7 => rfl
  | case8 _ _ _ ih => exact (ih.before _).before '.'
  | case9 _ _ _ _ ih => exact (ih.before _).before '.'
  | case10 => rfl
  | case11 => rfl

lemma lt_length_of_rawHashes {hashes : ℕ} {cs : List Char} (h : rawHashes cs = some hashes) :
    hashes < cs.length := by
  induction cs generalizing hashes with
  | nil => cases h
  | cons c cs ih =>
    unfold rawHashes at h
    split at h
    · obtain rfl := Option.some.inj h
      simp
    · rename_i rest heq
      obtain ⟨rfl, rfl⟩ := List.cons.inj heq
      obtain ⟨k, hk, rfl⟩ := Option.map_eq_some_iff.1 h
      have := ih hk
      rw [List.length_cons]
      omega
    · cases h

/-- The first token and what follows it are the text. -/
lemma text_readToken (cs : List Char) : (readToken cs).1.text ++ (readToken cs).2 = cs := by
  have htoken : ∀ {kind : TokenKind} {read : List Char × List Char} {cs : List Char},
      Splits read cs → (tokenOf kind read).1.text ++ (tokenOf kind read).2 = cs := fun h => h
  fun_cases readToken cs with
  | case1 => rfl
  | case2 cs =>
    apply htoken
    have hline : Splits (cs.takeWhile (· != '\n'), cs.dropWhile (· != '\n')) cs :=
      List.takeWhile_append_dropWhile
    exact (hline.before '-').before '-'
  | case3 cs => exact htoken ((((splits_readBlock 0 cs).before '-').before '-').before '/')
  | case4 cs => exact htoken ((((splits_readBlock 0 cs).before '!').before '-').before '/')
  | case5 => rfl
  | case6 c cs => exact htoken ((((splits_readBlock 0 cs).before c).before '-').before '/')
  | case7 cs => exact htoken ((splits_readString cs).before '"')
  | case8 =>
    rw [List.splitAt_eq]
    exact List.take_append_drop _ _
  | case9 =>
    rename_i c cs _ _ _ _ _ _ hashes _ _ read
    have hraw : read.1 ++ read.2 = cs.drop (hashes + 1) :=
      splits_readRaw hashes (cs.drop (hashes + 1))
    simp only [tokenOf, List.cons_append, List.append_assoc, hraw, List.take_append_drop]
  | case10 => exact htoken ((splits_readName .part _).before _)
  | case11 => exact htoken ((splits_readName .quoted _).before _)
  | case12 => rfl


lemma characterLength_pos {cs : List Char} {length : ℕ} (h : characterLength cs = some length) :
    0 < length := by
  unfold characterLength at h
  split at h
  · split at h <;> simp_all
    omega
  · split at h <;> simp_all
    omega
  · simp_all
    omega
  · split at h <;> simp_all
    omega
  · cases h

/-- A token takes at least a character. -/
lemma text_readToken_ne_nil {cs : List Char} (h : cs ≠ []) : (readToken cs).1.text ≠ [] := by
  fun_cases readToken cs with
  | case1 => exact absurd rfl h
  | case8 =>
    rename_i hlength
    have := characterLength_pos hlength
    rw [List.splitAt_eq]
    simp only [tokenOf, ne_eq, List.take_eq_nil_iff, List.cons_ne_nil, or_false]
    omega
  | _ => simp [tokenOf, before]

lemma flatMap_text_tokensOf {limit : ℕ} {cs : List Char} (h : cs.length ≤ limit) :
    (tokensOf limit cs).flatMap Token.text = cs := by
  induction limit generalizing cs with
  | zero => exact (List.length_eq_zero_iff.1 (Nat.le_zero.1 h)).symm
  | succ limit ih =>
    rcases cs with _ | ⟨c, cs⟩
    · rfl
    · have hsplit := text_readToken (c :: cs)
      have hlength := congrArg List.length hsplit
      have hpos := List.length_pos_of_ne_nil (text_readToken_ne_nil (List.cons_ne_nil c cs))
      rw [List.length_append] at hlength
      simp only [tokensOf, List.flatMap_cons]
      rw [ih (by omega), hsplit]

/-- The tokens of a text make it up. -/
theorem flatMap_text_lexTokens (cs : List Char) : (lexTokens cs).flatMap Token.text = cs :=
  flatMap_text_tokensOf (Nat.le_refl _)

lemma text_ne_nil_of_mem_tokensOf {limit : ℕ} {cs : List Char} {token : Token}
    (h : token ∈ tokensOf limit cs) : token.text ≠ [] := by
  induction limit generalizing cs with
  | zero => exact absurd h List.not_mem_nil
  | succ limit ih =>
    rcases cs with _ | ⟨c, cs⟩
    · exact absurd h List.not_mem_nil
    · rcases List.mem_cons.1 h with rfl | h
      · exact text_readToken_ne_nil (List.cons_ne_nil c cs)
      · exact ih h

/-- No token of a text is empty. -/
lemma text_ne_nil_of_mem_lexTokens {cs : List Char} {token : Token} (h : token ∈ lexTokens cs) :
    token.text ≠ [] :=
  text_ne_nil_of_mem_tokensOf h

/-! ## The places of a text -/

@[simp] lemma length_regions_token (token : Token) : token.regions.length = token.text.length :=
  List.length_replicate

lemma length_flatMap_regions (tokens : List Token) :
    (tokens.flatMap Token.regions).length = (tokens.flatMap Token.text).length := by
  simp [List.length_flatMap]

/-- A place of a token has the region of the token. -/
lemma getElem?_regions {cs : List Char} {initial final : List Token} {token : Token}
    (h : lexTokens cs = initial ++ token :: final) {k : ℕ} (hk : k < token.text.length) :
    (regions cs)[(initial.flatMap Token.text).length + k]? = some token.kind.region := by
  rw [regions, h, List.flatMap_append, ← length_flatMap_regions initial,
    List.getElem?_append_right (Nat.le_add_right _ _), Nat.add_sub_cancel_left, List.flatMap_cons,
    List.getElem?_append_left (by simpa using hk)]
  exact List.getElem?_replicate_of_lt hk

/-- Every place lies in a token. -/
lemma exists_of_getElem?_flatMap {tokens : List Token} {i : ℕ} {region : Region}
    (h : (tokens.flatMap Token.regions)[i]? = some region) :
    ∃ initial token final k, tokens = initial ++ token :: final ∧ token.kind.region = region ∧
      k < token.text.length ∧ i = (initial.flatMap Token.text).length + k := by
  induction tokens generalizing i with
  | nil => cases h
  | cons token tokens ih =>
    rw [List.flatMap_cons] at h
    by_cases hi : i < token.text.length
    · rw [List.getElem?_append_left (by simpa using hi)] at h
      refine ⟨[], token, tokens, i, rfl, ?_, hi, (Nat.zero_add i).symm⟩
      simpa [Token.regions, hi] using h
    · rw [List.getElem?_append_right (by simpa using hi), length_regions_token] at h
      obtain ⟨initial, token', final, k, rfl, hregion, hk, hi'⟩ := ih h
      refine ⟨token :: initial, token', final, k, rfl, hregion, hk, ?_⟩
      rw [List.flatMap_cons, List.length_append]
      omega

end Aizim.LeanLexer
