import Aizim.Knowledge.SourceScanner

/-!
# Discovery in sources

A project that has no compiler index yet is searched for declarations in its sources.
`maskComments` blanks comments and string literals there, so that every offset stays what it was,
and collects the documentation comments.

It is a second scanner for the comments and strings of Lean, beside the one of the contributions,
and both pass over the same characters (`maskComments_agrees`).
-/

namespace Aizim.Research

open Knowledge LeanLexer

/-! ## Masking -/

/-- The loop over a block comment: whether it was closed, and what follows it. -/
def passBlock : (depth : ℕ) → List Char → Bool × List Char
  | 0, cs => (true, cs)
  | _ + 1, [] => (false, [])
  | depth + 1, '/' :: '-' :: cs => passBlock (depth + 2) cs
  | depth + 1, '-' :: '/' :: cs => passBlock depth cs
  | depth + 1, _ :: cs => passBlock (depth + 1) cs

/-- The loop over a string literal, from after its first quote: what follows it. -/
def passString : List Char → List Char
  | [] => []
  -- an escape at the end of the text goes past it
  | ['\\'] => []
  | '\\' :: _ :: cs => passString cs
  | '"' :: cs => cs
  | _ :: cs => passString cs

/-- The characters of a text before its end `rest`. -/
def upTo (rest cs : List Char) : List Char := cs.take (cs.length - rest.length)

/-- What stands at the place of a character that is passed over. -/
def blank (c : Char) : Char := if c = '\n' then c else ' '

/-- The result of `mask_comments`, and which characters it passed over. -/
structure Masked where
  chars : List Char
  /-- The documentation comments with the positions after them. -/
  docs : List (ℕ × String)
  passed : List Bool

/-- Blank what was passed over. -/
def Masked.over (taken : List Char) (m : Masked) : Masked :=
  ⟨taken.map blank ++ m.chars, m.docs, List.replicate taken.length true ++ m.passed⟩

/-- Leave a character as it is. -/
def Masked.keep (c : Char) (m : Masked) : Masked := ⟨c :: m.chars, m.docs, false :: m.passed⟩

/-- Collect a block comment that ends at a position, if it is a documentation comment. -/
def Masked.doc (closed : Bool) (stop : ℕ) (taken : List Char) (m : Masked) : Masked :=
  if ['/', '-', '-'].isPrefixOf taken && closed then
    { m with docs := (stop, strip (String.ofList ((taken.take (taken.length - 2)).drop 3))) :: m.docs }
  else m

lemma length_passBlock_le (depth : ℕ) (cs : List Char) :
    (passBlock depth cs).2.length ≤ cs.length := by
  fun_induction passBlock depth cs with
  | case1 => exact Nat.le_refl _
  | case2 => exact Nat.le_refl _
  | case3 depth cs ih =>
    rw [List.length_cons, List.length_cons]
    omega
  | case4 depth cs ih =>
    rw [List.length_cons, List.length_cons]
    omega
  | case5 depth c cs _ _ ih => exact ih.trans (Nat.le_succ _)

lemma length_passString_le (cs : List Char) : (passString cs).length ≤ cs.length := by
  fun_induction passString cs with
  | case1 => exact Nat.le_refl _
  | case2 => exact Nat.zero_le _
  | case3 c cs ih =>
    rw [List.length_cons, List.length_cons]
    omega
  | case4 cs => exact Nat.le_succ _
  | case5 c cs _ _ _ ih => exact ih.trans (Nat.le_succ _)

/-- The loop of `mask_comments` from a position. -/
def maskFrom (position : ℕ) : List Char → Masked
  | [] => ⟨[], [], []⟩
  | '/' :: '-' :: cs =>
    let block := passBlock 1 cs
    let taken := upTo block.2 ('/' :: '-' :: cs)
    let stop := position + taken.length
    ((maskFrom stop block.2).doc block.1 stop taken).over taken
  | '-' :: '-' :: cs =>
    let taken := '-' :: '-' :: cs.takeWhile (· != '\n')
    (maskFrom (position + taken.length) (cs.dropWhile (· != '\n'))).over taken
  | '"' :: cs =>
    let taken := upTo (passString cs) ('"' :: cs)
    (maskFrom (position + taken.length) (passString cs)).over taken
  | c :: cs => (maskFrom (position + 1) cs).keep c
termination_by cs => cs.length
decreasing_by
  · have := length_passBlock_le 1 cs
    simp only [List.length_cons]
    omega
  · have := (List.dropWhile_sublist (· != '\n') (l := cs)).length_le
    simp only [List.length_cons]
    omega
  · have := length_passString_le cs
    simp only [List.length_cons]
    omega
  · simp

/-- `mask_comments` -/
def maskComments (source : String) : Masked := maskFrom 0 source.toList

/-! ## What is passed over -/

lemma passBlock_eq_readBlock (depth : ℕ) (cs : List Char) :
    (passBlock (depth + 1) cs).2 = (readBlock depth cs).2 := by
  fun_induction readBlock depth cs with
  | case1 depth => rfl
  | case2 depth cs ih => exact ih
  | case3 cs => cases cs <;> rfl
  | case4 cs depth ih => exact ih
  | case5 depth c cs hopens hlast hcloses ih =>
    have hends : ∀ rest, c = '-' → cs = '/' :: rest → False := by
      intro rest hc hcs
      cases depth with
      | zero => exact hlast rest rfl hc hcs
      | succ depth => exact hcloses depth rest rfl hc hcs
    rw [passBlock]
    · exact ih
    · exact hopens
    · exact hends

lemma passString_eq_readString (cs : List Char) : passString cs = (readString cs).2 := by
  fun_induction readString cs with
  | case1 => rfl
  | case2 c cs ih => exact ih
  | case3 cs => rfl
  | case4 c cs hescape hquote ih =>
    by_cases hend : c = '\\' ∧ cs = []
    · obtain ⟨rfl, rfl⟩ := hend
      rfl
    · rw [passString]
      · exact ih
      · exact fun hc hcs => hend ⟨hc, hcs⟩
      · exact hescape
      · exact hquote

lemma upTo_append (taken rest : List Char) : upTo rest (taken ++ rest) = taken := by
  rw [upTo, List.length_append, Nat.add_sub_cancel]
  exact List.take_left

/-- A block comment is what the lexer of Lean reads as one. -/
lemma upTo_passBlock (cs : List Char) :
    upTo (passBlock 1 cs).2 ('/' :: '-' :: cs) = '/' :: '-' :: (readBlock 0 cs).1 := by
  have hsplit : '/' :: '-' :: cs = ('/' :: '-' :: (readBlock 0 cs).1) ++ (passBlock 1 cs).2 := by
    rw [passBlock_eq_readBlock, List.cons_append, List.cons_append]
    exact congrArg (fun t => '/' :: '-' :: t) (splits_readBlock 0 cs).symm
  rw [hsplit]
  exact upTo_append _ _

/-- A string literal is what the lexer of Lean reads as one. -/
lemma upTo_passString (cs : List Char) :
    upTo (passString cs) ('"' :: cs) = '"' :: (readString cs).1 := by
  have hsplit : '"' :: cs = ('"' :: (readString cs).1) ++ passString cs := by
    rw [passString_eq_readString, List.cons_append]
    exact congrArg ('"' :: ·) (splits_readString cs).symm
  rw [hsplit]
  exact upTo_append _ _

/-- The mask passes over the characters of a text that are not kept, and leaves the others. -/
structure Masks (m : Masked) (cs : List Char) (kept : List Bool) : Prop where
  passed_eq : m.passed = kept.map (! ·)
  chars_eq : m.chars = List.zipWith (fun c keep => if keep then c else blank c) cs kept

lemma Masks.over {m : Masked} {rest : List Char} {kept : List Bool} (h : Masks m rest kept)
    (taken : List Char) :
    Masks (m.over taken) (taken ++ rest) (List.replicate taken.length false ++ kept) := by
  refine ⟨?_, ?_⟩
  · rw [Masked.over, h.passed_eq, List.map_append, List.map_replicate]
    rfl
  · have hblank : List.zipWith (fun c keep => if keep then c else blank c) taken
        (List.replicate taken.length false) = taken.map blank := by
      induction taken with
      | nil => rfl
      | cons c taken ih =>
        rw [List.length_cons, List.replicate_succ, List.zipWith_cons_cons, ih, List.map_cons]
        rfl
    rw [Masked.over, h.chars_eq, List.zipWith_append (by rw [List.length_replicate]), hblank]

lemma Masks.keep {m : Masked} {cs : List Char} {kept : List Bool} (h : Masks m cs kept) (c : Char) :
    Masks (m.keep c) (c :: cs) (true :: kept) := by
  refine ⟨?_, ?_⟩
  · rw [Masked.keep, h.passed_eq, List.map_cons]
    rfl
  · rw [Masked.keep, h.chars_eq, List.zipWith_cons_cons]
    rfl

lemma Masks.doc {m : Masked} {cs : List Char} {kept : List Bool} (h : Masks m cs kept)
    (closed : Bool) (stop : ℕ) (taken : List Char) : Masks (m.doc closed stop taken) cs kept := by
  unfold Masked.doc
  split
  · exact ⟨h.passed_eq, h.chars_eq⟩
  · exact h

/-- A mask is made from the characters that the scanner of the contributions keeps. -/
lemma masks_maskFrom (position : ℕ) (cs : List Char) :
    Masks (maskFrom position cs) cs (keptFrom .code cs) := by
  fun_induction maskFrom position cs with
  | case1 => exact ⟨rfl, rfl⟩
  | case2 position cs block taken stop ih =>
    have htaken : taken = '/' :: '-' :: (readBlock 0 cs).1 := upTo_passBlock cs
    have hrest : block.2 = (readBlock 0 cs).2 := passBlock_eq_readBlock 0 cs
    have hsplit : '/' :: '-' :: cs = taken ++ block.2 := by
      rw [htaken, hrest, List.cons_append, List.cons_append]
      exact congrArg (fun t => '/' :: '-' :: t) (splits_readBlock 0 cs).symm
    have hkept : keptFrom .code ('/' :: '-' :: cs) =
        List.replicate taken.length false ++ keptFrom .code block.2 := by
      rw [keptFrom, keptFrom_block, htaken, hrest]
      rfl
    rw [hkept, hsplit]
    exact (ih.doc block.1 stop taken).over taken
  | case3 position cs taken ih =>
    have hsplit : '-' :: '-' :: cs = taken ++ cs.dropWhile (· != '\n') := by
      show '-' :: '-' :: cs = '-' :: '-' :: (cs.takeWhile (· != '\n') ++ cs.dropWhile (· != '\n'))
      rw [List.takeWhile_append_dropWhile]
    have hkept : keptFrom .code ('-' :: '-' :: cs) =
        List.replicate taken.length false ++ keptFrom .code (cs.dropWhile (· != '\n')) := by
      rw [keptFrom, keptFrom_line]
      rfl
    rw [hkept, hsplit]
    exact ih.over taken
  | case4 position cs taken ih =>
    have htaken : taken = '"' :: (readString cs).1 := upTo_passString cs
    have hrest : passString cs = (readString cs).2 := passString_eq_readString cs
    have hsplit : '"' :: cs = taken ++ passString cs := by
      rw [htaken, hrest, List.cons_append]
      exact congrArg ('"' :: ·) (splits_readString cs).symm
    have hkept : keptFrom .code ('"' :: cs) =
        List.replicate taken.length false ++ keptFrom .code (passString cs) := by
      rw [keptFrom, keptFrom_string, htaken, hrest]
      rfl
    rw [hkept, hsplit]
    exact ih.over taken
  | case5 position c cs hblock hline hquote ih =>
    have hkept : keptFrom .code (c :: cs) = true :: keptFrom .code cs := by
      rw [keptFrom]
      · exact hline
      · exact hblock
      · exact hquote
    rw [hkept]
    exact ih.keep c

/-! ## The two scanners -/

lemma length_keptFrom (mode : ScanMode) (cs : List Char) :
    (keptFrom mode cs).length = cs.length := by
  fun_induction keptFrom mode cs <;> simp_all


/-- `mask_comments` passes over the character at a place. -/
def PassesOver (source : String) (i : ℕ) : Prop := (maskComments source).passed[i]? = some true

/-- `_strip_comments_and_strings` drops the character at a place. -/
def Drops (source : String) (i : ℕ) : Prop := (keptFrom .code source.toList)[i]? = some false

/-- **The scanners agree**: `mask_comments` keeps the length of a text and its newlines, blanks what
it passes over and nothing else, and passes over exactly the characters that
`_strip_comments_and_strings` drops. -/
theorem maskComments_agrees (source : String) :
    (maskComments source).chars.length = source.toList.length ∧
      (∀ i : ℕ, source.toList[i]? = some '\n' → (maskComments source).chars[i]? = some '\n') ∧
      (∀ (i : ℕ) (c : Char), source.toList[i]? = some c →
        (PassesOver source i → (maskComments source).chars[i]? = some (blank c)) ∧
        (¬ PassesOver source i → (maskComments source).chars[i]? = some c)) ∧
      (∀ i : ℕ, PassesOver source i ↔ Drops source i) ∧
      stripCommentsAndStrings source = select source.toList (keptFrom .code source.toList) := by
  have hmasks := masks_maskFrom 0 source.toList
  have hkept := length_keptFrom .code source.toList
  have hplace : ∀ (i : ℕ) (c : Char), source.toList[i]? = some c → ∃ keep,
      (keptFrom .code source.toList)[i]? = some keep ∧
      (maskComments source).passed[i]? = some (!keep) ∧
      (maskComments source).chars[i]? = some (if keep then c else blank c) := by
    intro i c hc
    obtain ⟨hi, -⟩ := List.getElem?_eq_some_iff.1 hc
    obtain ⟨keep, hkeep⟩ : ∃ keep, (keptFrom .code source.toList)[i]? = some keep :=
      ⟨_, List.getElem?_eq_getElem (by omega)⟩
    refine ⟨keep, hkeep, ?_, ?_⟩
    · rw [maskComments, hmasks.passed_eq, List.getElem?_map, hkeep]
      rfl
    · rw [maskComments, hmasks.chars_eq, List.getElem?_zipWith, hc, hkeep]
  refine ⟨?_, fun i hi => ?_, fun i c hc => ⟨fun hpassed => ?_, fun hpassed => ?_⟩, fun i => ?_,
    stripFrom_eq_select .code source.toList⟩
  · rw [maskComments, hmasks.chars_eq, List.length_zipWith, hkept, Nat.min_self]
  · obtain ⟨keep, -, -, hchar⟩ := hplace i '\n' hi
    rw [hchar]
    cases keep <;> rfl
  · obtain ⟨keep, -, hmark, hchar⟩ := hplace i c hc
    obtain rfl : keep = false := by simpa using Option.some.inj (hmark.symm.trans hpassed)
    exact hchar
  · obtain ⟨keep, -, hmark, hchar⟩ := hplace i c hc
    cases keep with
    | true => exact hchar
    | false => exact absurd hmark hpassed
  · rw [PassesOver, Drops, maskComments, hmasks.passed_eq, List.getElem?_map]
    simp

example : (maskComments "a /- \n -- /- -/ b").chars = "a    \n           ".toList := by
  simp [maskComments, maskFrom, passBlock, upTo, Masked.over, Masked.keep, Masked.doc, blank]

end Aizim.Research
