import Mathlib.Data.List.Induction
import Aizim.Framework.LeanLexer
import Aizim.Knowledge.Contributions

/-!
# What the scanner keeps

The policy checks of a candidate read the text that `stripCommentsAndStrings` leaves.  The scanner
knows strings with escapes, line comments and nested block comments, and no more of the lexical
grammar of Lean: a quote in a character literal or a quoted name opens a string for it, a raw
string ends at its first quote, and the documentation comment that `/--/` opens is over at once.
It keeps all code exactly if no opening stands inside a token of code and the comments and literals
before each place of code end there for the scanner as well (`keepsCode_iff`).
-/

namespace Aizim.Knowledge

open LeanLexer

/-- Which characters of a text `stripFrom` keeps. -/
def keptFrom : ScanMode → List Char → List Bool
  | _, [] => []
  | .block depth, '/' :: '-' :: cs => false :: false :: keptFrom (.block (depth + 1)) cs
  | .block 0, '-' :: '/' :: cs => false :: false :: keptFrom .code cs
  | .block (depth + 1), '-' :: '/' :: cs => false :: false :: keptFrom (.block depth) cs
  | .block depth, _ :: cs => false :: keptFrom (.block depth) cs
  | .string, '\\' :: _ :: cs => false :: false :: keptFrom .string cs
  | .string, '"' :: cs => false :: keptFrom .code cs
  | .string, _ :: cs => false :: keptFrom .string cs
  | .line, '\n' :: cs => true :: keptFrom .code cs
  | .line, _ :: cs => false :: keptFrom .line cs
  | .code, '-' :: '-' :: cs => false :: false :: keptFrom .line cs
  | .code, '/' :: '-' :: cs => false :: false :: keptFrom (.block 0) cs
  | .code, '"' :: cs => false :: keptFrom .string cs
  | .code, _ :: cs => true :: keptFrom .code cs

/-- The characters at the places that are marked. -/
def select (cs : List Char) (marks : List Bool) : List Char :=
  ((cs.zip marks).filter (·.2)).map (·.1)

/-- The scanner leaves the characters that it keeps. -/
lemma stripFrom_eq_select (mode : ScanMode) (cs : List Char) :
    stripFrom mode cs = select cs (keptFrom mode cs) := by
  fun_induction stripFrom mode cs <;> simp_all [keptFrom, select]

/-- The scanner keeps every character that Lean reads as code. -/
def KeepsCode (source : String) : Prop :=
  ∀ i : ℕ, (regions source.toList)[i]? = some Region.code → (keptFrom .code source.toList)[i]? = some true

/-! ## Ordinary reading -/

/-- A string or a comment opens here. -/
def opens : List Char → Bool
  | '"' :: _ => true
  | '-' :: '-' :: _ => true
  | '/' :: '-' :: _ => true
  | _ => false

/-- What follows an ordinary string, a line comment, a block comment, or a single character. -/
def passOne : List Char → List Char
  | [] => []
  | '"' :: cs => (readString cs).2
  | '-' :: '-' :: cs => cs.dropWhile (· != '\n')
  | '/' :: '-' :: cs => (readBlock 0 cs).2
  | _ :: cs => cs

/-- Reading ordinary strings and comments and single characters comes to the place where `rest`
begins, and not inside a string or a comment. -/
inductive ReadsTo (rest : List Char) : List Char → Prop
  | here : ReadsTo rest rest
  | step {c : Char} {cs : List Char} : ReadsTo rest (passOne (c :: cs)) → ReadsTo rest (c :: cs)

/-- No string and no comment opens inside a token of code, and the comments and literals between
two tokens of code, or before the first, end there when they are read as ordinary ones. -/
structure OrdinaryOpenings (tokens : List Token) : Prop where
  code_quiet : ∀ initial token final, tokens = initial ++ token :: final →
    token.kind.region = .code → ∀ k < token.text.length,
      opens (((token :: final).flatMap Token.text).drop k) = false
  run_ends : ∀ initial run token final, tokens = initial ++ (run ++ token :: final) →
    (∀ last ∈ initial.getLast?, last.kind.region = .code) →
    (∀ other ∈ run, other.kind.region ≠ .code) → token.kind.region = .code →
      ReadsTo ((token :: final).flatMap Token.text) ((run ++ token :: final).flatMap Token.text)

/-! ## One step of ordinary reading -/

lemma keptFrom_string (cs : List Char) :
    keptFrom .string cs = List.replicate (readString cs).1.length false ++
      keptFrom .code (readString cs).2 := by
  fun_induction readString cs <;> simp_all [keptFrom, before, List.replicate_succ]

lemma keptFrom_block (depth : ℕ) (cs : List Char) :
    keptFrom (.block depth) cs = List.replicate (readBlock depth cs).1.length false ++
      keptFrom .code (readBlock depth cs).2 := by
  fun_induction readBlock depth cs <;> simp_all [keptFrom, before, List.replicate_succ]

lemma keptFrom_line (cs : List Char) :
    keptFrom .line cs = List.replicate (cs.takeWhile (· != '\n')).length false ++
      keptFrom .code (cs.dropWhile (· != '\n')) := by
  induction cs with
  | nil => rfl
  | cons c cs ih =>
    by_cases hc : c = '\n'
    · subst hc
      simp [keptFrom]
    · simp_all [keptFrom, List.replicate_succ]


/-- A step from code takes at least a character, marks all that it takes as kept or not, and comes
to code. -/
lemma exists_passOne {cs : List Char} (h : cs ≠ []) :
    ∃ passed, passed ≠ [] ∧ passed ++ passOne cs = cs ∧
      (opens cs = false → passed.length = 1) ∧
      keptFrom .code cs =
        List.replicate passed.length (!opens cs) ++ keptFrom .code (passOne cs) := by
  fun_cases passOne cs with
  | case1 => exact absurd rfl h
  | case2 cs =>
    refine ⟨'"' :: (readString cs).1, List.cons_ne_nil _ _,
      congrArg ('"' :: ·) (splits_readString cs), nofun, ?_⟩
    exact congrArg (false :: ·) (keptFrom_string cs)
  | case3 cs =>
    refine ⟨'-' :: '-' :: cs.takeWhile (· != '\n'), List.cons_ne_nil _ _,
      congrArg ('-' :: '-' :: ·) List.takeWhile_append_dropWhile, nofun, ?_⟩
    exact congrArg (false :: false :: ·) (keptFrom_line cs)
  | case4 cs =>
    refine ⟨'/' :: '-' :: (readBlock 0 cs).1, List.cons_ne_nil _ _,
      congrArg ('/' :: '-' :: ·) (splits_readBlock 0 cs), nofun, ?_⟩
    exact congrArg (false :: false :: ·) (keptFrom_block 0 cs)
  | case5 c cs hstring hline hblock =>
    have hopens : opens (c :: cs) = false := by
      unfold opens
      split <;> simp_all
    refine ⟨[c], List.cons_ne_nil _ _, rfl, fun _ => rfl, ?_⟩
    rw [hopens]
    simp_all [keptFrom]

/-! ## Where the scanner keeps -/

lemma ReadsTo.length_le {rest cs : List Char} (h : ReadsTo rest cs) : rest.length ≤ cs.length := by
  induction h with
  | here => exact Nat.le_refl _
  | @step c cs _ ih =>
    obtain ⟨passed, _, hsplit, _⟩ := exists_passOne (List.cons_ne_nil c cs)
    have := congrArg List.length hsplit
    rw [List.length_append] at this
    omega

lemma ReadsTo.trans {a b c : List Char} (hab : ReadsTo b a) (hbc : ReadsTo c b) : ReadsTo c a := by
  induction hab with
  | here => exact hbc
  | step _ ih => exact .step ih

/-- Of two places that reading comes to, it comes from the first to the second. -/
lemma ReadsTo.between {a b c : List Char} (hab : ReadsTo b a) (hac : ReadsTo c a)
    (hle : c.length ≤ b.length) : ReadsTo c b := by
  induction hab with
  | here => exact hac
  | @step d ds hb ih =>
    cases hac with
    | here =>
      have := hb.length_le
      obtain ⟨passed, hne, hsplit, _⟩ := exists_passOne (List.cons_ne_nil d ds)
      have hsum := congrArg List.length hsplit
      have hpos := List.length_pos_of_ne_nil hne
      rw [List.length_append] at hsum
      omega
    | step hc => exact ih hc

lemma passOne_of_not_opens {c : Char} {cs : List Char} (h : opens (c :: cs) = false) :
    passOne (c :: cs) = cs := by
  obtain ⟨passed, _, hsplit, hone, _⟩ := exists_passOne (List.cons_ne_nil c cs)
  obtain ⟨d, rfl⟩ := List.length_eq_one_iff.1 (hone h)
  exact (List.cons.inj hsplit).2

/-- Where nothing opens, reading comes to the next place. -/
lemma ReadsTo.next {cs ds : List Char} {k : ℕ} (h : ReadsTo (ds.drop k) cs) (hk : k < ds.length)
    (hopens : opens (ds.drop k) = false) : ReadsTo (ds.drop (k + 1)) cs := by
  apply h.trans
  rw [List.drop_eq_getElem_cons hk] at hopens ⊢
  apply ReadsTo.step
  rw [passOne_of_not_opens hopens]
  exact .here

lemma readsTo_drop {cs : List Char} {k : ℕ} (hk : k ≤ cs.length)
    (h : ∀ j < k, opens (cs.drop j) = false) : ReadsTo (cs.drop k) cs := by
  induction k with
  | zero => exact .here
  | succ k ih =>
    have hto := ih (by omega) fun j hj => h j (Nat.lt_succ_of_lt hj)
    exact hto.next hk (h k (Nat.lt_succ_self k))

lemma readsTo_iff_passOne {rest cs : List Char} (h : rest.length < cs.length) :
    ReadsTo rest cs ↔ ReadsTo rest (passOne cs) := by
  constructor
  · intro hreads
    cases hreads with
    | here => exact absurd h (Nat.lt_irrefl _)
    | step hnext => exact hnext
  · intro hnext
    rcases cs with _ | ⟨c, cs⟩
    · exact absurd h (Nat.not_lt_zero _)
    · exact .step hnext

/-- The scanner keeps a character exactly if ordinary reading comes to it and nothing opens
there. -/
lemma keptFrom_code_iff {cs : List Char} {i : ℕ} (hi : i < cs.length) :
    (keptFrom .code cs)[i]? = some true ↔ ReadsTo (cs.drop i) cs ∧ opens (cs.drop i) = false := by
  induction hn : cs.length using Nat.strong_induction_on generalizing cs i with
  | _ n ih =>
    have hne : cs ≠ [] := List.ne_nil_of_length_pos (by omega)
    obtain ⟨passed, hpassed, hsplit, hone, hkept⟩ := exists_passOne hne
    have hsum := congrArg List.length hsplit
    rw [List.length_append] at hsum
    have hpos := List.length_pos_of_ne_nil hpassed
    have hdrop := List.length_drop (i := i) (l := cs)
    rw [hkept]
    by_cases hlt : i < passed.length
    · rw [List.getElem?_append_left (by simpa using hlt), List.getElem?_replicate_of_lt hlt]
      rcases Nat.eq_zero_or_pos i with rfl | hi0
      · simpa using fun _ => ReadsTo.here
      · -- a place that is passed over is not come to
        have hopens : opens cs = true := by
          by_contra h
          have := hone (Bool.not_eq_true _ ▸ h)
          omega
        have hnot : ¬ ReadsTo (cs.drop i) cs := by
          rw [readsTo_iff_passOne (by omega)]
          intro hreads
          have := hreads.length_le
          omega
        simp [hopens, hnot]
    · have hsame : (passOne cs).drop (i - passed.length) = cs.drop i := by
        rw [← congrArg (List.drop i) hsplit, List.drop_append,
          List.drop_eq_nil_of_le (Nat.le_of_not_lt hlt), List.nil_append]
      have hstep : ReadsTo (cs.drop i) cs ↔ ReadsTo (cs.drop i) (passOne cs) :=
        readsTo_iff_passOne (by omega)
      rw [List.getElem?_append_right (by simpa using hlt), List.length_replicate,
        ih (passOne cs).length (by omega) (by omega) rfl, hsame, hstep]

/-! ## All code is kept -/

/-- A list ends with a longest part of elements that do not have a property. -/
lemma exists_last_run {α : Type*} (p : α → Prop) (l : List α) :
    ∃ initial run, l = initial ++ run ∧ (∀ last ∈ initial.getLast?, p last) ∧ ∀ x ∈ run, ¬ p x := by
  induction l using List.reverseRecOn with
  | nil => exact ⟨[], [], rfl, nofun, nofun⟩
  | append_singleton l x ih =>
    by_cases hx : p x
    · exact ⟨l ++ [x], [], (List.append_nil _).symm, by simpa using hx, nofun⟩
    · obtain ⟨initial, run, rfl, hlast, hrun⟩ := ih
      refine ⟨initial, run ++ [x], List.append_assoc _ _ _, hlast, fun y hy => ?_⟩
      rcases List.mem_append.1 hy with hy | hy
      · exact hrun y hy
      · obtain rfl := List.mem_singleton.1 hy
        exact hx

/-- Ordinary reading comes to every token of code. -/
lemma OrdinaryOpenings.readsTo {tokens : List Token} (h : OrdinaryOpenings tokens)
    {initial final : List Token} {token : Token} (hsplit : tokens = initial ++ token :: final)
    (hcode : token.kind.region = .code) :
    ReadsTo ((token :: final).flatMap Token.text) (tokens.flatMap Token.text) := by
  induction hn : initial.length using Nat.strong_induction_on generalizing initial token final with
  | _ n ih =>
    obtain ⟨before, run, rfl, hlast, hrun⟩ :=
      exists_last_run (fun token : Token => token.kind.region = .code) initial
    rw [List.append_assoc] at hsplit
    have hends := h.run_ends before run token final hsplit hlast hrun hcode
    rcases List.eq_nil_or_concat before with rfl | ⟨before, last, rfl⟩
    · rw [hsplit]
      exact hends
    · have hlast : last.kind.region = .code := hlast last (by simp)
      rw [List.concat_eq_append, List.append_assoc] at hsplit
      have hto := ih before.length (by simp at hn; omega) hsplit hlast rfl
      have hquiet := h.code_quiet before last _ hsplit hlast
      have hpast := readsTo_drop (by simp) hquiet
      rw [List.flatMap_cons, List.drop_left] at hpast
      exact (hto.trans hpast).trans hends

/-- The place of a character of a token. -/
lemma drop_flatMap_text {initial final : List Token} {token : Token} {k : ℕ} :
    ((initial ++ token :: final).flatMap Token.text).drop ((initial.flatMap Token.text).length + k) =
      ((token :: final).flatMap Token.text).drop k := by
  rw [List.flatMap_append, List.drop_length_add_append]

/-- The scanner keeps all code exactly if ordinary reading comes to every place of every token of
code, and nothing opens there. -/
lemma keepsCode_iff_places (source : String) :
    KeepsCode source ↔ ∀ initial token final,
      lexTokens source.toList = initial ++ token :: final → token.kind.region = .code →
        ∀ k < token.text.length,
          ReadsTo (((token :: final).flatMap Token.text).drop k) source.toList ∧
            opens (((token :: final).flatMap Token.text).drop k) = false := by
  have hplace : ∀ {initial token final k}, lexTokens source.toList = initial ++ token :: final →
      k < token.text.length →
        ((keptFrom .code source.toList)[(initial.flatMap Token.text).length + k]? = some true ↔
          ReadsTo (((token :: final).flatMap Token.text).drop k) source.toList ∧
            opens (((token :: final).flatMap Token.text).drop k) = false) := by
    intro initial token final k hsplit hk
    have htext : source.toList = (initial ++ token :: final).flatMap Token.text := by
      rw [← hsplit, flatMap_text_lexTokens]
    have hlength := congrArg List.length htext
    rw [List.flatMap_append, List.flatMap_cons, List.length_append, List.length_append] at hlength
    rw [keptFrom_code_iff (by omega), htext, drop_flatMap_text]
  constructor
  · intro hkeeps initial token final hsplit hcode k hk
    refine (hplace hsplit hk).1 (hkeeps _ ?_)
    rw [getElem?_regions hsplit hk, hcode]
  · intro hplaces i hi
    obtain ⟨initial, token, final, k, hsplit, hcode, hk, rfl⟩ := exists_of_getElem?_flatMap hi
    exact (hplace hsplit hk).2 (hplaces initial token final hsplit hcode k hk)

section

attribute [local instance] asciiDatabase

end

end Aizim.Knowledge
