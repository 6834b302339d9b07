import Mathlib.Data.List.TakeWhile
import Aizim.Framework.JsonRoundTrip

/-!
# Where a value ends

The decoder reads a value from the start of a text and leaves the rest.  What it has read does not
depend on what it left: the text is the text of the value followed by the rest, and followed by any
other rest it reads the same.  Only a number has to be followed by something that does not go on
with it, since a number ends where its characters end.

`loads_extent` is the result for a whole text with an object: the object stands between blanks, and
no longer text that starts with it is read unless blanks are all that follows.
-/

namespace Aizim

namespace PyJson

open Metered

variable {ε F : Type}

/-! ## Strings -/

/-- The digits of an escape end before the quotation mark that ends its string. -/
lemma readUnit_before_quote (t : PyText) :
    (∀ r, readUnit (t ++ .char '"' :: r) = none) ∨
      ∃ n u s, t = u ++ s ∧ ∀ r, readUnit (t ++ .char '"' :: r) = some (n, s ++ .char '"' :: r) := by
  have hquote : JsonValue.hexDigit? '"' = none := by decide
  match t with
  | [] =>
    left
    intro r
    unfold readUnit
    split
    · rename_i a b c d cs heq
      simp only [List.nil_append, List.cons.injEq, PyChar.char.injEq] at heq
      simp [JsonValue.readUnit, ← heq.1, hquote]
    · rfl
  | [x] =>
    left
    intro r
    unfold readUnit
    split
    · rename_i a b c d cs heq
      simp only [List.cons_append, List.nil_append, List.cons.injEq, PyChar.char.injEq] at heq
      simp [JsonValue.readUnit, ← heq.2.1, hquote]
    · rfl
  | [x, y] =>
    left
    intro r
    unfold readUnit
    split
    · rename_i a b c d cs heq
      simp only [List.cons_append, List.nil_append, List.cons.injEq, PyChar.char.injEq] at heq
      simp [JsonValue.readUnit, ← heq.2.2.1, hquote]
    · rfl
  | [x, y, z] =>
    left
    intro r
    unfold readUnit
    split
    · rename_i a b c d cs heq
      simp only [List.cons_append, List.nil_append, List.cons.injEq, PyChar.char.injEq] at heq
      simp [JsonValue.readUnit, ← heq.2.2.2.1, hquote]
    · rfl
  | x :: y :: z :: w :: s =>
    by_cases hchars : ∃ a b c d, x = .char a ∧ y = .char b ∧ z = .char c ∧ w = .char d
    · obtain ⟨a, b, c, d, rfl, rfl, rfl, rfl⟩ := hchars
      cases hunit : JsonValue.readUnit [a, b, c, d] with
      | none =>
        left
        intro r
        simp [readUnit, hunit]
      | some p =>
        right
        refine ⟨p.1, [.char a, .char b, .char c, .char d], s, rfl, fun r => ?_⟩
        simp [readUnit, hunit]
    · left
      intro r
      unfold readUnit
      split
      · rename_i a b c d cs heq
        simp only [List.cons_append, List.cons.injEq] at heq
        exact absurd ⟨a, b, c, d, heq.1, heq.2.1, heq.2.2.1, heq.2.2.2.1⟩ hchars
      · rfl

/-- Whether a surrogate is joined is settled before the quotation mark that ends its string. -/
lemma joinSurrogates_before_quote (high : ℕ) (t : PyText) :
    (∀ r, joinSurrogates high (t ++ .char '"' :: r) = none) ∨
      ∃ c u s, t = u ++ s ∧ ∀ r, joinSurrogates high (t ++ .char '"' :: r) =
        some (c, s ++ .char '"' :: r) := by
  by_cases hescape : ∃ s, t = .char '\\' :: .char 'u' :: s
  · obtain ⟨s, rfl⟩ := hescape
    rcases readUnit_before_quote s with hnone | ⟨n, u, s', rfl, hsome⟩
    · left
      intro r
      simp [joinSurrogates, hnone]
    · by_cases hlow : 0xdc00 ≤ n ∧ n < 0xe000
      · right
        refine ⟨.char (Char.ofNat (0x10000 + (high - 0xd800) * 1024 + (n - 0xdc00))),
          .char '\\' :: .char 'u' :: u, s', rfl, fun r => ?_⟩
        simp only [joinSurrogates, List.cons_append, hsome, Option.bind_eq_bind, Option.bind_some,
          if_pos hlow]
        rfl
      · left
        intro r
        simp only [joinSurrogates, List.cons_append, hsome, Option.bind_eq_bind, Option.bind_some,
          if_neg hlow]
  · left
    intro r
    unfold joinSurrogates
    split
    · rename_i rest heq
      match t with
      | [] => simp at heq
      | [x] => simp at heq
      | x :: y :: s =>
        simp only [List.cons_append, List.cons.injEq] at heq
        exact absurd ⟨s, by rw [heq.1, heq.2.1]⟩ hescape
    · rfl

lemma readUnit_extent {cs rest : PyText} {n : ℕ} (h : readUnit cs = some (n, rest)) :
    ∃ u, cs = u ++ rest ∧ ∀ r, readUnit (u ++ r) = some (n, r) := by
  unfold readUnit at h
  split at h
  · rename_i a b c d cs
    simp only [Option.map_eq_some_iff, Prod.mk.injEq] at h
    obtain ⟨p, hunit, rfl, rfl⟩ := h
    refine ⟨[.char a, .char b, .char c, .char d], rfl, fun r => ?_⟩
    simp [readUnit, hunit]
  · cases h

lemma joinSurrogates_extent {high : ℕ} {cs rest : PyText} {c : PyChar}
    (h : joinSurrogates high cs = some (c, rest)) :
    ∃ u, cs = u ++ rest ∧ ∀ r, joinSurrogates high (u ++ r) = some (c, r) := by
  unfold joinSurrogates at h
  split at h
  · simp only [Option.bind_eq_bind, Option.bind_eq_some_iff, Option.pure_def] at h
    obtain ⟨⟨low, rest'⟩, hunit, h⟩ := h
    obtain ⟨u, rfl, hread⟩ := readUnit_extent hunit
    split_ifs at h with hlow
    obtain ⟨rfl, rfl⟩ := Prod.mk.inj (Option.some.inj h)
    refine ⟨.char '\\' :: .char 'u' :: u, rfl, fun r => ?_⟩
    simp only [joinSurrogates, List.cons_append, hread, Option.bind_eq_bind, Option.bind_some,
      if_pos hlow]
    rfl
  · cases h

/-- An escape is settled before the quotation mark that ends its string. -/
lemma readEscape_before_quote {cs t r : PyText} {c : PyChar}
    (h : readEscape cs = some (c, t ++ .char '"' :: r)) :
    ∃ u, cs = u ++ (t ++ .char '"' :: r) ∧
      ∀ r', readEscape (u ++ (t ++ .char '"' :: r')) = some (c, t ++ .char '"' :: r') := by
  unfold readEscape at h
  split at h
  · rename_i e cs
    by_cases hu : (e == 'u') = true
    · rw [if_pos hu] at h
      simp only [readUnicode, Option.bind_eq_bind, Option.bind_eq_some_iff, Option.pure_def] at h
      obtain ⟨⟨n, rest⟩, hunit, h⟩ := h
      obtain ⟨u, rfl, hread⟩ := readUnit_extent hunit
      dsimp only at h
      by_cases hhigh : 0xd800 ≤ n ∧ n < 0xdc00
      · rw [if_pos hhigh] at h
        cases hjoin : joinSurrogates n rest with
        | none =>
          rw [hjoin] at h
          obtain ⟨rfl, rfl⟩ := Prod.mk.inj (Option.some.inj h)
          have hnone : ∀ r', joinSurrogates n (t ++ .char '"' :: r') = none := by
            rcases joinSurrogates_before_quote n t with hnone | ⟨c, u, s, -, hsome⟩
            · exact hnone
            · rw [hsome] at hjoin
              cases hjoin
          refine ⟨.char e :: u, rfl, fun r' => ?_⟩
          simp only [readEscape, List.cons_append, if_pos hu, readUnicode, hread,
            Option.bind_eq_bind, Option.bind_some, if_pos hhigh, hnone]
          rfl
        | some p =>
          rw [hjoin] at h
          obtain rfl : p = (c, t ++ .char '"' :: r) := Option.some.inj h
          obtain ⟨v, rfl, hjoined⟩ := joinSurrogates_extent hjoin
          refine ⟨.char e :: (u ++ v), by simp, fun r' => ?_⟩
          simp only [readEscape, List.cons_append, List.append_assoc, if_pos hu, readUnicode, hread,
            Option.bind_eq_bind, Option.bind_some, if_pos hhigh, hjoined]
          rfl
      · rw [if_neg hhigh] at h
        obtain ⟨rfl, rfl⟩ := Prod.mk.inj (Option.some.inj h)
        refine ⟨.char e :: u, rfl, fun r' => ?_⟩
        simp only [readEscape, List.cons_append, if_pos hu, readUnicode, hread,
          Option.bind_eq_bind, Option.bind_some, if_neg hhigh]
        rfl
    · rw [if_neg hu] at h
      simp only [Option.map_eq_some_iff, Prod.mk.injEq] at h
      obtain ⟨p, hescape, rfl, rfl⟩ := h
      refine ⟨[.char e], rfl, fun r' => ?_⟩
      simp [readEscape, hu, hescape]
  · cases h

/-- A string is read up to its quotation mark, whatever follows it. -/
lemma readText_extent {n : ℕ} {cs s rest : PyText} (h : readText n cs = some (s, rest)) :
    ∃ t, cs = t ++ .char '"' :: rest ∧ ∀ r, readText n (t ++ .char '"' :: r) = some (s, r) := by
  induction n generalizing cs s rest with
  | zero => simp [readText] at h
  | succ n ih =>
    cases cs with
    | nil => simp [readText] at h
    | cons c cs =>
      cases c with
      | surrogate k =>
        simp only [readText, Option.map_eq_some_iff, Prod.mk.injEq] at h
        obtain ⟨⟨s', rest'⟩, htext, rfl, rfl⟩ := h
        obtain ⟨t, rfl, hread⟩ := ih htext
        refine ⟨.surrogate k :: t, rfl, fun r => ?_⟩
        simp only [List.cons_append, readText, hread, Option.map_some]
      | char c =>
        simp only [readText] at h
        split_ifs at h with hquote hslash hlow
        · obtain ⟨rfl, rfl⟩ := Prod.mk.inj (Option.some.inj h)
          refine ⟨[], by rw [beq_iff_eq.1 hquote]; rfl, fun r => ?_⟩
          simp [readText]
        · simp only [Option.bind_eq_some_iff, Option.map_eq_some_iff, Prod.mk.injEq] at h
          obtain ⟨⟨e, tail⟩, hescape, ⟨s', rest'⟩, htext, rfl, rfl⟩ := h
          obtain ⟨t, rfl, hread⟩ := ih htext
          obtain ⟨u, rfl, hescaped⟩ := readEscape_before_quote hescape
          refine ⟨.char c :: (u ++ t), by simp, fun r => ?_⟩
          simp only [List.cons_append, List.append_assoc, readText, if_neg hquote, if_pos hslash,
            hescaped, Option.bind_some, hread, Option.map_some]
        · simp only [Option.map_eq_some_iff, Prod.mk.injEq] at h
          obtain ⟨⟨s', rest'⟩, htext, rfl, rfl⟩ := h
          obtain ⟨t, rfl, hread⟩ := ih htext
          refine ⟨.char c :: t, rfl, fun r => ?_⟩
          simp only [List.cons_append, readText, if_neg hquote, if_neg hslash, if_neg hlow, hread,
            Option.map_some]

/-! ## Numbers and names -/

lemma spanNumber_eq (cs : PyText) : cs = pyText (spanNumber cs).1 ++ (spanNumber cs).2 := by
  induction cs with
  | nil => rfl
  | cons c cs ih =>
    cases c with
    | surrogate n => rfl
    | char c =>
      unfold spanNumber
      split_ifs
      · rw [pyText_cons, List.cons_append, ← ih]
      · rfl

lemma isNumberChar_of_mem_spanNumber {cs : PyText} {c : Char} (h : c ∈ (spanNumber cs).1) :
    JsonValue.isNumberChar c = true := by
  induction cs with
  | nil => cases h
  | cons d cs ih =>
    cases d with
    | surrogate n => cases h
    | char d =>
      unfold spanNumber at h
      split_ifs at h with hd
      · rcases List.mem_cons.1 h with rfl | h
        · exact hd
        · exact ih h
      · cases h

lemma suffix_of_readNatural {cs digits rest : List Char}
    (h : JsonValue.readNatural cs = some (digits, rest)) : rest <:+ cs := by
  cases cs with
  | nil => cases h
  | cons c cs =>
    simp only [JsonValue.readNatural] at h
    split_ifs at h
    · obtain ⟨-, rfl⟩ := Prod.mk.inj (Option.some.inj h)
      exact List.suffix_cons _ _
    · obtain ⟨-, rfl⟩ := Prod.mk.inj (Option.some.inj h)
      exact List.dropWhile_suffix _

lemma suffix_readFraction (cs : List Char) : (JsonValue.readFraction cs).2 <:+ cs := by
  unfold JsonValue.readFraction
  split
  · rename_i cs
    have hdrop : (JsonValue.spanDigits cs).2 <:+ '.' :: cs :=
      (List.dropWhile_suffix _).trans (List.suffix_cons _ _)
    dsimp only
    split_ifs
    · exact List.suffix_refl _
    · exact hdrop
  · exact List.suffix_refl _

lemma suffix_readExponent (cs : List Char) : (JsonValue.readExponent cs).2 <:+ cs := by
  unfold JsonValue.readExponent
  split
  · exact List.suffix_refl _
  · rename_i e cs
    dsimp only
    split_ifs
    · exact List.suffix_refl _
    · refine List.IsSuffix.trans ?_ (List.suffix_cons e cs)
      exact (List.dropWhile_suffix _).trans (List.drop_suffix _ _)
    · exact List.suffix_refl _

lemma suffix_of_readNumber {cs rest : List Char} {v : JsonValue}
    (h : JsonValue.readNumber cs = some (v, rest)) : rest <:+ cs := by
  simp only [JsonValue.readNumber, Option.bind_eq_bind, Option.bind_eq_some_iff] at h
  obtain ⟨⟨digits, tail⟩, hnatural, h⟩ := h
  have hsign : (if cs.head? == some '-' then cs.tail else cs) <:+ cs := by
    split_ifs
    · exact List.tail_suffix cs
    · exact List.suffix_refl cs
  have hrest : rest = (JsonValue.readExponent (JsonValue.readFraction tail).2).2 := by
    split_ifs at h <;> exact (Prod.mk.inj (Option.some.inj h)).2.symm
  rw [hrest]
  exact (suffix_readExponent _).trans ((suffix_readFraction _).trans
    ((suffix_of_readNatural hnatural).trans hsign))

/-- A number that is followed by something else is its characters. -/
lemma readNumber_extent {cs rest : PyText} {v : JsonValue} (h : readNumber cs = some (v, rest))
    (hrest : endsNumber rest) :
    ∃ ns, cs = pyText ns ++ rest ∧ JsonValue.readNumber ns = some (v, []) ∧
      ∀ c ∈ ns, JsonValue.isNumberChar c = true := by
  simp only [readNumber, Option.map_eq_some_iff, Prod.mk.injEq] at h
  obtain ⟨⟨v, left⟩, hnumber, rfl, rfl⟩ := h
  have hleft : left = [] := by
    cases left with
    | nil => rfl
    | cons c left =>
      have hmem : c ∈ (spanNumber cs).1 :=
        (suffix_of_readNumber hnumber).subset List.mem_cons_self
      have hplain := hrest c rfl
      rw [isNumberChar_of_mem_spanNumber hmem] at hplain
      cases hplain
  subst hleft
  exact ⟨(spanNumber cs).1, spanNumber_eq cs, hnumber, fun c => isNumberChar_of_mem_spanNumber⟩

section

variable [PyFloat F]

/-- A name of a constant is read whatever follows it. -/
lemma readConstant_extent {cs rest : PyText} {v : PyValue F}
    (h : readConstant cs = some (v, rest)) :
    ∃ c t, cs = .char c :: t ++ rest ∧ c ≠ '"' ∧ c ≠ '{' ∧ c ≠ '[' ∧
      ∀ r, readNumber (.char c :: t ++ r) = none ∧
        readConstant (.char c :: t ++ r) = some (v, r) := by
  have hname : ∀ {name : String} {w : PyValue F}, readName name w cs = some (v, rest) →
      w = v ∧ cs = pyText name.toList ++ rest := by
    intro name w h
    unfold readName at h
    split_ifs at h with hprefix
    obtain ⟨hv, hrest⟩ := Prod.mk.inj (Option.some.inj h)
    obtain ⟨t, ht⟩ := List.isPrefixOf_iff_prefix.1 hprefix
    refine ⟨hv, ?_⟩
    rw [← hrest, ← ht, pyText, List.drop_left' (by rw [List.length_map])]
  simp only [readConstant, Option.or_eq_some_iff] at h
  rcases h with h | ⟨-, h | ⟨-, h | ⟨-, h | ⟨-, h | ⟨-, h⟩⟩⟩⟩⟩
  · obtain ⟨rfl, rfl⟩ := hname h
    exact ⟨'n', _, rfl, by decide, by decide, by decide, fun r => ⟨rfl, rfl⟩⟩
  · obtain ⟨rfl, rfl⟩ := hname h
    exact ⟨'t', _, rfl, by decide, by decide, by decide, fun r => ⟨rfl, rfl⟩⟩
  · obtain ⟨rfl, rfl⟩ := hname h
    exact ⟨'f', _, rfl, by decide, by decide, by decide, fun r => ⟨rfl, rfl⟩⟩
  · obtain ⟨rfl, rfl⟩ := hname h
    exact ⟨'N', _, rfl, by decide, by decide, by decide, fun r => ⟨rfl, rfl⟩⟩
  · obtain ⟨rfl, rfl⟩ := hname h
    exact ⟨'I', _, rfl, by decide, by decide, by decide, fun r => ⟨rfl, rfl⟩⟩
  · obtain ⟨rfl, rfl⟩ := hname h
    exact ⟨'-', _, rfl, by decide, by decide, by decide, fun r => ⟨rfl, rfl⟩⟩

end

/-! ## Values -/

lemma bind_eq_mk_ok {α β : Type} {x : JsonUse ε α} {f : α → JsonUse ε β} {ds : List JsonDemand}
    {b : β} : x >>= f = ⟨ds, .ok b⟩ ↔
      ∃ es a fs, x = ⟨es, .ok a⟩ ∧ f a = ⟨fs, .ok b⟩ ∧ es ++ fs = ds := by
  obtain ⟨es, outcome⟩ := x
  cases outcome with
  | ok a =>
    rw [mk_ok_bind]
    constructor
    · intro h
      obtain ⟨hdemands, houtcome⟩ := Metered.mk.inj h
      exact ⟨es, a, (f a).demands, rfl, by rw [← houtcome], hdemands⟩
    · rintro ⟨es, a, fs, hx, hf, rfl⟩
      obtain ⟨rfl, houtcome⟩ := Metered.mk.inj hx
      obtain rfl := Except.ok.inj houtcome
      rw [hf]
  | error fault =>
    constructor
    · intro h
      cases (Metered.mk.inj h).2
    · rintro ⟨es, a, fs, hx, -⟩
      cases (Metered.mk.inj hx).2

lemma expect_eq_mk_ok {α : Type} {o : Option α} {ds : List JsonDemand} {a : α} :
    (expect o : JsonUse ε α) = ⟨ds, .ok a⟩ ↔ o = some a ∧ ds = [] := by
  cases o with
  | none => simp [expect, orThrow, lift]
  | some b => simp [expect, orThrow, lift, eq_comm, and_comm]

/-- The blanks before a text are skipped whatever follows it. -/
lemma skipBlanks_extent {cs c rest : PyText} (h : skipBlanks cs = c ++ rest) (hc : c ≠ []) :
    ∃ b, cs = b ++ (c ++ rest) ∧ ∀ r, skipBlanks (b ++ (c ++ r)) = c ++ r := by
  refine ⟨cs.takeWhile isBlank, ?_, fun r => ?_⟩
  · rw [← h]
    exact List.takeWhile_append_dropWhile.symm
  · obtain ⟨x, t, rfl⟩ := List.exists_cons_of_ne_nil hc
    have hx : isBlank x = false := by
      have hhead := List.head?_dropWhile_not isBlank cs
      rw [show cs.dropWhile isBlank = x :: t ++ rest from h] at hhead
      simpa using hhead
    have hblanks : ∀ y ∈ cs.takeWhile isBlank, isBlank y = true :=
      List.all_eq_true.1 List.all_takeWhile
    rw [skipBlanks, List.dropWhile_append_of_pos hblanks, List.cons_append,
      List.dropWhile_cons_of_neg (by simp [hx])]

lemma endsNumber_cons {c : Char} (h : JsonValue.isNumberChar c = false) (r : PyText) :
    endsNumber (.char c :: r) := by
  intro d hd
  obtain rfl := PyChar.char.inj (Option.some.inj hd)
  exact h

/-- A rest that starts with a sign after its blanks does not go on with a number. -/
lemma endsNumber_of_skipBlanks {cs rest : PyText} {c : Char} (h : skipBlanks cs = .char c :: rest)
    (hc : JsonValue.isNumberChar c = false) : endsNumber cs := by
  intro d hd
  cases cs with
  | nil => cases hd
  | cons x cs =>
    obtain rfl := Option.some.inj hd
    by_cases hblank : isBlank (.char d) = true
    · change JsonValue.isJsonBlank d = true at hblank
      simp only [JsonValue.isJsonBlank, Bool.or_eq_true, beq_iff_eq] at hblank
      rcases hblank with ((rfl | rfl) | rfl) | rfl <;> decide
    · rw [skipBlanks, List.dropWhile_cons_of_neg hblank] at h
      obtain rfl := PyChar.char.inj (List.cons.inj h).1
      exact hc

section

variable [PyFloat F]

lemma readScalar_extent {c : Char} {cs rest : PyText} {ds : List JsonDemand} {v : PyValue F}
    (h : readScalar (.char c :: cs) = (⟨ds, .ok (v, rest)⟩ : JsonUse ε _))
    (hrest : endsNumber rest) :
    ∃ t, cs = t ++ rest ∧ ∀ r, endsNumber r →
      readScalar (.char c :: (t ++ r)) = (⟨ds, .ok (v, r)⟩ : JsonUse ε _) := by
  unfold readScalar at h
  split at h
  · rename_i number left hnumber
    obtain ⟨es, w, fs, hvalue, hpure, rfl⟩ := bind_eq_mk_ok.1 h
    obtain ⟨rfl, hpair⟩ := Metered.mk.inj hpure
    obtain ⟨rfl, rfl⟩ := Prod.mk.inj (Except.ok.inj hpair)
    obtain ⟨ns, hns, hread, hchars⟩ := readNumber_extent hnumber hrest
    cases ns with
    | nil => cases hread
    | cons d ns =>
      rw [pyText_cons, List.cons_append] at hns
      obtain ⟨hd, rfl⟩ := List.cons.inj hns
      obtain rfl := PyChar.char.inj hd
      refine ⟨pyText ns, rfl, fun r hr => ?_⟩
      have hnumber' := readNumber_of_text hread hchars hr
      rw [pyText_cons, List.cons_append] at hnumber'
      simp only [readScalar, hnumber', hvalue, mk_ok_bind, pure_eq]
  · obtain ⟨hconstant, rfl⟩ := expect_eq_mk_ok.1 h
    obtain ⟨d, t, ht, -, -, -, hread⟩ := readConstant_extent hconstant
    rw [List.cons_append] at ht
    obtain ⟨hd, rfl⟩ := List.cons.inj ht
    obtain rfl := PyChar.char.inj hd
    refine ⟨t, rfl, fun r _ => ?_⟩
    obtain ⟨hnone, hsome⟩ := hread r
    rw [List.cons_append] at hnone hsome
    simp only [readScalar, hnone, hsome, expect, orThrow, lift]

variable (hook : PyObject F → Except ε (PyObject F))

lemma readItems_of_comma {n d : ℕ} {cs left rest r : PyText} {ds es : List JsonDemand}
    {x : PyValue F} {xs : List (PyValue F)} (hx : readValue hook n d cs = ⟨ds, .ok (x, left)⟩)
    (hcomma : skipBlanks left = .char ',' :: rest)
    (hxs : readItems hook n d (skipBlanks rest) = ⟨es, .ok (xs, r)⟩) :
    readItems hook (n + 1) d cs = ⟨ds ++ es, .ok (x :: xs, r)⟩ := by
  simp only [readItems, hx, mk_ok_bind, hcomma, hxs, pure_eq, List.append_nil]

lemma readItems_of_close {n d : ℕ} {cs left rest : PyText} {ds : List JsonDemand} {x : PyValue F}
    (hx : readValue hook n d cs = ⟨ds, .ok (x, left)⟩)
    (hclose : skipBlanks left = .char ']' :: rest) :
    readItems hook (n + 1) d cs = ⟨ds, .ok ([x], rest)⟩ := by
  simp only [readItems, hx, mk_ok_bind, hclose, pure_eq, List.append_nil]

lemma readEntries_of_comma {n d : ℕ} {cs k colon afterColon left rest r : PyText}
    {ds es : List JsonDemand} {v : PyValue F} {fs : PyObject F}
    (hk : readText n cs = some (k, colon)) (hcolon : skipBlanks colon = .char ':' :: afterColon)
    (hv : readValue hook n d (skipBlanks afterColon) = ⟨ds, .ok (v, left)⟩)
    (hcomma : skipBlanks left = .char ',' :: rest)
    (hfs : readEntries hook n d (skipBlanks rest) = ⟨es, .ok (fs, r)⟩) :
    readEntries hook (n + 1) d (.char '"' :: cs) = ⟨ds ++ es, .ok ((k, v) :: fs, r)⟩ := by
  simp only [readEntries, if_true, expect, hk, orThrow, lift, mk_ok_bind, hcolon, hv, hcomma, hfs,
    pure_eq, List.append_nil, List.nil_append]

lemma readEntries_of_close {n d : ℕ} {cs k colon afterColon left rest : PyText}
    {ds : List JsonDemand} {v : PyValue F} (hk : readText n cs = some (k, colon))
    (hcolon : skipBlanks colon = .char ':' :: afterColon)
    (hv : readValue hook n d (skipBlanks afterColon) = ⟨ds, .ok (v, left)⟩)
    (hclose : skipBlanks left = .char '}' :: rest) :
    readEntries hook (n + 1) d (.char '"' :: cs) = ⟨ds, .ok ([(k, v)], rest)⟩ := by
  simp only [readEntries, if_true, expect, hk, orThrow, lift, mk_ok_bind, hcolon, hv, hclose,
    pure_eq, List.append_nil, List.nil_append]

/-- A value is read up to its end, and what follows it does not matter. -/
def Extends (n : ℕ) : Prop :=
  ∀ d cs ds v rest, readValue hook n d cs = ⟨ds, .ok (v, rest)⟩ → endsNumber rest →
    ∃ c, c ≠ [] ∧ cs = c ++ rest ∧ ∀ r, endsNumber r →
      readValue hook n d (c ++ r) = ⟨ds, .ok (v, r)⟩

def ItemsExtend (n : ℕ) : Prop :=
  ∀ d cs ds xs rest, readItems hook n d cs = ⟨ds, .ok (xs, rest)⟩ →
    ∃ c, c ≠ [] ∧ cs = c ++ rest ∧ ∀ r, readItems hook n d (c ++ r) = ⟨ds, .ok (xs, r)⟩

def EntriesExtend (n : ℕ) : Prop :=
  ∀ d cs ds es rest, readEntries hook n d cs = ⟨ds, .ok (es, rest)⟩ →
    ∃ c, c.getLast? = some (.char '}') ∧ cs = c ++ rest ∧
      ∀ r, readEntries hook n d (c ++ r) = ⟨ds, .ok (es, r)⟩

variable {hook}

/-- The items of an array are read up to its bracket. -/
lemma readItems_extent {n : ℕ} (hvalue : Extends hook n)
    (hitems : ItemsExtend hook n) : ItemsExtend hook (n + 1) := by
  intro d cs ds xs rest h
  rw [readItems] at h
  obtain ⟨es, ⟨x, left⟩, fs, hx, hnext, rfl⟩ := bind_eq_mk_ok.1 h
  dsimp only at hnext
  split at hnext
  · rename_i afterComma hcomma
    obtain ⟨gs, ⟨ys, rest'⟩, hs, hys, hpure, rfl⟩ := bind_eq_mk_ok.1 hnext
    obtain ⟨rfl, hpair⟩ := Metered.mk.inj hpure
    obtain ⟨rfl, rfl⟩ := Prod.mk.inj (Except.ok.inj hpair)
    have hends := endsNumber_of_skipBlanks hcomma (by decide)
    obtain ⟨c, hc, rfl, hreadValue⟩ := hvalue d cs es x left hx hends
    obtain ⟨c', hc', hskip, hreadItems⟩ := hitems d _ gs ys rest' hys
    obtain ⟨b, rfl, hblanks⟩ := skipBlanks_extent (c := [.char ',']) hcomma (by simp)
    obtain ⟨b', rfl, hblanks'⟩ := skipBlanks_extent hskip hc'
    refine ⟨c ++ (b ++ ([.char ','] ++ (b' ++ c'))), by simp [hc], by simp, fun r => ?_⟩
    have hcomma' := hblanks (b' ++ (c' ++ r))
    have hends' := endsNumber_of_skipBlanks hcomma' (by decide)
    have hrest : readItems hook n d (skipBlanks (b' ++ (c' ++ r))) = ⟨gs, .ok (ys, r)⟩ := by
      rw [hblanks' r, hreadItems r]
    have hread := readItems_of_comma hook (hreadValue _ hends') hcomma' hrest
    simpa only [List.append_assoc, List.append_nil] using hread
  · rename_i rest' hclose
    obtain ⟨rfl, hpair⟩ := Metered.mk.inj hnext
    obtain ⟨rfl, rfl⟩ := Prod.mk.inj (Except.ok.inj hpair)
    have hends := endsNumber_of_skipBlanks hclose (by decide)
    obtain ⟨c, hc, rfl, hreadValue⟩ := hvalue d cs es x left hx hends
    obtain ⟨b, rfl, hblanks⟩ := skipBlanks_extent (c := [.char ']']) hclose (by simp)
    refine ⟨c ++ (b ++ [.char ']']), by simp [hc], by simp, fun r => ?_⟩
    have hends' := endsNumber_of_skipBlanks (hblanks r) (by decide)
    have hread : readItems hook (n + 1) d (c ++ (b ++ ([.char ']'] ++ r))) = ⟨es, .ok ([x], r)⟩ :=
      readItems_of_close hook (hreadValue _ hends') (hblanks r)
    simpa only [List.append_assoc, List.append_nil] using hread
  · cases (Metered.mk.inj hnext).2

/-- The entries of an object are read up to its brace. -/
lemma readEntries_extent {n : ℕ} (hvalue : Extends hook n)
    (hentries : EntriesExtend hook n) : EntriesExtend hook (n + 1) := by
  intro d cs ds es rest h
  cases cs with
  | nil => cases (Metered.mk.inj h).2
  | cons q cs =>
    by_cases hq : q = .char '"'
    · subst hq
      rw [readEntries, if_pos rfl] at h
      obtain ⟨as, ⟨k, colon⟩, bs, hkey, hnext, rfl⟩ := bind_eq_mk_ok.1 h
      obtain ⟨htext, rfl⟩ := expect_eq_mk_ok.1 hkey
      obtain ⟨t, rfl, hreadText⟩ := readText_extent htext
      dsimp only at hnext
      split at hnext
      · rename_i afterColon hcolon
        obtain ⟨b, rfl, hblanks⟩ := skipBlanks_extent (c := [.char ':']) hcolon (by simp)
        obtain ⟨vs, ⟨v, left⟩, fs, hv, hnext', rfl⟩ := bind_eq_mk_ok.1 hnext
        dsimp only at hnext'
        split at hnext'
        · rename_i afterComma hcomma
          obtain ⟨gs, ⟨ys, rest'⟩, hs, hys, hpure, rfl⟩ := bind_eq_mk_ok.1 hnext'
          obtain ⟨rfl, hpair⟩ := Metered.mk.inj hpure
          obtain ⟨rfl, rfl⟩ := Prod.mk.inj (Except.ok.inj hpair)
          have hends := endsNumber_of_skipBlanks hcomma (by decide)
          obtain ⟨c, hc, hskip, hreadValue⟩ := hvalue d _ vs v left hv hends
          obtain ⟨b', rfl, hblanks'⟩ := skipBlanks_extent hskip hc
          obtain ⟨c', hlast, hskip', hreadEntries⟩ := hentries d _ gs ys rest' hys
          have hc' : c' ≠ [] := by
            rintro rfl
            cases hlast
          obtain ⟨e, rfl, hcommas⟩ := skipBlanks_extent (c := [.char ',']) hcomma (by simp)
          obtain ⟨e', rfl, hcommas'⟩ := skipBlanks_extent hskip' hc'
          refine ⟨.char '"' :: (t ++ ([.char '"'] ++ (b ++ ([.char ':'] ++ (b' ++ (c ++ (e ++
            ([.char ','] ++ (e' ++ c'))))))))), ?_, by simp, fun r => ?_⟩
          · simp [List.getLast?_cons, hlast]
          have hcolon' := hblanks (b' ++ (c ++ (e ++ ([.char ','] ++ (e' ++ (c' ++ r))))))
          have hcomma' := hcommas (e' ++ (c' ++ r))
          have hends' := endsNumber_of_skipBlanks hcomma' (by decide)
          have hv' : readValue hook n d (skipBlanks (b' ++ (c ++ (e ++ ([.char ','] ++
              (e' ++ (c' ++ r))))))) = ⟨vs, .ok (v, e ++ ([.char ','] ++ (e' ++ (c' ++ r))))⟩ := by
            rw [hblanks', hreadValue _ hends']
          have hrest : readEntries hook n d (skipBlanks (e' ++ (c' ++ r))) =
              ⟨gs, .ok (ys, r)⟩ := by
            rw [hcommas' r, hreadEntries r]
          have hread := readEntries_of_comma hook (hreadText _) hcolon' hv' hcomma' hrest
          simpa only [List.append_assoc, List.append_nil, List.nil_append, List.cons_append]
            using hread
        · rename_i rest' hclose
          obtain ⟨rfl, hpair⟩ := Metered.mk.inj hnext'
          obtain ⟨rfl, rfl⟩ := Prod.mk.inj (Except.ok.inj hpair)
          have hends := endsNumber_of_skipBlanks hclose (by decide)
          obtain ⟨c, hc, hskip, hreadValue⟩ := hvalue d _ vs v left hv hends
          obtain ⟨b', rfl, hblanks'⟩ := skipBlanks_extent hskip hc
          obtain ⟨e, rfl, hcloses⟩ := skipBlanks_extent (c := [.char '}']) hclose (by simp)
          refine ⟨.char '"' :: (t ++ ([.char '"'] ++ (b ++ ([.char ':'] ++ (b' ++ (c ++ (e ++
            [.char '}']))))))), by simp [List.getLast?_cons], by simp, fun r => ?_⟩
          have hcolon' := hblanks (b' ++ (c ++ (e ++ ([.char '}'] ++ r))))
          have hclose' : skipBlanks (e ++ ([.char '}'] ++ r)) = .char '}' :: r := hcloses r
          have hends' := endsNumber_of_skipBlanks hclose' (by decide)
          have hv' : readValue hook n d (skipBlanks (b' ++ (c ++ (e ++ ([.char '}'] ++ r))))) =
              ⟨vs, .ok (v, e ++ ([.char '}'] ++ r))⟩ := by
            rw [hblanks', hreadValue _ hends']
          have hread := readEntries_of_close hook (hreadText _) hcolon' hv' hclose'
          simpa only [List.append_assoc, List.append_nil, List.nil_append, List.cons_append]
            using hread
        · cases (Metered.mk.inj hnext').2
      · cases (Metered.mk.inj hnext).2
    · rw [readEntries, if_neg hq] at h
      cases (Metered.mk.inj h).2

/-- What is read after a brace. -/
lemma readBrace_extent {n d : ℕ} (hentries : EntriesExtend hook n) {cs rest : PyText}
    {ds : List JsonDemand} {v : PyValue F}
    (h : readValue hook (n + 1) d (.char '{' :: cs) = ⟨ds, .ok (v, rest)⟩) :
    ∃ t, t.getLast? = some (.char '}') ∧ cs = t ++ rest ∧
      ∀ r, readValue hook (n + 1) d (.char '{' :: (t ++ r)) = ⟨ds, .ok (v, r)⟩ := by
  have hquote : ('{' == '"') = false := by decide
  simp only [readValue, hquote, Bool.false_eq_true, if_false, beq_self_eq_true, if_true] at h ⊢
  obtain ⟨as, ⟨⟩, bs, hdemand, hnext, rfl⟩ := bind_eq_mk_ok.1 h
  rw [hdemand]
  simp only [mk_ok_bind]
  by_cases hhead : (skipBlanks cs).head? = some (.char '}')
  · rw [if_pos hhead] at hnext
    obtain ⟨es, w, fs, hpairs, hpure, rfl⟩ := bind_eq_mk_ok.1 hnext
    obtain ⟨rfl, hpair⟩ := Metered.mk.inj hpure
    obtain ⟨rfl, rfl⟩ := Prod.mk.inj (Except.ok.inj hpair)
    have hskip : skipBlanks cs = [.char '}'] ++ (skipBlanks cs).tail := by
      obtain ⟨rest, hrest⟩ := List.head?_eq_some_iff.1 hhead
      rw [hrest]
      rfl
    obtain ⟨b, hcs, hblanks⟩ := skipBlanks_extent hskip (by simp)
    refine ⟨b ++ [.char '}'], by simp, by rw [List.append_assoc, ← hcs], fun r => ?_⟩
    rw [List.append_assoc, hblanks r]
    simp only [List.singleton_append, List.head?_cons, if_true, hpairs, mk_ok_bind, pure_eq,
      List.tail_cons]
  · rw [if_neg hhead] at hnext
    obtain ⟨es, ⟨pairs, left⟩, fs, hread, hnext', rfl⟩ := bind_eq_mk_ok.1 hnext
    obtain ⟨gs, w, hs, hpairs, hpure, rfl⟩ := bind_eq_mk_ok.1 hnext'
    obtain ⟨rfl, hpair⟩ := Metered.mk.inj hpure
    obtain ⟨rfl, rfl⟩ := Prod.mk.inj (Except.ok.inj hpair)
    obtain ⟨c, hlast, hskip, hreadEntries⟩ := hentries _ _ _ _ _ hread
    have hc : c ≠ [] := by
      rintro rfl
      cases hlast
    obtain ⟨b, rfl, hblanks⟩ := skipBlanks_extent hskip hc
    refine ⟨b ++ c, by simp [hlast], by rw [List.append_assoc], fun r => ?_⟩
    have hhead' : ¬ (c ++ r).head? = some (.char '}') := by
      rw [hskip] at hhead
      rwa [List.head?_append_of_ne_nil _ hc] at hhead ⊢
    rw [List.append_assoc, hblanks r, if_neg hhead', hreadEntries r]
    simp only [mk_ok_bind, hpairs, pure_eq]

/-- A value is read up to its end. -/
lemma readValue_extent {n : ℕ} (hitems : ItemsExtend hook n) (hentries : EntriesExtend hook n) :
    Extends hook (n + 1) := by
  intro d cs ds v rest h hrest
  cases cs with
  | nil => cases (Metered.mk.inj h).2
  | cons x cs =>
    cases x with
    | surrogate k => cases (Metered.mk.inj h).2
    | char c =>
      by_cases hbrace : c = '{'
      · subst hbrace
        obtain ⟨t, -, rfl, hread⟩ := readBrace_extent hentries h
        exact ⟨.char '{' :: t, by simp, rfl, fun r _ => hread r⟩
      have hbrace' : (c == '{') = false := by simpa using hbrace
      by_cases hquote : c = '"'
      · subst hquote
        simp only [readValue, beq_self_eq_true, if_true] at h
        obtain ⟨as, ⟨s, left⟩, bs, hread, hpure, rfl⟩ := bind_eq_mk_ok.1 h
        obtain ⟨htext, rfl⟩ := expect_eq_mk_ok.1 hread
        obtain ⟨rfl, hpair⟩ := Metered.mk.inj hpure
        obtain ⟨rfl, rfl⟩ := Prod.mk.inj (Except.ok.inj hpair)
        obtain ⟨t, rfl, hreadText⟩ := readText_extent htext
        refine ⟨.char '"' :: (t ++ [.char '"']), by simp, by simp, fun r _ => ?_⟩
        rw [List.cons_append, List.append_assoc, List.singleton_append]
        simp only [readValue, beq_self_eq_true, if_true, hreadText, expect, orThrow, lift,
          mk_ok_bind, pure_eq]
      have hquote' : (c == '"') = false := by simpa using hquote
      by_cases hbracket : c = '['
      · subst hbracket
        simp only [readValue, hquote', hbrace', Bool.false_eq_true, if_false, beq_self_eq_true,
          if_true] at h
        obtain ⟨as, ⟨⟩, bs, hdemand, hnext, rfl⟩ := bind_eq_mk_ok.1 h
        by_cases hhead : (skipBlanks cs).head? = some (.char ']')
        · rw [if_pos hhead] at hnext
          obtain ⟨rfl, hpair⟩ := Metered.mk.inj hnext
          obtain ⟨rfl, rfl⟩ := Prod.mk.inj (Except.ok.inj hpair)
          have hskip : skipBlanks cs = [.char ']'] ++ (skipBlanks cs).tail := by
            obtain ⟨rest, hrest⟩ := List.head?_eq_some_iff.1 hhead
            rw [hrest]
            rfl
          obtain ⟨b, hcs, hblanks⟩ := skipBlanks_extent hskip (by simp)
          refine ⟨.char '[' :: (b ++ [.char ']']), by simp, ?_, fun r _ => ?_⟩
          · rw [List.cons_append, List.append_assoc, ← hcs]
          · have hskip' : skipBlanks (b ++ ([.char ']'] ++ r)) = .char ']' :: r := hblanks r
            rw [List.cons_append, List.append_assoc]
            simp only [readValue, hquote', hbrace', Bool.false_eq_true, if_false, beq_self_eq_true,
              if_true, hdemand, mk_ok_bind, hskip', List.head?_cons, pure_eq, List.tail_cons]
        · rw [if_neg hhead] at hnext
          obtain ⟨es, ⟨items, left⟩, fs, hread, hpure, rfl⟩ := bind_eq_mk_ok.1 hnext
          obtain ⟨rfl, hpair⟩ := Metered.mk.inj hpure
          obtain ⟨rfl, rfl⟩ := Prod.mk.inj (Except.ok.inj hpair)
          obtain ⟨t, ht, hskip, hreadItems⟩ := hitems _ _ _ _ _ hread
          obtain ⟨b, rfl, hblanks⟩ := skipBlanks_extent hskip ht
          refine ⟨.char '[' :: (b ++ t), by simp, by simp, fun r _ => ?_⟩
          have hhead' : ¬ (t ++ r).head? = some (.char ']') := by
            rw [hskip] at hhead
            rwa [List.head?_append_of_ne_nil _ ht] at hhead ⊢
          rw [List.cons_append, List.append_assoc]
          simp only [readValue, hquote', hbrace', Bool.false_eq_true, if_false, beq_self_eq_true,
            if_true, hdemand, mk_ok_bind, hblanks r, if_neg hhead', hreadItems r, pure_eq]
      have hbracket' : (c == '[') = false := by simpa using hbracket
      simp only [readValue, hquote', hbrace', hbracket', Bool.false_eq_true, if_false] at h
      obtain ⟨t, rfl, hread⟩ := readScalar_extent h hrest
      refine ⟨.char c :: t, by simp, rfl, fun r hr => ?_⟩
      rw [List.cons_append]
      simp only [readValue, hquote', hbrace', hbracket', Bool.false_eq_true, if_false, hread r hr]

variable (hook) in
/-- What a reading with the fuel `n` has read does not depend on what it left. -/
lemma read_extent (n : ℕ) : Extends hook n ∧ ItemsExtend hook n ∧ EntriesExtend hook n := by
  induction n with
  | zero =>
    refine ⟨?_, ?_, ?_⟩
    · intro d cs ds v rest h
      cases (Metered.mk.inj h).2
    · intro d cs ds xs rest h
      cases (Metered.mk.inj h).2
    · intro d cs ds es rest h
      cases (Metered.mk.inj h).2
  | succ n ih =>
    obtain ⟨hvalue, hitems, hentries⟩ := ih
    exact ⟨readValue_extent hitems hentries, readItems_extent hvalue hitems,
      readEntries_extent hvalue hentries⟩

/-! ## Texts with an object -/

/-- A scalar is no object. -/
lemma readScalar_ne_dict {cs rest : PyText} {ds : List JsonDemand} {es : PyObject F} :
    readScalar cs ≠ (⟨ds, .ok (.dict es, rest)⟩ : JsonUse ε _) := by
  intro h
  unfold readScalar at h
  split at h
  · rename_i number left hnumber
    obtain ⟨as, w, bs, hvalue, hpure, rfl⟩ := bind_eq_mk_ok.1 h
    obtain ⟨rfl, hpair⟩ := Metered.mk.inj hpure
    obtain ⟨rfl, rfl⟩ := Prod.mk.inj (Except.ok.inj hpair)
    cases number with
    | int i => cases (Metered.mk.inj hvalue).2
    | float t => cases (Metered.mk.inj hvalue).2
    | _ => cases (Metered.mk.inj hvalue).2
  · obtain ⟨hconstant, rfl⟩ := expect_eq_mk_ok.1 h
    simp [readConstant, readName, Option.or_eq_some_iff] at hconstant

/-- Only a brace starts an object. -/
lemma brace_of_readValue {n d : ℕ} {c : PyChar} {cs rest : PyText} {ds : List JsonDemand}
    {es : PyObject F} (h : readValue hook n d (c :: cs) = ⟨ds, .ok (.dict es, rest)⟩) :
    c = .char '{' := by
  cases n with
  | zero => cases (Metered.mk.inj h).2
  | succ n =>
    cases c with
    | surrogate k => cases (Metered.mk.inj h).2
    | char c =>
      simp only [readValue] at h
      split_ifs at h with hquote hbrace hhead hbracket hhead
      · obtain ⟨as, s, bs, -, hpure, -⟩ := bind_eq_mk_ok.1 h
        cases (Metered.mk.inj hpure).2
      · rw [beq_iff_eq.1 hbrace]
      · rw [beq_iff_eq.1 hbrace]
      · obtain ⟨as, s, bs, -, hpure, -⟩ := bind_eq_mk_ok.1 h
        cases (Metered.mk.inj hpure).2
      · obtain ⟨as, s, bs, -, hnext, -⟩ := bind_eq_mk_ok.1 h
        obtain ⟨cs, items, ds, -, hpure, -⟩ := bind_eq_mk_ok.1 hnext
        cases (Metered.mk.inj hpure).2
      · exact absurd h readScalar_ne_dict

lemma skipBlanks_eq_nil {cs : PyText} : skipBlanks cs = [] ↔ ∀ c ∈ cs, isBlank c = true :=
  List.dropWhile_eq_nil_iff

/-- **The extent of an object.**  A text with an object is the text of the object between blanks,
and the text of the object followed by something else is read only if that is blank. -/
theorem loads_extent {text : PyText} {es : PyObject F} {ds : List JsonDemand}
    (h : loads hook text = ⟨ds, .ok (.dict es)⟩) :
    ∃ a t b, text = a ++ (.char '{' :: (t ++ b)) ∧ (∀ c ∈ a, isBlank c = true) ∧
      (∀ c ∈ b, isBlank c = true) ∧ t.getLast? = some (.char '}') ∧
      ∀ a' r, (∀ c ∈ a', isBlank c = true) →
        loads hook (a' ++ (.char '{' :: (t ++ r))) =
          ⟨ds, if skipBlanks r = [] then .ok (.dict es) else .error .decode⟩ := by
  obtain ⟨as, ⟨v, rest⟩, bs, hread, hif, rfl⟩ := bind_eq_mk_ok.1 h
  dsimp only at hif
  by_cases hblank : skipBlanks rest = []
  swap
  · rw [if_neg hblank] at hif
    cases (Metered.mk.inj hif).2
  rw [if_pos hblank] at hif
  obtain ⟨rfl, hv⟩ := Metered.mk.inj hif
  obtain rfl := Except.ok.inj hv
  cases hskip : skipBlanks text with
  | nil =>
    rw [hskip] at hread
    cases (Metered.mk.inj hread).2
  | cons c cs =>
    rw [hskip] at hread
    obtain rfl := brace_of_readValue hread
    obtain ⟨t, hlast, rfl, -⟩ := readBrace_extent (read_extent hook _).2.2 hread
    have htext : text = text.takeWhile isBlank ++ (.char '{' :: (t ++ rest)) := by
      rw [← hskip]
      exact List.takeWhile_append_dropWhile.symm
    refine ⟨text.takeWhile isBlank, t, rest, htext, List.all_eq_true.1 List.all_takeWhile,
      skipBlanks_eq_nil.1 hblank, hlast, fun a' r ha' => ?_⟩
    have hskip' : skipBlanks (a' ++ (.char '{' :: (t ++ r))) = .char '{' :: (t ++ r) := by
      rw [skipBlanks, List.dropWhile_append_of_pos ha']
      exact skipBlanks_cons (by decide) _
    -- both texts are read with the fuel of the longer one
    generalize hm : 2 * (a' ++ (.char '{' :: (t ++ r))).length + 1 = m
    have hfuel : 2 * text.length + 1 ≤ 2 * text.length + m + 1 := by omega
    have hlength : 2 * (.char '{' :: (t ++ rest) : PyText).length + 1 ≤ 2 * text.length + 1 := by
      rw [← hskip]
      have hle := length_skipBlanks_le text
      omega
    have hlength' : 2 * (.char '{' :: (t ++ r) : PyText).length + 1 ≤ m := by
      rw [← hskip', ← hm]
      have hle := length_skipBlanks_le (a' ++ (.char '{' :: (t ++ r)))
      omega
    rw [readValue_eq_of_fuel hook 0 hlength (le_trans hlength hfuel)] at hread
    obtain ⟨t', -, hsame, hread'⟩ := readBrace_extent (read_extent hook _).2.2 hread
    obtain rfl := List.append_cancel_right hsame
    rw [loads, hskip', hm, readValue_eq_of_fuel hook 0 hlength' (m := 2 * text.length + m + 1)
      (by omega), hread' r, mk_ok_bind]
    by_cases hr : skipBlanks r = []
    · simp only [if_pos hr, pure_eq]
    · simp only [if_neg hr, fail]

end

end PyJson

end Aizim
