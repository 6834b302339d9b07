import Mathlib.Data.List.TakeWhile
import Aizim.Framework.JsonLines

/-!
# Pieces between separators

`pieces p` cuts a list at the elements with the property `p`.  Cutting the pieces again, at other
elements, is cutting at both (`pieces_or`).  The lines of a byte string are its pieces between line
ends, up to lines without anything in them: `splitLines` takes a carriage return and a line feed
after it for one line end, `pieces` for two (`filter_splitLines`).

`stripBytes` takes the white space off the ends of a byte string, and `pieces_padded` says what the
pieces of a byte string are that has its separators in that white space only.
-/

namespace Aizim

variable {α : Type}

/-! ## Pieces -/

/-- The pieces of a list, the first of which has been read in part. -/
def piecesFrom (p : α → Bool) : (piece : List α) → List α → List (List α)
  | piece, [] => [piece]
  | piece, x :: xs => if p x then piece :: piecesFrom p [] xs else piecesFrom p (piece ++ [x]) xs

/-- The pieces of a list between the elements with a property. -/
def pieces (p : α → Bool) (xs : List α) : List (List α) := piecesFrom p [] xs

variable {p q : α → Bool}

lemma piecesFrom_cons_of {x : α} (h : p x = true) (piece xs : List α) :
    piecesFrom p piece (x :: xs) = piece :: pieces p xs := by
  rw [piecesFrom, if_pos h]
  rfl

lemma piecesFrom_append {xs : List α} (h : ∀ x ∈ xs, p x = false) (piece ys : List α) :
    piecesFrom p piece (xs ++ ys) = piecesFrom p (piece ++ xs) ys := by
  induction xs generalizing piece with
  | nil => simp
  | cons x xs ih =>
    rw [List.forall_mem_cons] at h
    rw [List.cons_append, piecesFrom, if_neg (by simp [h.1]), ih h.2, List.append_assoc]
    rfl

/-- The first piece starts with what has been read of it. -/
lemma exists_piecesFrom_eq (p : α → Bool) (piece xs : List α) :
    ∃ first rest, piecesFrom p piece xs = (piece ++ first) :: rest := by
  induction xs generalizing piece with
  | nil => exact ⟨[], [], by simp [piecesFrom]⟩
  | cons x xs ih =>
    by_cases hx : p x = true
    · exact ⟨[], pieces p xs, by rw [piecesFrom_cons_of hx, List.append_nil]⟩
    · obtain ⟨first, rest, h⟩ := ih (piece ++ [x])
      refine ⟨x :: first, rest, ?_⟩
      rw [piecesFrom, if_neg hx, h, List.append_assoc]
      rfl

/-- The pieces have nothing that the list does not have. -/
lemma mem_of_mem_piecesFrom {piece xs l : List α} {x : α} (hl : l ∈ piecesFrom p piece xs)
    (hx : x ∈ l) : x ∈ piece ∨ x ∈ xs := by
  induction xs generalizing piece with
  | nil =>
    obtain rfl := List.mem_singleton.1 hl
    exact Or.inl hx
  | cons y ys ih =>
    by_cases hy : p y = true
    · rw [piecesFrom_cons_of hy] at hl
      rcases List.mem_cons.1 hl with rfl | hl
      · exact Or.inl hx
      · have hys : x ∈ ys := by simpa using ih hl
        exact Or.inr (List.mem_cons_of_mem y hys)
    · rw [piecesFrom, if_neg hy] at hl
      rcases ih hl with hmem | hmem
      · rw [List.mem_append, List.mem_singleton] at hmem
        rcases hmem with hmem | rfl
        · exact Or.inl hmem
        · exact Or.inr List.mem_cons_self
      · exact Or.inr (List.mem_cons_of_mem y hmem)

lemma flatMap_piecesFrom_append {s : α} (hs : q s = true) {u : List α}
    (hu : ∀ x ∈ u, q x = false) (piece xs : List α) :
    (piecesFrom p (u ++ s :: piece) xs).flatMap (pieces q) =
      u :: (piecesFrom p piece xs).flatMap (pieces q) := by
  have hcut : ∀ ys, pieces q (u ++ s :: ys) = u :: pieces q ys := by
    intro ys
    rw [pieces, piecesFrom_append hu, List.nil_append, piecesFrom_cons_of hs]
  induction xs generalizing piece with
  | nil => simp [piecesFrom, hcut]
  | cons x xs ih =>
    by_cases hx : p x = true
    · rw [piecesFrom_cons_of hx, piecesFrom_cons_of hx, List.flatMap_cons, List.flatMap_cons, hcut]
      rfl
    · have hrest := ih (piece ++ [x])
      rw [piecesFrom, if_neg hx, piecesFrom, if_neg hx, ← hrest, List.append_assoc]
      rfl

/-- **Cutting twice.** -/
lemma piecesFrom_or {u : List α} (hpiece : ∀ x ∈ u, q x = false) (xs : List α) :
    piecesFrom (fun x => p x || q x) u xs = (piecesFrom p u xs).flatMap (pieces q) := by
  induction xs generalizing u with
  | nil =>
    have hwhole := piecesFrom_append hpiece [] []
    rw [List.append_nil, List.nil_append] at hwhole
    simp [piecesFrom, pieces, hwhole]
  | cons x xs ih =>
    have hempty := ih (u := []) (by simp)
    by_cases hp : p x = true
    · have hwhole := piecesFrom_append hpiece [] []
      rw [List.append_nil, List.nil_append] at hwhole
      rw [piecesFrom_cons_of (by simp [hp]), piecesFrom_cons_of hp, List.flatMap_cons, pieces,
        hempty, pieces, hwhole]
      rfl
    · by_cases hq : q x = true
      · have hrest := flatMap_piecesFrom_append (p := p) hq hpiece [] xs
        rw [piecesFrom_cons_of (by simp [hq]), piecesFrom, if_neg hp, hrest, pieces, hempty]
      · rw [piecesFrom, if_neg (by simp [hp, hq]), piecesFrom, if_neg hp]
        apply ih
        intro y hy
        rcases List.mem_append.1 hy with hy | hy
        · exact hpiece y hy
        · obtain rfl := List.mem_singleton.1 hy
          simpa using hq

/-! ## White space -/

/-- White space of ASCII. -/
def isSpaceByte (b : ℕ) : Bool := b == 32 || (9 ≤ b && b ≤ 13)

/-- `value.strip()` of a byte string. -/
def stripBytes (value : Bytes) : Bytes :=
  ((value.dropWhile isSpaceByte).reverse.dropWhile isSpaceByte).reverse

/-- White space at the ends goes, and nothing else. -/
lemma stripBytes_padded {x y z : Bytes} (hx : ∀ b ∈ x, isSpaceByte b = true)
    (hz : ∀ b ∈ z, isSpaceByte b = true) {first last : ℕ} (hfirst : y.head? = some first)
    (hfirst' : isSpaceByte first = false) (hlast : y.getLast? = some last)
    (hlast' : isSpaceByte last = false) : stripBytes (x ++ (y ++ z)) = y := by
  obtain ⟨ys, rfl⟩ := List.head?_eq_some_iff.1 hfirst
  obtain ⟨zs, hzs⟩ := List.getLast?_eq_some_iff.1 hlast
  rw [stripBytes, List.dropWhile_append_of_pos hx, List.cons_append,
    List.dropWhile_cons_of_neg (by simp [hfirst']), ← List.cons_append, List.reverse_append,
    List.dropWhile_append_of_pos (by simpa using hz), hzs, List.reverse_append]
  simp [hlast']

lemma stripBytes_eq_nil {value : Bytes} :
    stripBytes value = [] ↔ ∀ b ∈ value, isSpaceByte b = true := by
  rw [stripBytes, List.reverse_eq_nil_iff, List.dropWhile_eq_nil_iff]
  simp only [List.mem_reverse]
  constructor
  · intro h
    rw [← List.dropWhile_eq_nil_iff]
    cases hrest : value.dropWhile isSpaceByte with
    | nil => rfl
    | cons b bs =>
      have hhead := List.head?_dropWhile_not isSpaceByte value
      rw [hrest] at h hhead
      have hb := h b List.mem_cons_self
      simp [hb] at hhead
  · intro h b hb
    exact h b ((List.dropWhile_suffix _).subset hb)

/-- There is something in a line besides white space. -/
def isText (line : Bytes) : Bool := !(stripBytes line).isEmpty

lemma isText_eq_false {line : Bytes} : isText line = false ↔ ∀ b ∈ line, isSpaceByte b = true := by
  rw [isText, Bool.not_eq_false', List.isEmpty_iff, stripBytes_eq_nil]

lemma isText_of_mem {line : Bytes} {b : ℕ} (hmem : b ∈ line) (hb : isSpaceByte b = false) :
    isText line = true := by
  rw [← Bool.not_eq_false, isText_eq_false]
  intro h
  rw [h b hmem] at hb
  cases hb

/-! ## Lines -/

/-- A line feed. -/
def isFeed (b : ℕ) : Bool := b == 10

/-- A carriage return. -/
def isReturn (b : ℕ) : Bool := b == 13

/-- `value.splitlines()`, up to lines without text. -/
lemma filter_splitLinesFrom (afterReturn : Bool) (line bytes : Bytes)
    (hline : afterReturn = true → line = []) :
    (splitLinesFrom afterReturn line bytes).filter isText =
      (piecesFrom (fun b => isFeed b || isReturn b) line bytes).filter isText := by
  have hempty : isText [] = false := by decide
  induction bytes generalizing afterReturn line with
  | nil =>
    cases line with
    | nil => simp [splitLinesFrom, piecesFrom, hempty]
    | cons b bs => simp [splitLinesFrom, piecesFrom]
  | cons b bs ih =>
    have hrest := ih false [] (by simp)
    by_cases hfeed : b = 10
    · subst hfeed
      rw [piecesFrom_cons_of (by simp [isFeed]), splitLinesFrom, if_pos (by simp)]
      cases afterReturn with
      | true =>
        obtain rfl := hline rfl
        rw [if_pos rfl, hrest, List.filter_cons_of_neg (by simp [hempty])]
        rfl
      | false =>
        rw [if_neg (by simp), List.filter_cons, List.filter_cons, hrest]
        rfl
    · by_cases hreturn : b = 13
      · subst hreturn
        rw [piecesFrom_cons_of (by simp [isReturn]), splitLinesFrom, if_neg (by simp),
          if_pos (by simp),
          List.filter_cons, List.filter_cons, ih true [] (by simp)]
        rfl
      · rw [splitLinesFrom, if_neg (by simp [hfeed]), if_neg (by simp [hreturn]), piecesFrom,
          if_neg (by simp [isFeed, isReturn, hfeed, hreturn])]
        exact ih false (line ++ [b]) (by simp)

/-- The lines of a byte string are the pieces between carriage returns of its pieces between line
feeds, up to lines without text. -/
lemma filter_splitLines (bytes : Bytes) :
    (splitLines bytes).filter isText =
      (pieces isFeed bytes).flatMap fun line => (pieces isReturn line).filter isText := by
  rw [splitLines, filter_splitLinesFrom false [] bytes (by simp), piecesFrom_or (by simp),
    List.filter_flatMap]
  rfl

/-! ## Separators at the ends -/

lemma isText_append {u v : Bytes} : isText (u ++ v) = (isText u || isText v) := by
  rw [Bool.eq_iff_iff, Bool.or_eq_true, ← not_iff_not, not_or]
  simp only [Bool.not_eq_true, isText_eq_false, List.mem_append]
  constructor
  · intro h
    exact ⟨fun b hb => h b (Or.inl hb), fun b hb => h b (Or.inr hb)⟩
  · rintro ⟨hu, hv⟩ b (hb | hb)
    · exact hu b hb
    · exact hv b hb

lemma filter_piecesFrom_of_all_space (p : ℕ → Bool) {u z : Bytes}
    (hpiece : ∀ b ∈ u, isSpaceByte b = true) (hz : ∀ b ∈ z, isSpaceByte b = true) :
    (piecesFrom p u z).filter isText = [] := by
  induction z generalizing u with
  | nil => simp [piecesFrom, isText_eq_false.2 hpiece]
  | cons c z ih =>
    rw [List.forall_mem_cons] at hz
    by_cases hc : p c = true
    · rw [piecesFrom_cons_of hc, List.filter_cons_of_neg (by simp [isText_eq_false.2 hpiece])]
      exact ih (by simp) hz.2
    · rw [piecesFrom, if_neg hc]
      refine ih ?_ hz.2
      intro b hb
      rcases List.mem_append.1 hb with hb | hb
      · exact hpiece b hb
      · obtain rfl := List.mem_singleton.1 hb
        exact hz.1

/-- What follows the text of a line stays in its u up to the next separator. -/
lemma filter_piecesFrom_of_space (p : ℕ → Bool) {u z : Bytes} (hpiece : isText u = true)
    (hz : ∀ b ∈ z, isSpaceByte b = true) :
    ∃ b, (∀ c ∈ b, c ∈ z) ∧ (piecesFrom p u z).filter isText = [u ++ b] := by
  induction z generalizing u with
  | nil => exact ⟨[], by simp, by simp [piecesFrom, hpiece]⟩
  | cons c z ih =>
    rw [List.forall_mem_cons] at hz
    by_cases hc : p c = true
    · refine ⟨[], by simp, ?_⟩
      rw [piecesFrom_cons_of hc, List.filter_cons_of_pos hpiece, List.append_nil, pieces,
        filter_piecesFrom_of_all_space p (by simp) hz.2]
    · obtain ⟨b, hb, hfilter⟩ := ih (u := u ++ [c]) (by simp [isText_append, hpiece]) hz.2
      refine ⟨c :: b, ?_, ?_⟩
      · intro d hd
        rcases List.mem_cons.1 hd with rfl | hd
        · exact List.mem_cons_self
        · exact List.mem_cons_of_mem c (hb d hd)
      · rw [piecesFrom, if_neg hc, hfilter, List.append_assoc]
        rfl

/-- White space before the text of a line stays in its piece from the last separator on. -/
lemma exists_filter_piecesFrom_of_space (p : ℕ → Bool) {u x : Bytes}
    (hpiece : ∀ b ∈ u, isSpaceByte b = true) (hx : ∀ b ∈ x, isSpaceByte b = true) :
    ∃ a, (∀ c ∈ a, c ∈ u ++ x) ∧
      ∀ w, (piecesFrom p u (x ++ w)).filter isText = (piecesFrom p a w).filter isText := by
  induction x generalizing u with
  | nil => exact ⟨u, by simp, by simp⟩
  | cons c x ih =>
    rw [List.forall_mem_cons] at hx
    by_cases hc : p c = true
    · obtain ⟨a, ha, hfilter⟩ := ih (u := []) (by simp) hx.2
      refine ⟨a, ?_, fun w => ?_⟩
      · intro d hd
        have hmem := ha d hd
        rw [List.nil_append] at hmem
        simp [hmem]
      · rw [List.cons_append, piecesFrom_cons_of hc,
          List.filter_cons_of_neg (by simp [isText_eq_false.2 hpiece])]
        exact hfilter w
    · have hpiece' : ∀ b ∈ u ++ [c], isSpaceByte b = true := by
        intro b hb
        rcases List.mem_append.1 hb with hb | hb
        · exact hpiece b hb
        · obtain rfl := List.mem_singleton.1 hb
          exact hx.1
      obtain ⟨a, ha, hfilter⟩ := ih hpiece' hx.2
      refine ⟨a, ?_, fun w => ?_⟩
      · intro d hd
        simpa [or_assoc] using ha d hd
      · rw [List.cons_append, piecesFrom, if_neg hc]
        exact hfilter w

/-- **Separators in the white space at the ends.**  One piece has the text, with some of the white
space on both sides. -/
theorem filter_pieces_padded (p : ℕ → Bool) {x y z : Bytes}
    (hx : ∀ b ∈ x, isSpaceByte b = true) (hy : ∀ b ∈ y, p b = false) (htext : isText y = true)
    (hz : ∀ b ∈ z, isSpaceByte b = true) :
    ∃ a b, (∀ c ∈ a, c ∈ x) ∧ (∀ c ∈ b, c ∈ z) ∧
      (pieces p (x ++ (y ++ z))).filter isText = [a ++ (y ++ b)] := by
  obtain ⟨a, ha, hspace⟩ := exists_filter_piecesFrom_of_space p (u := []) (by simp) hx
  obtain ⟨b, hb, hfilter⟩ := filter_piecesFrom_of_space p (u := a ++ y)
    (by simp [isText_append, htext]) hz
  refine ⟨a, b, ha, hb, ?_⟩
  rw [pieces, hspace, piecesFrom_append hy, hfilter, List.append_assoc]

/-- **A separator in the text.**  The first piece with text ends there. -/
theorem mem_filter_pieces_of_cut (p : ℕ → Bool) {x y z : Bytes} {s : ℕ}
    (hx : ∀ b ∈ x, isSpaceByte b = true) (hy : ∀ b ∈ y, p b = false) (htext : isText y = true)
    (hs : p s = true) :
    ∃ a, (∀ c ∈ a, c ∈ x) ∧ a ++ y ∈ (pieces p (x ++ (y ++ s :: z))).filter isText := by
  obtain ⟨a, ha, hspace⟩ := exists_filter_piecesFrom_of_space p (u := []) (by simp) hx
  refine ⟨a, ha, ?_⟩
  rw [pieces, hspace, piecesFrom_append hy, piecesFrom_cons_of hs,
    List.filter_cons_of_pos (by simp [isText_append, htext])]
  exact List.mem_cons_self

end Aizim
