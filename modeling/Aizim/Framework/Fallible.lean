import Mathlib.Data.List.Forall2
import Mathlib.Tactic.Lemma

/-!
# Fallible computations

A function that may raise is an `Except`.  This file has the two guards such functions are written
with, `require` for a condition and `orThrow` for a value that may be absent, and the inversion
lemmas that read a successful run back: `bind_eq_ok` splits a sequence at its intermediate value,
`require_eq_ok` and `orThrow_eq_ok` recover what the guards checked.  All of them are in the simp
set, so a successful body is inverted by one `simp only` with the body's name.

`settle` is the transaction rule: a computation that raises leaves the state it started from.
-/

namespace Aizim

universe u v w

variable {ε : Type u} {α β : Type v}

lemma none_ne_some (a : α) : none ≠ some a := nofun

/-! ## Guards -/

/-- Raise `e` unless the condition holds. -/
def require (p : Prop) [Decidable p] (e : ε) : Except ε PUnit.{v + 1} :=
  if p then .ok ⟨⟩ else .error e

/-- The value of an option, or raise `e`. -/
def orThrow : Option α → ε → Except ε α
  | some a, _ => .ok a
  | none, e => .error e

@[simp] lemma require_eq_ok {p : Prop} [Decidable p] {e : ε} {x : PUnit.{v + 1}} :
    require p e = .ok x ↔ p := by
  unfold require
  split <;> simp_all

@[simp] lemma orThrow_eq_ok {o : Option α} {e : ε} {a : α} : orThrow o e = .ok a ↔ o = some a := by
  cases o <;> simp [orThrow]

lemma require_of {p : Prop} [Decidable p] (h : p) (e : ε) :
    (require p e : Except ε PUnit.{v + 1}) = .ok ⟨⟩ :=
  if_pos h

lemma require_of_not {p : Prop} [Decidable p] (h : ¬ p) (e : ε) :
    (require p e : Except ε PUnit.{v + 1}) = .error e :=
  if_neg h

/-! ## Inversion -/

@[simp] lemma bind_eq_ok {x : Except ε α} {f : α → Except ε β} {b : β} :
    (x >>= f) = .ok b ↔ ∃ a, x = .ok a ∧ f a = .ok b := by
  cases x with
  | ok a => simp [Bind.bind, Except.bind]
  | error e => simp [Bind.bind, Except.bind]

@[simp] lemma map_eq_ok {x : Except ε α} {f : α → β} {b : β} :
    (f <$> x) = .ok b ↔ ∃ a, x = .ok a ∧ f a = b := by
  cases x with
  | ok a => simp [Functor.map, Except.map]
  | error e => simp [Functor.map, Except.map]

@[simp] lemma pure_eq_ok {a b : α} : (pure a : Except ε α) = .ok b ↔ a = b := by
  simp [pure, Except.pure]

@[simp] lemma throw_eq_ok {e : ε} {a : α} : ¬ (throw e : Except ε α) = .ok a := by
  simp [throw, throwThe, MonadExceptOf.throw]

@[simp] lemma ok_bind (a : α) (f : α → Except ε β) : (Except.ok a >>= f) = f a := rfl

@[simp] lemma error_bind (e : ε) (f : α → Except ε β) : (Except.error e >>= f) = .error e := rfl

/-- A sequence that ends by packing its last value is a map. -/
lemma bind_ok_eq_map (x : Except ε α) (f : α → β) : (x >>= fun a => .ok (f a)) = f <$> x := by
  cases x <;> rfl

lemma toOption_eq_some {x : Except ε α} {a : α} : x.toOption = some a ↔ x = .ok a := by
  cases x <;> simp [Except.toOption]

lemma mapError_eq_ok {ε' : Type w} {x : Except ε α} {f : ε → ε'} {a : α} :
    x.mapError f = .ok a ↔ x = .ok a := by
  cases x <;> simp [Except.mapError]

/-! ## Loops -/

/-- A successful loop computed one result for each element, in order. -/
lemma mapM_eq_ok {γ : Type w} {f : γ → Except ε α} {xs : List γ} {ys : List α} :
    xs.mapM f = .ok ys ↔ List.Forall₂ (fun x y => f x = .ok y) xs ys := by
  induction xs generalizing ys with
  | nil =>
    rw [List.mapM_nil, pure_eq_ok, List.forall₂_nil_left_iff]
    exact eq_comm
  | cons x xs ih =>
    simp only [List.mapM_cons, bind_eq_ok, pure_eq_ok, ih]
    constructor
    · rintro ⟨y, hy, ys, hys, rfl⟩
      exact .cons hy hys
    · rintro (_ | ⟨hy, hys⟩)
      exact ⟨_, hy, _, hys, rfl⟩

/-- A loop over the images of values that finds each value again finds all of them. -/
lemma mapM_map_eq_ok {γ : Type w} {f : γ → Except ε α} {g : α → γ} {xs : List α}
    (h : ∀ x ∈ xs, f (g x) = .ok x) : (xs.map g).mapM f = .ok xs := by
  rw [mapM_eq_ok, List.forall₂_map_left_iff, List.forall₂_same]
  exact h

/-- A search that found nothing looked at every element. -/
lemma anyM_eq_false {ε : Type} {γ : Type w} {f : γ → Except ε Bool} {xs : List γ}
    (h : xs.anyM f = .ok false) {x : γ} (hx : x ∈ xs) : f x = .ok false := by
  induction xs with
  | nil => simp at hx
  | cons y ys ih =>
    simp only [List.anyM, bind_eq_ok] at h
    obtain ⟨found, hfound, hrest⟩ := h
    cases found with
    | true => simp at hrest
    | false =>
      rcases List.mem_cons.1 hx with rfl | hx
      · exact hfound
      · exact ih hrest hx

/-- A check of every element answers if each does, and a positive answer is that of each. -/
lemma exists_allM_eq_ok {ε : Type} {γ : Type w} {f : γ → Except ε Bool} {xs : List γ}
    (h : ∀ x ∈ xs, ∃ b, f x = .ok b) :
    ∃ b, xs.allM f = .ok b ∧ (b = true → ∀ x ∈ xs, f x = .ok true) := by
  induction xs with
  | nil => exact ⟨true, rfl, fun _ x hx => by cases hx⟩
  | cons x xs ih =>
    obtain ⟨b, hb⟩ := h x List.mem_cons_self
    obtain ⟨rest, hrest, htrue⟩ := ih fun y hy => h y (List.mem_cons_of_mem x hy)
    cases b with
    | false => exact ⟨false, by simp [List.allM, hb], fun hfalse => by cases hfalse⟩
    | true =>
      refine ⟨rest, by simpa [List.allM, hb] using hrest, fun hall y hy => ?_⟩
      rcases List.mem_cons.1 hy with rfl | hy
      · exact hb
      · exact htrue hall y hy

section

variable {γ : Type w} {R : γ → α → Prop}

/-- Every result is the result of an element. -/
lemma exists_of_forall₂ {xs : List γ} {ys : List α} (h : List.Forall₂ R xs ys) {y : α}
    (hy : y ∈ ys) : ∃ x ∈ xs, R x y := by
  induction h with
  | nil => simp at hy
  | cons hxy _ ih =>
    rcases List.mem_cons.1 hy with rfl | hy
    · exact ⟨_, List.mem_cons_self, hxy⟩
    · obtain ⟨x, hx, hxy'⟩ := ih hy
      exact ⟨x, List.mem_cons_of_mem _ hx, hxy'⟩

/-- Every element has a result. -/
lemma exists_of_forall₂_left {xs : List γ} {ys : List α} (h : List.Forall₂ R xs ys) {x : γ}
    (hx : x ∈ xs) : ∃ y ∈ ys, R x y := by
  induction h with
  | nil => simp at hx
  | cons hxy _ ih =>
    rcases List.mem_cons.1 hx with rfl | hx
    · exact ⟨_, List.mem_cons_self, hxy⟩
    · obtain ⟨y, hy, hxy'⟩ := ih hx
      exact ⟨y, List.mem_cons_of_mem _ hy, hxy'⟩

/-- What relates the elements of a list pairwise relates their results. -/
lemma pairwise_of_forall₂ {P : γ → γ → Prop} {Q : α → α → Prop}
    (hPQ : ∀ x x' y y', R x y → R x' y' → P x x' → Q y y') {xs : List γ} {ys : List α}
    (h : List.Forall₂ R xs ys) (hxs : xs.Pairwise P) : ys.Pairwise Q := by
  induction h with
  | nil => exact .nil
  | cons hxy hrest ih =>
    obtain ⟨hhead, htail⟩ := List.pairwise_cons.1 hxs
    refine List.pairwise_cons.2 ⟨fun y' hy' => ?_, ih htail⟩
    obtain ⟨x', hx', hxy'⟩ := exists_of_forall₂ hrest hy'
    exact hPQ _ _ _ _ hxy hxy' (hhead x' hx')

/-- A loop all of whose elements succeed succeeds. -/
lemma exists_mapM_eq_ok {f : γ → Except ε α} {xs : List γ} (h : ∀ x ∈ xs, ∃ y, f x = .ok y) :
    ∃ ys, xs.mapM f = .ok ys := by
  induction xs with
  | nil => exact ⟨[], rfl⟩
  | cons x xs ih =>
    obtain ⟨y, hy⟩ := h x List.mem_cons_self
    obtain ⟨ys, hys⟩ := ih fun x' hx' => h x' (List.mem_cons_of_mem _ hx')
    exact ⟨y :: ys, by simp [List.mapM_cons, hy, hys]⟩

end

/-! ## Transactions -/

/-- The state after a transaction: the one it computed, or the one it started from if it
raised. -/
def settle {σ : Type v} (s : σ) : Except ε (σ × α) → σ
  | .ok (s', _) => s'
  | .error _ => s

@[simp] lemma settle_ok {σ : Type v} (s s' : σ) (a : α) :
    settle s (.ok (s', a) : Except ε (σ × α)) = s' := rfl

@[simp] lemma settle_error {σ : Type v} (s : σ) (e : ε) :
    settle s (.error e : Except ε (σ × α)) = s := rfl

/-- What holds of the state before and of every successful result holds of the state after. -/
lemma settle_induction {σ : Type v} {P : σ → Prop} {s : σ} {x : Except ε (σ × α)} (hs : P s)
    (hx : ∀ s' a, x = .ok (s', a) → P s') : P (settle s x) := by
  cases x with
  | ok r => exact hx r.1 r.2 rfl
  | error e => exact hs

end Aizim
