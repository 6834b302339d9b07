import Mathlib.Logic.Relation
import Mathlib.Tactic.Lemma

/-!
# Relations that grow by one node

A dependency relation of which the nodes are added one after another, each with edges to nodes that
are there already.  `acyclic_of_grows` is the step of the induction by which such a relation stays
acyclic, and `forall_transGen` the rule by which a property that passes from a node to what it
depends on directly passes to everything it depends on.
-/

namespace Aizim

open Relation

universe u

variable {α : Type u} {r r' : α → α → Prop}

/-- No node depends on itself, directly or not. -/
def Acyclic (r : α → α → Prop) : Prop := ∀ a, ¬ TransGen r a a

/-- The second relation has the edges of the first and edges from one new node, which nothing
depends on. -/
structure GrowsAt (r r' : α → α → Prop) (x : α) : Prop where
  edge : ∀ a b, r' a b → r a b ∨ a = x
  new : ∀ a, ¬ r' a x

/-- What a path of the larger relation leads to is no new node, and only from the new node there
are new paths. -/
lemma GrowsAt.path {x a b : α} (h : GrowsAt r r' x) (hab : TransGen r' a b) :
    b ≠ x ∧ (a = x ∨ TransGen r a b) := by
  induction hab with
  | single hedge =>
    refine ⟨fun hb => h.new a (hb ▸ hedge), ?_⟩
    rcases h.edge _ _ hedge with hold | ha
    · exact Or.inr (.single hold)
    · exact Or.inl ha
  | @tail b c _ hedge ih =>
    obtain ⟨hb, hpath⟩ := ih
    refine ⟨fun hc => h.new b (hc ▸ hedge), ?_⟩
    have hold : r b c := (h.edge _ _ hedge).resolve_right hb
    exact hpath.imp_right fun hpath => hpath.tail hold

/-- A relation that grows by a new node stays acyclic. -/
lemma acyclic_of_grows {x : α} (h : GrowsAt r r' x) (hr : Acyclic r) : Acyclic r' := by
  intro a hcycle
  obtain ⟨ha, hpath⟩ := h.path hcycle
  exact hr a (hpath.resolve_left ha)

lemma acyclic_of_forall_not (h : ∀ a b, ¬ r a b) : Acyclic r := by
  intro a hcycle
  obtain ⟨b, hedge, -⟩ := TransGen.head'_iff.1 hcycle
  exact h a b hedge

/-- What passes along the edges passes along the paths. -/
lemma forall_transGen {P : α → Prop} (hstep : ∀ a b, P a → r a b → P b) {a b : α} (ha : P a)
    (hab : TransGen r a b) : P b := by
  induction hab with
  | single hedge => exact hstep _ _ ha hedge
  | tail _ hedge ih => exact hstep _ _ ih hedge

end Aizim
