import Mathlib.Data.List.Induction
import Mathlib.Tactic.Lemma

/-!
# Labelled transition systems

A transition system is a set of initial states and a step relation labelled by actions.  `Run`
keeps the list of actions taken, so that statements about the history of a run can be made;
`Reachable` forgets it.

The rules the developments above this file use are `Run.invariant`, `Reachable.invariant` and
`Run.mono` (a reflexive and transitive relation that every step respects holds between the ends
of every run), each for runs whose actions satisfy a side condition where that is needed, and
`Run.simulate`, which carries a run of one system to a run of another.  `restrict` admits only some
of the steps, by the state they start from.
`ofFunction` is the special case of a total function, whose runs are folds.
-/

namespace Aizim

universe u v w

/-- A labelled transition system. -/
structure TransitionSystem (State : Type u) (Action : Type v) where
  initial : State → Prop
  step : State → Action → State → Prop

namespace TransitionSystem

variable {State : Type u} {Action : Type v} {S : TransitionSystem State Action}

/-! ## Runs -/

variable (S) in
/-- From the first state the actions, in order, lead to the second. -/
inductive Run : State → List Action → State → Prop
  | nil (s : State) : Run s [] s
  | snoc {s t u : State} {as : List Action} {a : Action} :
      Run s as t → S.step t a u → Run s (as ++ [a]) u

variable (S) in
/-- Some run from an initial state ends here. -/
def Reachable (t : State) : Prop :=
  ∃ s as, S.initial s ∧ S.Run s as t

lemma Reachable.of_initial {s : State} (h : S.initial s) : S.Reachable s :=
  ⟨s, [], h, .nil s⟩

lemma Reachable.step {s t : State} {a : Action} (hs : S.Reachable s) (h : S.step s a t) :
    S.Reachable t := by
  obtain ⟨s₀, as, h₀, hrun⟩ := hs
  exact ⟨s₀, as ++ [a], h₀, hrun.snoc h⟩

lemma Run.append {s t u : State} {as bs : List Action} (h₁ : S.Run s as t) (h₂ : S.Run t bs u) :
    S.Run s (as ++ bs) u := by
  induction h₂ with
  | nil => simpa using h₁
  | snoc _ hstep ih =>
    rw [← List.append_assoc]
    exact ih.snoc hstep

lemma Run.single {s t : State} {a : Action} (h : S.step s a t) : S.Run s [a] t :=
  Run.snoc (Run.nil s) h

/-- The last step of a run. -/
lemma Run.of_concat {s u : State} {as : List Action} {a : Action} (h : S.Run s (as ++ [a]) u) :
    ∃ t, S.Run s as t ∧ S.step t a u := by
  generalize hactions : as ++ [a] = actions at h
  cases h with
  | nil => simp at hactions
  | snoc hrun hstep =>
    obtain ⟨rfl, hlast⟩ := List.append_inj' hactions rfl
    obtain rfl := List.singleton_inj.1 hlast
    exact ⟨_, hrun, hstep⟩

/-- A run of one action is one step. -/
lemma Run.of_singleton {s u : State} {a : Action} (h : S.Run s [a] u) : S.step s a u := by
  obtain ⟨t, hnil, hstep⟩ := Run.of_concat (show S.Run s ([] ++ [a]) u from h)
  generalize hactions : ([] : List Action) = actions at hnil
  cases hnil with
  | nil => exact hstep
  | snoc => simp at hactions

lemma Run.reachable {s t : State} {as : List Action} (hs : S.Reachable s) (h : S.Run s as t) :
    S.Reachable t := by
  induction h with
  | nil => exact hs
  | snoc _ hstep ih => exact ih.step hstep

/-! ## Invariants -/

/-- A property kept by every step with an admitted action holds at the end of every run of
admitted actions that starts in it. -/
lemma Run.invariant_of {P : State → Prop} {admitted : Action → Prop}
    (hstep : ∀ s a t, P s → admitted a → S.step s a t → P t)
    {s t : State} {as : List Action} (h : S.Run s as t) (has : ∀ a ∈ as, admitted a) (hs : P s) :
    P t := by
  induction h with
  | nil => exact hs
  | snoc _ hlast ih =>
    exact hstep _ _ _ (ih fun a ha => has a (by simp [ha])) (has _ (by simp)) hlast

/-- A property kept by every step holds at the end of every run that starts in it. -/
lemma Run.invariant {P : State → Prop} (hstep : ∀ s a t, P s → S.step s a t → P t)
    {s t : State} {as : List Action} (h : S.Run s as t) (hs : P s) : P t :=
  h.invariant_of (fun s a t hs (_ : True) => hstep s a t hs) (fun _ _ => trivial) hs

/-- An inductive invariant holds in every reachable state. -/
lemma Reachable.invariant {P : State → Prop} (hinit : ∀ s, S.initial s → P s)
    (hstep : ∀ s a t, P s → S.step s a t → P t) {t : State} (h : S.Reachable t) : P t := by
  obtain ⟨s, as, hs, hrun⟩ := h
  exact hrun.invariant hstep (hinit s hs)

/-- A reflexive and transitive relation respected by every step from a state of an invariant
relates the two ends of a run. -/
lemma Run.mono {P : State → Prop} {R : State → State → Prop} (hrefl : ∀ s, R s s)
    (htrans : ∀ s t u, R s t → R t u → R s u)
    (hstep : ∀ s a t, P s → S.step s a t → P t ∧ R s t)
    {s t : State} {as : List Action} (h : S.Run s as t) (hs : P s) : R s t := by
  induction h with
  | nil => exact hrefl _
  | snoc hrun hlast ih =>
    have hmid := hrun.invariant (fun s a t hs h => (hstep s a t hs h).1) hs
    exact htrans _ _ _ ih (hstep _ _ _ hmid hlast).2

/-! ## Restriction -/

/-- The steps of a system that are admitted in the state they start from. -/
def restrict (S : TransitionSystem State Action) (admitted : State → Action → Prop) :
    TransitionSystem State Action where
  initial := S.initial
  step s a t := S.step s a t ∧ admitted s a

lemma Reachable.of_restrict {admitted : State → Action → Prop} {t : State}
    (h : (S.restrict admitted).Reachable t) : S.Reachable t :=
  h.invariant (fun _ hs => .of_initial hs) fun _ _ _ hs hstep => hs.step hstep.1

/-! ## Simulation -/

/-- If each step of `S` from a state of the invariant `P` is matched by a run of `T`, every run
of `S` is. -/
lemma Run.simulate {State' : Type w} {Action' : Type v} {T : TransitionSystem State' Action'}
    {P : State → Prop} {f : State → State'}
    (hstep : ∀ s a t, P s → S.step s a t → P t ∧ ∃ bs, T.Run (f s) bs (f t))
    {s t : State} {as : List Action} (h : S.Run s as t) (hs : P s) :
    ∃ bs, T.Run (f s) bs (f t) := by
  induction h with
  | nil => exact ⟨[], .nil _⟩
  | snoc hrun hlast ih =>
    have hmid := hrun.invariant (fun s a t hs h => (hstep s a t hs h).1) hs
    obtain ⟨bs, hbs⟩ := ih
    obtain ⟨cs, hcs⟩ := (hstep _ _ _ hmid hlast).2
    exact ⟨bs ++ cs, hbs.append hcs⟩

/-! ## Total step functions -/

/-- The system of a total step function from one initial state. -/
def ofFunction (init : State) (exec : State → Action → State) : TransitionSystem State Action where
  initial s := s = init
  step s a t := t = exec s a

lemma run_ofFunction_iff {init : State} {exec : State → Action → State} {s t : State}
    {as : List Action} : (ofFunction init exec).Run s as t ↔ t = as.foldl exec s := by
  constructor
  · intro h
    induction h with
    | nil => rfl
    | snoc _ hlast ih =>
      obtain rfl := ih
      simpa [ofFunction] using hlast
  · rintro rfl
    induction as using List.reverseRecOn with
    | nil => exact .nil s
    | append_singleton as a ih =>
      rw [List.foldl_append]
      exact Run.snoc ih rfl

/-- The state reached by a list of actions. -/
lemma reachable_foldl (init : State) (exec : State → Action → State) (as : List Action) :
    (ofFunction init exec).Reachable (as.foldl exec init) :=
  ⟨init, as, rfl, run_ofFunction_iff.2 rfl⟩

end TransitionSystem

end Aizim
