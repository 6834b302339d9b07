import Aizim.Framework.Program
import Aizim.Framework.Transition

/-!
# Concurrent programs

A `Pool` is a state that named programs share.  In one step a program performs its next effect or
goes on waiting for it, a program is started, one leaves (because it has ended, was cancelled or
its process died), or the surroundings change the state.  Steps of different programs come in any
order, so a run of `poolSystem` is any interleaving of the effects of its programs.

`pool_invariant` is the rule for such runs: when every program that is started meets its
specification, and the guarantee of an effect keeps an invariant and stays within the interference
that the others expect, the invariant holds in every reachable state, and what is left of every
running program still meets its specification.
-/

namespace Aizim

open TransitionSystem

universe u v w

/-- A shared state, and what is left to do of every running program. -/
structure Pool (Name : Type w) (σ : Type v) (E : Type u) (Answer : E → Type u) (ε α : Type u) where
  state : σ
  running : Name → Option (Program E Answer ε α)

/-- What happens in one step. -/
inductive PoolAction (Name : Type w)
  | start (name : Name)
  | perform (name : Name)
  | leave (name : Name)
  | environment

variable {Name : Type w} {σ : Type v} {E : Type u} {Answer : E → Type u} {ε α : Type u}
  [DecidableEq Name]

section

variable (handle : Program.Handler E Answer ε σ) (starts : Program E Answer ε α → Prop)
  (environment : σ → σ → Prop)

/-- One step of a pool. -/
inductive PoolStep (w : Pool Name σ E Answer ε α) :
    PoolAction Name → Pool Name σ E Answer ε α → Prop
  | start {name : Name} {p : Program E Answer ε α} (free : w.running name = none)
      (startable : starts p) :
      PoolStep w (.start name) ⟨w.state, Function.update w.running name (some p)⟩
  | answer {name : Name} {effect : E} {next : Except ε (Answer effect) → Program E Answer ε α}
      {answer : Except ε (Answer effect)} {state : σ}
      (found : w.running name = some (.perform effect next))
      (handled : handle effect w.state (some answer) state) :
      PoolStep w (.perform name) ⟨state, Function.update w.running name (some (next answer))⟩
  | wait {name : Name} {effect : E} {next : Except ε (Answer effect) → Program E Answer ε α}
      {state : σ} (found : w.running name = some (.perform effect next))
      (handled : handle effect w.state none state) :
      PoolStep w (.perform name) ⟨state, w.running⟩
  | leave (name : Name) :
      PoolStep w (.leave name) ⟨w.state, Function.update w.running name none⟩
  | environment {state : σ} (changed : environment w.state state) :
      PoolStep w .environment ⟨state, w.running⟩

/-- The pool as a transition system, from an initial state in which nothing runs. -/
def poolSystem (initial : σ → Prop) :
    TransitionSystem (Pool Name σ E Answer ε α) (PoolAction Name) where
  initial w := initial w.state ∧ ∀ name, w.running name = none
  step := PoolStep handle starts environment

end

section

variable {handle : Program.Handler E Answer ε σ} {starts : Program E Answer ε α → Prop}
  {environment : σ → σ → Prop} {initial : σ → Prop} {invariant : σ → Prop}
  {interference : σ → σ → Prop}
  {guarantee : (effect : E) → σ → Option (Except ε (Answer effect)) → σ → Prop}

/-- The specifications of the running programs. -/
def Pool.Meets (handle : Program.Handler E Answer ε σ) (interference : σ → σ → Prop)
    (guarantee : (effect : E) → σ → Option (Except ε (Answer effect)) → σ → Prop)
    (w : Pool Name σ E Answer ε α) : Prop :=
  ∀ name p, w.running name = some p →
    p.Meets handle interference guarantee (fun _ _ => True) w.state

/-- Replacing one program by one that meets its specification, after an admissible change. -/
lemma Pool.Meets.update (htrans : ∀ s t u, interference s t → interference t u → interference s u)
    {w : Pool Name σ E Answer ε α} (h : w.Meets handle interference guarantee) {name : Name}
    {q : Option (Program E Answer ε α)} {state : σ} (hs : interference w.state state)
    (hq : ∀ p, q = some p → p.Meets handle interference guarantee (fun _ _ => True) state) :
    (⟨state, Function.update w.running name q⟩ : Pool Name σ E Answer ε α).Meets handle
      interference guarantee := by
  intro other p hp
  by_cases hother : other = name
  · subst hother
    exact hq p (by simpa using hp)
  · have hold : w.running other = some p := by simpa [hother] using hp
    exact (h other p hold).stable htrans hs

omit [DecidableEq Name] in
/-- What an admissible change leaves of the specifications. -/
lemma Pool.Meets.stable (htrans : ∀ s t u, interference s t → interference t u → interference s u)
    {w : Pool Name σ E Answer ε α} (h : w.Meets handle interference guarantee) {state : σ}
    (hs : interference w.state state) :
    (⟨state, w.running⟩ : Pool Name σ E Answer ε α).Meets handle interference guarantee :=
  fun name p hp => (h name p hp).stable htrans hs

/-- One step keeps the invariant and the specifications, and is an admissible change. -/
lemma PoolStep.keeps (hrefl : ∀ s, interference s s)
    (htrans : ∀ s t u, interference s t → interference t u → interference s u)
    (hstarts : ∀ p, starts p → ∀ s, invariant s →
      p.Meets handle interference guarantee (fun _ _ => True) s)
    (hhandle : ∀ effect s r s', invariant s → handle effect s r s' → guarantee effect s r s' →
      invariant s' ∧ interference s s')
    (henvironment : ∀ s s', invariant s → environment s s' → invariant s' ∧ interference s s')
    {w w' : Pool Name σ E Answer ε α} {a : PoolAction Name}
    (h : PoolStep handle starts environment w a w') (hinv : invariant w.state)
    (hmeets : w.Meets handle interference guarantee) :
    (invariant w'.state ∧ w'.Meets handle interference guarantee) ∧
      interference w.state w'.state := by
  cases h with
  | start free startable =>
    refine ⟨⟨hinv, hmeets.update htrans (hrefl _) fun p hp => ?_⟩, hrefl _⟩
    rw [← Option.some.inj hp]
    exact hstarts _ startable _ hinv
  | answer found handled =>
    obtain ⟨hguarantee, hnext⟩ := hmeets _ _ found _ (hrefl _) _ _ handled
    obtain ⟨hinv', hs⟩ := hhandle _ _ _ _ hinv handled hguarantee
    refine ⟨⟨hinv', hmeets.update htrans hs fun p hp => ?_⟩, hs⟩
    rw [← Option.some.inj hp]
    exact hnext
  | wait found handled =>
    obtain ⟨hguarantee, -⟩ := hmeets _ _ found _ (hrefl _) _ _ handled
    obtain ⟨hinv', hs⟩ := hhandle _ _ _ _ hinv handled hguarantee
    exact ⟨⟨hinv', hmeets.stable htrans hs⟩, hs⟩
  | leave name =>
    refine ⟨⟨hinv, hmeets.update htrans (hrefl _) fun p hp => ?_⟩, hrefl _⟩
    simp at hp
  | environment changed =>
    obtain ⟨hinv', hs⟩ := henvironment _ _ hinv changed
    exact ⟨⟨hinv', hmeets.stable htrans hs⟩, hs⟩

/-- What a step does to the shared state. -/
lemma PoolStep.state_cases {w w' : Pool Name σ E Answer ε α} {a : PoolAction Name}
    (h : PoolStep handle starts environment w a w') :
    w'.state = w.state ∨ (∃ effect r, handle effect w.state r w'.state) ∨
      environment w.state w'.state := by
  cases h with
  | start _ _ => exact Or.inl rfl
  | answer _ handled => exact Or.inr (Or.inl ⟨_, _, handled⟩)
  | wait _ handled => exact Or.inr (Or.inl ⟨_, _, handled⟩)
  | leave _ => exact Or.inl rfl
  | environment changed => exact Or.inr (Or.inr changed)

/-- Changes of the surroundings, one after another. -/
lemma reachable_foldl_environment {Op : Type} {change : σ → Op → σ} {ops : List Op}
    {w : Pool Name σ E Answer ε α}
    (h : (poolSystem handle starts environment initial).Reachable w)
    (hops : ∀ op ∈ ops, ∀ s, environment s (change s op)) :
    (poolSystem handle starts environment initial).Reachable
      ⟨ops.foldl change w.state, w.running⟩ := by
  induction ops generalizing w with
  | nil => exact h
  | cons op ops ih =>
    have hstep := h.step (.environment (hops op List.mem_cons_self w.state))
    exact ih hstep fun op' hop' => hops op' (List.mem_cons_of_mem _ hop')

/-- **The rule for interleaved programs.** -/
theorem pool_invariant (interference : σ → σ → Prop)
    (guarantee : (effect : E) → σ → Option (Except ε (Answer effect)) → σ → Prop)
    (hrefl : ∀ s, interference s s)
    (htrans : ∀ s t u, interference s t → interference t u → interference s u)
    (hinitial : ∀ s, initial s → invariant s)
    (hstarts : ∀ p, starts p → ∀ s, invariant s →
      p.Meets handle interference guarantee (fun _ _ => True) s)
    (hhandle : ∀ effect s r s', invariant s → handle effect s r s' → guarantee effect s r s' →
      invariant s' ∧ interference s s')
    (henvironment : ∀ s s', invariant s → environment s s' → invariant s' ∧ interference s s')
    {w : Pool Name σ E Answer ε α}
    (h : (poolSystem handle starts environment initial).Reachable w) :
    invariant w.state ∧ w.Meets handle interference guarantee := by
  refine Reachable.invariant
    (P := fun w => invariant w.state ∧ w.Meets handle interference guarantee)
    (fun w₀ h₀ => ?_) (fun s a t hs hstep => ?_) h
  · obtain ⟨hstate, hnone⟩ := h₀
    refine ⟨hinitial _ hstate, fun name p hp => ?_⟩
    rw [hnone name] at hp
    simp at hp
  · exact (PoolStep.keeps hrefl htrans hstarts hhandle henvironment hstep hs.1 hs.2).1

end

end Aizim
