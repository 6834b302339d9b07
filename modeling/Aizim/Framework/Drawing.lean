import Mathlib.Order.RelClasses
import Aizim.Framework.Stretch

/-!
# Stretches that take values from outside

A stretch whose calls take something from outside, such as the time, a fresh id or the failure of a
device, runs over a `Drawing`: a state with the values that will be taken, in order.  `Stretch.call`
takes one value, and may write and then answer or raise.

`Stretch.Ensures` specifies such a stretch for all values that are ready for the state, and says that
the values it has not taken are ready for the state it leaves.  What "ready" means is a parameter:
anything at all, or values under which no call fails.  `Stretch.Within` says that a stretch stays
within a preorder, whatever it takes.
-/

namespace Aizim

universe u v w

/-- A state with the values that will be taken from outside. -/
structure Drawing (σ : Type u) (δ : Type w) where
  state : σ
  draws : ℕ → δ

/-- The values after the next one. -/
def laterDraws {δ : Type w} (draws : ℕ → δ) : ℕ → δ := fun n => draws (n + 1)

namespace Stretch

variable {σ : Type u} {δ : Type w} {ε α β : Type v}

/-! ## Calls -/

/-- A call that takes one value: it may write a state, and then it answers or raises. -/
def call (f : δ → σ → Option σ × Except ε α) : Stretch (Drawing σ δ) ε α := fun s =>
  let reply := f (s.draws 0) s.state
  let after : Drawing σ δ := ⟨reply.1.getD s.state, laterDraws s.draws⟩
  ⟨if reply.1.isSome then [after] else [], after, reply.2⟩

/-- The state, without the values. -/
def look (f : σ → Except ε α) : Stretch (Drawing σ δ) ε α := read fun s => f s.state

/-- Change what the process holds in memory. -/
def assign (f : σ → σ) : Stretch (Drawing σ δ) ε PUnit := modify fun s => { s with state := f s.state }

/-! ## Specifications -/

/-- The stretch meets its specification for all values that are ready, and leaves ready values. -/
def Ensures (Ready : σ → (ℕ → δ) → Prop) (x : Stretch (Drawing σ δ) ε α) (I : σ → Prop)
    (Q : α → σ → Prop) (E : ε → σ → Prop) (s : σ) : Prop :=
  ∀ draws, Ready s draws → x.Meets (fun u => I u.state)
    (fun a u => Q a u.state ∧ Ready u.state u.draws)
    (fun e u => E e u.state ∧ Ready u.state u.draws) ⟨s, draws⟩

variable {Ready : σ → (ℕ → δ) → Prop} {I : σ → Prop} {Q : α → σ → Prop} {E : ε → σ → Prop} {s : σ}

lemma ensures_pure {a : α} (h : Q a s) :
    (pure a : Stretch (Drawing σ δ) ε α).Ensures Ready I Q E s :=
  fun _ hready => meets_pure ⟨h, hready⟩

lemma ensures_throw {e : ε} (h : E e s) :
    (throw e : Stretch (Drawing σ δ) ε α).Ensures Ready I Q E s :=
  fun _ hready => meets_throw ⟨h, hready⟩

lemma ensures_look {f : σ → Except ε α} (hok : ∀ a, f s = .ok a → Q a s)
    (herror : ∀ e, f s = .error e → E e s) : (look f).Ensures Ready I Q E s :=
  fun _ hready => meets_read (fun a ha => ⟨hok a ha, hready⟩) fun e he => ⟨herror e he, hready⟩

lemma ensures_assign {f : σ → σ} {Q : PUnit → σ → Prop} (h : Q ⟨⟩ (f s))
    (hready : ∀ draws, Ready s draws → Ready (f s) draws) :
    (assign f : Stretch (Drawing σ δ) ε PUnit).Ensures Ready I Q E s :=
  fun draws hdraws => meets_modify ⟨h, hready draws hdraws⟩

/-- The rule of calls: what the call writes, and what it answers or raises after that. -/
lemma ensures_call {f : δ → σ → Option σ × Except ε α}
    (h : ∀ draws, Ready s draws → ∀ written result, f (draws 0) s = (written, result) →
      (∀ s' ∈ written, I s') ∧ Ready (written.getD s) (laterDraws draws) ∧
        match result with
        | .ok a => Q a (written.getD s)
        | .error e => E e (written.getD s)) :
    (call f).Ensures Ready I Q E s := by
  intro draws hdraws
  obtain ⟨hsaved, hready, hresult⟩ := h draws hdraws _ _ rfl
  refine ⟨fun u hu => ?_, ?_⟩
  · change u ∈ (if (f (draws 0) s).1.isSome then
      [(⟨(f (draws 0) s).1.getD s, laterDraws draws⟩ : Drawing σ δ)] else []) at hu
    split at hu
    · rename_i hsome
      obtain rfl := List.mem_singleton.1 hu
      obtain ⟨s', hs'⟩ := Option.isSome_iff_exists.1 hsome
      simp only [hs', Option.getD_some]
      exact hsaved s' hs'
    · exact absurd hu List.not_mem_nil
  · change match (f (draws 0) s).2 with
      | .ok a => Q a ((f (draws 0) s).1.getD s) ∧
          Ready ((f (draws 0) s).1.getD s) (laterDraws draws)
      | .error e => E e ((f (draws 0) s).1.getD s) ∧
          Ready ((f (draws 0) s).1.getD s) (laterDraws draws)
    cases hreply : (f (draws 0) s).2 with
    | ok a =>
      rw [hreply] at hresult
      exact ⟨hresult, hready⟩
    | error e =>
      rw [hreply] at hresult
      exact ⟨hresult, hready⟩

lemma Ensures.mono {x : Stretch (Drawing σ δ) ε α} {I' : σ → Prop} {Q' : α → σ → Prop}
    {E' : ε → σ → Prop} (h : x.Ensures Ready I Q E s) (hI : ∀ u, I u → I' u)
    (hQ : ∀ a u, Q a u → Q' a u) (hE : ∀ e u, E e u → E' e u) : x.Ensures Ready I' Q' E' s :=
  fun draws hdraws => (h draws hdraws).mono (fun u => hI u.state)
    (fun a u hu => ⟨hQ a u.state hu.1, hu.2⟩) fun e u hu => ⟨hE e u.state hu.1, hu.2⟩

/-- The rule of sequencing. -/
lemma Ensures.bind {x : Stretch (Drawing σ δ) ε α} {f : α → Stretch (Drawing σ δ) ε β}
    {Q : β → σ → Prop}
    (h : x.Ensures Ready I (fun a u => (f a).Ensures Ready I Q E u) E s) :
    (x >>= f).Ensures Ready I Q E s :=
  fun draws hdraws => Meets.bind ((h draws hdraws).mono (fun _ hu => hu)
    (fun _ u hu => hu.1 u.draws hu.2) fun _ _ hu => hu)

/-- The rule of exceptions. -/
lemma Ensures.tryCatch {x : Stretch (Drawing σ δ) ε α} {handler : ε → Stretch (Drawing σ δ) ε α}
    (h : x.Ensures Ready I Q (fun e u => (handler e).Ensures Ready I Q E u) s) :
    (tryCatchThe ε x handler).Ensures Ready I Q E s :=
  fun draws hdraws => Meets.tryCatch ((h draws hdraws).mono (fun _ hu => hu)
    (fun _ _ hu => hu) fun _ u hu => hu.1 u.draws hu.2)

/-- The rule of loops: `J` relates the elements that were passed to the state. -/
lemma ensures_forEach {γ : Type*} {f : γ → Stretch (Drawing σ δ) ε PUnit} {xs : List γ}
    (J : List γ → σ → Prop)
    (hstep : ∀ passed x rest, xs = passed ++ x :: rest → ∀ u, J passed u →
      (f x).Ensures Ready I (fun _ => J (passed ++ [x])) E u)
    (hs : J [] s) : (forEach f xs).Ensures Ready I (fun _ => J xs) E s := by
  intro draws hdraws
  refine (meets_forEach (fun passed u => J passed u.state ∧ Ready u.state u.draws) ?_
    ⟨hs, hdraws⟩).mono (fun _ hu => hu) (fun _ _ hu => hu) fun _ _ hu => hu
  intro passed x rest hxs u hu
  exact hstep passed x rest hxs u.state hu.1 u.draws hu.2

/-! ## Stretches within a preorder -/

/-- Whatever is taken from outside, the states that the stretch saves and the one it ends in are
related to the one it began in. -/
def Within (R : σ → σ → Prop) (x : Stretch (Drawing σ δ) ε α) : Prop :=
  ∀ s, x.Ensures (fun _ _ => True) (R s) (fun _ => R s) (fun _ => R s) s

section

variable {R : σ → σ → Prop} [IsPreorder σ R]

lemma within_pure (a : α) : (pure a : Stretch (Drawing σ δ) ε α).Within R :=
  fun s => ensures_pure (refl_of R s)

lemma within_throw (e : ε) : (throw e : Stretch (Drawing σ δ) ε α).Within R :=
  fun s => ensures_throw (refl_of R s)

lemma within_look (f : σ → Except ε α) : (look f : Stretch (Drawing σ δ) ε α).Within R :=
  fun s => ensures_look (fun _ _ => refl_of R s) fun _ _ => refl_of R s

omit [IsPreorder σ R] in
lemma within_assign {f : σ → σ} (h : ∀ s, R s (f s)) :
    (assign f : Stretch (Drawing σ δ) ε PUnit).Within R :=
  fun s => ensures_assign (h s) fun _ _ => trivial

/-- A call whose writes are related to the state it writes to. -/
lemma within_call {f : δ → σ → Option σ × Except ε α}
    (h : ∀ draw s, ∀ s' ∈ (f draw s).1, R s s') : (call f).Within R := by
  intro s
  refine ensures_call fun draws _ written result hreply => ?_
  have hwritten : ∀ s' ∈ written, R s s' := by
    have hreplied := h (draws 0) s
    rwa [hreply] at hreplied
  have hafter : R s (written.getD s) := by
    cases written with
    | none => exact refl_of R s
    | some s' => exact hwritten s' rfl
  refine ⟨hwritten, trivial, ?_⟩
  cases result with
  | ok a => exact hafter
  | error e => exact hafter

/-- After a step of the preorder, a stretch that stays within it does so from the first state. -/
lemma Within.after {x : Stretch (Drawing σ δ) ε α} (hx : x.Within R)
    (hready : ∀ s draws, Ready s draws) {s u : σ} (h : R s u) :
    x.Ensures Ready (R s) (fun _ => R s) (fun _ => R s) u :=
  fun draws _ => (hx u draws trivial).mono (fun _ hv => trans_of R h hv)
    (fun _ _ hv => ⟨trans_of R h hv.1, hready _ _⟩) fun _ _ hv => ⟨trans_of R h hv.1, hready _ _⟩

lemma Within.bind {x : Stretch (Drawing σ δ) ε α} {f : α → Stretch (Drawing σ δ) ε β}
    (hx : x.Within R) (hf : ∀ a, (f a).Within R) : (x >>= f).Within R :=
  fun s => Ensures.bind ((hx s).mono (fun _ h => h)
    (fun a _ h => (hf a).after (fun _ _ => trivial) h) fun _ _ h => h)

lemma Within.tryCatch {x : Stretch (Drawing σ δ) ε α} {handler : ε → Stretch (Drawing σ δ) ε α}
    (hx : x.Within R) (hhandler : ∀ e, (handler e).Within R) :
    (tryCatchThe ε x handler).Within R :=
  fun s => Ensures.tryCatch ((hx s).mono (fun _ h => h) (fun _ _ h => h)
    fun e _ h => (hhandler e).after (fun _ _ => trivial) h)

lemma Within.forEach {γ : Type*} {f : γ → Stretch (Drawing σ δ) ε PUnit}
    (hf : ∀ x, (f x).Within R) (xs : List γ) : (forEach f xs).Within R :=
  fun s => ensures_forEach (fun _ => R s)
    (fun _ x _ _ _ h => (hf x).after (fun _ _ => trivial) h) (refl_of R s)

end

/-! ## Reading a specification -/

variable {x : Stretch (Drawing σ δ) ε α} {draws : ℕ → δ}

lemma Ensures.saved (h : x.Ensures Ready I Q E s) (hdraws : Ready s draws) {u : Drawing σ δ}
    (hu : u ∈ (x ⟨s, draws⟩).saved) : I u.state :=
  (h draws hdraws).saved hu

lemma Ensures.ok (h : x.Ensures Ready I Q E s) (hdraws : Ready s draws) {a : α}
    (hx : (x ⟨s, draws⟩).result = .ok a) : Q a (x ⟨s, draws⟩).state.state :=
  ((h draws hdraws).ok hx).1

lemma Ensures.error (h : x.Ensures Ready I Q E s) (hdraws : Ready s draws) {e : ε}
    (hx : (x ⟨s, draws⟩).result = .error e) : E e (x ⟨s, draws⟩).state.state :=
  ((h draws hdraws).error hx).1

end Stretch

end Aizim
