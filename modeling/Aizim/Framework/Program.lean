import Mathlib.Data.Set.Basic
import Aizim.Framework.Fallible

/-!
# Programs with effects

A `Program` is a computation that performs effects one after another: between two effects it only
computes, and each effect is answered by a value or by an exception, which the program may catch.
The effects are whatever a development wants to see as single steps, a transaction of a database
or a call whose answer is awaited; `Answer` says what type of value an effect is answered with.

`Program.Meets` is the total specification of a program among others that run beside it: a relation
`interference` bounds what the others do between two of its effects, `guarantee` is what each of its
own effects must do, and the postcondition speaks of the outcome.  It is closed under interference
by definition (`Meets.stable`), and the rules `meets_pure`, `meets_raise`, `meets_request`,
`Meets.bind`, `Meets.tryCatch` and `Meets.mapEffects` follow the structure of a program.
-/

namespace Aizim

universe u v

/-- A program over effects `E` with answers `Answer`, exceptions `ε` and results `α`. -/
inductive Program (E : Type u) (Answer : E → Type u) (ε α : Type u) : Type u
  | done (a : α)
  | raise (e : ε)
  | perform (effect : E) (next : Except ε (Answer effect) → Program E Answer ε α)

namespace Program

variable {E : Type u} {Answer : E → Type u} {ε α β : Type u}

/-! ## Sequencing and exceptions -/

/-- Go on with the result of a program. -/
def bind : Program E Answer ε α → (α → Program E Answer ε β) → Program E Answer ε β
  | done a, f => f a
  | raise e, _ => raise e
  | perform effect next, f => perform effect fun r => bind (next r) f

/-- Go on with the exception of a program. -/
def tryCatch : Program E Answer ε α → (ε → Program E Answer ε α) → Program E Answer ε α
  | done a, _ => done a
  | raise e, h => h e
  | perform effect next, h => perform effect fun r => tryCatch (next r) h

instance : Monad (Program E Answer ε) where
  pure := done
  bind := bind

instance : MonadExceptOf ε (Program E Answer ε) where
  throw := raise
  tryCatch := tryCatch

/-- The program that stands for a computation without effects. -/
def ofExcept : Except ε α → Program E Answer ε α
  | .ok a => done a
  | .error e => raise e

instance : MonadLift (Except ε) (Program E Answer ε) := ⟨ofExcept⟩

/-- Perform one effect. -/
def request (effect : E) : Program E Answer ε (Answer effect) := perform effect ofExcept

/-- Run a program on other effects, each of which answers one of its own. -/
def mapEffects {E' : Type u} {Answer' : E' → Type u} (f : E → E')
    (answer : ∀ e, Answer' (f e) → Answer e) :
    Program E Answer ε α → Program E' Answer' ε α
  | done a => done a
  | raise e => raise e
  | perform effect next =>
    perform (f effect) fun r => mapEffects f answer (next (r.map (answer effect)))

@[simp] lemma pure_eq_done (a : α) : (pure a : Program E Answer ε α) = done a := rfl

@[simp] lemma throw_eq_raise (e : ε) : (throw e : Program E Answer ε α) = raise e := rfl

@[simp] lemma done_bind (a : α) (f : α → Program E Answer ε β) : (done a >>= f) = f a := rfl

@[simp] lemma raise_bind (e : ε) (f : α → Program E Answer ε β) :
    ((raise e : Program E Answer ε α) >>= f) = raise e := rfl

@[simp] lemma perform_bind (effect : E)
    (next : Except ε (Answer effect) → Program E Answer ε α) (f : α → Program E Answer ε β) :
    (perform effect next >>= f) = perform effect fun r => next r >>= f := rfl

/-! ## The effects of a program -/

/-- Whatever the answers, every effect that the program performs satisfies the predicate. -/
def Performs (φ : E → Prop) : Program E Answer ε α → Prop
  | done _ => True
  | raise _ => True
  | perform effect next => φ effect ∧ ∀ answer, Performs φ (next answer)

section

variable {φ : E → Prop}

@[simp] lemma performs_pure (a : α) : (pure a : Program E Answer ε α).Performs φ := trivial

@[simp] lemma performs_throw (e : ε) : (throw e : Program E Answer ε α).Performs φ := trivial

@[simp] lemma performs_ofExcept (x : Except ε α) :
    (ofExcept x : Program E Answer ε α).Performs φ := by
  cases x <;> trivial

@[simp] lemma performs_lift (x : Except ε α) :
    (MonadLiftT.monadLift x : Program E Answer ε α).Performs φ :=
  performs_ofExcept x

@[simp] lemma performs_request (effect : E) :
    (request effect : Program E Answer ε _).Performs φ ↔ φ effect := by
  simp [request, Performs]

lemma Performs.bind {p : Program E Answer ε α} {f : α → Program E Answer ε β}
    (hp : p.Performs φ) (hf : ∀ a, (f a).Performs φ) : (p >>= f).Performs φ := by
  induction p with
  | done a => exact hf a
  | raise e => trivial
  | perform effect next ih => exact ⟨hp.1, fun answer => ih answer (hp.2 answer)⟩

/-- After a computation without effects only its result matters. -/
lemma performs_lift_bind {x : Except ε α} {f : α → Program E Answer ε β}
    (hf : ∀ a, x = .ok a → (f a).Performs φ) :
    ((MonadLiftT.monadLift x : Program E Answer ε α) >>= f).Performs φ := by
  cases x with
  | ok a => exact hf a rfl
  | error e => trivial

lemma Performs.map {p : Program E Answer ε α} {f : α → β} (hp : p.Performs φ) :
    (f <$> p).Performs φ :=
  hp.bind fun _ => trivial

lemma Performs.tryCatch {p : Program E Answer ε α} {handler : ε → Program E Answer ε α}
    (hp : p.Performs φ) (hhandler : ∀ e, (handler e).Performs φ) :
    (tryCatchThe ε p handler).Performs φ := by
  induction p with
  | done a => trivial
  | raise e => exact hhandler e
  | perform effect next ih => exact ⟨hp.1, fun answer => ih answer (hp.2 answer)⟩

lemma Performs.mapEffects {E' : Type u} {Answer' : E' → Type u} {f : E → E'}
    {answer : ∀ e, Answer' (f e) → Answer e} {φ' : E' → Prop} {p : Program E Answer ε α}
    (hp : p.Performs φ) (hf : ∀ e, φ e → φ' (f e)) : (p.mapEffects f answer).Performs φ' := by
  induction p with
  | done a => trivial
  | raise e => trivial
  | perform effect next ih => exact ⟨hf _ hp.1, fun r => ih _ (hp.2 _)⟩

lemma Performs.mono {φ' : E → Prop} {p : Program E Answer ε α} (hp : p.Performs φ)
    (hφ : ∀ e, φ e → φ' e) : p.Performs φ' := by
  induction p with
  | done a => trivial
  | raise e => trivial
  | perform effect next ih => exact ⟨hφ _ hp.1, fun answer => ih answer (hp.2 answer)⟩

end

/-! ## Specifications -/

/-- How effects change a state of type `σ`.  An effect that is answered by `none` is still
pending: it has done something, such as refreshing a claim, and its program waits on. -/
abbrev Handler (E : Type u) (Answer : E → Type u) (ε : Type u) (σ : Type v) :=
  (effect : E) → σ → Option (Except ε (Answer effect)) → σ → Prop

variable {σ : Type v}

section

variable (handle : Handler E Answer ε σ) (interference : σ → σ → Prop)
  (guarantee : (effect : E) → σ → Option (Except ε (Answer effect)) → σ → Prop)

/-- From a state in which the program may be interrupted by others at every effect, each of its
effects keeps the guarantee, and it ends in the postcondition. -/
def Meets : Program E Answer ε α → (Except ε α → σ → Prop) → σ → Prop
  | done a, post, s => ∀ s', interference s s' → post (.ok a) s'
  | raise e, post, s => ∀ s', interference s s' → post (.error e) s'
  | perform effect next, post, s => ∀ s', interference s s' → ∀ r s'', handle effect s' r s'' →
      guarantee effect s' r s'' ∧
        match r with
        | none => True
        | some answer => Meets (next answer) post s''

end

variable {handle : Handler E Answer ε σ} {interference : σ → σ → Prop}
  {guarantee : (effect : E) → σ → Option (Except ε (Answer effect)) → σ → Prop}
  {p : Program E Answer ε α} {post : Except ε α → σ → Prop} {s s' : σ}

/-- What others do keeps a specification. -/
lemma Meets.stable (htrans : ∀ s t u, interference s t → interference t u → interference s u)
    (h : p.Meets handle interference guarantee post s) (hs : interference s s') :
    p.Meets handle interference guarantee post s' := by
  cases p with
  | done a => exact fun t ht => h t (htrans _ _ _ hs ht)
  | raise e => exact fun t ht => h t (htrans _ _ _ hs ht)
  | perform effect next => exact fun t ht => h t (htrans _ _ _ hs ht)

lemma meets_pure {a : α} (h : ∀ s', interference s s' → post (.ok a) s') :
    (pure a : Program E Answer ε α).Meets handle interference guarantee post s := h

lemma meets_raise {e : ε} (h : ∀ s', interference s s' → post (.error e) s') :
    (raise e : Program E Answer ε α).Meets handle interference guarantee post s := h

lemma meets_ofExcept {x : Except ε α} (h : ∀ s', interference s s' → post x s') :
    (ofExcept x : Program E Answer ε α).Meets handle interference guarantee post s := by
  cases x with
  | ok a => exact h
  | error e => exact h

/-- A program made of one effect. -/
lemma meets_request {effect : E} {post : Except ε (Answer effect) → σ → Prop}
    (h : ∀ s', interference s s' → ∀ r s'', handle effect s' r s'' → guarantee effect s' r s'' ∧
      ∀ answer, r = some answer → ∀ t, interference s'' t → post answer t) :
    (request effect : Program E Answer ε _).Meets handle interference guarantee post s := by
  intro s' hs r s'' hr
  obtain ⟨hguarantee, hpost⟩ := h s' hs r s'' hr
  refine ⟨hguarantee, ?_⟩
  cases r with
  | none => trivial
  | some answer => exact meets_ofExcept (hpost answer rfl)

/-- A weaker postcondition. -/
lemma Meets.mono {post' : Except ε α → σ → Prop} (h : p.Meets handle interference guarantee post s)
    (hpost : ∀ r t, post r t → post' r t) : p.Meets handle interference guarantee post' s := by
  induction p generalizing s with
  | done a => exact fun s' hs => hpost _ _ (h s' hs)
  | raise e => exact fun s' hs => hpost _ _ (h s' hs)
  | perform effect next ih =>
    intro s' hs r s'' hr
    obtain ⟨hguarantee, hnext⟩ := h s' hs r s'' hr
    refine ⟨hguarantee, ?_⟩
    cases r with
    | none => trivial
    | some answer => exact ih answer hnext

/-- Sequencing: the rest of the program meets its specification wherever the first part ends. -/
lemma Meets.bind (hrefl : ∀ s, interference s s) {f : α → Program E Answer ε β}
    {post : Except ε β → σ → Prop}
    (h : p.Meets handle interference guarantee
      (fun r t => match r with
        | .ok a => (f a).Meets handle interference guarantee post t
        | .error e => ∀ u, interference t u → post (.error e) u) s) :
    (p >>= f).Meets handle interference guarantee post s := by
  induction p generalizing s with
  | done a => exact h s (hrefl s)
  | raise e => exact h s (hrefl s)
  | perform effect next ih =>
    intro s' hs r s'' hr
    obtain ⟨hguarantee, hnext⟩ := h s' hs r s'' hr
    refine ⟨hguarantee, ?_⟩
    cases r with
    | none => trivial
    | some answer => exact ih answer hnext

/-- Catching: the handler meets the specification wherever the body raises. -/
lemma Meets.tryCatch (hrefl : ∀ s, interference s s) {handler : ε → Program E Answer ε α}
    (h : p.Meets handle interference guarantee
      (fun r t => match r with
        | .ok a => ∀ u, interference t u → post (.ok a) u
        | .error e => (handler e).Meets handle interference guarantee post t) s) :
    (p.tryCatch handler).Meets handle interference guarantee post s := by
  induction p generalizing s with
  | done a => exact h s (hrefl s)
  | raise e => exact h s (hrefl s)
  | perform effect next ih =>
    intro s' hs r s'' hr
    obtain ⟨hguarantee, hnext⟩ := h s' hs r s'' hr
    refine ⟨hguarantee, ?_⟩
    cases r with
    | none => trivial
    | some answer => exact ih answer hnext

/-- A program whose effects satisfy a predicate guarantees it. -/
lemma Performs.meets {φ : E → Prop} (hp : p.Performs φ)
    (hguarantee : ∀ effect s r s', φ effect → handle effect s r s' → guarantee effect s r s') :
    p.Meets handle interference guarantee (fun _ _ => True) s := by
  induction p generalizing s with
  | done a => exact fun _ _ => trivial
  | raise e => exact fun _ _ => trivial
  | perform effect next ih =>
    intro s' _ r s'' hr
    refine ⟨hguarantee _ _ _ _ hp.1 hr, ?_⟩
    cases r with
    | none => trivial
    | some answer => exact ih answer (hp.2 answer)

/-! ## Results -/

section

variable (handle : Handler E Answer ε σ) (interference : σ → σ → Prop)
  (guarantee : (effect : E) → σ → Option (Except ε (Answer effect)) → σ → Prop)

/-- `Meets` with a postcondition of the result alone: nothing is said of exceptions. -/
def Ensures (p : Program E Answer ε α) (post : α → σ → Prop) (s : σ) : Prop :=
  p.Meets handle interference guarantee (fun r t => ∀ a, r = .ok a → post a t) s

end

variable {result : α → σ → Prop}

lemma Ensures.meets (h : p.Ensures handle interference guarantee result s) :
    p.Meets handle interference guarantee (fun _ _ => True) s :=
  Meets.mono h fun _ _ _ => trivial

lemma ensures_pure {a : α} (h : ∀ s', interference s s' → result a s') :
    (pure a : Program E Answer ε α).Ensures handle interference guarantee result s :=
  meets_pure fun s' hs b hb => Except.ok.inj hb ▸ h s' hs

lemma ensures_raise {e : ε} :
    (raise e : Program E Answer ε α).Ensures handle interference guarantee result s :=
  meets_raise fun _ _ _ h => by simp at h

lemma ensures_lift {x : Except ε α} (h : ∀ a, x = .ok a → ∀ s', interference s s' → result a s') :
    (MonadLiftT.monadLift x : Program E Answer ε α).Ensures handle interference guarantee result
      s :=
  meets_ofExcept fun s' hs a ha => h a ha s' hs

lemma Ensures.mono {result' : α → σ → Prop}
    (h : p.Ensures handle interference guarantee result s)
    (hresult : ∀ a t, result a t → result' a t) :
    p.Ensures handle interference guarantee result' s :=
  Meets.mono h fun _ _ hr a ha => hresult a _ (hr a ha)

/-- Sequencing, where an exception of the first part ends the program. -/
lemma Ensures.bind (hrefl : ∀ s, interference s s) {f : α → Program E Answer ε β}
    {result' : β → σ → Prop} (h : p.Ensures handle interference guarantee result s)
    (hf : ∀ a t, result a t → (f a).Ensures handle interference guarantee result' t) :
    (p >>= f).Ensures handle interference guarantee result' s := by
  refine Meets.bind hrefl (Meets.mono h fun r t hr => ?_)
  cases r with
  | ok a => exact hf a t (hr a rfl)
  | error e => exact fun _ _ _ h => by simp at h

lemma Ensures.map (hrefl : ∀ s, interference s s) {f : α → β} {result' : β → σ → Prop}
    (h : p.Ensures handle interference guarantee result s)
    (hf : ∀ a t, result a t → ∀ t', interference t t' → result' (f a) t') :
    (f <$> p).Ensures handle interference guarantee result' s :=
  Ensures.bind hrefl h fun a t ha => ensures_pure (hf a t ha)

/-- After a computation without effects only its result matters. -/
lemma ensures_lift_bind {x : Except ε α} {f : α → Program E Answer ε β} {result' : β → σ → Prop}
    (hf : ∀ a, x = .ok a → (f a).Ensures handle interference guarantee result' s) :
    ((MonadLiftT.monadLift x : Program E Answer ε α) >>= f).Ensures handle interference guarantee
      result' s := by
  cases x with
  | ok a => exact hf a rfl
  | error e => exact ensures_raise

/-- Catching with a handler that meets its own specification anywhere. -/
lemma Ensures.tryCatch (hrefl : ∀ s, interference s s) {handler : ε → Program E Answer ε α}
    (h : p.Ensures handle interference guarantee result s)
    (hresult : ∀ a s s', interference s s' → result a s → result a s')
    (hhandler : ∀ e t, (handler e).Ensures handle interference guarantee result t) :
    (tryCatchThe ε p handler).Ensures handle interference guarantee result s := by
  refine Meets.tryCatch hrefl (Meets.mono h fun r t hr => ?_)
  cases r with
  | ok a => exact fun u hu b hb => hresult b _ _ hu (hr b hb)
  | error e => exact hhandler e t

/-- A program whose effects satisfy a predicate keeps what they and the others keep. -/
lemma Performs.ensures {φ : E → Prop} {P : σ → Prop} (hp : p.Performs φ) (hs : P s)
    (hstable : ∀ s s', interference s s' → P s → P s')
    (hkeep : ∀ effect s r s', φ effect → P s → handle effect s r s' →
      guarantee effect s r s' ∧ P s') :
    p.Ensures handle interference guarantee (fun _ => P) s := by
  induction p generalizing s with
  | done a => exact fun s' hs' _ _ => hstable _ _ hs' hs
  | raise e => exact fun s' hs' _ _ => hstable _ _ hs' hs
  | perform effect next ih =>
    intro s' hs' r s'' hr
    obtain ⟨hguarantee, hnext⟩ := hkeep _ _ _ _ hp.1 (hstable _ _ hs' hs) hr
    refine ⟨hguarantee, ?_⟩
    cases r with
    | none => trivial
    | some answer => exact ih answer (hp.2 answer) hnext

end Program

end Aizim
