import Mathlib.Tactic.Lemma
import Aizim.Framework.Fallible

/-!
# Stretches of code that may die half way

Code of a single-threaded event loop runs from one await to the next without interference, but the
process may die anywhere in between, and what it had saved until then stays.  A `Stretch` is such a
piece of code: a function from the state to its `Outcome`, which keeps the states after each save
beside the last state and the result.  Unlike a transaction, a stretch that raises keeps what it
saved.

`Stretch.Meets` specifies a stretch: every state it saves satisfies an invariant, and the state it
ends in satisfies the postcondition of its result or of its exception.  The rules `meets_pure`,
`meets_throw`, `meets_read`, `meets_save`, `meets_forEach`, `Meets.bind` and `Meets.tryCatch` follow
the structure of the code.  `Stretch.Saves` says that a stretch passes through a state, so that the
process may die in it.
-/

namespace Aizim

universe u v

/-- What became of a stretch. -/
structure Outcome (σ : Type u) (ε α : Type v) where
  /-- The states after each save, in order. -/
  saved : List σ
  state : σ
  result : Except ε α

/-- A stretch of code over states `σ`, with exceptions `ε`. -/
def Stretch (σ : Type u) (ε α : Type v) := σ → Outcome σ ε α

namespace Stretch

variable {σ : Type u} {ε α β : Type v}

/-! ## Building stretches -/

/-- Go on with the result of a stretch, in the state it ended in. -/
def bind (x : Stretch σ ε α) (f : α → Stretch σ ε β) : Stretch σ ε β := fun s =>
  match (x s).result with
  | .ok a => { f a (x s).state with saved := (x s).saved ++ (f a (x s).state).saved }
  | .error e => ⟨(x s).saved, (x s).state, .error e⟩

/-- Go on with the exception of a stretch, in the state it ended in. -/
def tryCatch (x : Stretch σ ε α) (handler : ε → Stretch σ ε α) : Stretch σ ε α := fun s =>
  match (x s).result with
  | .ok _ => x s
  | .error e =>
    { handler e (x s).state with saved := (x s).saved ++ (handler e (x s).state).saved }

instance : Monad (Stretch σ ε) where
  pure a := fun s => ⟨[], s, .ok a⟩
  bind := bind

instance : MonadExceptOf ε (Stretch σ ε) where
  throw e := fun s => ⟨[], s, .error e⟩
  tryCatch := tryCatch

/-- Compute from the state, which stays as it is. -/
def read (f : σ → Except ε α) : Stretch σ ε α := fun s => ⟨[], s, f s⟩

/-- Change what the process holds in memory. -/
def modify (f : σ → σ) : Stretch σ ε PUnit := fun s => ⟨[], f s, .ok ⟨⟩⟩

/-- Write to the store; a write that raises changes nothing. -/
def save (f : σ → Except ε (σ × α)) : Stretch σ ε α := fun s =>
  match f s with
  | .ok (s', a) => ⟨[s'], s', .ok a⟩
  | .error e => ⟨[], s, .error e⟩

/-- A loop over a list. -/
def forEach {γ : Type*} (f : γ → Stretch σ ε PUnit) : List γ → Stretch σ ε PUnit
  | [] => pure ⟨⟩
  | x :: xs => do
    f x
    forEach f xs

/-! ## Specifications -/

/-- Every saved state satisfies `I`, and the last state the condition of the result. -/
def Meets (x : Stretch σ ε α) (I : σ → Prop) (Q : α → σ → Prop) (E : ε → σ → Prop) (s : σ) : Prop :=
  (∀ u ∈ (x s).saved, I u) ∧
    match (x s).result with
    | .ok a => Q a (x s).state
    | .error e => E e (x s).state

variable {I : σ → Prop} {Q : α → σ → Prop} {E : ε → σ → Prop} {s : σ}

lemma meets_pure {a : α} (h : Q a s) : (pure a : Stretch σ ε α).Meets I Q E s :=
  ⟨fun _ hu => absurd hu List.not_mem_nil, h⟩

lemma meets_throw {e : ε} (h : E e s) : (throw e : Stretch σ ε α).Meets I Q E s :=
  ⟨fun _ hu => absurd hu List.not_mem_nil, h⟩

lemma meets_modify {f : σ → σ} {Q : PUnit → σ → Prop} (h : Q ⟨⟩ (f s)) :
    (modify f : Stretch σ ε PUnit).Meets I Q E s :=
  ⟨fun _ hu => absurd hu List.not_mem_nil, h⟩

lemma meets_read {f : σ → Except ε α} (hok : ∀ a, f s = .ok a → Q a s)
    (herror : ∀ e, f s = .error e → E e s) : (read f).Meets I Q E s := by
  refine ⟨fun _ hu => absurd hu List.not_mem_nil, ?_⟩
  show match f s with | .ok a => Q a s | .error e => E e s
  cases h : f s with
  | ok a => exact hok a h
  | error e => exact herror e h

lemma meets_save {f : σ → Except ε (σ × α)} (hok : ∀ s' a, f s = .ok (s', a) → I s' ∧ Q a s')
    (herror : ∀ e, f s = .error e → E e s) : (save f).Meets I Q E s := by
  unfold Meets save
  cases h : f s with
  | ok r =>
    obtain ⟨s', a⟩ := r
    obtain ⟨hinv, hpost⟩ := hok s' a h
    exact ⟨by simpa using hinv, hpost⟩
  | error e => exact ⟨by simp, herror e h⟩

lemma Meets.mono {x : Stretch σ ε α} {I' : σ → Prop} {Q' : α → σ → Prop} {E' : ε → σ → Prop}
    (h : x.Meets I Q E s) (hI : ∀ u, I u → I' u) (hQ : ∀ a u, Q a u → Q' a u)
    (hE : ∀ e u, E e u → E' e u) : x.Meets I' Q' E' s := by
  obtain ⟨hsaved, hresult⟩ := h
  refine ⟨fun u hu => hI u (hsaved u hu), ?_⟩
  cases hx : (x s).result with
  | ok a =>
    rw [hx] at hresult
    exact hQ a _ hresult
  | error e =>
    rw [hx] at hresult
    exact hE e _ hresult

/-- Two specifications hold together. -/
lemma Meets.and {x : Stretch σ ε α} {I' : σ → Prop} {Q' : α → σ → Prop} {E' : ε → σ → Prop}
    (h : x.Meets I Q E s) (h' : x.Meets I' Q' E' s) :
    x.Meets (fun u => I u ∧ I' u) (fun a u => Q a u ∧ Q' a u) (fun e u => E e u ∧ E' e u) s := by
  obtain ⟨hsaved, hresult⟩ := h
  obtain ⟨hsaved', hresult'⟩ := h'
  refine ⟨fun u hu => ⟨hsaved u hu, hsaved' u hu⟩, ?_⟩
  cases hx : (x s).result with
  | ok a =>
    rw [hx] at hresult hresult'
    exact ⟨hresult, hresult'⟩
  | error e =>
    rw [hx] at hresult hresult'
    exact ⟨hresult, hresult'⟩

/-- The rule of sequencing. -/
lemma Meets.bind {x : Stretch σ ε α} {f : α → Stretch σ ε β} {Q : β → σ → Prop}
    (h : x.Meets I (fun a u => (f a).Meets I Q E u) E s) : (x >>= f).Meets I Q E s := by
  obtain ⟨hsaved, hresult⟩ := h
  show (∀ u ∈ (Stretch.bind x f s).saved, I u) ∧
    match (Stretch.bind x f s).result with
    | .ok b => Q b (Stretch.bind x f s).state
    | .error e => E e (Stretch.bind x f s).state
  unfold Stretch.bind
  cases hx : (x s).result with
  | ok a =>
    rw [hx] at hresult
    refine ⟨fun u hu => ?_, hresult.2⟩
    rcases List.mem_append.1 hu with hu | hu
    · exact hsaved u hu
    · exact hresult.1 u hu
  | error e =>
    rw [hx] at hresult
    exact ⟨hsaved, hresult⟩

/-- The rule of exceptions. -/
lemma Meets.tryCatch {x : Stretch σ ε α} {handler : ε → Stretch σ ε α}
    (h : x.Meets I Q (fun e u => (handler e).Meets I Q E u) s) :
    (tryCatchThe ε x handler).Meets I Q E s := by
  obtain ⟨hsaved, hresult⟩ := h
  show (∀ u ∈ (Stretch.tryCatch x handler s).saved, I u) ∧
    match (Stretch.tryCatch x handler s).result with
    | .ok a => Q a (Stretch.tryCatch x handler s).state
    | .error e => E e (Stretch.tryCatch x handler s).state
  unfold Stretch.tryCatch
  cases hx : (x s).result with
  | ok a =>
    rw [hx] at hresult
    simp only [hx]
    exact ⟨hsaved, hresult⟩
  | error e =>
    rw [hx] at hresult
    refine ⟨fun u hu => ?_, hresult.2⟩
    rcases List.mem_append.1 hu with hu | hu
    · exact hsaved u hu
    · exact hresult.1 u hu

/-- The rule of loops: `J` relates the elements that were passed to the state. -/
lemma meets_forEach {γ : Type*} {f : γ → Stretch σ ε PUnit} {xs : List γ}
    (J : List γ → σ → Prop)
    (hstep : ∀ passed x rest, xs = passed ++ x :: rest → ∀ u, J passed u →
      (f x).Meets I (fun _ => J (passed ++ [x])) E u)
    (hs : J [] s) : (forEach f xs).Meets I (fun _ => J xs) E s := by
  have hloop : ∀ (rest passed : List γ), xs = passed ++ rest → ∀ u, J passed u →
      (forEach f rest).Meets I (fun _ => J xs) E u := by
    intro rest
    induction rest with
    | nil =>
      intro passed hxs u hu
      rw [hxs, List.append_nil]
      exact meets_pure hu
    | cons x rest ih =>
      intro passed hxs u hu
      have hx := hstep passed x rest hxs u hu
      refine (hx.mono (fun _ h => h) (fun _ u hu => ?_) fun _ _ h => h).bind
      exact ih (passed ++ [x]) (by rw [hxs, List.append_assoc]; rfl) u hu
  exact hloop xs [] (by rw [List.nil_append]) s hs

/-! ## What a stretch saves on its way -/

/-- Some state that the stretch saves satisfies the predicate. -/
def Saves (x : Stretch σ ε α) (P : σ → Prop) (s : σ) : Prop := ∃ u ∈ (x s).saved, P u

/-- A write that does not raise saves the state it leaves. -/
lemma Meets.saves_save {f : σ → Except ε (σ × α)} (h : (save f).Meets I Q (fun _ _ => False) s) :
    (save f).Saves (fun u => ∃ a, Q a u) s := by
  obtain ⟨-, hresult⟩ := h
  unfold Saves
  unfold save at hresult ⊢
  cases hf : f s with
  | ok r =>
    rw [hf] at hresult
    exact ⟨r.1, List.mem_singleton_self _, r.2, hresult⟩
  | error e =>
    rw [hf] at hresult
    exact hresult.elim

lemma Saves.mono {x : Stretch σ ε α} {P P' : σ → Prop} (h : x.Saves P s) (hP : ∀ u, P u → P' u) :
    x.Saves P' s :=
  h.imp fun u hu => ⟨hu.1, hP u hu.2⟩

/-- What the first part saves. -/
lemma Saves.bind {x : Stretch σ ε α} {f : α → Stretch σ ε β} {P : σ → Prop} (h : x.Saves P s) :
    (x >>= f).Saves P s := by
  obtain ⟨u, hu, hP⟩ := h
  refine ⟨u, ?_, hP⟩
  show u ∈ (Stretch.bind x f s).saved
  unfold Stretch.bind
  cases hx : (x s).result with
  | ok a => exact List.mem_append_left _ hu
  | error e => exact hu

/-- What the second part saves, after a first part that does not raise. -/
lemma Meets.bind_saves {x : Stretch σ ε α} {f : α → Stretch σ ε β} {P : σ → Prop}
    (h : x.Meets I (fun a u => (f a).Saves P u) (fun _ _ => False) s) : (x >>= f).Saves P s := by
  have hresult := h.2
  unfold Saves
  show ∃ u ∈ (Stretch.bind x f s).saved, P u
  unfold Stretch.bind
  cases hx : (x s).result with
  | ok a =>
    rw [hx] at hresult
    obtain ⟨u, hu, hP⟩ := hresult
    exact ⟨u, List.mem_append_right _ hu, hP⟩
  | error e =>
    rw [hx] at hresult
    exact hresult.elim

/-- What is saved under a handler of exceptions. -/
lemma Saves.tryCatch {x : Stretch σ ε α} {handler : ε → Stretch σ ε α} {P : σ → Prop}
    (h : x.Saves P s) : (tryCatchThe ε x handler).Saves P s := by
  obtain ⟨u, hu, hP⟩ := h
  refine ⟨u, ?_, hP⟩
  show u ∈ (Stretch.tryCatch x handler s).saved
  unfold Stretch.tryCatch
  cases hx : (x s).result with
  | ok a => exact hu
  | error e => exact List.mem_append_left _ hu

/-! ## Reading a specification -/

lemma Meets.saved {x : Stretch σ ε α} (h : x.Meets I Q E s) {u : σ} (hu : u ∈ (x s).saved) : I u :=
  h.1 u hu

lemma Meets.ok {x : Stretch σ ε α} (h : x.Meets I Q E s) {a : α} (hx : (x s).result = .ok a) :
    Q a (x s).state := by
  have hresult := h.2
  rw [hx] at hresult
  exact hresult

lemma Meets.error {x : Stretch σ ε α} (h : x.Meets I Q E s) {e : ε}
    (hx : (x s).result = .error e) : E e (x s).state := by
  have hresult := h.2
  rw [hx] at hresult
  exact hresult

end Stretch

end Aizim
