import Aizim.Framework.Exceptions

/-!
# Metered computations

A computation that an interpreter meters asks for resources on its way: a stack frame, the digits of
a number.  `Metered` is such a computation without the interpreter: the demands that it makes in
their order, and what it ends with when all are granted.  `run` is what an interpreter makes of it
that refuses some demands: the first refused one raises, and nothing after it happens.

`run_bind` says that a sequence runs as its parts run one after the other, so a program written with
these computations behaves, under an interpreter, as it reads.
-/

namespace Aizim

/-- A computation with the demands that it makes and what it ends with. -/
structure Metered (δ ε α : Type) where
  demands : List δ
  outcome : Except ε α

namespace Metered

variable {δ ε α β : Type}

instance : Monad (Metered δ ε) where
  pure a := ⟨[], .ok a⟩
  bind x f :=
    match x.outcome with
    | .ok a => ⟨x.demands ++ (f a).demands, (f a).outcome⟩
    | .error fault => ⟨x.demands, .error fault⟩

/-- Ask for a resource. -/
def demand (d : δ) : Metered δ ε Unit := ⟨[d], .ok ()⟩

/-- Raise an exception. -/
def fail (fault : ε) : Metered δ ε α := ⟨[], .error fault⟩

/-- A computation that asks for nothing. -/
def lift (x : Except ε α) : Metered δ ε α := ⟨[], x⟩

/-! ## Demands and outcomes -/

@[simp] lemma pure_eq (a : α) : (pure a : Metered δ ε α) = ⟨[], .ok a⟩ := rfl

@[simp] lemma mk_ok_bind (ds : List δ) (a : α) (f : α → Metered δ ε β) :
    ((⟨ds, .ok a⟩ : Metered δ ε α) >>= f) = ⟨ds ++ (f a).demands, (f a).outcome⟩ := rfl

@[simp] lemma mk_error_bind (ds : List δ) (fault : ε) (f : α → Metered δ ε β) :
    ((⟨ds, .error fault⟩ : Metered δ ε α) >>= f) = ⟨ds, .error fault⟩ := rfl

/-- The demands of a sequence are those of its first part and, if that ends well, those of the
rest. -/
lemma mem_demands_bind {x : Metered δ ε α} {f : α → Metered δ ε β} {d : δ} :
    d ∈ (x >>= f).demands ↔ d ∈ x.demands ∨ ∃ a, x.outcome = .ok a ∧ d ∈ (f a).demands := by
  obtain ⟨ds, outcome⟩ := x
  cases outcome with
  | ok a => simp
  | error fault => simp

/-- The second part of a sequence matters only where the first one ends well. -/
lemma bind_congr {x : Metered δ ε α} {f g : α → Metered δ ε β}
    (h : ∀ a, x.outcome = .ok a → f a = g a) : x >>= f = x >>= g := by
  obtain ⟨ds, outcome⟩ := x
  cases outcome with
  | ok a => rw [mk_ok_bind, mk_ok_bind, h a rfl]
  | error fault => rfl

lemma outcome_bind_eq_ok {x : Metered δ ε α} {f : α → Metered δ ε β} {b : β} :
    (x >>= f).outcome = .ok b ↔ ∃ a, x.outcome = .ok a ∧ (f a).outcome = .ok b := by
  obtain ⟨ds, outcome⟩ := x
  cases outcome with
  | ok a => simp
  | error fault => simp

/-- What a sequence ends with: an exception of its first part or of the rest. -/
lemma raises_outcome_bind {faults : List ε} {x : Metered δ ε α} {f : α → Metered δ ε β}
    (hx : Raises faults x.outcome) (hf : ∀ a, x.outcome = .ok a → Raises faults (f a).outcome) :
    Raises faults (x >>= f).outcome := by
  obtain ⟨ds, outcome⟩ := x
  cases outcome with
  | ok a => exact hf a rfl
  | error fault =>
    intro other hother
    obtain rfl := Except.error.inj hother
    exact hx _ rfl

/-! ## Running under an interpreter -/

section

variable (granted : δ → Bool) (refusal : δ → ε)

/-- What an interpreter makes of a computation: the first demand that it does not grant raises. -/
def run (x : Metered δ ε α) : Except ε α :=
  match x.demands.find? fun d => !granted d with
  | some d => .error (refusal d)
  | none => x.outcome

variable {granted refusal}

lemma run_of_granted {x : Metered δ ε α} (h : ∀ d ∈ x.demands, granted d = true) :
    x.run granted refusal = x.outcome := by
  have hnone : x.demands.find? (fun d => !granted d) = none := by
    simpa only [List.find?_eq_none, Bool.not_eq_true, Bool.not_eq_false'] using h
  rw [run, hnone]

variable (refusal) in
/-- A computation whose demands are not all granted raises what a refused one raises. -/
lemma exists_run_eq_error {x : Metered δ ε α} {d : δ} (hd : d ∈ x.demands)
    (h : granted d = false) :
    ∃ d' ∈ x.demands, granted d' = false ∧ x.run granted refusal = .error (refusal d') := by
  have hsome : (x.demands.find? fun d => !granted d).isSome := by
    rw [List.find?_isSome]
    exact ⟨d, hd, by rw [h]; rfl⟩
  obtain ⟨d', hd'⟩ := Option.isSome_iff_exists.mp hsome
  refine ⟨d', List.mem_of_find?_eq_some hd', ?_, by rw [run, hd']⟩
  simpa using List.find?_some hd'

lemma run_eq_ok_iff {x : Metered δ ε α} {a : α} :
    x.run granted refusal = .ok a ↔
      (∀ d ∈ x.demands, granted d = true) ∧ x.outcome = .ok a := by
  constructor
  · intro h
    have hgranted : ∀ d ∈ x.demands, granted d = true := by
      intro d hd
      by_contra hrefused
      rw [Bool.not_eq_true] at hrefused
      obtain ⟨d', -, -, hrun⟩ := exists_run_eq_error refusal hd hrefused
      rw [hrun] at h
      cases h
    exact ⟨hgranted, run_of_granted hgranted ▸ h⟩
  · rintro ⟨hgranted, houtcome⟩
    rw [run_of_granted hgranted, houtcome]

/-- A sequence runs as its parts run one after the other. -/
theorem run_bind (x : Metered δ ε α) (f : α → Metered δ ε β) :
    (x >>= f).run granted refusal =
      x.run granted refusal >>= fun a => (f a).run granted refusal := by
  obtain ⟨ds, outcome⟩ := x
  cases outcome with
  | ok a =>
    cases h : ds.find? fun d => !granted d with
    | none => simp [run, List.find?_append, h]
    | some d => simp [run, List.find?_append, h]
  | error fault =>
    cases h : ds.find? fun d => !granted d with
    | none => simp [run, h]
    | some d => simp [run, h]

@[simp] lemma run_pure (a : α) : (pure a : Metered δ ε α).run granted refusal = .ok a := rfl

@[simp] lemma run_lift (x : Except ε α) : (lift x : Metered δ ε α).run granted refusal = x := rfl

lemma run_demand (d : δ) : (demand d : Metered δ ε Unit).run granted refusal =
    require (granted d = true) (refusal d) := by
  cases h : granted d <;> simp [run, demand, require, h]

lemma forM_cons (f : β → Metered δ ε Unit) (x : β) (xs : List β) :
    (x :: xs).forM f = f x >>= fun _ => xs.forM f := rfl

/-- A loop ends well when each of its steps does. -/
lemma run_forM_eq_ok_iff {f : β → Metered δ ε Unit} {xs : List β} :
    (xs.forM f).run granted refusal = .ok () ↔
      ∀ x ∈ xs, (f x).run granted refusal = .ok () := by
  induction xs with
  | nil =>
    constructor
    · rintro - x ⟨⟩
    · intro
      rfl
  | cons x xs ih =>
    rw [forM_cons, run_bind, bind_eq_ok, List.forall_mem_cons, ← ih]
    constructor
    · rintro ⟨⟨⟩, hx, hxs⟩
      exact ⟨hx, hxs⟩
    · rintro ⟨hx, hxs⟩
      exact ⟨(), hx, hxs⟩

/-- A loop asks for nothing but what its steps ask for. -/
lemma mem_demands_forM {f : β → Metered δ ε Unit} {xs : List β} {d : δ}
    (h : d ∈ (xs.forM f).demands) : ∃ x ∈ xs, d ∈ (f x).demands := by
  induction xs with
  | nil => cases h
  | cons x xs ih =>
    rw [forM_cons, mem_demands_bind] at h
    rcases h with h | ⟨-, -, h⟩
    · exact ⟨x, List.mem_cons_self, h⟩
    · obtain ⟨y, hy, hd⟩ := ih h
      exact ⟨y, List.mem_cons_of_mem x hy, hd⟩

/-- What a computation raises: what refused demands raise, and what it ends with. -/
lemma raises_run {faults : List ε} {x : Metered δ ε α}
    (hdemands : ∀ d ∈ x.demands, granted d = false → refusal d ∈ faults)
    (houtcome : Raises faults x.outcome) : Raises faults (x.run granted refusal) := by
  intro fault h
  unfold run at h
  split at h
  · rename_i d hd
    obtain rfl := Except.error.inj h
    exact hdemands d (List.mem_of_find?_eq_some hd) (by simpa using List.find?_some hd)
  · exact houtcome fault h

end

end Metered

end Aizim
