import Aizim.Framework.Fallible

/-!
# Exceptions

A computation raises within a list of exceptions when it raises no other (`Raises`); `rescue` is a
`try` whose `except` clause names the exceptions it catches.  A sequence raises within what its parts
raise within, and a `try` that catches all that its body may raise ends as its handler does.
-/

namespace Aizim

variable {ε α β : Type}

/-- A `try` whose `except` clause names the exceptions it catches. -/
def rescue [DecidableEq ε] (caught : List ε) (body handler : Except ε α) : Except ε α :=
  match body with
  | .ok a => .ok a
  | .error fault => if fault ∈ caught then handler else .error fault

/-- The computation raises none but these exceptions. -/
def Raises (faults : List ε) (x : Except ε α) : Prop :=
  ∀ fault, x = .error fault → fault ∈ faults

variable {faults caught : List ε}

lemma raises_pure (a : α) : Raises faults (pure a) := by
  intro fault h
  cases h

lemma raises_throw {fault : ε} (h : fault ∈ faults) :
    Raises faults (throw fault : Except ε α) := by
  rintro other ⟨⟩
  exact h

lemma raises_orThrow {o : Option α} {fault : ε} (h : o = none → fault ∈ faults) :
    Raises faults (orThrow o fault) := by
  intro other hother
  cases o with
  | none =>
    obtain rfl := Except.error.inj hother
    exact h rfl
  | some a => cases hother

lemma raises_require {p : Prop} [Decidable p] {fault : ε} (h : fault ∈ faults) :
    Raises faults (require p fault) := by
  intro other hother
  unfold require at hother
  split at hother
  · cases hother
  · obtain rfl := Except.error.inj hother
    exact h

lemma Raises.bind {x : Except ε α} {f : α → Except ε β} (hx : Raises faults x)
    (hf : ∀ a, x = .ok a → Raises faults (f a)) : Raises faults (x >>= f) := by
  intro fault h
  cases x with
  | ok a => exact hf a rfl fault h
  | error e =>
    obtain rfl := Except.error.inj h
    exact hx _ rfl

lemma raises_mapM {f : α → Except ε β} (h : ∀ a, Raises faults (f a)) (xs : List α) :
    Raises faults (xs.mapM f) := by
  induction xs with
  | nil => exact raises_pure _
  | cons x xs ih =>
    rw [List.mapM_cons]
    exact (h x).bind fun _ _ => ih.bind fun _ _ => raises_pure _

/-- A `try` that catches everything its body raises ends as its handler does. -/
lemma exists_rescue [DecidableEq ε] {body : Except ε α} (hbody : Raises caught body) (instead : α) :
    ∃ a, rescue caught body (pure instead) = .ok a := by
  cases body with
  | ok a => exact ⟨a, rfl⟩
  | error fault => exact ⟨instead, if_pos (hbody fault rfl)⟩

/-- A `try` that turns what it catches into one exception raises no other. -/
lemma raises_rescue [DecidableEq ε] {body : Except ε α} {fault : ε}
    (hbody : Raises (fault :: caught) body) :
    Raises [fault] (rescue caught body (throw fault)) := by
  intro other h
  cases body with
  | ok a => cases h
  | error e =>
    rw [List.mem_singleton]
    rcases List.mem_cons.1 (hbody e rfl) with rfl | hcaught
    · by_cases hcaught : e ∈ caught
      · rw [rescue, if_pos hcaught] at h
        exact (Except.error.inj h).symm
      · rw [rescue, if_neg hcaught] at h
        exact (Except.error.inj h).symm
    · rw [rescue, if_pos hcaught] at h
      exact (Except.error.inj h).symm

/-- What a `try` raises: what its handler raises, and what its body raises and it does not catch. -/
lemma Raises.rescue [DecidableEq ε] {body handler : Except ε α}
    (hbody : Raises (caught ++ faults) body) (hhandler : Raises faults handler) :
    Raises faults (rescue caught body handler) := by
  intro fault h
  cases body with
  | ok a => cases h
  | error e =>
    by_cases hcaught : e ∈ caught
    · rw [Aizim.rescue, if_pos hcaught] at h
      exact hhandler fault h
    · rw [Aizim.rescue, if_neg hcaught] at h
      obtain rfl := Except.error.inj h
      exact (List.mem_append.1 (hbody e rfl)).resolve_left hcaught

lemma Raises.mono {wider : List ε} {x : Except ε α} (h : Raises faults x) (hsub : faults ⊆ wider) :
    Raises wider x :=
  fun fault hfault => hsub (h fault hfault)

end Aizim
