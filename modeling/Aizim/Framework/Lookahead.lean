import Aizim.Framework.Program

/-!
# What a program does before it reads again

A program that reads a state, decides, and acts later relies on what it read until it acts.
`Intends` says of what is left of a program that it can come to an act without another read: this
is the time in which others must leave alone what it has read.  `PerformsUntil` bounds its effects
up to the next read and from then on, and `PerformsUntil.intends` is what both give: an intention
is formed at a read or not at all.

All three speak of the answers that are possible for an effect, so that what a program does with a
value of an earlier answer is known as far as that value is.
-/

namespace Aizim.Program

universe u

variable {E : Type u} {Answer : E → Type u} {ε α β γ : Type u}

lemma bind_assoc (p : Program E Answer ε α) (f : α → Program E Answer ε β)
    (g : β → Program E Answer ε γ) : p >>= f >>= g = p >>= fun a => f a >>= g := by
  induction p with
  | done a => rfl
  | raise e => rfl
  | perform effect next ih => exact congrArg (perform effect) (funext ih)

section

variable (possible : (effect : E) → Except ε (Answer effect) → Prop)
  (reads acts before after φ : E → Prop)

/-- The program can come to an act before it reads again. -/
def Intends : Program E Answer ε α → Prop
  | done _ => False
  | raise _ => False
  | perform effect next =>
    acts effect ∨ ¬ reads effect ∧ ∃ answer, possible effect answer ∧ Intends (next answer)

/-- The effects satisfy one predicate up to the first read, and another from then on. -/
def PerformsUntil : Program E Answer ε α → Prop
  | done _ => True
  | raise _ => True
  | perform effect next => before effect ∧ ∀ answer, possible effect answer →
      (reads effect → (next answer).Performs after) ∧ (¬ reads effect → PerformsUntil (next answer))

/-- The effects satisfy a predicate, and the result another. -/
def Yields (post : α → Prop) : Program E Answer ε α → Prop
  | done a => post a
  | raise _ => True
  | perform effect next => φ effect ∧ ∀ answer, possible effect answer → Yields post (next answer)

end

variable {possible : (effect : E) → Except ε (Answer effect) → Prop}
  {reads acts before after φ : E → Prop}

/-! ## Intentions -/

lemma Performs.not_intends {p : Program E Answer ε α} (h : p.Performs fun effect => ¬ acts effect) :
    ¬ p.Intends possible reads acts := by
  induction p with
  | done a => exact id
  | raise e => exact id
  | perform effect next ih =>
    rintro (hacts | ⟨-, answer, -, hnext⟩)
    · exact h.1 hacts
    · exact ih answer (h.2 answer) hnext

/-- What intends an act after an effect other than a read intended it before. -/
lemma PerformsUntil.intends {effect : E} {next : Except ε (Answer effect) → Program E Answer ε α}
    (h : (perform effect next).PerformsUntil possible reads before after)
    (hafter : ∀ e, after e → ¬ acts e) {answer : Except ε (Answer effect)}
    (hanswer : possible effect answer) (hnext : (next answer).Intends possible reads acts) :
    ¬ reads effect ∧ (perform effect next).Intends possible reads acts := by
  have hreads : ¬ reads effect := fun hreads =>
    (((h.2 answer hanswer).1 hreads).mono hafter).not_intends hnext
  exact ⟨hreads, Or.inr ⟨hreads, answer, hanswer, hnext⟩⟩

lemma Performs.performsUntil {p : Program E Answer ε α} (h : p.Performs φ)
    (hbefore : ∀ e, φ e → before e) (hafter : ∀ e, φ e → after e) :
    p.PerformsUntil possible reads before after := by
  induction p with
  | done a => trivial
  | raise e => trivial
  | perform effect next ih =>
    exact ⟨hbefore _ h.1, fun answer _ => ⟨fun _ => (h.2 answer).mono hafter,
      fun _ => ih answer (h.2 answer)⟩⟩

lemma PerformsUntil.map {p : Program E Answer ε α} {f : α → β}
    (h : p.PerformsUntil possible reads before after) :
    (f <$> p).PerformsUntil possible reads before after := by
  induction p with
  | done a => trivial
  | raise e => trivial
  | perform effect next ih =>
    refine ⟨h.1, fun answer hanswer => ⟨fun hreads => ?_, fun hreads => ?_⟩⟩
    · exact ((h.2 answer hanswer).1 hreads).map
    · exact ih answer ((h.2 answer hanswer).2 hreads)

/-- A body without reads leaves all to the handler. -/
lemma PerformsUntil.tryCatch {p : Program E Answer ε α} {handler : ε → Program E Answer ε α}
    (h : p.Yields possible (fun effect => before effect ∧ ¬ reads effect) fun _ => True)
    (hhandler : ∀ e, (handler e).PerformsUntil possible reads before after) :
    (tryCatchThe ε p handler).PerformsUntil possible reads before after := by
  induction p with
  | done a => trivial
  | raise e => exact hhandler e
  | perform effect next ih =>
    exact ⟨h.1.1, fun answer hanswer => ⟨fun hreads => absurd hreads h.1.2,
      fun _ => ih answer (h.2 answer hanswer)⟩⟩

/-! ## Results -/

lemma yields_pure {post : α → Prop} {a : α} (h : post a) :
    (pure a : Program E Answer ε α).Yields possible φ post := h

lemma yields_request {effect : E} {post : Answer effect → Prop} (heffect : φ effect)
    (h : ∀ a, possible effect (.ok a) → post a) :
    (request effect : Program E Answer ε _).Yields possible φ post := by
  refine ⟨heffect, fun answer hanswer => ?_⟩
  cases answer with
  | ok a => exact h a hanswer
  | error e => trivial

lemma Performs.yields {p : Program E Answer ε α} (h : p.Performs φ) :
    p.Yields possible φ fun _ => True := by
  induction p with
  | done a => trivial
  | raise e => trivial
  | perform effect next ih => exact ⟨h.1, fun answer _ => ih answer (h.2 answer)⟩

lemma Yields.bind {p : Program E Answer ε α} {f : α → Program E Answer ε β} {post : α → Prop}
    {post' : β → Prop} (hp : p.Yields possible φ post)
    (hf : ∀ a, post a → (f a).Yields possible φ post') : (p >>= f).Yields possible φ post' := by
  induction p with
  | done a => exact hf a hp
  | raise e => trivial
  | perform effect next ih =>
    exact ⟨hp.1, fun answer hanswer => ih answer (hp.2 answer hanswer)⟩

/-- Sequencing, where nothing is known of the result of the first part. -/
lemma Performs.yields_bind {p : Program E Answer ε α} {f : α → Program E Answer ε β}
    {post : β → Prop} (hp : p.Performs φ) (hf : ∀ a, (f a).Yields possible φ post) :
    (p >>= f).Yields possible φ post :=
  hp.yields.bind fun a _ => hf a

end Aizim.Program
