import Aizim.Framework.Fallible

/-!
# Database transactions

A `Connection` is a database as one client sees it: the committed state and, while a transaction
is open, the state that the transaction has reached.  `Sql` programs are sequences of statements,
of checks that may raise, and of `begin`, `commit` and `rollback`, which here do what SQLite
documents; an exception leaves the connection as it stands when it is raised.  `onError` is the
clause `except BaseException`, `withConnection` the context manager of a connection.

The rules relate a program to a function on states that may raise.  `Computes p f` says that inside
a transaction `p` computes `f` without closing it; `Closes` follows the body of a transaction up to
the `commit` on each of its exits; and `Realizes p f`, the conclusion, says that from a connection
without an open transaction `p` commits what `f` computes, or raises what `f` raises and leaves the
connection unchanged.  `Realizes.transaction` and `Realizes.withConnection` are the two rules that
conclude it.
-/

namespace Aizim

universe u v

/-- A database connection: the committed state, and the state of the open transaction. -/
structure Connection (σ : Type u) where
  committed : σ
  pending : Option σ

/-- The two exceptions of a `BEGIN`, a `COMMIT` or a `ROLLBACK` out of place. -/
class TransactionErrors (ε : Type u) where
  nested : ε
  inactive : ε

/-- A program over a connection, which may raise. -/
def Sql (σ : Type u) (ε : Type u) (α : Type u) : Type u :=
  Connection σ → Except ε α × Connection σ

namespace Sql

variable {σ ε α β : Type u}

instance : Monad (Sql σ ε) where
  pure a c := (.ok a, c)
  bind p q c :=
    match p c with
    | (.ok a, c) => q a c
    | (.error e, c) => (.error e, c)

lemma bind_apply (p : Sql σ ε α) (q : α → Sql σ ε β) (c : Connection σ) :
    (p >>= q : Sql σ ε β) c = match p c with
      | (.ok a, c) => q a c
      | (.error e, c) => (.error e, c) := rfl

lemma bind_of_ok {p : Sql σ ε α} {c c' : Connection σ} {a : α} (h : p c = (.ok a, c'))
    (q : α → Sql σ ε β) : (p >>= q : Sql σ ε β) c = q a c' := by
  rw [bind_apply, h]

lemma bind_of_error {p : Sql σ ε α} {c c' : Connection σ} {e : ε} (h : p c = (.error e, c'))
    (q : α → Sql σ ε β) : (p >>= q : Sql σ ε β) c = (.error e, c') := by
  rw [bind_apply, h]

/-! ## Steps -/

/-- A check outside the database. -/
def check (x : Except ε α) : Sql σ ε α := fun c => (x, c)

/-- One statement: inside a transaction it acts on the state of the transaction, otherwise it is
committed at once.  A statement that raises changes nothing. -/
def statement (f : σ → Except ε (σ × α)) : Sql σ ε α := fun c =>
  match f (c.pending.getD c.committed) with
  | .error e => (.error e, c)
  | .ok (s, a) =>
    (.ok a, if c.pending.isSome then { c with pending := some s } else { c with committed := s })

/-- A statement that only writes. -/
def write (f : σ → σ) : Sql σ ε PUnit := statement fun s => .ok (f s, ⟨⟩)

/-- Rows that are read, and the checks made on them. -/
def reading (f : σ → Except ε α) : Sql σ ε α := statement fun s => (s, ·) <$> f s

/-- Rows that are read. -/
def query (f : σ → α) : Sql σ ε α := reading fun s => .ok (f s)

/-- The loop `for x in xs`. -/
def forEach {ι : Type v} (body : ι → Sql σ ε PUnit) : List ι → Sql σ ε PUnit
  | [] => pure ⟨⟩
  | x :: xs => do
    body x
    forEach body xs

section

variable [TransactionErrors ε]

/-- `BEGIN IMMEDIATE` -/
def begin_ : Sql σ ε PUnit := fun c =>
  match c.pending with
  | some _ => (.error TransactionErrors.nested, c)
  | none => (.ok ⟨⟩, { c with pending := some c.committed })

/-- `COMMIT` -/
def commit : Sql σ ε PUnit := fun c =>
  match c.pending with
  | some s => (.ok ⟨⟩, ⟨s, none⟩)
  | none => (.error TransactionErrors.inactive, c)

/-- `ROLLBACK` -/
def rollback : Sql σ ε PUnit := fun c =>
  match c.pending with
  | some _ => (.ok ⟨⟩, { c with pending := none })
  | none => (.error TransactionErrors.inactive, c)

end

/-- `with suppress(Exception)` -/
def suppress (p : Sql σ ε PUnit) : Sql σ ε PUnit := fun c => (.ok ⟨⟩, (p c).2)

/-- `try` with a clause `except BaseException` that ends by raising the exception again. -/
def onError (p : Sql σ ε α) (handler : Sql σ ε PUnit) : Sql σ ε α := fun c =>
  match p c with
  | (.ok a, c) => (.ok a, c)
  | (.error e, c) =>
    match handler c with
    | (.ok _, c) => (.error e, c)
    | (.error e', c) => (.error e', c)

/-- `with connection`: commit at the end of the block, or roll back when it raises. -/
def withConnection [TransactionErrors ε] (p : Sql σ ε α) : Sql σ ε α :=
  onError (do
    let a ← p
    commit
    pure a) rollback

/-- `try` with a clause that raises another exception in place of the first. -/
def mapError (f : ε → ε) (p : Sql σ ε α) : Sql σ ε α := fun c => ((p c).1.mapError f, (p c).2)

/-! ## Inside a transaction -/

/-- Inside a transaction the program computes the function: it leaves the transaction open at the
state that the function gives, or raises what the function raises. -/
structure Computes (p : Sql σ ε α) (f : σ → Except ε (σ × α)) : Prop where
  ok : ∀ {t s s' : σ} {a : α}, f s = .ok (s', a) → p ⟨t, some s⟩ = (.ok a, ⟨t, some s'⟩)
  error : ∀ {t s : σ} {e : ε}, f s = .error e → ∃ s', p ⟨t, some s⟩ = (.error e, ⟨t, some s'⟩)

lemma Computes.pure (a : α) : Computes (pure a : Sql σ ε α) fun s => .ok (s, a) where
  ok h := by
    obtain ⟨rfl, rfl⟩ := Prod.mk.inj (Except.ok.inj h)
    rfl
  error h := by simp at h

lemma Computes.check (x : Except ε α) : Computes (check x : Sql σ ε α) fun s => (s, ·) <$> x where
  ok h := by
    obtain ⟨a, rfl, hs⟩ := map_eq_ok.1 h
    obtain ⟨rfl, rfl⟩ := Prod.mk.inj hs
    rfl
  error {t s e} h := by
    cases x with
    | ok a => simp [Functor.map, Except.map] at h
    | error e' =>
      obtain rfl := Except.error.inj h
      exact ⟨s, rfl⟩

lemma Computes.statement (f : σ → Except ε (σ × α)) : Computes (statement f) f where
  ok h := by simp [Sql.statement, h]
  error {t s e} h := ⟨s, by simp [Sql.statement, h]⟩

lemma Computes.write (f : σ → σ) : Computes (write f : Sql σ ε PUnit) fun s => .ok (f s, ⟨⟩) :=
  .statement _

lemma Computes.reading (f : σ → Except ε α) : Computes (reading f) fun s => (s, ·) <$> f s :=
  .statement _

lemma Computes.bind {p : Sql σ ε α} {f : σ → Except ε (σ × α)} {q : α → Sql σ ε β}
    {g : α → σ → Except ε (σ × β)} (hp : Computes p f) (hq : ∀ a, Computes (q a) (g a)) :
    Computes (p >>= q) fun s => f s >>= fun r => g r.2 r.1 where
  ok {t s s' b} h := by
    obtain ⟨⟨s₁, a⟩, hf, hg⟩ := bind_eq_ok.1 h
    rw [bind_of_ok (hp.ok hf)]
    exact (hq a).ok hg
  error {t s e} h := by
    cases hf : f s with
    | error e' =>
      rw [hf] at h
      obtain rfl := Except.error.inj h
      obtain ⟨s', hrun⟩ := hp.error (t := t) hf
      exact ⟨s', bind_of_error hrun q⟩
    | ok r =>
      obtain ⟨s₁, a⟩ := r
      rw [hf] at h
      obtain ⟨s', hrun⟩ := (hq a).error (t := t) h
      exact ⟨s', by rw [bind_of_ok (hp.ok hf), hrun]⟩

/-- The function may be replaced by an equal one. -/
lemma Computes.congr {p : Sql σ ε α} {f g : σ → Except ε (σ × α)} (h : Computes p f)
    (hfg : ∀ s, f s = g s) : Computes p g := by
  obtain rfl : f = g := funext hfg
  exact h

lemma Computes.query (f : σ → α) : Computes (query f : Sql σ ε α) fun s => .ok (s, f s) :=
  (Computes.reading fun s => .ok (f s)).congr fun _ => rfl

/-- A loop of writes computes the fold. -/
lemma Computes.forEach {ι : Type v} {body : ι → Sql σ ε PUnit} {f : σ → ι → σ}
    (h : ∀ x, Computes (body x) fun s => .ok (f s x, ⟨⟩)) (xs : List ι) :
    Computes (forEach body xs) fun s => .ok (xs.foldl f s, ⟨⟩) := by
  induction xs with
  | nil => exact Computes.pure PUnit.unit
  | cons x xs ih => exact ((h x).bind fun _ => ih).congr fun s => rfl

/-! ## Up to the commit -/

/-- From this connection the program commits the given result, or raises the given exception
without having committed anything else. -/
def Closes (p : Sql σ ε α) (x : Except ε (σ × α)) (c : Connection σ) : Prop :=
  match x with
  | .ok (s, a) => p c = (.ok a, ⟨s, none⟩)
  | .error e => ∃ pending, p c = (.error e, ⟨c.committed, pending⟩)

lemma closes_error {p : Sql σ ε α} {c c' : Connection σ} {e : ε} (h : p c = (.error e, c'))
    (hc : c'.committed = c.committed) : Closes p (.error e) c := by
  refine ⟨c'.pending, ?_⟩
  rw [h, ← hc]

/-- A part that keeps the transaction open, and what follows it. -/
lemma Closes.bind {p : Sql σ ε α} {f : σ → Except ε (σ × α)} {q : α → Sql σ ε β}
    {g : σ × α → Except ε (σ × β)} {t s : σ} (hp : Computes p f)
    (hq : ∀ s' a, f s = .ok (s', a) → Closes (q a) (g (s', a)) ⟨t, some s'⟩) :
    Closes (p >>= q) (f s >>= g) ⟨t, some s⟩ := by
  cases hf : f s with
  | error e =>
    obtain ⟨s', hp'⟩ := hp.error (t := t) hf
    exact closes_error (bind_of_error hp' q) rfl
  | ok r =>
    obtain ⟨s', a⟩ := r
    have hclose := hq s' a hf
    unfold Closes at hclose ⊢
    rw [ok_bind, bind_of_ok (hp.ok hf)]
    exact hclose

/-- A check, and what follows it. -/
lemma Closes.check {x : Except ε α} {q : α → Sql σ ε β} {g : α → Except ε (σ × β)} {t s : σ}
    (hq : ∀ a, x = .ok a → Closes (q a) (g a) ⟨t, some s⟩) :
    Closes (Sql.check x >>= q) (x >>= g) ⟨t, some s⟩ := by
  cases x with
  | error e => exact ⟨some s, rfl⟩
  | ok a => exact hq a rfl

/-- Rows that are read and checked, and what follows. -/
lemma Closes.reading {f : σ → Except ε α} {q : α → Sql σ ε β} {g : α → Except ε (σ × β)} {t s : σ}
    (hq : ∀ a, f s = .ok a → Closes (q a) (g a) ⟨t, some s⟩) :
    Closes (Sql.reading f >>= q) (f s >>= g) ⟨t, some s⟩ := by
  have hcompute := Computes.reading f
  cases hf : f s with
  | error e =>
    have hraise : (s, ·) <$> f s = (.error e : Except ε (σ × α)) := by rw [hf]; rfl
    obtain ⟨s', hp⟩ := hcompute.error (t := t) hraise
    exact closes_error (bind_of_error hp q) rfl
  | ok a =>
    have hread : (s, ·) <$> f s = (.ok (s, a) : Except ε (σ × α)) := by rw [hf]; rfl
    have hclose := hq a hf
    unfold Closes at hclose ⊢
    rw [ok_bind, bind_of_ok (hcompute.ok hread)]
    exact hclose

/-- Rows that are read, and what follows. -/
lemma Closes.query {f : σ → α} {q : α → Sql σ ε β} {x : Except ε (σ × β)} {t s : σ}
    (hq : Closes (q (f s)) x ⟨t, some s⟩) : Closes (Sql.query f >>= q) x ⟨t, some s⟩ := hq

/-! ## Whole transactions -/

/-- From a connection without an open transaction the program commits what the function computes,
or raises what the function raises and leaves the connection unchanged. -/
structure Realizes (p : Sql σ ε α) (f : σ → Except ε (σ × α)) : Prop where
  ok : ∀ {t t' : σ} {a : α}, f t = .ok (t', a) → p ⟨t, none⟩ = (.ok a, ⟨t', none⟩)
  error : ∀ {t : σ} {e : ε}, f t = .error e → p ⟨t, none⟩ = (.error e, ⟨t, none⟩)

section

variable [TransactionErrors ε]

/-- The commit that ends a body. -/
lemma Closes.commit (a : α) (t s : σ) :
    Closes (do Sql.commit; Pure.pure a : Sql σ ε α) (.ok (s, a)) ⟨t, some s⟩ := rfl

/-- `BEGIN`, and a block that commits at its end or rolls back. -/
lemma Realizes.withConnection {p : Sql σ ε α} {f : σ → Except ε (σ × α)} (h : Computes p f) :
    Realizes (do begin_; Sql.withConnection p) f where
  ok {t t' a} hf := by
    show onError (p >>= fun a => Sql.commit >>= fun _ => Pure.pure a) rollback ⟨t, some t⟩ = _
    rw [onError, bind_of_ok (h.ok hf)]
    rfl
  error {t e} hf := by
    obtain ⟨s', hrun⟩ := h.error (t := t) hf
    show onError (p >>= fun a => Sql.commit >>= fun _ => Pure.pure a) rollback ⟨t, some t⟩ = _
    rw [onError, bind_of_error hrun]
    rfl

/-- `BEGIN`, and a body that commits on every exit that does not raise. -/
lemma Realizes.transaction {body : Sql σ ε α} {f : σ → Except ε (σ × α)}
    (h : ∀ t, Closes body (f t) ⟨t, some t⟩) :
    Realizes (do begin_; onError body (suppress rollback)) f where
  ok {t t' a} hf := by
    have hbody := h t
    rw [hf] at hbody
    show onError body (suppress rollback) ⟨t, some t⟩ = _
    rw [onError, show body ⟨t, some t⟩ = _ from hbody]
  error {t e} hf := by
    have hbody := h t
    rw [hf] at hbody
    obtain ⟨pending, hbody⟩ := hbody
    show onError body (suppress rollback) ⟨t, some t⟩ = _
    rw [onError, hbody]
    cases pending <;> rfl

end

/-- Checks before the transaction. -/
lemma Realizes.check {x : Except ε β} {q : β → Sql σ ε α} {g : β → σ → Except ε (σ × α)}
    (h : ∀ b, x = .ok b → Realizes (q b) (g b)) :
    Realizes (Sql.check x >>= q) fun t => x >>= fun b => g b t := by
  cases x with
  | error e =>
    refine ⟨fun hf => ?_, fun hf => ?_⟩
    · simp at hf
    · obtain rfl := Except.error.inj hf
      rfl
  | ok b => exact h b rfl

/-- A check after the transaction, which never raises. -/
lemma Realizes.bind_check {p : Sql σ ε β} {f : σ → Except ε (σ × β)} {g : β → Except ε α}
    (h : Realizes p f) (hg : ∀ t t' b, f t = .ok (t', b) → ∃ a, g b = .ok a) :
    Realizes (p >>= fun b => Sql.check (g b)) fun t => f t >>= fun r => (r.1, ·) <$> g r.2 where
  ok {t t' a} hf := by
    obtain ⟨⟨t₁, b⟩, hfb, hgb⟩ := bind_eq_ok.1 hf
    obtain ⟨a', hga, heq⟩ := map_eq_ok.1 hgb
    obtain ⟨rfl, rfl⟩ := Prod.mk.inj heq
    rw [bind_of_ok (h.ok hfb), Sql.check, show g b = _ from hga]
  error {t e} hf := by
    cases hfb : f t with
    | error e' =>
      rw [hfb] at hf
      obtain rfl := Except.error.inj hf
      exact bind_of_error (h.error hfb) _
    | ok r =>
      obtain ⟨a, ha⟩ := hg t r.1 r.2 hfb
      rw [hfb, ok_bind, ha] at hf
      simp [Functor.map, Except.map] at hf

/-- An exception put in place of another. -/
lemma Realizes.mapError {p : Sql σ ε α} {f : σ → Except ε (σ × α)} (h : Realizes p f) (g : ε → ε) :
    Realizes (Sql.mapError g p) fun t => (f t).mapError g where
  ok {t t' a} hf := by
    rw [Sql.mapError, h.ok (mapError_eq_ok.1 hf)]
    rfl
  error {t e} hf := by
    cases hft : f t with
    | error e' =>
      rw [hft] at hf
      obtain rfl := Except.error.inj hf
      rw [Sql.mapError, h.error hft]
      rfl
    | ok r =>
      rw [hft] at hf
      simp [Except.mapError] at hf

/-- Rows read outside a transaction. -/
lemma Realizes.reading (f : σ → Except ε α) :
    Realizes (Sql.reading f) fun t => (t, ·) <$> f t where
  ok {t t' a} hf := by
    obtain ⟨a', ha, heq⟩ := map_eq_ok.1 hf
    obtain ⟨rfl, rfl⟩ := Prod.mk.inj heq
    simp [Sql.reading, Sql.statement, ha, Functor.map, Except.map]
  error {t e} hf := by
    simp [Sql.reading, Sql.statement, hf]

/-- The function may be replaced by an equal one. -/
lemma Realizes.congr {p : Sql σ ε α} {f g : σ → Except ε (σ × α)} (h : Realizes p f)
    (hfg : ∀ t, f t = g t) : Realizes p g := by
  obtain rfl : f = g := funext hfg
  exact h

/-- A function applied to the result. -/
lemma Realizes.map {p : Sql σ ε α} {f : σ → Except ε (σ × α)} (h : Realizes p f) (g : α → β) :
    Realizes (g <$> p) fun t => Prod.map id g <$> f t where
  ok {t t' b} hf := by
    obtain ⟨⟨t₁, a⟩, hfa, heq⟩ := map_eq_ok.1 hf
    obtain ⟨rfl, rfl⟩ := Prod.mk.inj heq
    show (p >>= fun a => Pure.pure (g a) : Sql σ ε β) ⟨t, none⟩ = _
    rw [bind_of_ok (h.ok hfa)]
    rfl
  error {t e} hf := by
    show (p >>= fun a => Pure.pure (g a) : Sql σ ε β) ⟨t, none⟩ = _
    cases hft : f t with
    | error e' =>
      rw [hft] at hf
      obtain rfl := Except.error.inj hf
      exact bind_of_error (h.error hft) _
    | ok r =>
      rw [hft] at hf
      simp [Functor.map, Except.map] at hf

/-- A program that raises leaves the connection as it was. -/
lemma Realizes.eq_of_error {p : Sql σ ε α} {f : σ → Except ε (σ × α)} (h : Realizes p f) {t : σ}
    {e : ε} {c : Connection σ} (hp : p ⟨t, none⟩ = (.error e, c)) : c = ⟨t, none⟩ := by
  cases hf : f t with
  | ok r =>
    rw [h.ok hf] at hp
    simp at hp
  | error e' =>
    rw [h.error hf] at hp
    exact (Prod.mk.inj hp).2.symm

/-- A program leaves no transaction open. -/
lemma Realizes.pending {p : Sql σ ε α} {f : σ → Except ε (σ × α)} (h : Realizes p f) (t : σ) :
    (p ⟨t, none⟩).2.pending = none := by
  cases hf : f t with
  | ok r => rw [h.ok hf]
  | error e => rw [h.error hf]

end Sql

end Aizim
