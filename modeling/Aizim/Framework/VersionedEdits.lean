import Mathlib.Data.Set.Basic
import Mathlib.Logic.Function.Basic
import Aizim.Framework.Transition

/-!
# Versioned cells with prepared edits

Optimistic editing in two steps.  A cell has a version and a content; an edit is prepared under a
fresh token, and later either committed, which installs a content at the next version, or
recovered, which puts the cell back.  Cells are created once and never removed.

`EditState.Spent` is the invariant: the token of every prepared edit was spent.  From it follow the
rules a client relies on.  `run_preparedAt`: whatever happens in between, a cell that still holds
the token is as it was when the edit was prepared.  `run_precedes`: a cell stays as it is or goes to a
later version, so two commits on one cell start from different versions (`commit_version_lt`).
-/

namespace Aizim

universe u v w

variable {Key : Type u} {Content : Type v} {Token : Type w}

/-- A cell: its version, its content and the token of the edit that is prepared on it. -/
structure Cell (Content : Type v) (Token : Type w) where
  version : ℕ
  content : Content
  prepared : Option Token

/-- The second cell has a later version, or the same version with the same content. -/
def Cell.Precedes (cell cell' : Cell Content Token) : Prop :=
  cell.version < cell'.version ∨ cell.version = cell'.version ∧ cell.content = cell'.content

lemma Cell.Precedes.refl (cell : Cell Content Token) : cell.Precedes cell :=
  Or.inr ⟨rfl, rfl⟩

lemma Cell.Precedes.trans {c c' c'' : Cell Content Token} (h : c.Precedes c')
    (h' : c'.Precedes c'') : c.Precedes c'' := by
  rcases h with h | ⟨h, hcontent⟩ <;> rcases h' with h' | ⟨h', hcontent'⟩
  · exact Or.inl (h.trans h')
  · exact Or.inl (h' ▸ h)
  · exact Or.inl (h ▸ h')
  · exact Or.inr ⟨h.trans h', hcontent.trans hcontent'⟩

lemma Cell.Precedes.version_le {cell cell' : Cell Content Token} (h : cell.Precedes cell') :
    cell.version ≤ cell'.version := by
  rcases h with h | ⟨h, -⟩
  · exact h.le
  · exact h.le

/-- The cells by key, and the tokens that were used. -/
structure EditState (Key : Type u) (Content : Type v) (Token : Type w) where
  cells : Key → Option (Cell Content Token)
  spent : Set Token

/-- What can happen to the cells. -/
inductive EditAction (Key : Type u) (Content : Type v) (Token : Type w)
  | idle
  | create (key : Key) (version : ℕ) (content : Content)
  | prepare (key : Key) (token : Token)
  | commit (key : Key) (token : Token) (content : Content)
  | recover (key : Key) (token : Token)

variable [DecidableEq Key]

/-- The steps.  Tokens are spent by every prepared edit, and may be spent elsewhere too. -/
inductive EditStep : EditState Key Content Token → EditAction Key Content Token →
    EditState Key Content Token → Prop
  | idle {s : EditState Key Content Token} {spent : Set Token} (grows : s.spent ⊆ spent) :
      EditStep s .idle ⟨s.cells, spent⟩
  | create {s : EditState Key Content Token} {spent : Set Token} {key : Key} {version : ℕ}
      {content : Content} (fresh : s.cells key = none) (grows : s.spent ⊆ spent) :
      EditStep s (.create key version content)
        ⟨Function.update s.cells key (some ⟨version, content, none⟩), spent⟩
  | prepare {s : EditState Key Content Token} {spent : Set Token} {key : Key} {token : Token}
      {cell : Cell Content Token} (found : s.cells key = some cell) (idle : cell.prepared = none)
      (fresh : token ∉ s.spent) (spends : token ∈ spent) (grows : s.spent ⊆ spent) :
      EditStep s (.prepare key token)
        ⟨Function.update s.cells key (some { cell with prepared := some token }), spent⟩
  | commit {s : EditState Key Content Token} {spent : Set Token} {key : Key} {token : Token}
      {content : Content} {cell : Cell Content Token} (found : s.cells key = some cell)
      (prepared : cell.prepared = some token) (grows : s.spent ⊆ spent) :
      EditStep s (.commit key token content)
        ⟨Function.update s.cells key (some ⟨cell.version + 1, content, none⟩), spent⟩
  | recover {s : EditState Key Content Token} {spent : Set Token} {key : Key} {token : Token}
      {cell : Cell Content Token} (found : s.cells key = some cell)
      (prepared : cell.prepared = some token) (grows : s.spent ⊆ spent) :
      EditStep s (.recover key token)
        ⟨Function.update s.cells key (some { cell with prepared := none }), spent⟩

/-- Cells as a transition system, without cells at first. -/
def editSystem (Key : Type u) (Content : Type v) (Token : Type w) [DecidableEq Key] :
    TransitionSystem (EditState Key Content Token) (EditAction Key Content Token) where
  initial s := s.cells = fun _ => none
  step := EditStep

namespace EditStep

variable {s s' : EditState Key Content Token} {a : EditAction Key Content Token}

lemma spent_subset (h : EditStep s a s') : s.spent ⊆ s'.spent := by
  cases h <;> assumption

/-- A step keeps every cell, as it is or at a later version. -/
lemma precedes (h : EditStep s a s') {key : Key} {cell : Cell Content Token}
    (hcell : s.cells key = some cell) : ∃ cell', s'.cells key = some cell' ∧ cell.Precedes cell' := by
  have hupdate : ∀ (k : Key) (new : Cell Content Token),
      (∀ old, s.cells k = some old → old.Precedes new) →
      ∃ cell', Function.update s.cells k (some new) key = some cell' ∧ cell.Precedes cell' := by
    intro k new hnew
    by_cases hk : key = k
    · subst hk
      exact ⟨new, by simp, hnew cell hcell⟩
    · exact ⟨cell, by simp [hk, hcell], .refl cell⟩
  cases h with
  | idle _ => exact ⟨cell, hcell, .refl cell⟩
  | create fresh _ => exact hupdate _ _ fun old hold => by simp [fresh] at hold
  | prepare found _ _ _ _ =>
    refine hupdate _ _ fun old hold => ?_
    obtain rfl := Option.some.inj (hold.symm.trans found)
    exact Or.inr ⟨rfl, rfl⟩
  | commit found _ _ =>
    refine hupdate _ _ fun old hold => ?_
    obtain rfl := Option.some.inj (hold.symm.trans found)
    exact Or.inl (Nat.lt_succ_self _)
  | recover found _ _ =>
    refine hupdate _ _ fun old hold => ?_
    obtain rfl := Option.some.inj (hold.symm.trans found)
    exact Or.inr ⟨rfl, rfl⟩

end EditStep

namespace EditState

/-- The token of every prepared edit was spent. -/
def Spent (s : EditState Key Content Token) : Prop :=
  ∀ key cell token, s.cells key = some cell → cell.prepared = some token → token ∈ s.spent

/-- The token was spent, and a cell that holds it is this one. -/
def PreparedAt (s : EditState Key Content Token) (token : Token) (key : Key)
    (cell : Cell Content Token) : Prop :=
  token ∈ s.spent ∧ ∀ k c, s.cells k = some c → c.prepared = some token → k = key ∧ c = cell

variable {s s' : EditState Key Content Token} {a : EditAction Key Content Token}

/-- What a cell with a prepared edit was before a step: the same cell, unless this step prepared
the edit. -/
lemma prepared_of_step (h : EditStep s a s') {key : Key} {cell : Cell Content Token} {token : Token}
    (hcell : s'.cells key = some cell) (htoken : cell.prepared = some token) :
    s.cells key = some cell ∨
      (a = .prepare key token ∧ token ∉ s.spent ∧ token ∈ s'.spent) := by
  cases h with
  | idle _ => exact Or.inl hcell
  | @create spent k version content fresh _ =>
    by_cases hk : key = k
    · subst hk
      obtain rfl : _ = cell := by simpa using hcell
      simp at htoken
    · exact Or.inl (by simpa [hk] using hcell)
  | @prepare spent k t old found idle fresh spends _ =>
    by_cases hk : key = k
    · subst hk
      obtain rfl : _ = cell := by simpa using hcell
      obtain rfl : t = token := by simpa using htoken
      exact Or.inr ⟨rfl, fresh, spends⟩
    · exact Or.inl (by simpa [hk] using hcell)
  | @commit spent k t content old found _ _ =>
    by_cases hk : key = k
    · subst hk
      obtain rfl : _ = cell := by simpa using hcell
      simp at htoken
    · exact Or.inl (by simpa [hk] using hcell)
  | @recover spent k t old found _ _ =>
    by_cases hk : key = k
    · subst hk
      obtain rfl : _ = cell := by simpa using hcell
      simp at htoken
    · exact Or.inl (by simpa [hk] using hcell)

lemma Spent.step (hs : s.Spent) (h : EditStep s a s') : s'.Spent := by
  intro key cell token hcell htoken
  rcases prepared_of_step h hcell htoken with hold | ⟨-, -, hspent⟩
  · exact h.spent_subset (hs key cell token hold htoken)
  · exact hspent

lemma PreparedAt.step {token : Token} {key : Key} {cell : Cell Content Token}
    (hp : s.PreparedAt token key cell) (h : EditStep s a s') : s'.PreparedAt token key cell := by
  refine ⟨h.spent_subset hp.1, fun k c hc htoken => ?_⟩
  rcases prepared_of_step h hc htoken with hold | ⟨-, hfresh, -⟩
  · exact hp.2 k c hold htoken
  · exact absurd hp.1 hfresh

/-- After an edit was prepared its token marks one cell, as it was then. -/
lemma Spent.preparedAt (hs : s.Spent) {key : Key} {token : Token} {cell : Cell Content Token}
    (hcell : s.cells key = some cell) (h : EditStep s (.prepare key token) s') :
    s'.PreparedAt token key { cell with prepared := some token } := by
  cases h with
  | prepare found idle fresh spends grows =>
    obtain rfl := Option.some.inj (hcell.symm.trans found)
    refine ⟨spends, fun k c hc htoken => ?_⟩
    by_cases hk : k = key
    · subst hk
      exact ⟨rfl, by simpa using hc.symm⟩
    · exact absurd (hs k c token (by simpa [hk] using hc) htoken) fresh

end EditState

/-! ## Runs -/

open TransitionSystem EditState

variable {s s' : EditState Key Content Token} {as : List (EditAction Key Content Token)}

lemma run_spent (h : (editSystem Key Content Token).Run s as s') (hs : s.Spent) : s'.Spent :=
  h.invariant (fun _ _ _ hs hstep => hs.step hstep) hs

/-- A cell that holds the token of an edit after a run is as it was when the edit was prepared. -/
lemma run_preparedAt {token : Token} {key : Key} {cell : Cell Content Token}
    (h : (editSystem Key Content Token).Run s as s') (hp : s.PreparedAt token key cell) :
    s'.PreparedAt token key cell :=
  h.invariant (P := fun s => s.PreparedAt token key cell) (fun _ _ _ hp hstep => hp.step hstep) hp

/-- After a run every cell is as it was, or at a later version. -/
lemma run_precedes {key : Key} {cell : Cell Content Token}
    (h : (editSystem Key Content Token).Run s as s') (hcell : s.cells key = some cell) :
    ∃ cell', s'.cells key = some cell' ∧ cell.Precedes cell' := by
  induction h with
  | nil => exact ⟨cell, hcell, .refl cell⟩
  | snoc _ hstep ih =>
    obtain ⟨mid, hmid, hle⟩ := ih
    obtain ⟨last, hlast, hle'⟩ := EditStep.precedes hstep hmid
    exact ⟨last, hlast, hle.trans hle'⟩

/-- Versions never go down. -/
lemma run_version_le {key : Key} {cell : Cell Content Token}
    (h : (editSystem Key Content Token).Run s as s') (hcell : s.cells key = some cell) :
    ∃ cell', s'.cells key = some cell' ∧ cell.version ≤ cell'.version := by
  obtain ⟨cell', hcell', hprecedes⟩ := run_precedes h hcell
  exact ⟨cell', hcell', hprecedes.version_le⟩

/-- A commit starts from a smaller version than every later state of its cell has. -/
lemma commit_version_lt {s₁ s₂ : EditState Key Content Token} {key : Key} {token : Token}
    {content : Content} {cell cell₂ : Cell Content Token} (hcell : s.cells key = some cell)
    (hcommit : EditStep s (.commit key token content) s₁)
    (hrun : (editSystem Key Content Token).Run s₁ as s₂) (hcell₂ : s₂.cells key = some cell₂) :
    cell.version < cell₂.version := by
  have h₁ : s₁.cells key = some ⟨cell.version + 1, content, none⟩ := by
    cases hcommit with
    | commit found _ _ =>
      obtain rfl := Option.some.inj (hcell.symm.trans found)
      simp
  obtain ⟨later, hlater, hle⟩ := run_version_le hrun h₁
  obtain rfl := Option.some.inj (hlater.symm.trans hcell₂)
  exact hle

end Aizim
