import Aizim.Runtime.StateProcess

/-!
# Runs in which the ownership is exclusive

`RunDirectory.Careful` is the condition on a step, `DirectoryInvariant` what the steps that meet it
keep, and `state_process_ownership` the result.  The counterexamples after it are runs with one
step that does not meet the condition.

The invariant says of each process what the call it makes next rests on (`PhaseInvariant`).  What
another process does keeps that, since it changes no file in place but its own, and a file that is
changed gets a new change time.
-/

namespace Aizim.Runtime

open TransitionSystem

/-! ## The condition -/

/-- The process does not die here, or nothing is lost if it does. -/
def RunDirectory.MayDie (w : RunDirectory) : Phase → Prop
  | .created _ | .changedMode _ => False
  | .lookingSocket true | .creating true => w.socket = none
  | _ => True

/-- The call may be made: what is unlinked is the record that was checked, and the last owner
leaves no socket. -/
def RunDirectory.MayStep (w : RunDirectory) : Phase → Prop
  | .unlinking r => w.identity = none ∨
    w.identity = some r.identity ∧ (r.closing = true → w.socket = none)
  | _ => True

/-- The condition on a step. -/
def RunDirectory.Careful (w : RunDirectory) : ProcessAction → Prop
  | .step p => w.MayStep (w.phase p)
  | .crash p => w.MayDie (w.phase p)
  | _ => True

/-- The processes of a run directory, as long as all steps meet the condition. -/
def carefulDirectory : TransitionSystem RunDirectory ProcessAction where
  initial w := w = .empty
  step w a w' := w.Careful a ∧ w' = w.exec a

/-! ## What the next call of a process rests on -/

/-- The process is about to create its record in place of a stale one. -/
def Phase.Replacing : Phase → Prop
  | .lookingSocket checked | .creating checked => checked = true
  | _ => False

/-- The process is about to write its record. -/
def Phase.Writing (i : ℕ) : Phase → Prop
  | .created j | .changedMode j => j = i
  | _ => False

namespace RunDirectory

variable {w w' : RunDirectory} {p q : ℕ}

/-- The file had this identity, and if it still has, this pid is in it. -/
structure Known (w : RunDirectory) (identity : FileIdentity) (pid : ℕ) : Prop where
  inode_lt : identity.inode < w.clock
  time_lt : identity.changeTime < w.clock
  content : (w.files identity.inode).changeTime = identity.changeTime →
    (w.files identity.inode).content = some pid
  pid_ne : w.phase pid ≠ .unborn

/-- What a removal rests on: the record of a dead process, or one's own. -/
structure Removable (w : RunDirectory) (p : ℕ) (r : Removal) : Prop where
  known : w.Known r.identity r.pid
  dead : r.closing = false → w.phase r.pid = .ended
  own : r.closing = true → r.pid = p

/-- What a reading of the pid rests on. -/
def Purposeful (w : RunDirectory) (p : ℕ) : Purpose → Prop
  | .acquire => True
  | .remove r => w.Removable p r

/-- The record is the file of the process, with a pid in it or not yet. -/
structure Owns (w : RunDirectory) (p i : ℕ) (content : Option ℕ) : Prop where
  record : w.record = some i
  creator : (w.files i).creator = p
  content : (w.files i).content = content

/-- What the next call of a process rests on. -/
def PhaseInvariant (w : RunDirectory) (p : ℕ) : Phase → Prop
  | .opening purpose => w.Purposeful p purpose
  | .statting purpose i => i < w.clock ∧ w.Purposeful p purpose
  | .reading purpose identity =>
    identity.inode < w.clock ∧ identity.changeTime < w.clock ∧ w.Purposeful p purpose
  | .probing identity pid => w.Known identity pid
  | .confirming identity pid => w.Known identity pid ∧ w.phase pid = .ended
  | .comparing r | .rechecking r | .unlinking r => w.Removable p r
  | .created i | .changedMode i => w.Owns p i none
  | .written i => w.Owns p i (some p)
  | .holding identity | .serving identity => w.Owns p identity.inode (some p) ∧
    (w.files identity.inode).changeTime = identity.changeTime
  | .unborn | .acquiring | .lookingSocket _ | .creating _ | .ended => True

end RunDirectory

open RunDirectory

/-- What the steps that meet the condition keep. -/
structure DirectoryInvariant (w : RunDirectory) : Prop where
  phases : ∀ p, w.PhaseInvariant p (w.phase p)
  record_lt : ∀ i, w.record = some i → i < w.clock
  time_lt : ∀ i, (w.files i).changeTime < w.clock
  content : ∀ i pid, (w.files i).content = some pid →
    (w.files i).creator = pid ∧ 0 < pid ∧ w.phase pid ≠ .unborn
  written : ∀ i, w.record = some i → (w.files i).content = none →
    Phase.Writing i (w.phase (w.files i).creator)
  replaced : w.record = none → w.socket ≠ none → ∃ p, (w.phase p).Replacing
  positive : ∀ p, w.phase p ≠ .unborn → 0 < p

variable {w w' : RunDirectory} {p q : ℕ}

/-! ## What others do -/

/-- What the steps of other processes leave for a process: files that it knows of, those of the dead,
and its own record. -/
structure Leaves (w w' : RunDirectory) (q : ℕ) : Prop where
  clock_le : w.clock ≤ w'.clock
  files : ∀ i < w.clock, w'.files i = w.files i ∨ w.clock ≤ (w'.files i).changeTime
  ended : ∀ pid, w.phase pid = .ended → w'.phase pid = .ended
  unborn : ∀ pid, w.phase pid ≠ .unborn → w'.phase pid ≠ .unborn
  owned : ∀ i, w.record = some i → (w.files i).creator = q →
    w'.record = some i ∧ w'.files i = w.files i

lemma RunDirectory.Known.mono {identity : FileIdentity} {pid : ℕ} (h : w.Known identity pid)
    (hleaves : Leaves w w' q) : w'.Known identity pid := by
  refine ⟨Nat.lt_of_lt_of_le h.inode_lt hleaves.clock_le, Nat.lt_of_lt_of_le h.time_lt hleaves.clock_le, ?_,
    hleaves.unborn pid h.pid_ne⟩
  intro htime
  rcases hleaves.files identity.inode h.inode_lt with hsame | hlater
  · rw [hsame] at htime ⊢
    exact h.content htime
  · have := h.time_lt
    omega

lemma RunDirectory.Removable.mono {r : Removal} (h : w.Removable q r) (hleaves : Leaves w w' q) :
    w'.Removable q r :=
  ⟨h.known.mono hleaves, fun hclosing => hleaves.ended _ (h.dead hclosing), h.own⟩

lemma RunDirectory.Purposeful.mono {purpose : Purpose} (h : w.Purposeful q purpose)
    (hleaves : Leaves w w' q) : w'.Purposeful q purpose := by
  cases purpose with
  | acquire => trivial
  | remove r => exact RunDirectory.Removable.mono h hleaves

lemma RunDirectory.Owns.mono {i : ℕ} {content : Option ℕ} (h : w.Owns q i content)
    (hleaves : Leaves w w' q) : w'.Owns q i content := by
  obtain ⟨hrecord, hfile⟩ := hleaves.owned i h.record h.creator
  exact ⟨hrecord, hfile ▸ h.creator, hfile ▸ h.content⟩

lemma RunDirectory.PhaseInvariant.mono {phase : Phase} (h : w.PhaseInvariant q phase)
    (hleaves : Leaves w w' q) : w'.PhaseInvariant q phase := by
  cases phase with
  | opening purpose => exact RunDirectory.Purposeful.mono h hleaves
  | statting purpose i => exact ⟨Nat.lt_of_lt_of_le h.1 hleaves.clock_le, h.2.mono hleaves⟩
  | reading purpose identity =>
    exact ⟨Nat.lt_of_lt_of_le h.1 hleaves.clock_le, Nat.lt_of_lt_of_le h.2.1 hleaves.clock_le, h.2.2.mono hleaves⟩
  | probing identity pid => exact RunDirectory.Known.mono h hleaves
  | confirming identity pid => exact ⟨h.1.mono hleaves, hleaves.ended pid h.2⟩
  | comparing r => exact RunDirectory.Removable.mono h hleaves
  | rechecking r => exact RunDirectory.Removable.mono h hleaves
  | unlinking r => exact RunDirectory.Removable.mono h hleaves
  | created i => exact RunDirectory.Owns.mono h hleaves
  | changedMode i => exact RunDirectory.Owns.mono h hleaves
  | written i => exact RunDirectory.Owns.mono h hleaves
  | holding identity =>
    obtain ⟨-, hfile⟩ := hleaves.owned _ h.1.record h.1.creator
    exact ⟨h.1.mono hleaves, hfile ▸ h.2⟩
  | serving identity =>
    obtain ⟨-, hfile⟩ := hleaves.owned _ h.1.record h.1.creator
    exact ⟨h.1.mono hleaves, hfile ▸ h.2⟩
  | unborn => trivial
  | acquiring => trivial
  | lookingSocket checked => trivial
  | creating checked => trivial
  | ended => trivial

/-! ## What a step keeps -/

@[simp] lemma RunDirectory.goto_phase_self (w : RunDirectory) (p : ℕ) (next : Phase) :
    (w.goto p next).phase p = next := by
  simp [goto]

@[simp] lemma RunDirectory.goto_phase_of_ne (next : Phase) (h : q ≠ p) :
    (w.goto p next).phase q = w.phase q := by
  simp [goto, h]

lemma RunDirectory.goto_ended {next : Phase} (hp : w.phase p ≠ .ended) :
    ∀ pid, w.phase pid = .ended → (w.goto p next).phase pid = .ended := by
  intro pid hended
  have hne : pid ≠ p := fun h => hp (h ▸ hended)
  rwa [goto_phase_of_ne next hne]

lemma RunDirectory.goto_unborn {next : Phase} (hnext : next ≠ .unborn) :
    ∀ pid, w.phase pid ≠ .unborn → (w.goto p next).phase pid ≠ .unborn := by
  intro pid hpid
  by_cases h : pid = p
  · rwa [h, goto_phase_self]
  · rwa [goto_phase_of_ne next h]

lemma RunDirectory.goto_positive {next : Phase} (h : ∀ q, w.phase q ≠ .unborn → 0 < q)
    (hpos : 0 < p) : ∀ q, (w.goto p next).phase q ≠ .unborn → 0 < q := by
  intro q hq
  by_cases hqp : q = p
  · rwa [hqp]
  · rw [goto_phase_of_ne next hqp] at hq
    exact h q hq

/-- A process goes on to another call, without a change of a file. -/
lemma DirectoryInvariant.goto (h : DirectoryInvariant w) {next : Phase} (hpos : 0 < p)
    (hp : w.phase p ≠ .ended) (hnext : next ≠ .unborn) (hphase : w.PhaseInvariant p next)
    (hwriting : ∀ i, Phase.Writing i (w.phase p) → Phase.Writing i next)
    (hreplacing : (w.phase p).Replacing → w.record = none → w.socket ≠ none → next.Replacing) :
    DirectoryInvariant (w.goto p next) := by
  have hleaves : ∀ q, Leaves w (w.goto p next) q := fun q =>
    ⟨Nat.le_refl _, fun _ _ => Or.inl rfl, goto_ended hp, goto_unborn hnext, fun _ hi _ => ⟨hi, rfl⟩⟩
  refine ⟨fun q => ?_, h.record_lt, h.time_lt, fun i pid hpid => ?_, fun i hi hnone => ?_,
    fun hrecord hsocket => ?_, goto_positive h.positive hpos⟩
  · by_cases hq : q = p
    · rw [hq, goto_phase_self]
      exact hphase.mono (hleaves p)
    · rw [goto_phase_of_ne next hq]
      exact (h.phases q).mono (hleaves q)
  · obtain ⟨hcreator, hpos, hborn⟩ := h.content i pid hpid
    exact ⟨hcreator, hpos, goto_unborn hnext pid hborn⟩
  · have hw := h.written i hi hnone
    change Phase.Writing i ((w.goto p next).phase (w.files i).creator)
    by_cases hc : (w.files i).creator = p
    · rw [hc] at hw ⊢
      rw [goto_phase_self]
      exact hwriting i hw
    · rwa [goto_phase_of_ne next hc]
  · obtain ⟨q, hq⟩ := h.replaced hrecord hsocket
    refine ⟨q, ?_⟩
    by_cases hqp : q = p
    · rw [hqp] at hq ⊢
      rw [goto_phase_self]
      exact hreplacing hq hrecord hsocket
    · rwa [goto_phase_of_ne next hqp]

/-- The record that was checked is removed. -/
lemma DirectoryInvariant.unlink (h : DirectoryInvariant w) {r : Removal}
    (hp : w.phase p = .unlinking r) (hr : w.identity = some r.identity)
    (hsocket : r.closing = true → w.socket = none) :
    DirectoryInvariant ({ w with record := none }.goto p r.done) := by
  have hremovable : w.Removable p r := by simpa [hp, PhaseInvariant] using h.phases p
  obtain ⟨i, hi, hid⟩ := Option.map_eq_some_iff.1 hr
  obtain ⟨rfl, htime⟩ := FileIdentity.mk.inj hid
  have hcontent := hremovable.known.content htime
  obtain ⟨hcreator, -, -⟩ := h.content _ _ hcontent
  have hnext : r.done ≠ .unborn := by
    unfold Removal.done
    split <;> simp
  have hleaves : ∀ q, q ≠ p → w.phase q ≠ .ended →
      Leaves w ({ w with record := none }.goto p r.done) q := by
    intro q hq hlive
    refine ⟨Nat.le_refl _, fun _ _ => Or.inl rfl, goto_ended (by simp [hp]), goto_unborn hnext, ?_⟩
    -- the record is not that of a live process other than this one
    intro j hj hcreated
    obtain rfl : r.identity.inode = j := Option.some.inj (hi.symm.trans hj)
    have hpid : r.pid = q := hcreator.symm.trans hcreated
    cases hclosing : r.closing with
    | false => exact absurd (hpid ▸ hremovable.dead hclosing) hlive
    | true => exact absurd (hpid.symm.trans (hremovable.own hclosing)) hq
  refine ⟨fun q => ?_, fun i hi => ?_, h.time_lt, fun i pid hpid => ?_, fun i hi => ?_,
    fun _ hs => ⟨p, ?_⟩, goto_positive h.positive (h.positive p (by simp [hp]))⟩
  · by_cases hq : q = p
    · rw [hq, goto_phase_self]
      unfold Removal.done
      split <;> trivial
    · rw [goto_phase_of_ne _ hq]
      by_cases hlive : w.phase q = .ended
      · rw [show ({ w with record := none } : RunDirectory).phase q = .ended from hlive]
        trivial
      · exact (h.phases q).mono (hleaves q hq hlive)
  · cases hi
  · obtain ⟨hcreator', hpos, hborn⟩ := h.content i pid hpid
    exact ⟨hcreator', hpos, goto_unborn hnext pid hborn⟩
  · cases hi
  · rw [goto_phase_self]
    cases hclosing : r.closing with
    | false => simp [Removal.done, hclosing, Phase.Replacing]
    | true => exact absurd (hsocket hclosing) hs

/-- A process creates its record. -/
lemma DirectoryInvariant.create (h : DirectoryInvariant w) (hrecord : w.record = none)
    {checked : Bool} (hp : w.phase p = .creating checked) :
    DirectoryInvariant ((w.create p).goto p (.created w.clock)) := by
  have hfile : ∀ i, i ≠ w.clock → ((w.create p).goto p (.created w.clock)).files i = w.files i := by
    intro i hi
    simp [RunDirectory.goto, RunDirectory.create, hi]
  have hnew : ((w.create p).goto p (.created w.clock)).files w.clock = ⟨none, w.clock, p⟩ := by
    simp [RunDirectory.goto, RunDirectory.create]
  have hclock : ((w.create p).goto p (.created w.clock)).clock = w.clock + 1 := rfl
  have hended : w.phase p ≠ .ended := by simp [hp]
  have hleaves : ∀ q, Leaves w ((w.create p).goto p (.created w.clock)) q := by
    intro q
    refine ⟨by omega, fun i hi => Or.inl (hfile i (by omega)), goto_ended hended,
      goto_unborn (by simp), fun i hi => ?_⟩
    rw [hrecord] at hi
    cases hi
  refine ⟨fun q => ?_, fun i hi => ?_, fun i => ?_, fun i pid hpid => ?_, fun i hi _ => ?_,
    fun hnone => (by cases hnone), goto_positive h.positive (h.positive p (by simp [hp]))⟩
  · by_cases hq : q = p
    · rw [hq, goto_phase_self]
      exact ⟨rfl, by rw [hnew], by rw [hnew]⟩
    · rw [goto_phase_of_ne _ hq]
      exact (h.phases q).mono (hleaves q)
  · obtain rfl : w.clock = i := Option.some.inj hi
    omega
  · by_cases hi : i = w.clock
    · rw [hi, hnew]
      exact Nat.lt_succ_self _
    · rw [hfile i hi]
      have := h.time_lt i
      omega
  · by_cases hi : i = w.clock
    · rw [hi, hnew] at hpid
      cases hpid
    · rw [hfile i hi] at hpid ⊢
      obtain ⟨hcreator, hpos, hborn⟩ := h.content i pid hpid
      exact ⟨hcreator, hpos, goto_unborn (by simp) pid hborn⟩
  · obtain rfl : w.clock = i := Option.some.inj hi
    rw [hnew, goto_phase_self]
    rfl

/-- A process changes the mode or the content of its record. -/
lemma DirectoryInvariant.write (h : DirectoryInvariant w) {i : ℕ} {content : Option ℕ}
    {next : Phase} (howns : w.Owns p i none) (hpos : 0 < p) (hlive : w.phase p ≠ .ended)
    (hreplacing : ¬ (w.phase p).Replacing) (hnext : next ≠ .unborn)
    (hphase : ((w.write i content).goto p next).PhaseInvariant p next)
    (hcontent : ∀ pid, content = some pid → pid = p)
    (hwriting : content = none → next.Writing i) :
    DirectoryInvariant ((w.write i content).goto p next) := by
  have hfile : ∀ j, j ≠ i → ((w.write i content).goto p next).files j = w.files j := by
    intro j hj
    simp [RunDirectory.goto, RunDirectory.write, hj]
  have hchanged : ((w.write i content).goto p next).files i =
      ⟨content, w.clock, (w.files i).creator⟩ := by
    simp [RunDirectory.goto, RunDirectory.write]
  have hclock : ((w.write i content).goto p next).clock = w.clock + 1 := rfl
  have hleaves : ∀ q, q ≠ p → Leaves w ((w.write i content).goto p next) q := by
    intro q hq
    refine ⟨by omega, fun j _ => ?_, goto_ended hlive, goto_unborn hnext,
      fun j hj hcreator => ?_⟩
    · by_cases hj : j = i
      · rw [hj, hchanged]
        exact Or.inr (Nat.le_refl _)
      · exact Or.inl (hfile j hj)
    · obtain rfl : i = j := Option.some.inj (howns.record.symm.trans hj)
      exact absurd (hcreator.symm.trans howns.creator) hq
  refine ⟨fun q => ?_, fun j hj => ?_, fun j => ?_, fun j pid hpid => ?_, fun j hj hnone => ?_,
    fun hrecord hsocket => ?_, goto_positive h.positive hpos⟩
  · by_cases hq : q = p
    · rw [hq, goto_phase_self]
      exact hphase
    · rw [goto_phase_of_ne _ hq]
      exact (h.phases q).mono (hleaves q hq)
  · have := h.record_lt j hj
    omega
  · by_cases hj : j = i
    · rw [hj, hchanged]
      exact Nat.lt_succ_self _
    · rw [hfile j hj]
      have := h.time_lt j
      omega
  · by_cases hj : j = i
    · rw [hj, hchanged] at hpid ⊢
      obtain rfl := hcontent pid hpid
      refine ⟨howns.creator, hpos, ?_⟩
      rwa [goto_phase_self]
    · rw [hfile j hj] at hpid ⊢
      obtain ⟨hcreator, hpos, hborn⟩ := h.content j pid hpid
      exact ⟨hcreator, hpos, goto_unborn hnext pid hborn⟩
  · obtain rfl : i = j := Option.some.inj (howns.record.symm.trans hj)
    rw [hchanged] at hnone ⊢
    change Phase.Writing i (((w.write i content).goto p next).phase (w.files i).creator)
    rw [howns.creator, goto_phase_self]
    exact hwriting hnone
  · have hnone : w.record = none := hrecord
    rw [howns.record] at hnone
    cases hnone

/-- The next call neither writes a record nor replaces one, and there is one. -/
def Phase.plain : Phase → Bool
  | .unborn | .ended | .created _ | .changedMode _ | .lookingSocket _ | .creating _ => false
  | _ => true

/-- A step from such a call goes on to another one. -/
lemma DirectoryInvariant.pass (h : DirectoryInvariant w) {phase next : Phase}
    (hp : w.phase p = phase) (hplain : phase.plain = true) (hnext : next ≠ .unborn)
    (hphase : w.PhaseInvariant p next) : DirectoryInvariant (w.goto p next) := by
  have hended : phase ≠ .ended := fun h => by simp [h, Phase.plain] at hplain
  have hborn : phase ≠ .unborn := fun h => by simp [h, Phase.plain] at hplain
  have hwriting : ∀ i, ¬ phase.Writing i := fun i h => by
    cases phase with
    | created j => simp [Phase.plain] at hplain
    | changedMode j => simp [Phase.plain] at hplain
    | _ => exact h
  have hreplacing : ¬ phase.Replacing := fun h => by
    cases phase with
    | lookingSocket checked => simp [Phase.plain] at hplain
    | creating checked => simp [Phase.plain] at hplain
    | _ => exact h
  subst hp
  exact h.goto (h.positive p hborn) hended hnext hphase (fun i hi => absurd hi (hwriting i))
    fun hr => absurd hr hreplacing

/-- `_remove_owned` returns. -/
lemma DirectoryInvariant.done (h : DirectoryInvariant w) {phase : Phase}
    (hp : w.phase p = phase) (hplain : phase.plain = true) (r : Removal) :
    DirectoryInvariant (w.goto p r.done) := by
  unfold Removal.done
  split
  · exact h.pass hp hplain (by simp) trivial
  · exact h.pass hp hplain (by simp) trivial

/-- `_read_pid` raises. -/
lemma DirectoryInvariant.failed (h : DirectoryInvariant w) {phase : Phase}
    (hp : w.phase p = phase) (hplain : phase.plain = true) (purpose : Purpose) :
    DirectoryInvariant (w.goto p purpose.failed) := by
  cases purpose with
  | acquire => exact h.pass hp hplain (by simp [Purpose.failed]) trivial
  | remove r => exact h.done hp hplain r

/-- The pid in a file is known with the identity that the file had before. -/
lemma DirectoryInvariant.known (h : DirectoryInvariant w) {identity : FileIdentity} {pid : ℕ}
    (hinode : identity.inode < w.clock) (htime : identity.changeTime < w.clock)
    (hcontent : (w.files identity.inode).content = some pid) : w.Known identity pid :=
  ⟨hinode, htime, fun _ => hcontent, (h.content _ _ hcontent).2.2⟩

lemma RunDirectory.ended_of_not_alive {pid : ℕ} (hborn : w.phase pid ≠ .unborn)
    (hdead : ¬ w.alive pid = true) : w.phase pid = .ended := by
  unfold RunDirectory.alive at hdead
  split at hdead
  · contradiction
  · assumption
  · simp at hdead

lemma RunDirectory.Owns.write {i : ℕ} {content content' : Option ℕ} {next : Phase}
    (h : w.Owns p i content) : ((w.write i content').goto p next).Owns p i content' :=
  ⟨h.record, by simp [RunDirectory.goto, RunDirectory.write, h.creator],
    by simp [RunDirectory.goto, RunDirectory.write]⟩

/-- A call that meets the condition keeps the invariant. -/
lemma DirectoryInvariant.step (h : DirectoryInvariant w) (hmay : w.MayStep (w.phase p)) :
    DirectoryInvariant (w.step p) := by
  have hphase := h.phases p
  unfold RunDirectory.step
  cases hp : w.phase p with
  | unborn => exact h
  | holding identity => exact h
  | serving identity => exact h
  | ended => exact h
  | acquiring =>
    simp only
    split
    · exact h.pass hp rfl (by simp) trivial
    · exact h.pass hp rfl (by simp) trivial
  | opening purpose =>
    rw [hp] at hphase
    simp only
    split
    · exact h.failed hp rfl purpose
    · rename_i i hi
      exact h.pass hp rfl (by simp) ⟨h.record_lt i hi, hphase⟩
  | statting purpose i =>
    rw [hp] at hphase
    simp only
    split
    · exact h.pass hp rfl (by simp) ⟨hphase.1, h.time_lt i, hphase.2⟩
    · exact h.failed hp rfl purpose
  | reading purpose identity =>
    rw [hp] at hphase
    obtain ⟨hinode, htime, hpurpose⟩ := hphase
    simp only
    split
    · exact h.failed hp rfl purpose
    rename_i pid hpid
    split
    · exact h.failed hp rfl purpose
    cases purpose with
    | acquire => exact h.pass hp rfl (by simp [Purpose.got]) (h.known hinode htime hpid)
    | remove r =>
      simp only [Purpose.got]
      split
      · exact h.done hp rfl r
      · exact h.pass hp rfl (by simp) hpurpose
  | probing identity pid =>
    rw [hp] at hphase
    have hknown : w.Known identity pid := hphase
    simp only
    split
    · exact h.pass hp rfl (by simp) trivial
    · rename_i hdead
      exact h.pass hp rfl (by simp) ⟨hknown, ended_of_not_alive hknown.pid_ne hdead⟩
  | confirming identity pid =>
    rw [hp] at hphase
    simp only
    split
    · exact h.pass hp rfl (by simp) trivial
    · exact h.pass hp rfl (by simp) ⟨hphase.1, fun _ => hphase.2, by simp⟩
  | comparing r =>
    rw [hp] at hphase
    simp only
    split
    · exact h.done hp rfl r
    · exact h.pass hp rfl (by simp) hphase
  | rechecking r =>
    rw [hp] at hphase
    simp only
    split
    · exact h.pass hp rfl (by simp) hphase
    · exact h.done hp rfl r
  | unlinking r =>
    rw [hp] at hmay
    simp only
    split
    · exact h.pass hp rfl (by simp) trivial
    · rename_i hrecord
      rcases hmay with hnone | ⟨hid, hsocket⟩
      · simp [RunDirectory.identity, hrecord] at hnone
      · exact h.unlink hp hid hsocket
  | lookingSocket checked =>
    have hpos := h.positive p (by simp [hp])
    simp only
    split
    · rename_i hraises
      refine h.goto hpos (by simp [hp]) (by simp) trivial (by simp [hp, Phase.Writing]) ?_
      intro hreplacing
      simp [hp, Phase.Replacing, hraises.2] at hreplacing
    · refine h.goto hpos (by simp [hp]) (by simp) trivial (by simp [hp, Phase.Writing]) ?_
      intro hreplacing _ _
      simpa [hp, Phase.Replacing] using hreplacing
  | creating checked =>
    simp only
    split
    · rename_i hrecord
      exact h.create hrecord hp
    · rename_i hrecord
      exact h.goto (h.positive p (by simp [hp])) (by simp [hp]) (by simp) trivial
        (by simp [hp, Phase.Writing]) fun _ hnone => absurd hnone hrecord
  | created i =>
    rw [hp] at hphase
    have howns : w.Owns p i none := hphase
    exact h.write howns (h.positive p (by simp [hp])) (by simp [hp])
      (by simp [hp, Phase.Replacing]) (by simp) howns.write (by simp) fun _ => rfl
  | changedMode i =>
    rw [hp] at hphase
    have howns : w.Owns p i none := hphase
    refine h.write howns (h.positive p (by simp [hp])) (by simp [hp])
      (by simp [hp, Phase.Replacing]) (by simp) howns.write ?_ (by simp)
    intro pid hpid
    exact (Option.some.inj hpid).symm
  | written i =>
    rw [hp] at hphase
    exact h.pass hp rfl (by simp) ⟨hphase, rfl⟩

lemma DirectoryInvariant.phase_of (h : DirectoryInvariant w) {phase : Phase}
    (hp : w.phase p = phase) : w.PhaseInvariant p phase :=
  hp ▸ h.phases p

lemma RunDirectory.not_mayDie_of_writing {phase : Phase} {i : ℕ} (h : phase.Writing i) :
    ¬ w.MayDie phase := by
  cases phase with
  | created j => simp [MayDie]
  | changedMode j => simp [MayDie]
  | _ => exact fun _ => h

lemma RunDirectory.socket_of_mayDie {phase : Phase} (h : w.MayDie phase)
    (hreplacing : phase.Replacing) : w.socket = none := by
  cases phase with
  | lookingSocket checked =>
    obtain rfl : checked = true := hreplacing
    exact h
  | creating checked =>
    obtain rfl : checked = true := hreplacing
    exact h
  | _ => exact hreplacing.elim

/-- The socket changes while there is a record. -/
lemma DirectoryInvariant.of_socket (h : DirectoryInvariant w) {i : ℕ} (hi : w.record = some i)
    (socket : Option ℕ) : DirectoryInvariant { w with socket := socket } := by
  have hleaves : ∀ q, Leaves w { w with socket := socket } q := fun q =>
    ⟨Nat.le_refl _, fun _ _ => Or.inl rfl, fun _ hended => hended, fun _ hborn => hborn,
      fun _ hj _ => ⟨hj, rfl⟩⟩
  refine ⟨fun q => (h.phases q).mono (hleaves q), h.record_lt, h.time_lt, h.content, h.written,
    fun hnone => ?_, h.positive⟩
  have hrecord : w.record = none := hnone
  rw [hi] at hrecord
  cases hrecord

/-- A step that meets the condition keeps the invariant. -/
lemma DirectoryInvariant.exec (h : DirectoryInvariant w) {a : ProcessAction} (ha : w.Careful a) :
    DirectoryInvariant (w.exec a) := by
  cases a with
  | start p =>
    simp only [RunDirectory.exec]
    split
    · rename_i hp
      split
      · exact h
      · rename_i hpos
        exact h.goto (by omega) (by simp [hp]) (by simp) trivial (by simp [hp, Phase.Writing])
          (by simp [hp, Phase.Replacing])
    · exact h
  | step p => exact h.step ha
  | serve p =>
    simp only [RunDirectory.exec]
    split
    · rename_i identity hp
      split
      · exact h
      · have hsocket := h.of_socket (h.phase_of hp).1.record (some p)
        have hphase := hsocket.phase_of hp
        exact hsocket.pass hp rfl (by simp) hphase
    · exact h
  | stop p =>
    simp only [RunDirectory.exec]
    split
    · rename_i identity hp
      have hsocket := h.of_socket (h.phase_of hp).1.record
        (if w.socket = some p then none else w.socket)
      have hphase := hsocket.phase_of hp
      exact hsocket.pass hp rfl (by simp) hphase
    · exact h
  | close p =>
    simp only [RunDirectory.exec]
    split
    · rename_i identity hp
      have hphase := h.phase_of hp
      refine h.pass hp rfl (by simp) ⟨?_, by simp, fun _ => rfl⟩
      exact h.known (h.record_lt _ hphase.1.record) (hphase.2 ▸ h.time_lt _) hphase.1.content
    · exact h
  | crash p =>
    simp only [RunDirectory.exec]
    split
    · exact h
    · rename_i hborn
      by_cases hended : w.phase p = .ended
      · rwa [RunDirectory.goto, ← hended, Function.update_eq_self]
      refine h.goto (h.positive p hborn) hended (by simp) trivial (fun i hi => ?_)
        fun hreplacing _ hsocket => ?_
      · exact absurd ha (not_mayDie_of_writing hi)
      · exact absurd (socket_of_mayDie ha hreplacing) hsocket

/-! ## The next process -/

lemma RunDirectory.Completes.of_step (h : (w.step p).Completes p) : w.Completes p := by
  obtain ⟨n, identity, hn⟩ := h
  exact ⟨n + 1, identity, hn⟩

lemma RunDirectory.Completes.of_goto {a b : Phase} (h : (w.goto p b).Completes p)
    (hstep : (w.goto p a).step p = w.goto p b) : (w.goto p a).Completes p :=
  Completes.of_step (hstep ▸ h)

@[simp] lemma RunDirectory.goto_goto (w : RunDirectory) (p : ℕ) (phase next : Phase) :
    (w.goto p phase).goto p next = w.goto p next := by
  simp [goto]

@[simp] lemma RunDirectory.goto_record (next : Phase) : (w.goto p next).record = w.record := rfl

@[simp] lemma RunDirectory.goto_files (next : Phase) : (w.goto p next).files = w.files := rfl

@[simp] lemma RunDirectory.goto_socket (next : Phase) : (w.goto p next).socket = w.socket := rfl

@[simp] lemma RunDirectory.goto_identity (next : Phase) :
    (w.goto p next).identity = w.identity := rfl

/-- A process that has created its record gets the ownership. -/
lemma RunDirectory.completes_created (i : ℕ) : (w.goto p (.created i)).Completes p := by
  have hmode : (w.goto p (.created i)).step p =
      ((w.goto p (.created i)).write i none).goto p (.changedMode i) := by simp [step]
  refine Completes.of_step (hmode ▸ ?_)
  generalize (w.goto p (.created i)).write i none = w₁
  have hwrite : (w₁.goto p (.changedMode i)).step p =
      ((w₁.goto p (.changedMode i)).write i (some p)).goto p (.written i) := by simp [step]
  refine Completes.of_step (hwrite ▸ ?_)
  generalize (w₁.goto p (.changedMode i)).write i (some p) = w₂
  refine ⟨1, ⟨i, (w₂.files i).changeTime⟩, Or.inl ?_⟩
  simp [alone, exec, step]

/-- Where no record is, a process gets the ownership, if it may overlook the socket. -/
lemma RunDirectory.completes_lookingSocket {checked : Bool} (hrecord : w.record = none)
    (hsocket : w.socket = none ∨ checked = true) :
    (w.goto p (.lookingSocket checked)).Completes p := by
  have hlook : (w.goto p (.lookingSocket checked)).step p = w.goto p (.creating checked) := by
    rcases hsocket with hsocket | rfl
    · simp [step, hsocket]
    · simp [step]
  have hcreate : (w.goto p (.creating checked)).step p =
      ((w.goto p (.creating checked)).create p).goto p (.created w.clock) := by
    simp [step, hrecord, goto]
  refine Completes.of_goto ?_ hlook
  exact Completes.of_step (hcreate ▸ completes_created w.clock)

/-- A process removes the record of a dead one, and gets the ownership. -/
lemma RunDirectory.completes_acquiring {i pid : ℕ} (hrecord : w.record = some i)
    (hcontent : (w.files i).content = some pid) (hpos : 0 < pid) (hne : pid ≠ p)
    (hdead : w.phase pid = .ended) : (w.goto p .acquiring).Completes p := by
  set identity : FileIdentity := ⟨i, (w.files i).changeTime⟩ with hidentity
  set r : Removal := ⟨identity, pid, false⟩ with hr
  have hid : w.identity = some identity := by simp [RunDirectory.identity, hrecord, hidentity]
  have hzero : ¬ pid ≤ 0 := by omega
  have halive : (w.goto p (.probing identity pid)).alive pid = false := by
    simp [alive, goto_phase_of_ne _ hne, hdead]
  have hdone : r.done = .lookingSocket true := rfl
  -- `_read_pid` and `_alive`
  refine Completes.of_goto (b := .opening .acquire) ?_ (by simp [step, hid])
  refine Completes.of_goto (b := .statting .acquire i) ?_ (by simp [step, hrecord])
  refine Completes.of_goto (b := .reading .acquire identity) ?_
    (by simp [step, hrecord, hidentity])
  refine Completes.of_goto (b := .probing identity pid) ?_
    (by simp [step, hidentity, hcontent, hzero, Purpose.got])
  refine Completes.of_goto (b := .confirming identity pid) ?_ (by simp [step, halive])
  refine Completes.of_goto (b := .comparing r) ?_ (by simp [step, hid, hr])
  -- `_remove_owned`
  refine Completes.of_goto (b := .opening (.remove r)) ?_ (by simp [step, hid, hr])
  refine Completes.of_goto (b := .statting (.remove r) i) ?_ (by simp [step, hrecord])
  refine Completes.of_goto (b := .reading (.remove r) identity) ?_
    (by simp [step, hrecord, hidentity])
  refine Completes.of_goto (b := .rechecking r) ?_
    (by simp [step, hidentity, hcontent, hzero, Purpose.got, hr])
  refine Completes.of_goto (b := .unlinking r) ?_ (by simp [step, hid, hr])
  have hunlink : (w.goto p (.unlinking r)).step p =
      { w with record := none }.goto p (.lookingSocket true) := by
    simp [step, hrecord, hdone, goto]
  exact Completes.of_step (hunlink ▸ completes_lookingSocket rfl (Or.inr rfl))

/-! ## The result -/

lemma directoryInvariant_empty : DirectoryInvariant .empty where
  phases _ := trivial
  record_lt _ h := by cases h
  time_lt _ := Nat.zero_lt_one
  content _ _ h := by cases h
  written _ h := by cases h
  replaced _ h := absurd rfl h
  positive _ h := absurd rfl h

lemma directoryInvariant_reachable (h : carefulDirectory.Reachable w) : DirectoryInvariant w := by
  refine h.invariant ?_ ?_
  · rintro w rfl
    exact directoryInvariant_empty
  · rintro w a w' hw ⟨ha, rfl⟩
    exact hw.exec ha

lemma DirectoryInvariant.holds (h : DirectoryInvariant w) {identity : FileIdentity}
    (hp : w.Holds p identity) : w.Owns p identity.inode (some p) ∧
      (w.files identity.inode).changeTime = identity.changeTime := by
  rcases hp with hp | hp
  · exact h.phase_of hp
  · exact h.phase_of hp

lemma DirectoryInvariant.owned (h : DirectoryInvariant w) : w.Owned := by
  refine ⟨fun p q i j hp hq => ?_, fun p identity hp => ?_⟩
  · obtain ⟨hp, -⟩ := h.holds hp
    obtain ⟨hq, -⟩ := h.holds hq
    have hinode : i.inode = j.inode := Option.some.inj (hp.record.symm.trans hq.record)
    exact hp.creator.symm.trans (hinode ▸ hq.creator)
  · obtain ⟨howns, htime⟩ := h.holds hp
    refine ⟨?_, howns.content⟩
    simp [RunDirectory.identity, howns.record, htime]

lemma DirectoryInvariant.recoverable (h : DirectoryInvariant w) : w.Recoverable := by
  intro hover p hpos hp
  have hstart : w.exec (.start p) = w.goto p .acquiring := by
    simp [RunDirectory.exec, hp, Nat.pos_iff_ne_zero.1 hpos]
  change (w.exec (.start p)).Completes p
  rw [hstart]
  cases hrecord : w.record with
  | none =>
    have hsocket : w.socket = none := by
      by_contra hsome
      obtain ⟨q, hq⟩ := h.replaced hrecord hsome
      rcases hover q with hborn | hended
      · simp [hborn, Phase.Replacing] at hq
      · simp [hended, Phase.Replacing] at hq
    refine Completes.of_goto (b := .lookingSocket false) ?_
      (by simp [RunDirectory.step, RunDirectory.identity, hrecord])
    exact completes_lookingSocket hrecord (Or.inl hsocket)
  | some i =>
    cases hcontent : (w.files i).content with
    | none =>
      have hwriting := h.written i hrecord hcontent
      rcases hover (w.files i).creator with hborn | hended
      · simp [hborn, Phase.Writing] at hwriting
      · simp [hended, Phase.Writing] at hwriting
    | some pid =>
      obtain ⟨-, hpid, hborn⟩ := h.content i pid hcontent
      have hne : pid ≠ p := fun heq => hborn (heq ▸ hp)
      exact completes_acquiring hrecord hcontent hpid hne ((hover pid).resolve_left hborn)

/-- An action leaves the calls that other processes make next. -/
lemma RunDirectory.exec_phase_of_ne {a : ProcessAction} (h : a.process ≠ p) :
    (w.exec a).phase p = w.phase p := by
  cases a with
  | step q =>
    have hne : p ≠ q := fun heq => h heq.symm
    simp only [exec, step]
    repeat' split
    all_goals first | rfl | exact goto_phase_of_ne _ hne
  | _ q =>
    have hne : p ≠ q := fun heq => h heq.symm
    simp only [exec]
    repeat' split
    all_goals first | rfl | exact goto_phase_of_ne _ hne

/-- As long as all steps meet the condition, at most one process has the ownership, the record is
the one it created and names it, no other process removes that, and once all processes are over the
next one gets the ownership. -/
theorem state_process_ownership (w : RunDirectory) (h : carefulDirectory.Reachable w) :
    w.Owned ∧ (∀ a, w.Careful a → w.Keeps a) ∧ w.Recoverable := by
  have hinv := directoryInvariant_reachable h
  refine ⟨hinv.owned, fun a ha p identity hp hne => ?_, hinv.recoverable⟩
  have hsame := exec_phase_of_ne (w := w) hne
  have hholds : (w.exec a).Holds p identity := by
    unfold RunDirectory.Holds
    rwa [hsame]
  exact ((hinv.exec ha).owned.named p identity hholds).1

/-- A process makes a number of calls. -/
def callsOf (p n : ℕ) : List ProcessAction := List.replicate n (.step p)

/-- A process gets the ownership. -/
def acquired : List ProcessAction := .start 1 :: callsOf 1 6

lemma carefulDirectory_acquired :
    carefulDirectory.Reachable (acquired.foldl RunDirectory.exec .empty) := by
  have hstep : ∀ (w : RunDirectory) (a : ProcessAction), carefulDirectory.Reachable w →
      w.Careful a → carefulDirectory.Reachable (w.exec a) :=
    fun w a hw ha => hw.step ⟨ha, rfl⟩
  have hstart := hstep _ (.start 1) (.of_initial rfl) trivial
  have hlook := hstep _ (.step 1) hstart trivial
  have hsocket := hstep _ (.step 1) hlook trivial
  have hcreate := hstep _ (.step 1) hsocket trivial
  have hmode := hstep _ (.step 1) hcreate trivial
  have hwrite := hstep _ (.step 1) hmode trivial
  exact hstep _ (.step 1) hwrite trivial

/-- The process that has got the ownership has it alone. -/
theorem state_process_ownership_acquired :
    (acquired.foldl RunDirectory.exec .empty).Holds 1 ⟨1, 3⟩ ∧
      (acquired.foldl RunDirectory.exec .empty).Owned ∧
      (∀ a, (acquired.foldl RunDirectory.exec .empty).Careful a →
        (acquired.foldl RunDirectory.exec .empty).Keeps a) ∧
      (acquired.foldl RunDirectory.exec .empty).Recoverable :=
  ⟨Or.inl (by decide +kernel), state_process_ownership _ carefulDirectory_acquired⟩

/-! ## Runs with other steps -/

/-- A process dies after it has created its record. -/
def diedBeforeWriting : List ProcessAction := .start 1 :: callsOf 1 3 ++ [.crash 1]

/-- Two processes check the record of a dead one, and the second removes what the first created. -/
def removedUnchecked : List ProcessAction :=
  .start 1 :: callsOf 1 6 ++ .crash 1 :: .start 2 :: .start 3 :: callsOf 2 11 ++ callsOf 3 11 ++
    callsOf 2 6 ++ callsOf 3 6

lemma diedBeforeWriting_phases :
    let w := (diedBeforeWriting.foldl RunDirectory.exec .empty).exec (.start 2)
    (w.alone 2 0).phase 2 = .acquiring ∧ (w.alone 2 1).phase 2 = .opening .acquire ∧
      (w.alone 2 2).phase 2 = .statting .acquire 1 ∧
      (w.alone 2 3).phase 2 = .reading .acquire ⟨1, 1⟩ ∧ (w.alone 2 4).phase 2 = .ended := by
  decide

lemma RunDirectory.exec_step_ended (h : w.phase p = .ended) : w.exec (.step p) = w := by
  simp [exec, step, h]

/-- The record without a pid stays, and keeps the next process from the ownership. -/
lemma not_recoverable_diedBeforeWriting :
    ¬ (diedBeforeWriting.foldl RunDirectory.exec .empty).Recoverable := by
  intro h
  have hover : (diedBeforeWriting.foldl RunDirectory.exec .empty).Over := by
    intro q
    by_cases hq : q = 1
    · subst hq
      exact Or.inr (by decide)
    · refine Or.inl ?_
      simp [diedBeforeWriting, callsOf, RunDirectory.exec, RunDirectory.step, RunDirectory.goto,
        RunDirectory.empty, RunDirectory.identity, RunDirectory.create, hq]
  obtain ⟨n, identity, hn⟩ := h hover 2 (by decide) (by decide)
  obtain ⟨h0, h1, h2, h3, h4⟩ := diedBeforeWriting_phases
  generalize (diedBeforeWriting.foldl RunDirectory.exec .empty).exec (.start 2) = w at *
  unfold RunDirectory.Holds at hn
  match n with
  | 0 => simp [h0] at hn
  | 1 => simp [h1] at hn
  | 2 => simp [h2] at hn
  | 3 => simp [h3] at hn
  | n + 4 =>
    have hfixed : w.alone 2 (n + 4) = w.alone 2 4 := by
      rw [RunDirectory.alone, Function.iterate_add_apply]
      exact Function.iterate_fixed (RunDirectory.exec_step_ended h4) n
    simp [hfixed, h4] at hn

lemma not_owned_removedUnchecked :
    ¬ (removedUnchecked.foldl RunDirectory.exec .empty).Owned := by
  intro h
  have hfirst : (removedUnchecked.foldl RunDirectory.exec .empty).Holds 2 ⟨4, 6⟩ :=
    Or.inl (by decide +kernel)
  have hsecond : (removedUnchecked.foldl RunDirectory.exec .empty).Holds 3 ⟨7, 9⟩ :=
    Or.inl (by decide +kernel)
  exact absurd (h.exclusive 2 3 _ _ hfirst hsecond) (by decide)

/-- A process that dies before it has written its record keeps all others from the ownership, and
two processes that take over the same record can both get it. -/
theorem state_process_not_owned :
    (∃ w, runDirectory.Reachable w ∧ ¬ w.Recoverable) ∧
      ∃ w, runDirectory.Reachable w ∧ ¬ w.Owned := by
  refine ⟨⟨diedBeforeWriting.foldl RunDirectory.exec .empty, ?_, not_recoverable_diedBeforeWriting⟩,
    removedUnchecked.foldl RunDirectory.exec .empty, ?_, not_owned_removedUnchecked⟩
  · exact reachable_foldl .empty RunDirectory.exec diedBeforeWriting
  · exact reachable_foldl .empty RunDirectory.exec removedUnchecked

end Aizim.Runtime
