import Mathlib.Logic.Function.Basic
import Aizim.Framework.Acyclic
import Aizim.Research.Records

/-!
# The progress of a research project

An abstract account of a research project: its tasks, their attempts, and the evidence of
publication.  A `ResearchMove` is one change: a task is defined, an attempt is begun, its round is
counted in the task, the attempt ends, the task takes its outcome over.  Each half of a change that
is saved in two writes is a move of its own, so a process may stop between any two moves.

`ResearchInvariant` holds after every sequence of moves (`ResearchMove.invariant`), and `Grows` is
what no move takes back (`ResearchMove.grows`): targets, verified tasks, and the order of rounds.
-/

namespace Aizim.Research

/-- What a task keeps for good. -/
structure Task.Keeps (task task' : Task) : Prop where
  taskId : task'.taskId = task.taskId
  statement : task'.statement = task.statement
  imports : task'.imports = task.imports
  dependsOn : task'.dependsOn = task.dependsOn
  sourceRefs : task'.sourceRefs = task.sourceRefs
  author : task'.author = task.author
  targetHash : task'.targetHash = task.targetHash
  maxRounds : task'.maxRounds = task.maxRounds

/-- What an attempt keeps for good. -/
structure Attempt.Keeps (attempt attempt' : Attempt) : Prop where
  id : attempt'.id = attempt.id
  taskId : attempt'.taskId = attempt.taskId
  workerId : attempt'.workerId = attempt.workerId
  runId : attempt'.runId = attempt.runId
  round : attempt'.round = attempt.round

lemma Task.Keeps.refl (task : Task) : task.Keeps task := ⟨rfl, rfl, rfl, rfl, rfl, rfl, rfl, rfl⟩

lemma Task.Keeps.trans {a b c : Task} (h : a.Keeps b) (h' : b.Keeps c) : a.Keeps c where
  taskId := h'.taskId.trans h.taskId
  statement := h'.statement.trans h.statement
  imports := h'.imports.trans h.imports
  dependsOn := h'.dependsOn.trans h.dependsOn
  sourceRefs := h'.sourceRefs.trans h.sourceRefs
  author := h'.author.trans h.author
  targetHash := h'.targetHash.trans h.targetHash
  maxRounds := h'.maxRounds.trans h.maxRounds

lemma Attempt.Keeps.refl (attempt : Attempt) : attempt.Keeps attempt := ⟨rfl, rfl, rfl, rfl, rfl⟩

lemma Attempt.Keeps.trans {a b c : Attempt} (h : a.Keeps b) (h' : b.Keeps c) : a.Keeps c where
  id := h'.id.trans h.id
  taskId := h'.taskId.trans h.taskId
  workerId := h'.workerId.trans h.workerId
  runId := h'.runId.trans h.runId
  round := h'.round.trans h.round

/-- The tasks and attempts of a project, and for which runs and workers there is evidence. -/
structure ResearchView where
  tasks : String → Option Task
  attempts : String → Option Attempt
  evidence : String → String → Prop

namespace ResearchView

variable (v : ResearchView)

/-- Write a task. -/
def setTask (task : Task) : ResearchView :=
  { v with tasks := Function.update v.tasks task.taskId (some task) }

/-- Write an attempt. -/
def setAttempt (attempt : Attempt) : ResearchView :=
  { v with attempts := Function.update v.attempts attempt.id (some attempt) }

/-- The first task depends directly on the second. -/
def DependsOn (a b : String) : Prop := ∃ task, v.tasks a = some task ∧ b ∈ task.dependsOn

/-- The task is verified. -/
def IsVerified (id : String) : Prop := ∃ task, v.tasks id = some task ∧ task.status = .verified

/-- No attempt of the task is running, and every round is counted. -/
def Settled (task : Task) : Prop :=
  ∀ id attempt, v.attempts id = some attempt → attempt.taskId = task.taskId →
    attempt.status ≠ .running ∧ attempt.round ≤ task.rounds

end ResearchView

/-- One change of a project. -/
inductive ResearchMove (v : ResearchView) : ResearchView → Prop
  | define {task : Task} (new : v.tasks task.taskId = none)
      (dependencies : ∀ d ∈ task.dependsOn, (v.tasks d).isSome) (status : task.status = .pending) :
      ResearchMove v (v.setTask task)
  | change {task task' : Task} (found : v.tasks task.taskId = some task) (keeps : task.Keeps task')
      (status : task'.status = task.status) (rounds : task'.rounds = task.rounds) :
      ResearchMove v (v.setTask task')
  | beginAttempt {task : Task} {attempt : Attempt} (found : v.tasks task.taskId = some task)
      (pending : task.status = .pending) (free : task.rounds < task.maxRounds)
      (ready : ∀ d ∈ task.dependsOn, v.IsVerified d) (settled : v.Settled task)
      (new : v.attempts attempt.id = none) (taskId : attempt.taskId = task.taskId)
      (round : attempt.round = task.rounds + 1) (running : attempt.status = .running) :
      ResearchMove v (v.setAttempt attempt)
  | countRound {task task' : Task} (found : v.tasks task.taskId = some task)
      (keeps : task.Keeps task') (unverified : task.status ≠ .verified)
      (status : task'.status = task.status ∨ task'.status = .running)
      (grows : task.rounds ≤ task'.rounds)
      (counted : ∀ id attempt, v.attempts id = some attempt → attempt.taskId = task.taskId →
        attempt.round ≤ task'.rounds) :
      ResearchMove v (v.setTask task')
  | endAttempt {task : Task} {attempt attempt' : Attempt}
      (found : v.attempts attempt.id = some attempt) (keeps : attempt.Keeps attempt')
      (ofTask : v.tasks attempt.taskId = some task) (unverified : task.status ≠ .verified)
      (counted : attempt.round ≤ task.rounds)
      (others : ∀ id other, v.attempts id = some other → other.taskId = attempt.taskId →
        other.status = .running → id = attempt.id)
      (ended : attempt'.status ≠ .running)
      (sound : attempt'.status = .verified → v.evidence attempt.runId attempt.workerId) :
      ResearchMove v (v.setAttempt attempt')
  | endTask {task task' : Task} (found : v.tasks task.taskId = some task) (keeps : task.Keeps task')
      (unverified : task.status ≠ .verified) (rounds : task'.rounds = task.rounds)
      (settled : v.Settled task)
      (sound : task'.status = .verified → ∃ id attempt, v.attempts id = some attempt ∧
        attempt.taskId = task.taskId ∧ attempt.status = .verified) :
      ResearchMove v (v.setTask task')
  | publish {evidence : String → String → Prop} (grows : ∀ r w, v.evidence r w → evidence r w) :
      ResearchMove v { v with evidence }

/-! ## The invariant -/

/-- What holds of a project after any sequence of moves. -/
structure ResearchInvariant (v : ResearchView) : Prop where
  taskNamed : ∀ id task, v.tasks id = some task → task.taskId = id
  attemptNamed : ∀ id attempt, v.attempts id = some attempt → attempt.id = id
  owned : ∀ id attempt, v.attempts id = some attempt → ∃ task, v.tasks attempt.taskId = some task
  closed : ∀ a b, v.DependsOn a b → ∃ task, v.tasks b = some task
  acyclic : Acyclic v.DependsOn
  begun : ∀ id attempt d, v.attempts id = some attempt → v.DependsOn attempt.taskId d →
    v.IsVerified d
  sound : ∀ id, v.IsVerified id → ∃ j attempt, v.attempts j = some attempt ∧ attempt.taskId = id ∧
    attempt.status = .verified
  evidenced : ∀ id attempt, v.attempts id = some attempt → attempt.status = .verified →
    v.evidence attempt.runId attempt.workerId
  settled : ∀ id task, v.tasks id = some task → task.status = .verified → v.Settled task
  distinct : ∀ i j a b, v.attempts i = some a → v.attempts j = some b → a.taskId = b.taskId →
    a.round = b.round → i = j
  positive : ∀ id attempt, v.attempts id = some attempt → 1 ≤ attempt.round
  bounded : ∀ id attempt task, v.attempts id = some attempt →
    v.tasks attempt.taskId = some task → attempt.round ≤ task.maxRounds
  latest : ∀ i j a b, v.attempts i = some a → v.attempts j = some b → a.taskId = b.taskId →
    a.status = .running → b.round ≤ a.round
  counted : ∀ id attempt task, v.attempts id = some attempt →
    v.tasks attempt.taskId = some task → attempt.round ≤ task.rounds ∨
      attempt.status = .running ∧ attempt.round = task.rounds + 1

/-- What no move takes back. -/
structure Grows (v v' : ResearchView) : Prop where
  tasks : ∀ id task, v.tasks id = some task → ∃ task', v'.tasks id = some task' ∧
    task.Keeps task' ∧ (task.status = .verified → task'.status = .verified)
  attempts : ∀ id attempt, v.attempts id = some attempt → ∃ attempt',
    v'.attempts id = some attempt' ∧ attempt.Keeps attempt'
  newer : ∀ i j a b, v.attempts i = some a → v.attempts j = none → v'.attempts j = some b →
    a.taskId = b.taskId → a.round < b.round

lemma Grows.refl (v : ResearchView) : Grows v v where
  tasks := fun _ task h => ⟨task, h, .refl task, id⟩
  attempts := fun _ attempt h => ⟨attempt, h, .refl attempt⟩
  newer := by
    intro i j a b _ hnone hsome
    rw [hnone] at hsome
    cases hsome

lemma Grows.trans {u v w : ResearchView} (h : Grows u v) (h' : Grows v w) : Grows u w where
  tasks := by
    intro id task htask
    obtain ⟨task', htask', hkeeps, hverified⟩ := h.tasks id task htask
    obtain ⟨task'', htask'', hkeeps', hverified'⟩ := h'.tasks id task' htask'
    exact ⟨task'', htask'', hkeeps.trans hkeeps', fun hv => hverified' (hverified hv)⟩
  attempts := by
    intro id attempt hattempt
    obtain ⟨attempt', hattempt', hkeeps⟩ := h.attempts id attempt hattempt
    obtain ⟨attempt'', hattempt'', hkeeps'⟩ := h'.attempts id attempt' hattempt'
    exact ⟨attempt'', hattempt'', hkeeps.trans hkeeps'⟩
  newer := by
    intro i j a b ha hnone hb hsame
    obtain ⟨a', ha', hkeeps⟩ := h.attempts i a ha
    cases hj : v.attempts j with
    | none =>
      have hlt := h'.newer i j a' b ha' hj hb (hkeeps.taskId.trans hsame)
      rwa [hkeeps.round] at hlt
    | some b' =>
      obtain ⟨b'', hb'', hkeeps'⟩ := h'.attempts j b' hj
      obtain rfl := Option.some.inj (hb.symm.trans hb'')
      rw [hkeeps'.round]
      exact h.newer i j a b' ha hnone hj (hsame.trans hkeeps'.taskId)


/-! ## Writing one record -/

namespace ResearchView

variable {v : ResearchView}

lemma tasks_setTask (task : Task) (id : String) :
    (v.setTask task).tasks id = if id = task.taskId then some task else v.tasks id := by
  by_cases h : id = task.taskId
  · rw [if_pos h, h]
    exact Function.update_self ..
  · rw [if_neg h]
    exact Function.update_of_ne h ..

lemma attempts_setAttempt (attempt : Attempt) (id : String) :
    (v.setAttempt attempt).attempts id =
      if id = attempt.id then some attempt else v.attempts id := by
  by_cases h : id = attempt.id
  · rw [if_pos h, h]
    exact Function.update_self ..
  · rw [if_neg h]
    exact Function.update_of_ne h ..

/-- Rewriting a task leaves what depends on what. -/
lemma dependsOn_setTask {task task' : Task} (found : v.tasks task.taskId = some task)
    (keeps : task.Keeps task') (a b : String) :
    (v.setTask task').DependsOn a b ↔ v.DependsOn a b := by
  unfold DependsOn
  rw [tasks_setTask, keeps.taskId]
  by_cases ha : a = task.taskId
  · rw [if_pos ha, ha, found]
    simp [keeps.dependsOn]
  · rw [if_neg ha]

/-- Rewriting a task that is not verified, or stays verified, leaves the others verified. -/
lemma IsVerified.setTask {task task' : Task} (found : v.tasks task.taskId = some task)
    (keeps : task.Keeps task')
    (permanent : task.status = .verified → task'.status = .verified) {id : String}
    (h : v.IsVerified id) : (v.setTask task').IsVerified id := by
  obtain ⟨other, hother, hstatus⟩ := h
  unfold IsVerified
  rw [tasks_setTask, keeps.taskId]
  by_cases hid : id = task.taskId
  · subst hid
    obtain rfl := Option.some.inj (found.symm.trans hother)
    exact ⟨task', if_pos rfl, permanent hstatus⟩
  · exact ⟨other, by rw [if_neg hid, hother], hstatus⟩

end ResearchView

open ResearchView

section

variable {v : ResearchView} {task task' : Task}

/-- Rewriting a task keeps the invariant. -/
lemma ResearchInvariant.setTask (h : ResearchInvariant v)
    (found : v.tasks task.taskId = some task) (keeps : task.Keeps task')
    (permanent : task.status = .verified → task'.status = .verified)
    (sound : task'.status = .verified → v.Settled task' ∧ ∃ j attempt,
      v.attempts j = some attempt ∧ attempt.taskId = task.taskId ∧ attempt.status = .verified)
    (counted : ∀ id attempt, v.attempts id = some attempt → attempt.taskId = task.taskId →
      attempt.round ≤ task'.rounds ∨ attempt.status = .running ∧ attempt.round = task'.rounds + 1) :
    ResearchInvariant (v.setTask task') := by
  have hread : ∀ id other, (v.setTask task').tasks id = some other →
      id = task.taskId ∧ other = task' ∨ id ≠ task.taskId ∧ v.tasks id = some other := by
    intro id other hother
    rw [tasks_setTask, keeps.taskId] at hother
    by_cases hid : id = task.taskId
    · rw [if_pos hid] at hother
      exact Or.inl ⟨hid, (Option.some.inj hother).symm⟩
    · rw [if_neg hid] at hother
      exact Or.inr ⟨hid, hother⟩
  have hexists : ∀ id, (∃ other, v.tasks id = some other) →
      ∃ other, (v.setTask task').tasks id = some other := by
    rintro id ⟨other, hother⟩
    rw [tasks_setTask]
    by_cases hid : id = task'.taskId
    · exact ⟨task', if_pos hid⟩
    · exact ⟨other, by rw [if_neg hid, hother]⟩
  have hedges := dependsOn_setTask found keeps
  refine
    { taskNamed := fun id other hother => ?_
      attemptNamed := h.attemptNamed
      owned := fun id attempt hattempt => hexists _ (h.owned id attempt hattempt)
      closed := fun a b hab => hexists b (h.closed a b ((hedges a b).1 hab))
      acyclic := ?_
      begun := fun id attempt d hattempt hd =>
        (h.begun id attempt d hattempt ((hedges _ d).1 hd)).setTask found keeps permanent
      sound := ?_
      evidenced := h.evidenced
      settled := fun id other hother hstatus => ?_
      distinct := h.distinct
      positive := h.positive
      bounded := fun id attempt other hattempt hother => ?_
      latest := h.latest
      counted := fun id attempt other hattempt hother => ?_ }
  · rcases hread id other hother with ⟨rfl, rfl⟩ | ⟨-, hother⟩
    · exact keeps.taskId
    · exact h.taskNamed id other hother
  · have hsame : (v.setTask task').DependsOn = v.DependsOn := by
      funext a b
      exact propext (hedges a b)
    rw [hsame]
    exact h.acyclic
  · rintro id ⟨other, hother, hstatus⟩
    rcases hread id other hother with ⟨rfl, rfl⟩ | ⟨-, hother⟩
    · exact (sound hstatus).2
    · exact h.sound id ⟨other, hother, hstatus⟩
  · rcases hread id other hother with ⟨rfl, rfl⟩ | ⟨-, hother⟩
    · exact (sound hstatus).1
    · exact h.settled id other hother hstatus
  · rcases hread _ other hother with ⟨hid, rfl⟩ | ⟨-, hother⟩
    · rw [keeps.maxRounds]
      exact h.bounded id attempt task hattempt (hid ▸ found)
    · exact h.bounded id attempt other hattempt hother
  · rcases hread _ other hother with ⟨hid, rfl⟩ | ⟨-, hother⟩
    · exact counted id attempt hattempt hid
    · exact h.counted id attempt other hattempt hother

/-- Rewriting a task that is not verified, or stays verified, takes nothing back. -/
lemma grows_setTask (found : v.tasks task.taskId = some task) (keeps : task.Keeps task')
    (permanent : task.status = .verified → task'.status = .verified) :
    Grows v (v.setTask task') where
  tasks := by
    intro id other hother
    rw [tasks_setTask, keeps.taskId]
    by_cases hid : id = task.taskId
    · subst hid
      obtain rfl := Option.some.inj (found.symm.trans hother)
      exact ⟨task', if_pos rfl, keeps, permanent⟩
    · exact ⟨other, by rw [if_neg hid, hother], .refl other, fun hv => hv⟩
  attempts := fun _ attempt hattempt => ⟨attempt, hattempt, .refl attempt⟩
  newer := (Grows.refl v).newer

/-- Defining a task keeps the invariant. -/
lemma ResearchInvariant.define (h : ResearchInvariant v) (new : v.tasks task.taskId = none)
    (dependencies : ∀ d ∈ task.dependsOn, (v.tasks d).isSome) (status : task.status = .pending) :
    ResearchInvariant (v.setTask task) := by
  have hother : ∀ id, (∃ other, v.tasks id = some other) → id ≠ task.taskId := by
    rintro id ⟨other, hother⟩ rfl
    rw [new] at hother
    cases hother
  have hold : ∀ id, (∃ other, v.tasks id = some other) →
      (v.setTask task).tasks id = v.tasks id := by
    intro id hid
    rw [tasks_setTask, if_neg (hother id hid)]
  have hread : ∀ id other, (v.setTask task).tasks id = some other →
      id = task.taskId ∧ other = task ∨ v.tasks id = some other := by
    intro id other hsome
    rw [tasks_setTask] at hsome
    by_cases hid : id = task.taskId
    · rw [if_pos hid] at hsome
      exact Or.inl ⟨hid, (Option.some.inj hsome).symm⟩
    · rw [if_neg hid] at hsome
      exact Or.inr hsome
  have hexists : ∀ id, (∃ other, v.tasks id = some other) →
      ∃ other, (v.setTask task).tasks id = some other :=
    fun id hid => hid.imp fun other hsome => (hold id hid).trans hsome
  have hverified : ∀ id, (v.setTask task).IsVerified id ↔ v.IsVerified id := by
    intro id
    constructor
    · rintro ⟨other, hsome, hstatus⟩
      rcases hread id other hsome with ⟨-, rfl⟩ | hsome
      · rw [status] at hstatus
        cases hstatus
      · exact ⟨other, hsome, hstatus⟩
    · rintro ⟨other, hsome, hstatus⟩
      exact ⟨other, (hold id ⟨other, hsome⟩).trans hsome, hstatus⟩
  have hedge : ∀ a b, (v.setTask task).DependsOn a b → v.DependsOn a b ∨ a = task.taskId := by
    rintro a b ⟨other, hsome, hb⟩
    rcases hread a other hsome with ⟨rfl, -⟩ | hsome
    · exact Or.inr rfl
    · exact Or.inl ⟨other, hsome, hb⟩
  have htarget : ∀ a b, (v.setTask task).DependsOn a b → ∃ other, v.tasks b = some other := by
    rintro a b ⟨other, hsome, hb⟩
    rcases hread a other hsome with ⟨-, rfl⟩ | hsome
    · exact Option.isSome_iff_exists.1 (dependencies b hb)
    · exact h.closed a b ⟨other, hsome, hb⟩
  have htask : ∀ id attempt other, v.attempts id = some attempt →
      (v.setTask task).tasks attempt.taskId = some other → v.tasks attempt.taskId = some other := by
    intro id attempt other hattempt hsome
    rwa [hold _ (h.owned id attempt hattempt)] at hsome
  refine
    { taskNamed := fun id other hsome => ?_
      attemptNamed := h.attemptNamed
      owned := fun id attempt hattempt => hexists _ (h.owned id attempt hattempt)
      closed := fun a b hab => hexists b (htarget a b hab)
      acyclic := acyclic_of_grows (x := task.taskId)
        ⟨hedge, fun a ha => hother _ (htarget a _ ha) rfl⟩ h.acyclic
      begun := fun id attempt d hattempt hd => ?_
      sound := fun id hid => h.sound id ((hverified id).1 hid)
      evidenced := h.evidenced
      settled := fun id other hsome hstatus => ?_
      distinct := h.distinct
      positive := h.positive
      bounded := fun id attempt other hattempt hsome =>
        h.bounded id attempt other hattempt (htask id attempt other hattempt hsome)
      latest := h.latest
      counted := fun id attempt other hattempt hsome =>
        h.counted id attempt other hattempt (htask id attempt other hattempt hsome) }
  · rcases hread id other hsome with ⟨rfl, rfl⟩ | hsome
    · rfl
    · exact h.taskNamed id other hsome
  · have hne := hother _ (h.owned id attempt hattempt)
    exact (hverified d).2 (h.begun id attempt d hattempt ((hedge _ d hd).resolve_right hne))
  · rcases hread id other hsome with ⟨-, rfl⟩ | hsome
    · rw [status] at hstatus
      cases hstatus
    · exact h.settled id other hsome hstatus

end


section

variable {v : ResearchView} {task : Task} {attempt attempt' : Attempt}

/-- Beginning an attempt keeps the invariant. -/
lemma ResearchInvariant.beginAttempt (h : ResearchInvariant v)
    (found : v.tasks task.taskId = some task) (pending : task.status = .pending)
    (free : task.rounds < task.maxRounds) (ready : ∀ d ∈ task.dependsOn, v.IsVerified d)
    (settled : v.Settled task) (new : v.attempts attempt.id = none)
    (taskId : attempt.taskId = task.taskId) (round : attempt.round = task.rounds + 1)
    (running : attempt.status = .running) : ResearchInvariant (v.setAttempt attempt) := by
  have hread : ∀ id other, (v.setAttempt attempt).attempts id = some other →
      id = attempt.id ∧ other = attempt ∨ v.attempts id = some other := by
    intro id other hsome
    rw [attempts_setAttempt] at hsome
    by_cases hid : id = attempt.id
    · rw [if_pos hid] at hsome
      exact Or.inl ⟨hid, (Option.some.inj hsome).symm⟩
    · rw [if_neg hid] at hsome
      exact Or.inr hsome
  have hold : ∀ id other, v.attempts id = some other →
      (v.setAttempt attempt).attempts id = some other := by
    intro id other hsome
    rw [attempts_setAttempt, if_neg, hsome]
    rintro rfl
    rw [new] at hsome
    cases hsome
  have hearlier : ∀ id other, v.attempts id = some other → other.taskId = attempt.taskId →
      other.status ≠ .running ∧ other.round < attempt.round := by
    intro id other hsome hsame
    obtain ⟨hstatus, hround⟩ := settled id other hsome (hsame.trans taskId)
    exact ⟨hstatus, by omega⟩
  refine
    { taskNamed := h.taskNamed
      attemptNamed := fun id other hsome => ?_
      owned := fun id other hsome => ?_
      closed := h.closed
      acyclic := h.acyclic
      begun := fun id other d hsome hd => ?_
      sound := fun id hid => ?_
      evidenced := fun id other hsome hstatus => ?_
      settled := fun id other hsome hstatus j a ha hsame => ?_
      distinct := fun i j a b ha hb hsame hround => ?_
      positive := fun id other hsome => ?_
      bounded := fun id other owner hsome howner => ?_
      latest := fun i j a b ha hb hsame hstatus => ?_
      counted := fun id other owner hsome howner => ?_ }
  · rcases hread id other hsome with ⟨rfl, rfl⟩ | hsome
    · rfl
    · exact h.attemptNamed id other hsome
  · rcases hread id other hsome with ⟨-, rfl⟩ | hsome
    · exact ⟨task, taskId ▸ found⟩
    · exact h.owned id other hsome
  · rcases hread id other hsome with ⟨-, rfl⟩ | hsome
    · obtain ⟨owner, howner, hmem⟩ := hd
      rw [taskId] at howner
      obtain rfl := Option.some.inj (found.symm.trans howner)
      exact ready d hmem
    · exact h.begun id other d hsome hd
  · obtain ⟨j, a, ha, hrest⟩ := h.sound id hid
    exact ⟨j, a, hold j a ha, hrest⟩
  · rcases hread id other hsome with ⟨-, rfl⟩ | hsome
    · rw [running] at hstatus
      cases hstatus
    · exact h.evidenced id other hsome hstatus
  · rcases hread j a ha with ⟨-, rfl⟩ | ha
    · have hid : id = task.taskId := by
        rw [← h.taskNamed id other hsome, ← hsame, taskId]
      subst hid
      obtain rfl := Option.some.inj (found.symm.trans hsome)
      rw [pending] at hstatus
      cases hstatus
    · exact h.settled id other hsome hstatus j a ha hsame
  · rcases hread i a ha with ⟨rfl, rfl⟩ | ha'
    · rcases hread j b hb with ⟨rfl, -⟩ | hb'
      · rfl
      · have hlt := (hearlier j b hb' hsame.symm).2
        omega
    · rcases hread j b hb with ⟨rfl, rfl⟩ | hb'
      · have hlt := (hearlier i a ha' hsame).2
        omega
      · exact h.distinct i j a b ha' hb' hsame hround
  · rcases hread id other hsome with ⟨-, rfl⟩ | hsome
    · omega
    · exact h.positive id other hsome
  · rcases hread id other hsome with ⟨-, rfl⟩ | hsome
    · have howner' : v.tasks other.taskId = some owner := howner
      rw [taskId] at howner'
      obtain rfl := Option.some.inj (found.symm.trans howner')
      omega
    · exact h.bounded id other owner hsome howner
  · rcases hread i a ha with ⟨rfl, rfl⟩ | ha'
    · rcases hread j b hb with ⟨-, rfl⟩ | hb'
      · exact le_rfl
      · exact (hearlier j b hb' hsame.symm).2.le
    · rcases hread j b hb with ⟨rfl, rfl⟩ | hb'
      · exact absurd hstatus (hearlier i a ha' hsame).1
      · exact h.latest i j a b ha' hb' hsame hstatus
  · rcases hread id other hsome with ⟨-, rfl⟩ | hsome
    · have howner' : v.tasks other.taskId = some owner := howner
      rw [taskId] at howner'
      obtain rfl := Option.some.inj (found.symm.trans howner')
      exact Or.inr ⟨running, round⟩
    · exact h.counted id other owner hsome howner

/-- A new attempt has the latest round. -/
lemma grows_beginAttempt (settled : v.Settled task)
    (new : v.attempts attempt.id = none) (taskId : attempt.taskId = task.taskId)
    (round : attempt.round = task.rounds + 1) : Grows v (v.setAttempt attempt) where
  tasks := fun _ other hother => ⟨other, hother, .refl other, fun hv => hv⟩
  attempts := by
    intro id other hother
    refine ⟨other, ?_, .refl other⟩
    rw [attempts_setAttempt, if_neg, hother]
    rintro rfl
    rw [new] at hother
    cases hother
  newer := by
    intro i j a b ha hnone hb hsame
    rw [attempts_setAttempt] at hb
    by_cases hj : j = attempt.id
    · rw [if_pos hj] at hb
      obtain rfl := Option.some.inj hb
      have hle := (settled i a ha (hsame.trans taskId)).2
      omega
    · rw [if_neg hj, hnone] at hb
      cases hb

/-- Ending an attempt keeps the invariant. -/
lemma ResearchInvariant.endAttempt (h : ResearchInvariant v)
    (found : v.attempts attempt.id = some attempt) (keeps : attempt.Keeps attempt')
    (ofTask : v.tasks attempt.taskId = some task) (unverified : task.status ≠ .verified)
    (counted : attempt.round ≤ task.rounds)
    (others : ∀ id other, v.attempts id = some other → other.taskId = attempt.taskId →
      other.status = .running → id = attempt.id)
    (ended : attempt'.status ≠ .running)
    (sound : attempt'.status = .verified → v.evidence attempt.runId attempt.workerId) :
    ResearchInvariant (v.setAttempt attempt') := by
  -- each record is an old one or the ended one, which keeps its task and its round
  have hread : ∀ id other, (v.setAttempt attempt').attempts id = some other →
      ∃ old, v.attempts id = some old ∧ old.Keeps other ∧
        (id = attempt.id ∧ old = attempt ∧ other = attempt' ∨ id ≠ attempt.id ∧ other = old) := by
    intro id other hsome
    rw [attempts_setAttempt, keeps.id] at hsome
    by_cases hid : id = attempt.id
    · rw [if_pos hid] at hsome
      obtain rfl := Option.some.inj hsome
      exact ⟨attempt, hid ▸ found, keeps, Or.inl ⟨hid, rfl, rfl⟩⟩
    · rw [if_neg hid] at hsome
      exact ⟨other, hsome, .refl other, Or.inr ⟨hid, rfl⟩⟩
  have hrunning : ∀ id other, (v.setAttempt attempt').attempts id = some other →
      other.status = .running → v.attempts id = some other ∧ other.taskId ≠ attempt.taskId := by
    intro id other hsome hstatus
    obtain ⟨old, hold, hkeeps, ⟨-, -, rfl⟩ | ⟨hid, rfl⟩⟩ := hread id other hsome
    · exact absurd hstatus ended
    · exact ⟨hold, fun hsame => hid (others id other hold hsame hstatus)⟩
  refine
    { taskNamed := h.taskNamed
      attemptNamed := fun id other hsome => ?_
      owned := fun id other hsome => ?_
      closed := h.closed
      acyclic := h.acyclic
      begun := fun id other d hsome hd => ?_
      sound := fun id hid => ?_
      evidenced := fun id other hsome hstatus => ?_
      settled := fun id owner howner hstatus j a ha hsame => ?_
      distinct := fun i j a b ha hb hsame hround => ?_
      positive := fun id other hsome => ?_
      bounded := fun id other owner hsome howner => ?_
      latest := fun i j a b ha hb hsame hstatus => ?_
      counted := fun id other owner hsome howner => ?_ }
  · obtain ⟨old, hold, hkeeps, -⟩ := hread id other hsome
    rw [hkeeps.id]
    exact h.attemptNamed id old hold
  · obtain ⟨old, hold, hkeeps, -⟩ := hread id other hsome
    rw [hkeeps.taskId]
    exact h.owned id old hold
  · obtain ⟨old, hold, hkeeps, -⟩ := hread id other hsome
    rw [hkeeps.taskId] at hd
    exact h.begun id old d hold hd
  · obtain ⟨j, a, ha, hof, hstatus⟩ := h.sound id hid
    obtain ⟨owner, howner, hverified⟩ := hid
    refine ⟨j, a, ?_, hof, hstatus⟩
    rw [attempts_setAttempt, keeps.id, if_neg, ha]
    rintro rfl
    obtain rfl := Option.some.inj (found.symm.trans ha)
    rw [hof] at ofTask
    obtain rfl := Option.some.inj (ofTask.symm.trans howner)
    exact unverified hverified
  · obtain ⟨old, hold, hkeeps, ⟨-, rfl, rfl⟩ | ⟨-, rfl⟩⟩ := hread id other hsome
    · rw [hkeeps.runId, hkeeps.workerId]
      exact sound hstatus
    · exact h.evidenced id other hold hstatus
  · obtain ⟨old, hold, hkeeps, hcase⟩ := hread j a ha
    rw [hkeeps.taskId] at hsame
    obtain ⟨hnot, hround⟩ := h.settled id owner howner hstatus j old hold hsame
    rw [hkeeps.round]
    rcases hcase with ⟨-, -, rfl⟩ | ⟨-, rfl⟩
    · exact ⟨ended, hround⟩
    · exact ⟨hnot, hround⟩
  · obtain ⟨a', ha', hkeeps, -⟩ := hread i a ha
    obtain ⟨b', hb', hkeeps', -⟩ := hread j b hb
    rw [hkeeps.taskId, hkeeps'.taskId] at hsame
    rw [hkeeps.round, hkeeps'.round] at hround
    exact h.distinct i j a' b' ha' hb' hsame hround
  · obtain ⟨old, hold, hkeeps, -⟩ := hread id other hsome
    rw [hkeeps.round]
    exact h.positive id old hold
  · obtain ⟨old, hold, hkeeps, -⟩ := hread id other hsome
    rw [hkeeps.round]
    rw [hkeeps.taskId] at howner
    exact h.bounded id old owner hold howner
  · obtain ⟨ha', -⟩ := hrunning i a ha hstatus
    obtain ⟨b', hb', hkeeps, -⟩ := hread j b hb
    rw [hkeeps.round]
    exact h.latest i j a b' ha' hb' (hsame.trans hkeeps.taskId) hstatus
  · obtain ⟨old, hold, hkeeps, ⟨-, rfl, rfl⟩ | ⟨-, rfl⟩⟩ := hread id other hsome
    · have howner' : v.tasks other.taskId = some owner := howner
      rw [hkeeps.taskId] at howner'
      obtain rfl := Option.some.inj (ofTask.symm.trans howner')
      rw [hkeeps.round]
      exact Or.inl counted
    · exact h.counted id other owner hold howner

/-- Ending an attempt takes nothing back. -/
lemma grows_endAttempt (found : v.attempts attempt.id = some attempt)
    (keeps : attempt.Keeps attempt') : Grows v (v.setAttempt attempt') where
  tasks := fun _ other hother => ⟨other, hother, .refl other, fun hv => hv⟩
  attempts := by
    intro id other hother
    rw [attempts_setAttempt, keeps.id]
    by_cases hid : id = attempt.id
    · subst hid
      obtain rfl := Option.some.inj (found.symm.trans hother)
      exact ⟨attempt', if_pos rfl, keeps⟩
    · exact ⟨other, by rw [if_neg hid, hother], .refl other⟩
  newer := by
    intro i j a b _ hnone hb
    rw [attempts_setAttempt, keeps.id] at hb
    by_cases hj : j = attempt.id
    · rw [hj, found] at hnone
      cases hnone
    · rw [if_neg hj, hnone] at hb
      cases hb

end

/-! ## The moves -/

variable {v v' : ResearchView}

/-- Every move keeps the invariant. -/
theorem ResearchMove.invariant (h : ResearchInvariant v) (hmove : ResearchMove v v') :
    ResearchInvariant v' := by
  cases hmove with
  | define new dependencies status => exact h.define new dependencies status
  | @change task task' found keeps status rounds =>
    have hsame : ∀ a : Attempt, a.round ≤ task.rounds ∨ a.status = .running ∧
        a.round = task.rounds + 1 → a.round ≤ task'.rounds ∨ a.status = .running ∧
        a.round = task'.rounds + 1 := by
      intro a ha
      rwa [rounds]
    refine h.setTask found keeps (fun hv => status.trans hv) (fun hv => ?_)
      fun id a ha hof => hsame a (h.counted id a task ha (hof ▸ found))
    have hverified : task.status = .verified := status.symm.trans hv
    refine ⟨fun id a ha hof => ?_, h.sound _ ⟨task, found, hverified⟩⟩
    rw [rounds]
    exact h.settled _ task found hverified id a ha (hof.trans keeps.taskId)
  | beginAttempt found pending free ready settled new taskId round running =>
    exact h.beginAttempt found pending free ready settled new taskId round running
  | countRound found keeps unverified status grows counted =>
    refine h.setTask found keeps (fun hv => absurd hv unverified) (fun hv => ?_)
      fun id a ha hof => Or.inl (counted id a ha hof)
    rcases status with hstatus | hstatus
    · exact absurd (hstatus.symm.trans hv) unverified
    · rw [hstatus] at hv
      cases hv
  | endAttempt found keeps ofTask unverified counted others ended sound =>
    exact h.endAttempt found keeps ofTask unverified counted others ended sound
  | endTask found keeps unverified rounds settled sound =>
    refine h.setTask found keeps (fun hv => absurd hv unverified)
      (fun hv => ⟨fun id a ha hof => ?_, sound hv⟩) fun id a ha hof => ?_
    · rw [rounds]
      exact settled id a ha (hof.trans keeps.taskId)
    · rw [rounds]
      exact Or.inl (settled id a ha hof).2
  | publish grows =>
    exact { h with evidenced := fun id a ha hv => grows _ _ (h.evidenced id a ha hv) }

/-- No move takes back what `Grows` keeps. -/
theorem ResearchMove.grows (hmove : ResearchMove v v') :
    Grows v v' := by
  cases hmove with
  | @define task new dependencies status =>
    refine ⟨fun id other hother => ⟨other, ?_, .refl other, fun hv => hv⟩,
      fun _ a ha => ⟨a, ha, .refl a⟩, (Grows.refl v).newer⟩
    rw [tasks_setTask, if_neg, hother]
    rintro rfl
    rw [new] at hother
    cases hother
  | change found keeps status rounds =>
    exact grows_setTask found keeps fun hv => status.trans hv
  | beginAttempt found pending free ready settled new taskId round running =>
    exact grows_beginAttempt settled new taskId round
  | countRound found keeps unverified status grows counted =>
    exact grows_setTask found keeps fun hv => absurd hv unverified
  | endAttempt found keeps ofTask unverified counted others ended sound =>
    exact grows_endAttempt found keeps
  | endTask found keeps unverified rounds settled sound =>
    exact grows_setTask found keeps fun hv => absurd hv unverified
  | publish grows =>
    exact ⟨(Grows.refl v).tasks, (Grows.refl v).attempts, (Grows.refl v).newer⟩

end Aizim.Research
