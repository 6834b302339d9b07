import Aizim.Research.ProjectSafety

/-!
# Recovery and published work

`recover` settles a task by its latest attempt, and only if that attempt or the task was left running.
A task with a published attempt that is not the latest, or that was settled before its declaration
was published, is left as it is: `recovery_verifies_published_iff` says for every reachable store
when recovery verifies every task with published work.
-/

namespace Aizim.Research

open Aizim.JsonValue Aizim.JsonObject State Orchestration

variable [CharacterDatabase] {s : EngineState}

/-- An attempt of the task, of whatever round and status, was published. -/
def HasPublishedAttempt (t : Tables) (taskId : String) : Prop :=
  ∃ id attempt, attemptAt t id = some attempt ∧ attempt.taskId = taskId ∧
    Published t.toEventLog attempt.workerId

/-- Every task with a published attempt is verified. -/
def PublishedVerified (t : Tables) : Prop :=
  ∀ id task, taskAt t id = some task → HasPublishedAttempt t id → task.status = .verified

/-- Recovery begins no attempt and publishes nothing. -/
lemma RecoveredAll.hasPublishedAttempt_iff {t u : Tables} (h : RecoveredAll t u)
    (taskId : String) :
    HasPublishedAttempt u taskId ↔ HasPublishedAttempt t taskId := by
  have hpublished : Published u.toEventLog = Published t.toEventLog :=
    congrFun h.evidence fun _ => True
  unfold HasPublishedAttempt
  rw [hpublished]
  constructor
  · rintro ⟨id, attempt, hattempt, hof, hwork⟩
    cases hold : attemptAt t id with
    | none =>
      rw [h.attempts id hold] at hattempt
      cases hattempt
    | some old =>
      obtain ⟨attempt', hattempt', hkeeps⟩ := h.grows.attempts id old hold
      obtain rfl := Option.some.inj (hattempt.symm.trans hattempt')
      exact ⟨id, old, hold, hkeeps.taskId ▸ hof, hkeeps.workerId ▸ hwork⟩
  · rintro ⟨id, attempt, hattempt, hof, hwork⟩
    obtain ⟨attempt', hattempt', hkeeps⟩ := h.grows.attempts id attempt hattempt
    exact ⟨id, attempt', hattempt', hkeeps.taskId.trans hof, hkeeps.workerId ▸ hwork⟩

/-- **Recovery verifies every task with published work exactly when** each was verified before, or
its latest attempt was published in its run and was left running, or its task was. -/
theorem recovery_verifies_published_iff {w : ResearchWorld} (h : researchSystem.Reachable w)
    (hs : s.tables = w.tables) (hok : (recover s).result = .ok ()) :
    PublishedVerified (recover s).state.tables ↔
      ∀ id task, taskAt w.tables id = some task → HasPublishedAttempt w.tables id →
        task.status = .verified ∨ Recoverable w.tables task := by
  have hstore := (projectInvariant_of_reachable h).store
  rw [← hs] at hstore ⊢
  have hrecovered : RecoveredAll s.tables (recover s).state.tables :=
    ((recover_meets hstore).ok hok).2
  constructor
  · intro hverified id task htask hwork
    obtain ⟨task', htask', -, hstatus⟩ := hrecovered.recovered id task htask
    rw [hstore.project.taskNamed id task htask] at htask'
    exact hstatus.1 (hverified id task' htask' ((hrecovered.hasPublishedAttempt_iff id).2 hwork))
  · intro hbefore id task htask hwork
    cases hold : taskAt s.tables id with
    | none =>
      rw [hrecovered.tasks id hold] at htask
      cases htask
    | some old =>
      obtain ⟨task', htask', -, hstatus⟩ := hrecovered.recovered id old hold
      rw [hstore.project.taskNamed id old hold] at htask'
      obtain rfl := Option.some.inj (htask.symm.trans htask')
      exact hstatus.2 (hbefore id old hold ((hrecovered.hasPublishedAttempt_iff id).1 hwork))

omit [CharacterDatabase] in
/-- A proof that was published after its round had ended is not recovered. -/
theorem late_publication_not_verified : letI := asciiDatabase
    ¬ ∀ (w : ResearchWorld) (s : EngineState), researchSystem.Reachable w → s.tables = w.tables →
      (recover s).result = .ok () → PublishedVerified (recover s).state.tables := by
  let := asciiDatabase
  intro hclaim
  obtain ⟨t, task, hreach, hsingle, hname, hpending, hpublished⟩ := exists_sampleLate
  have hstored := (projectInvariant_of_reachable hreach).store.stored
  let s : EngineState := ⟨t, .initial sampleConfig sampleTokens, sampleSupply⟩
  have hmeets : recover.Meets (fun _ => True) (fun _ u => u = s) (fun _ _ => False) s := by
    refine meets_recover_of_settled hstored (fun id a ha => ?_) (fun id other hother => ?_) rfl
    · rw [show attemptAt s.tables id = _ from hsingle.attempts id, Option.filter_eq_some_iff] at ha
      obtain rfl := Option.some.inj ha.1
      decide
    · rw [show taskAt s.tables id = _ from hsingle.tasks id] at hother
      split at hother
      · obtain rfl := Option.some.inj hother
        rw [hpending]
        decide
      · cases hother
  cases hresult : (recover s).result with
  | error e => exact (hmeets.error hresult).elim
  | ok _ =>
    have hverified := hclaim ⟨t, none⟩ s hreach rfl hresult
    rw [hmeets.ok hresult] at hverified
    have htask : taskAt t "task-a" = some task := by
      rw [← hname]
      exact hsingle.task_eq
    have hattempt : attemptAt t "attempt-a" =
        some (sampleAttempt.finished lateResult [] false) := by
      rw [hsingle.attempts]
      rfl
    have hstatus := hverified "task-a" task htask
      ⟨"attempt-a", _, hattempt, rfl, hpublished.published⟩
    rw [hpending] at hstatus
    cases hstatus

omit [CharacterDatabase] in
/-- The recovery of a project without attempts. -/
theorem recovery_of_added : letI := asciiDatabase
    ∃ s : EngineState, researchSystem.Reachable ⟨s.tables, none⟩ ∧ (recover s).result = .ok () ∧
      (PublishedVerified (recover s).state.tables ↔
        ∀ id task, taskAt s.tables id = some task → HasPublishedAttempt s.tables id →
          task.status = .verified ∨ Recoverable s.tables task) := by
  let := asciiDatabase
  obtain ⟨t, hreach, hstocked, hsingle⟩ := exists_sampleAdded
  let s : EngineState := ⟨t, .initial sampleConfig sampleTokens, sampleSupply⟩
  have hmeets : recover.Meets (fun _ => True) (fun _ u => u = s) (fun _ _ => False) s := by
    refine meets_recover_of_settled hstocked.stored (fun id a ha => ?_) (fun id other hother => ?_)
      rfl
    · rw [show attemptAt s.tables id = _ from hsingle.attempts id] at ha
      cases ha
    · rw [show taskAt s.tables id = _ from hsingle.tasks id] at hother
      split at hother
      · obtain rfl := Option.some.inj hother
        decide
      · cases hother
  cases hresult : (recover s).result with
  | error e => exact (hmeets.error hresult).elim
  | ok _ => exact ⟨s, hreach, hresult, recovery_verifies_published_iff hreach rfl hresult⟩

end Aizim.Research
