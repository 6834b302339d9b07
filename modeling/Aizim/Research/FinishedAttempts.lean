import Mathlib.Data.Finset.Card
import Aizim.Research.EngineWrites
import Aizim.Research.SingleTask

/-!
# Finished attempts

The end of an attempt is saved in two records, first its own and then that of its task.  As long as
no process starts while a task lacks the second of them, an attempt that has ended keeps its status
and its feedback, and every failed round is counted once (`finished_attempts_final`).  A process that
starts in between finishes the attempt again, and a failed attempt becomes an interrupted one
(`finished_attempt_rewritten`).
-/

namespace Aizim.Research

open Aizim.JsonValue Aizim.JsonObject State Orchestration

/-! ## Failed rounds -/

/-- So many attempts of the task have failed. -/
def FailedRounds (t : Tables) (taskId : String) (count : ℕ) : Prop :=
  ∃ failed : Finset String, (∀ id, id ∈ failed ↔
    ∃ a, attemptAt t id = some a ∧ a.taskId = taskId ∧ a.status = .failed) ∧ failed.card = count

/-- The latest attempt of the task has failed, and the task has not taken it over. -/
def Uncounted (t : Tables) (task : Task) : Prop :=
  task.status = .running ∧ ∃ a, IsLatest t task.taskId a ∧ a.status = .failed

/-- The failures of a task are its failed rounds, but for one that it has not taken over yet.  A
verified task has no failures any more. -/
def CountedFor (t : Tables) (task : Task) : Prop :=
  task.status ≠ .verified →
    (¬ Uncounted t task → FailedRounds t task.taskId task.failures) ∧
      (Uncounted t task → FailedRounds t task.taskId (task.failures + 1))

/-- The failures of every task are counted. -/
def FailuresCounted (t : Tables) : Prop :=
  ∀ id task, taskAt t id = some task → CountedFor t task

/-- The attempts that have ended keep their status and their feedback. -/
def EndsKept (t u : Tables) : Prop :=
  ∀ id a, attemptAt t id = some a → a.status ≠ .running →
    ∃ a', attemptAt u id = some a' ∧ a'.status = a.status ∧ a'.feedback = a.feedback

/-- No end of an attempt is changed, and failures stay counted. -/
structure Accounted (t u : Tables) : Prop where
  kept : EndsKept t u
  counted : FailuresCounted t → FailuresCounted u

lemma Accounted.refl (t : Tables) : Accounted t t :=
  ⟨fun _ a ha _ => ⟨a, ha, rfl, rfl⟩, fun h => h⟩

lemma Accounted.trans {t u w : Tables} (h : Accounted t u) (h' : Accounted u w) :
    Accounted t w where
  kept := by
    intro id a ha hended
    obtain ⟨a', ha', hstatus, hfeedback⟩ := h.kept id a ha hended
    obtain ⟨a'', ha'', hstatus', hfeedback'⟩ := h'.kept id a' ha' (hstatus ▸ hended)
    exact ⟨a'', ha'', hstatus'.trans hstatus, hfeedback'.trans hfeedback⟩
  counted := fun hcounted => h'.counted (h.counted hcounted)

variable {t u : Tables}

/-- Writing an attempt that has not failed over one that had not. -/
lemma FailedRounds.update {taskId : String} {count : ℕ} {a : Attempt}
    (h : FailedRounds t taskId count)
    (hattempts : attemptAt u = Function.update (attemptAt t) a.id (some a))
    (hold : ∀ b, attemptAt t a.id = some b → b.taskId = taskId → b.status ≠ .failed)
    (hnew : a.taskId = taskId → a.status ≠ .failed) : FailedRounds u taskId count := by
  obtain ⟨failed, hmem, hcard⟩ := h
  refine ⟨failed, fun id => ?_, hcard⟩
  rw [hmem, hattempts]
  by_cases hid : id = a.id
  · subst hid
    rw [Function.update_self]
    constructor
    · rintro ⟨b, hb, hof, hfailed⟩
      exact absurd hfailed (hold b hb hof)
    · rintro ⟨b, hb, hof, hfailed⟩
      obtain rfl := Option.some.inj hb
      exact absurd hfailed (hnew hof)
  · rw [Function.update_of_ne hid]

/-- Writing a failed attempt over one that had not failed. -/
lemma FailedRounds.succ {count : ℕ} {a : Attempt} (h : FailedRounds t a.taskId count)
    (hattempts : attemptAt u = Function.update (attemptAt t) a.id (some a))
    (hold : ∀ b, attemptAt t a.id = some b → b.status ≠ .failed) (hnew : a.status = .failed) :
    FailedRounds u a.taskId (count + 1) := by
  obtain ⟨failed, hmem, hcard⟩ := h
  have hfresh : a.id ∉ failed := by
    rw [hmem]
    rintro ⟨b, hb, -, hfailed⟩
    exact hold b hb hfailed
  refine ⟨insert a.id failed, fun id => ?_, by rw [Finset.card_insert_of_notMem hfresh, hcard]⟩
  rw [Finset.mem_insert, hmem, hattempts]
  by_cases hid : id = a.id
  · subst hid
    rw [Function.update_self]
    exact iff_of_true (Or.inl rfl) ⟨a, rfl, rfl, hnew⟩
  · rw [Function.update_of_ne hid]
    exact or_iff_right hid

/-! ## Changes of other tasks -/

section Accounts

variable [CharacterDatabase]

/-- The attempts of the task are as they were. -/
def SameAttempts (t u : Tables) (taskId : String) : Prop :=
  ∀ id a, a.taskId = taskId → (attemptAt u id = some a ↔ attemptAt t id = some a)

section

omit [CharacterDatabase]

variable {taskId : String} (h : SameAttempts t u taskId)
include h

lemma SameAttempts.isLatest_iff {a : Attempt} : IsLatest u taskId a ↔ IsLatest t taskId a := by
  constructor
  · rintro ⟨hfound, hof, hlatest⟩
    exact ⟨(h _ a hof).1 hfound, hof,
      fun id b hb hsame => hlatest id b ((h id b hsame).2 hb) hsame⟩
  · rintro ⟨hfound, hof, hlatest⟩
    exact ⟨(h _ a hof).2 hfound, hof,
      fun id b hb hsame => hlatest id b ((h id b hsame).1 hb) hsame⟩

lemma SameAttempts.failedRounds {count : ℕ} (hfailed : FailedRounds t taskId count) :
    FailedRounds u taskId count := by
  obtain ⟨failed, hmem, hcard⟩ := hfailed
  refine ⟨failed, fun id => ?_, hcard⟩
  rw [hmem]
  refine exists_congr fun a => ?_
  constructor
  · rintro ⟨ha, hof, hstatus⟩
    exact ⟨(h id a hof).2 ha, hof, hstatus⟩
  · rintro ⟨ha, hof, hstatus⟩
    exact ⟨(h id a hof).1 ha, hof, hstatus⟩

/-- A task whose attempts, status and failures are as they were. -/
lemma SameAttempts.countedFor {task task' : Task} (hid : task.taskId = taskId)
    (hid' : task'.taskId = taskId) (hstatus : task'.status = task.status)
    (hfailures : task'.failures = task.failures) (hcounted : CountedFor t task) :
    CountedFor u task' := by
  intro hunverified
  obtain ⟨hnot, huncounted⟩ := hcounted (hstatus ▸ hunverified)
  have hiff : Uncounted u task' ↔ Uncounted t task := by
    simp only [Uncounted, hstatus, hid, hid', h.isLatest_iff]
  rw [hiff, hid', hfailures, ← hid]
  subst hid
  exact ⟨fun hu => h.failedRounds (hnot hu), fun hu => h.failedRounds (huncounted hu)⟩

end

/-- Part of a stretch about one task leaves the failures of every other task counted. -/
lemma Progress.failuresCounted {attemptId taskId : String} (h : Progress t attemptId taskId u)
    (hstore : StoreInvariant t) (hof : ∀ a, attemptAt u attemptId = some a → a.taskId = taskId)
    (hcounted : FailuresCounted t)
    (hself : ∀ task, taskAt u taskId = some task → CountedFor u task) : FailuresCounted u := by
  intro id task htask
  by_cases hid : id = taskId
  · subst hid
    exact hself task htask
  · have hold : taskAt t id = some task := by
      rw [← h.tasks id hid]
      exact htask
    have hname := hstore.project.taskNamed id task hold
    exact SameAttempts.countedFor (h.undisturbed hof hid).attempts hname hname rfl rfl
      (hcounted id task hold)

/-- A change between two stretches, given that new tasks have no failures. -/
lemma LeavesAttempts.accounted (h : LeavesAttempts t u) (hstore : StoreInvariant t)
    (hnew : ∀ id task, taskAt t id = none → taskAt u id = some task → task.failures = 0) :
    Accounted t u where
  kept := by
    intro id a ha _
    rw [h.attempts]
    exact ⟨a, ha, rfl, rfl⟩
  counted := by
    intro hcounted id task htask
    have hname := h.store.project.taskNamed id task htask
    cases hold : taskAt t id with
    | some old =>
      obtain ⟨task', htask', hstatus, -, hfailures⟩ := h.tasks id old hold
      obtain rfl := Option.some.inj (htask.symm.trans htask')
      exact SameAttempts.countedFor (h.undisturbed id).attempts
        (hstore.project.taskNamed id old hold) hname hstatus hfailures (hcounted id old hold)
    | none =>
      have hnone : ∀ j a, attemptAt u j = some a → a.taskId ≠ id := by
        intro j a ha hof
        rw [h.attempts] at ha
        obtain ⟨owner, howner⟩ := hstore.project.owned j a ha
        rw [hof] at howner
        exact absurd (hold.symm.trans howner) (by simp)
      intro _
      refine ⟨fun _ => ?_, ?_⟩
      · rw [hnew id task hold htask, hname]
        refine ⟨∅, fun j => iff_of_false (Finset.notMem_empty j) ?_, Finset.card_empty⟩
        rintro ⟨a, ha, hof, -⟩
        exact hnone j a ha hof
      · rintro ⟨-, a, hlatest, -⟩
        exact absurd (hlatest.ofTask.trans hname) (hnone _ a hlatest.found)

/-! ## The end of an attempt -/

variable {s : EngineState} {attempt : Attempt} {task : Task} {result : AttemptResult}
  {interrupted : Bool} {accepted : List String}

/-- The end of the attempt, saved for the first time or once more, changes no end that was saved:
a failure is counted in a task that is running. -/
structure Concludable (t : Tables) (attempt : Attempt) (task : Task) (result : AttemptResult)
    (interrupted : Bool) : Prop where
  latest : IsLatest t attempt.taskId attempt
  unfailed : attempt.status ≠ .failed
  again : attempt.status = .running ∨ ∀ accepted : List String,
    (accepted ≠ [] ↔ PublishedIn t.toEventLog attempt.runId attempt.workerId) →
      (attempt.finished result accepted interrupted).status = attempt.status ∧
        (attempt.finished result accepted interrupted).feedback = attempt.feedback
  counting : interrupted = false → task.status = .running ∨
    PublishedIn t.toEventLog attempt.runId attempt.workerId

omit [CharacterDatabase] in
lemma finished_feedback : (attempt.finished result accepted interrupted).feedback =
    keptFeedback result.feedback := rfl

omit [CharacterDatabase] in
lemma finished_failed_iff : (attempt.finished result accepted interrupted).status = .failed ↔
    accepted = [] ∧ interrupted = false := by
  cases accepted <;> cases interrupted <;> simp [Attempt.finished, finalStatus]

omit [CharacterDatabase] in
lemma task_finished_failures (haccepted : accepted = []) :
    (task.finished result accepted interrupted).failures =
      task.failures + if interrupted then 0 else 1 := by
  simp [Task.finished, failuresAfter, haccepted]

omit [CharacterDatabase] in
/-- The attempt is still the latest of its task. -/
lemma Ending.isLatest (h : Ending t attempt task result interrupted accepted u)
    (hlatest : IsLatest t attempt.taskId attempt) :
    IsLatest u attempt.taskId (attempt.finished result accepted interrupted) where
  found := by
    rw [h.attempts]
    exact Function.update_self ..
  ofTask := rfl
  latest := by
    intro id other hother hsame
    rw [h.attempts] at hother
    by_cases hid : id = attempt.id
    · rw [hid, Function.update_self] at hother
      obtain rfl := Option.some.inj hother
      exact le_rfl
    · rw [Function.update_of_ne hid] at hother
      exact hlatest.latest id other hother hsame

/-- The failures of the task after each of the two saves. -/
lemma Ending.countedFor (hstore : StoreInvariant t) (hf : Finishable t attempt task)
    (hc : Concludable t attempt task result interrupted)
    (hprogress : Progress t attempt.id attempt.taskId u)
    (h : Ending t attempt task result interrupted accepted u) (hcounted : CountedFor t task)
    {task' : Task} (htask' : taskAt u attempt.taskId = some task') : CountedFor u task' := by
  have hname : task.taskId = attempt.taskId := hstore.project.taskNamed _ task hf.ofTask
  have hlatest := h.isLatest hc.latest
  have hnot : ¬ Uncounted t task := by
    rintro ⟨-, a, ha, hfailed⟩
    rw [hname] at ha
    rw [ha.unique hstore hc.latest] at hfailed
    exact hc.unfailed hfailed
  have hrounds := (hcounted hf.unverified).1 hnot
  have hiff : Uncounted u task ↔ task.status = .running ∧
      (attempt.finished result accepted interrupted).status = .failed := by
    constructor
    · rintro ⟨hrunning, a, ha, hfailed⟩
      rw [hname] at ha
      exact ⟨hrunning, ha.unique hprogress.store hlatest ▸ hfailed⟩
    · rintro ⟨hrunning, hfailed⟩
      exact ⟨hrunning, _, hname ▸ hlatest, hfailed⟩
  have hended : ¬ Uncounted u (task.finished result accepted interrupted) := fun hu =>
    (task_finished_status task result accepted interrupted).1 hu.1
  have hold : ∀ b, attemptAt t attempt.id = some b → b.status ≠ .failed := by
    intro b hb
    obtain rfl := Option.some.inj (hb.symm.trans hf.found)
    exact hc.unfailed
  by_cases hfailed : (attempt.finished result accepted interrupted).status = .failed
  · -- the round has failed: one more failed round, counted with the second save
    have hmore : FailedRounds u attempt.taskId (task.failures + 1) :=
      FailedRounds.succ (a := attempt.finished result accepted interrupted) (hname ▸ hrounds)
        h.attempts hold hfailed
    obtain ⟨haccepted, hinterrupted⟩ := finished_failed_iff.1 hfailed
    rcases h.task with hsame | hdone
    · obtain rfl := Option.some.inj (hsame.symm.trans htask')
      have hrunning : task.status = .running := by
        refine (hc.counting hinterrupted).resolve_right fun hpublished => ?_
        exact h.evidence.2 hpublished haccepted
      intro _
      exact ⟨fun hu => absurd (hiff.2 ⟨hrunning, hfailed⟩) hu, fun _ => hname.symm ▸ hmore⟩
    · obtain rfl := Option.some.inj (htask'.symm.trans hdone)
      intro _
      refine ⟨fun _ => ?_, fun hu => absurd hu hended⟩
      rw [task_finished_failures haccepted, hinterrupted]
      exact hname.symm ▸ hmore
  · -- otherwise no failed round is added
    have hsame := hrounds.update (a := attempt.finished result accepted interrupted) h.attempts
      (fun b hb _ => hold b hb) fun _ => hfailed
    rcases h.task with hkept | hdone
    · obtain rfl := Option.some.inj (hkept.symm.trans htask')
      intro _
      exact ⟨fun _ => hsame, fun hu => absurd (hiff.1 hu).2 hfailed⟩
    · obtain rfl := Option.some.inj (htask'.symm.trans hdone)
      intro hunverified
      refine ⟨fun _ => ?_, fun hu => absurd hu hended⟩
      have haccepted : accepted = [] := by
        by_contra hne
        exact hunverified ((task_finished_status task result accepted interrupted).2.2 hne)
      have hinterrupted : interrupted = true := by
        by_contra hnot'
        exact hfailed (finished_failed_iff.2 ⟨haccepted, Bool.not_eq_true _ ▸ hnot'⟩)
      rw [task_finished_failures haccepted, hinterrupted]
      exact hsame

/-- **The end of an attempt changes no end that was saved.** -/
lemma Ending.accounted (hstore : StoreInvariant t) (hf : Finishable t attempt task)
    (hc : Concludable t attempt task result interrupted)
    (hprogress : Progress t attempt.id attempt.taskId u)
    (h : Ending t attempt task result interrupted accepted u) : Accounted t u where
  kept := by
    intro id a ha hended
    by_cases hid : id = attempt.id
    · subst hid
      obtain rfl := Option.some.inj (ha.symm.trans hf.found)
      obtain ⟨hstatus, hfeedback⟩ := (hc.again.resolve_left hended) accepted h.evidence
      exact ⟨_, by rw [h.attempts, Function.update_self], hstatus, hfeedback⟩
    · exact ⟨a, by rw [hprogress.attempts id hid]; exact ha, rfl, rfl⟩
  counted := by
    intro hcounted
    refine hprogress.failuresCounted hstore (fun a ha => ?_) hcounted fun task' htask' => ?_
    · rw [h.attempts, Function.update_self] at ha
      obtain rfl := Option.some.inj ha
      rfl
    · exact h.countedFor hstore hf hc hprogress (hcounted _ task hf.ofTask) htask'

/-! ## The beginning of an attempt -/

/-- **The beginning of an attempt changes no end that was saved.** -/
lemma Beginning.accounted (hstore : StoreInvariant t) (hready : Ready t task)
    (hnew : attemptAt t attempt.id = none)
    (hprogress : Progress t attempt.id task.taskId u) (h : Beginning t task attempt u) :
    Accounted t u where
  kept := by
    intro id a ha _
    by_cases hid : id = attempt.id
    · rw [hid, hnew] at ha
      cases ha
    · exact ⟨a, by rw [hprogress.attempts id hid]; exact ha, rfl, rfl⟩
  counted := by
    intro hcounted
    have hfound : attemptAt u attempt.id = some attempt := by
      rw [h.attempts, Function.update_self]
    refine hprogress.failuresCounted hstore (fun a ha => ?_) hcounted fun task' htask' => ?_
    · obtain rfl := Option.some.inj (hfound.symm.trans ha)
      exact h.ofTask
    have hpending : ¬ Uncounted t task := by
      rintro ⟨hrunning, -⟩
      rw [hready.pending] at hrunning
      cases hrunning
    have hrounds := ((hcounted _ task hready.found) (by rw [hready.pending]; decide)).1 hpending
    have hrounds' : FailedRounds u task.taskId task.failures := by
      refine hrounds.update h.attempts (fun b hb => ?_) fun _ => ?_
      · rw [hnew] at hb
        cases hb
      · rw [h.running]
        decide
    -- the attempt that runs is the latest
    have hlatest := isLatest_of_running hprogress.store hfound h.running
    rw [h.ofTask] at hlatest
    have hsame : task'.taskId = task.taskId ∧ task'.failures = task.failures := by
      rcases h.task with hkept | hbegun
      · obtain rfl := Option.some.inj (hkept.symm.trans htask')
        exact ⟨rfl, rfl⟩
      · obtain rfl := Option.some.inj (hbegun.symm.trans htask')
        exact ⟨rfl, rfl⟩
    intro _
    rw [hsame.1, hsame.2]
    refine ⟨fun _ => hrounds', ?_⟩
    rintro ⟨-, a, ha, hfailed⟩
    rw [hsame.1] at ha
    rw [ha.unique hprogress.store hlatest, h.running] at hfailed
    cases hfailed

/-! ## Recovery -/

/-- The record of the attempt reads as recovery would have it. -/
def ReadsRecovered (t : Tables) (a : Attempt) : Prop :=
  a.feedback = "Recovered after an interrupted run." ∧
    (a.status = .verified ∨
      a.status = .interrupted ∧ ¬ PublishedIn t.toEventLog a.runId a.workerId)

/-- A task is running although the end of its latest attempt was saved, and not by recovery. -/
def HalfFinished (t : Tables) : Prop :=
  ∃ task a, taskAt t task.taskId = some task ∧ task.status = .running ∧
    IsLatest t task.taskId a ∧ a.status ≠ .running ∧ ¬ ReadsRecovered t a

/-- The latest attempt of the task is running with it, or reads as recovery would have it. -/
def Whole (t : Tables) (task : Task) : Prop :=
  task.status = .running → ∀ a, IsLatest t task.taskId a → a.status ≠ .running → ReadsRecovered t a

omit [CharacterDatabase] in
/-- A short feedback is kept as it is. -/
lemma keptFeedback_eq {feedback : String} (hlength : feedback.toList.length ≤ 8192)
    (hne : feedback ≠ "") : keptFeedback feedback = feedback := by
  unfold keptFeedback
  rw [List.take_of_length_le hlength, String.ofList_toList]
  exact if_neg hne

omit [CharacterDatabase] in
lemma keptFeedback_recovered : keptFeedback "Recovered after an interrupted run." =
    "Recovered after an interrupted run." :=
  keptFeedback_eq (by decide) (by decide)

/-- Counting the round of a task changes no end that was saved. -/
lemma Unsettled.accounted (h : Unsettled t task attempt) (hstore : StoreInvariant t)
    (hsaved : Saved t u "task" task.taskId (task.countRound attempt).data) : Accounted t u := by
  obtain ⟨hprogress, hattempts, hf⟩ := h.counted hstore hsaved
  refine ⟨fun id a ha _ => ⟨a, hattempts ▸ ha, rfl, rfl⟩, fun hcounted => ?_⟩
  refine hprogress.failuresCounted hstore (fun a ha => ?_) hcounted fun task' htask' => ?_
  · obtain rfl := Option.some.inj (hf.found.symm.trans ha)
    exact h.latest.ofTask
  · rw [← h.latest.ofTask, hf.ofTask] at htask'
    obtain rfl := Option.some.inj htask'
    have hsame : SameAttempts t u task.taskId := fun id a _ => by rw [hattempts]
    exact hsame.countedFor rfl rfl rfl rfl (hcounted _ task h.ofTask)

/-- Recovery of an attempt that is running, or that reads as recovery would have it. -/
lemma recoverAttempt_accounts (h : StoreInvariant s.tables)
    (hunsettled : Unsettled s.tables task attempt) (hwhole : Whole s.tables task) :
    (recoverAttempt task attempt).Meets (fun u => Accounted s.tables u.tables)
      (fun _ u => Accounted s.tables u.tables) (fun _ u => Accounted s.tables u.tables) s := by
  unfold recoverAttempt
  refine (meets_saveRecord (fun t₁ hsaved => ?_) fun e => .refl _).bind
  obtain ⟨hfirst, hattempts, hf⟩ := hunsettled.counted h hsaved
  have hcount := hunsettled.accounted h hsaved
  have hpublished : PublishedIn t₁.toEventLog = PublishedIn s.tables.toEventLog :=
    publishedIn_of_evidence hfirst.evidence
  refine ⟨hcount, ?_⟩
  refine (meets_query (fun accepted hread => ?_) fun e => hcount).bind
  have hevidence := verifiedForWorker_ok hfirst.store.log hread
  have hlatest : IsLatest t₁ attempt.taskId attempt := by
    have hsame : SameAttempts s.tables t₁ attempt.taskId := fun id a _ => by rw [hattempts]
    rw [hsame.isLatest_iff, hunsettled.latest.ofTask]
    exact hunsettled.latest
  have hagain : attempt.status = .running ∨ ReadsRecovered s.tables attempt := by
    by_cases hrunning : attempt.status = .running
    · exact Or.inl hrunning
    · exact Or.inr (hwhole (hunsettled.running.resolve_left hrunning) _ hunsettled.latest hrunning)
  have hc : Concludable t₁ attempt (task.countRound attempt)
      ⟨"Recovered after an interrupted run.", accepted, checkedUsage attempt.usage,
        checkedUsage attempt.controllerUsage⟩ accepted.isEmpty := by
    refine ⟨hlatest, ?_, hagain.imp id fun hrecovered accepted' haccepted' => ?_, fun hsome => ?_⟩
    · rcases hagain with hrunning | ⟨-, hverified | ⟨hinterrupted, -⟩⟩
      · rw [hrunning]
        decide
      · rw [hverified]
        decide
      · rw [hinterrupted]
        decide
    · obtain ⟨hfeedback, hstatus⟩ := hrecovered
      have hkept : (attempt.finished ⟨"Recovered after an interrupted run.", accepted,
          checkedUsage attempt.usage, checkedUsage attempt.controllerUsage⟩ accepted'
          accepted.isEmpty).feedback = attempt.feedback := by
        rw [hfeedback, finished_feedback]
        exact keptFeedback_recovered
      refine ⟨?_, hkept⟩
      have hempty : accepted' = [] ↔ accepted = [] := by
        rw [← not_iff_not]
        exact haccepted'.trans hevidence.symm
      rcases hstatus with hverified | ⟨hinterrupted, hunpublished⟩
      · have hwork := h.project.evidenced _ attempt hunsettled.latest.found hverified
        have hne : accepted' ≠ [] := haccepted'.2 (by rw [hpublished]; exact hwork)
        rw [hverified]
        exact (finished_status attempt _ accepted' _).2.2 hne
      · have hnil : accepted = [] := by
          by_contra hne
          exact hunpublished (by rw [← hpublished]; exact hevidence.1 hne)
        rw [hinterrupted, hempty.2 hnil, hnil]
        rfl
    · refine Or.inr (hevidence.1 fun hnil => ?_)
      rw [hnil] at hsome
      cases hsome
  refine ((finishAttempt_meets hfirst.store hf).and (finishAttempt_writes hfirst.store hf)).mono
    (fun u hu => ?_) (fun _ u hu => ?_) fun e u hu => ?_
  · obtain ⟨hprogress, accepted', hending⟩ := hu
    exact hcount.trans (hending.accounted hfirst.store hf hc hprogress)
  · obtain ⟨⟨-, hfinished⟩, accepted', hending⟩ := hu
    exact hcount.trans (hending.accounted hfirst.store hf hc hfinished.progress)
  · obtain ⟨⟨-, hprogress⟩, hsame | ⟨accepted', hending⟩⟩ := hu
    · rw [show u.tables = t₁ from hsame]
      exact hcount
    · exact hcount.trans (hending.accounted hfirst.store hf hc hprogress)

/-- `recover` for one task. -/
lemma recoverTask_accounts {attempts : List Attempt} (h : StoreInvariant s.tables)
    (htask : taskAt s.tables task.taskId = some task)
    (hreads : ReadsLatest s.tables attempts task.taskId) (hwhole : Whole s.tables task) :
    (recoverTask attempts task).Meets (fun u => Accounted s.tables u.tables)
      (fun _ u => Accounted s.tables u.tables) (fun _ u => Accounted s.tables u.tables) s := by
  unfold recoverTask
  cases hlatest : latestAttempt attempts task.taskId with
  | none => exact Stretch.meets_pure (.refl _)
  | some attempt =>
    show Stretch.Meets (if _ then _ else _) _ _ _ _
    split
    · exact Stretch.meets_pure (.refl _)
    · rename_i hbusy
      refine recoverAttempt_accounts h ⟨htask, hreads.latest _ hlatest, ?_⟩ hwhole
      by_contra hidle
      rw [not_or] at hidle
      exact hbusy hidle

/-- `recover` -/
lemma recover_accounts (h : StoreInvariant s.tables) (hwhole : ¬ HalfFinished s.tables) :
    recover.Meets (fun u => Accounted s.tables u.tables) (fun _ u => Accounted s.tables u.tables)
      (fun _ u => Accounted s.tables u.tables) s := by
  refine (recover_keeps (R := fun u => Accounted s.tables u) h (.refl _) ?_).mono
    (fun _ hu => hu.2) (fun _ _ hu => hu.2) fun _ _ hu => hu.2
  intro attempts passed task u hu hnew hfound hreads haccounted
  have hold : taskAt s.tables task.taskId = some task := by
    rw [← hu.tasks task.taskId hnew]
    exact hfound
  have hpublished : PublishedIn u.tables.toEventLog = PublishedIn s.tables.toEventLog :=
    publishedIn_of_evidence hu.evidence
  refine (recoverTask_accounts hu.store hfound hreads fun hrunning a ha hended => ?_).mono
    (fun _ hw => haccounted.trans hw) (fun _ _ hw => haccounted.trans hw)
    fun _ _ hw => haccounted.trans hw
  by_contra hnot
  refine hwhole ⟨task, a, hold, hrunning, (hu.isLatest_iff hnew).1 ha, hended, ?_⟩
  unfold ReadsRecovered at hnot ⊢
  rwa [hpublished] at hnot

/-! ## Every step -/

/-- A task that a request adds has no failures. -/
lemma failures_of_operatorChange {draw : Draw} {params : JsonObject} {version : ℕ}
    (hok : operatorChange t draw params = .ok (u, version)) {id : String}
    (hnone : taskAt t id = none) (hsome : taskAt u id = some task) : task.failures = 0 := by
  simp only [operatorChange, bind_eq_ok, require_eq_ok, exists_and_left, exists_const] at hok
  obtain ⟨action, -, body, -, -, hok⟩ := hok
  split at hok
  · simp only [defineTask, bind_eq_ok, require_eq_ok, exists_and_left, exists_const] at hok
    obtain ⟨-, identity, -, found, -, -, dependencies, -, -, checked, -, author, -, hsave⟩ := hok
    rw [(save_ok hsave).taskAt_eq] at hsome
    by_cases hid : id = identity
    · rw [hid, Function.update_self] at hsome
      rw [← Option.some.inj hsome]
      simp [Task.ofData, natOf]
    · rw [Function.update_of_ne hid, hnone] at hsome
      cases hsome
  · simp only [bind_eq_ok] at hok
    obtain ⟨author, -, hok⟩ := hok
    split at hok
    · simp only [setPaused, bind_eq_ok, require_eq_ok, exists_and_left, exists_const] at hok
      obtain ⟨-, identity, -, old, hold, -, -, hsave⟩ := hok
      rw [(save_ok hsave).taskAt_eq] at hsome
      have hne : id ≠ identity := by
        rintro rfl
        rw [requireTask_ok hold] at hnone
        cases hnone
      rw [Function.update_of_ne hne, hnone] at hsome
      cases hsome
    · obtain ⟨kind, identity, data, ⟨htask, -⟩, hsaved⟩ := addRecord_saved hok
      rw [hsaved.taskAt_of_ne htask, hnone] at hsome
      cases hsome

/-- No process starts while the end of an attempt is saved without that of its task. -/
def StartsWhole : ResearchWorld → ResearchAction → Prop :=
  StartsIn fun t => ¬ HalfFinished t

/-- No write changes an end that was saved. -/
lemma accountedRule : EngineRule Accounted fun t => ¬ HalfFinished t where
  refl := .refl
  trans := .trans
  other := by
    intro t u h hleaves htasks
    refine hleaves.accounted h fun id task hnone hsome => ?_
    rw [htasks, hnone] at hsome
    cases hsome
  requested := by
    intro t u draw params version h hok
    exact ((operatorChange_ok h hok).leavesAttempts h).accounted h fun id task hnone hsome =>
      failures_of_operatorChange hok hnone hsome
  begun := by
    intro t u task attempt h _ hready hnew hprogress hbeginning
    exact hbeginning.accounted h hready hnew hprogress
  ended := by
    intro t u task attempt result interrupted accepted h hf hrunning htask hprogress hending
    refine hending.accounted h hf ?_ hprogress
    exact ⟨isLatest_of_running h hf.found hrunning, by rw [hrunning]; decide, Or.inl hrunning,
      fun _ => Or.inl htask⟩
  recovered := recover_accounts
  whole_run := by
    rintro t u identity data h hsaved hwhole ⟨task, a, htask, hrunning, hlatest, hended, hnot⟩
    have hsame : SameAttempts t u task.taskId := fun id b _ => by
      rw [hsaved.attemptAt_of_ne (by decide)]
    refine hwhole ⟨task, a, ?_, hrunning, hsame.isLatest_iff.1 hlatest, hended, ?_⟩
    · rw [← hsaved.taskAt_of_ne (by decide)]
      exact htask
    · unfold ReadsRecovered at hnot ⊢
      rwa [hsaved.publishedIn_eq h.log] at hnot

/-- **A finished attempt is final** as long as every process starts whole: in any later state it has
the status and the feedback that it ended with, and the failures of a task that is not verified are
its failed rounds, each counted once. -/
theorem finished_attempts_final {w w' : ResearchWorld} {actions : List ResearchAction}
    (h : (researchSystem.restrict StartsWhole).Reachable w)
    (hrun : (researchSystem.restrict StartsWhole).Run w actions w') :
    EndsKept w.tables w'.tables ∧ FailuresCounted w'.tables := by
  obtain ⟨s, actions', hs, hrun'⟩ := h
  have hinitial : FailuresCounted s.tables := by
    obtain rfl : s = ⟨initialTables, none⟩ := hs
    exact fun id task htask => absurd htask (viewOf_initial.1 id task)
  have hbefore := accountedRule.run (.of_initial hs) hrun'
  have hafter := accountedRule.run ⟨s, actions', hs, hrun'⟩ hrun
  exact ⟨hafter.kept, hafter.counted (hbefore.counted hinitial)⟩

/-! ## A restart between the two saves -/

/-- The attempt is the only one. -/
lemma Single.attemptRecords_eq (h : Single t task (some attempt)) (hs : ResearchStored t) :
    attemptRecords t = .ok [attempt] := by
  obtain ⟨attempts, hattempts, hnodup, hmem⟩ := hs.exists_attemptRecords
  have hsingle : attempts.Perm [attempt] := by
    refine (List.perm_ext_iff_of_nodup (.of_map _ hnodup) (List.nodup_singleton _)).2 fun a => ?_
    rw [hmem, List.mem_singleton, h.attempts, Option.filter_some]
    constructor
    · intro ha
      split at ha
      · exact (Option.some.inj ha).symm
      · cases ha
    · rintro rfl
      simp
  rw [hattempts, List.perm_singleton.1 hsingle]

omit [CharacterDatabase] in
lemma Single.attempt_eq (h : Single t task (some attempt)) :
    attemptAt t attempt.id = some attempt := by
  rw [h.attempts]
  simp

variable {supply : ℕ → Draw} {published : List EventRow} {size n : ℕ}

/-- The state between the two saves of the end of an attempt, and the one after both. -/
lemma Stage.finishAttempt_saves (h : Stage supply published n s) (hsupply : Supply supply size)
    (hn : n + 1 < size) (hend : Endable s.tables task attempt result interrupted accepted) :
    (finishAttempt attempt result interrupted).Saves (fun u => Stage supply published (n + 1) u ∧
      Single u.tables task (some (attempt.finished result accepted interrupted))) s ∧
    (finishAttempt attempt result interrupted).Saves (fun u => Stage supply published (n + 2) u ∧
      Single u.tables (task.finished result accepted interrupted)
        (some (attempt.finished result accepted interrupted))) s := by
  obtain ⟨htask, htarget⟩ := hend.ofTask
  have hrun : some attempt.runId ≠ some "" := fun hsame => hend.run (Option.some.inj hsame)
  have hfound : taskAt s.tables attempt.taskId = some task := by
    rw [htask]
    exact hend.single.task_eq
  have hread : (do
      require (task.targetHash = attempt.targetHash) (.research "TARGET_CHANGED_DURING_ROUND")
      let accepted ← verifiedForWorker s.tables attempt.runId attempt.workerId
      require (∀ id ∈ result.declarationIds, id ∈ accepted)
        (.research "UNTRUSTED_VERIFICATION_RESULT")
      pure accepted : Except ResearchFailure (List String)) = .ok accepted := by
    rw [require_of htarget.symm, ok_bind, hend.verified, ok_bind, require_of hend.trusted]
    rfl
  have hsaves : ∀ {Q : Unit → EngineState → Prop}, (∀ u : EngineState,
      Stage supply published (n + 1) u →
      Single u.tables task (some (attempt.finished result accepted interrupted)) → Q () u) →
      (saveRecord "attempt" attempt.id (attempt.finished result accepted interrupted).data
        (some attempt.runId)).Meets (fun _ => True) Q (fun _ _ => False) s := by
    intro Q hQ
    refine h.meets_saveRecord hsupply (by omega) hend.validAttempt (by rfl) nofun hrun
      fun u _ hu hsaved => hQ u hu ?_
    exact hend.single.savedAttempt (attempt.finished result accepted interrupted)
      (fun a ha => by rw [← Option.some.inj ha]; rfl) hsaved
  unfold finishAttempt
  constructor
  · refine (meets_query_of (I := fun _ => True) (h.stored.requireTask_eq hfound) ?_).bind_saves
    refine (meets_query_of (I := fun _ => True) hread ?_).bind_saves
    refine Stretch.Saves.bind ?_
    refine (hsaves (Q := fun _ u => Stage supply published (n + 1) u ∧
      Single u.tables task (some (attempt.finished result accepted interrupted)))
      fun u hu hsingle => ⟨hu, hsingle⟩).saves_save.mono fun u hu => ?_
    obtain ⟨-, hu⟩ := hu
    exact hu
  · refine (meets_query_of (I := fun _ => True) (h.stored.requireTask_eq hfound) ?_).bind_saves
    refine (meets_query_of (I := fun _ => True) hread ?_).bind_saves
    refine (hsaves fun u hu hsingle => ?_).bind_saves
    rw [htask]
    refine Stretch.Saves.bind ?_
    have hsecond : (saveRecord "task" task.taskId
        (task.finished result accepted interrupted).data (some attempt.runId)).Meets
        (fun _ => True) (fun _ w => Stage supply published (n + 2) w ∧
          Single w.tables (task.finished result accepted interrupted)
            (some (attempt.finished result accepted interrupted))) (fun _ _ => False) u := by
      refine hu.meets_saveRecord hsupply hn hend.validTask (by rfl) (fun _ old hold => ?_) hrun
        fun w _ hw hsaved => ⟨hw, hsingle.savedTask _ rfl hsaved⟩
      exact hu.stored.keepsTarget_of_keeps hsingle.task_eq (task_keeps_finished ..) hold
    refine hsecond.saves_save.mono fun w hw => ?_
    obtain ⟨-, hw⟩ := hw
    exact hw

end Accounts

/-! ## A sample project -/

attribute [local instance] asciiDatabase

lemma admitsSample_startsWhole : AdmitsSample StartsWhole where
  start := by
    rintro w config tokens draws hnone ⟨task, a, -, -, hlatest, -⟩
    exact absurd (hlatest.found.symm.trans (hnone a.id)) (by simp)
  other := by
    intro w action hother
    cases action with
    | start config tokens draws => exact absurd rfl (hother config tokens draws)
    | _ => trivial

/-- Nothing was published in the sample. -/
lemma verifiedForWorker_sample {t : Tables} {n : ℕ} (h : Stocked sampleSupply [] n t)
    (runId workerId : String) : verifiedForWorker t runId workerId = .ok [] := by
  obtain ⟨k, hk, hverified⟩ := h.exists_verifiedForWorker "d" (by rfl)
    (fun r hr => absurd hr List.not_mem_nil) runId workerId
  obtain rfl : k = 0 := by simpa using hk
  exact hverified

/-- The attempt of the sample can be ended as failed. -/
lemma endable_sample {t : Tables} (hstocked : Stocked sampleSupply [] 4 t)
    (hsingle : Single t sampleTask.begun (some sampleAttempt)) :
    Endable t sampleTask.begun sampleAttempt lateResult false [] where
  single := hsingle
  ofTask := ⟨rfl, rfl⟩
  verified := verifiedForWorker_sample hstocked "run-a" "worker-aa"
  trusted := nofun
  run := show "run-a" ≠ "" by decide
  validAttempt := sampleRecords.lateAttempt
  validTask := sampleRecords.lateTask
  validMemory := sampleRecords.lateMemory

/-- The failed round of the sample is counted, and stays so when the process dies. -/
theorem finished_attempts_final_sample : ∃ t task a, taskAt t "task-a" = some task ∧
    task.failures = 1 ∧ attemptAt t "attempt-a" = some a ∧ a.status = .failed ∧
    EndsKept t t ∧ FailuresCounted t := by
  obtain ⟨t, hreach, hstocked, hsingle⟩ := admitsSample_startsWhole.exists_executing
  have hstage : Stage sampleSupply [] 4 ⟨t, sampleExecuting, rest sampleSupply 4⟩ := ⟨hstocked, rfl⟩
  have hmeets := hstage.settleAttempt_ends supply_sample (by decide) (.returned lateResult)
    (endable_sample hstocked hsingle)
  have hstep : ResearchStep ⟨t, some sampleExecuting⟩
      (.engine (.settle sampleAttempt (.returned lateResult)) (rest sampleSupply 4)) _ :=
    .engine rfl ⟨_, List.mem_singleton_self _, rfl, rfl⟩ .done
  cases hresult : (settleAttempt sampleAttempt (.returned lateResult)
      ⟨t, sampleExecuting, rest sampleSupply 4⟩).result with
  | error e => exact (hmeets.error hresult).elim
  | ok _ =>
    obtain ⟨m, -, -, hended⟩ := hmeets.ok hresult
    have hcrash : ∀ (u : Tables) (engine : Engine),
        (researchSystem.restrict StartsWhole).Run ⟨u, some engine⟩ [.crash] ⟨u, none⟩ :=
      fun u engine => .single ⟨ResearchStep.crash, trivial⟩
    have hfinal := finished_attempts_final (hreach.step ⟨hstep, trivial⟩) (hcrash _ _)
    exact ⟨_, _, _, hended.task_eq, rfl, hended.attempt_eq, rfl, hfinal⟩

/-- The answer of recovery to the attempt of the sample. -/
def recoveredResult : AttemptResult := ⟨"Recovered after an interrupted run.", [], none, none⟩

/-- The failed attempt of the sample. -/
def failedAttempt : Attempt := sampleAttempt.finished lateResult [] false

/-- The configuration of the next run. -/
def nextConfig : EngineConfig := { sampleConfig with runId := "run-b" }

/-- Its tokens. -/
def nextTokens (n : ℕ) : String := String.ofList (List.replicate (n + 1) 'b')

/-- The records of a restart of the sample pass their checks. -/
structure RestartRecords : Prop where
  run : validRecord (recordPayload (recordId "run" "run-b") "run"
    (runData nextConfig "running" "" "")) = true
  attempt : validRecord (recordPayload (recordId "attempt" "attempt-a") "attempt"
    (failedAttempt.finished recoveredResult [] true).data) = true
  task : validRecord (recordPayload (recordId "task" "task-a") "task"
    (sampleTask.begun.finished recoveredResult [] true).data) = true
  memory : validRecord (recordPayload (recordId "memory" (memoryId "attempt-a")) "memory"
    (memoryData failedAttempt (keptFeedback recoveredResult.feedback) [])) = true

lemma restartRecords : RestartRecords where
  run := validRecord_of (by rfl) (by decide +kernel) (by decide +kernel)
  attempt := validRecord_of (by rfl) (by decide +kernel) (by decide +kernel)
  task := validRecord_of (by rfl) (by decide +kernel) (by decide +kernel)
  memory := validRecord_of (by rfl) (by decide +kernel) (by decide +kernel)

/-- The process dies when the attempt is saved as failed and its task still runs. -/
lemma exists_halfFinished : ∃ t, researchSystem.Reachable ⟨t, none⟩ ∧
    Stocked sampleSupply [] 5 t ∧ Single t sampleTask.begun (some failedAttempt) := by
  obtain ⟨t, hreach, hstocked, hsingle⟩ := exists_sampleExecuting
  have hstage : Stage sampleSupply [] 4 ⟨t, sampleExecuting, rest sampleSupply 4⟩ := ⟨hstocked, rfl⟩
  have hsaves : (settleAttempt sampleAttempt (.returned lateResult)).Saves
      (fun u => Stage sampleSupply [] 5 u ∧ Single u.tables sampleTask.begun (some failedAttempt))
      ⟨t, sampleExecuting, rest sampleSupply 4⟩ := by
    unfold settleAttempt
    refine Stretch.Saves.bind ?_
    refine Stretch.Saves.tryCatch ?_
    refine Stretch.Saves.bind ?_
    exact (hstage.finishAttempt_saves supply_sample (by decide)
      (endable_sample hstocked hsingle)).1
  obtain ⟨u, hu, hstage', hsingle'⟩ := hsaves
  have hstep : ResearchStep ⟨t, some sampleExecuting⟩
      (.engine (.settle sampleAttempt (.returned lateResult)) (rest sampleSupply 4)) _ :=
    .engine rfl ⟨_, List.mem_singleton_self _, rfl, rfl⟩ (.died hu)
  exact ⟨u.tables, hreach.step hstep, hstage'.toStocked, hsingle'⟩

/-- Recovery saves the failed attempt as interrupted, and the task without the failure. -/
lemma recover_rewrites {s : EngineState} (h : Stage sampleSupply [] 6 s)
    (hsingle : Single s.tables sampleTask.begun (some failedAttempt)) :
    recover.Saves (fun u => Single u.tables (sampleTask.begun.finished recoveredResult [] true)
      (some (failedAttempt.finished recoveredResult [] true))) s := by
  unfold recover
  refine (meets_query_of (I := fun _ => True) (hsingle.attemptRecords_eq h.stored) ?_).bind_saves
  refine (meets_query_of (I := fun _ => True) (hsingle.taskRecords_eq h.stored) ?_).bind_saves
  refine Stretch.Saves.bind ?_
  have hlatest : latestAttempt [failedAttempt] sampleTask.begun.taskId = some failedAttempt := by
    rfl
  unfold recoverTask
  rw [hlatest]
  show (recoverAttempt sampleTask.begun failedAttempt).Saves _ s
  unfold recoverAttempt
  -- the round of the attempt is counted already
  have hcounted : { sampleTask.begun with
      rounds := max sampleTask.begun.rounds failedAttempt.round } = sampleTask.begun := by rfl
  rw [hcounted]
  have hvalid : validRecord (recordPayload (recordId "task" sampleTask.begun.taskId) "task"
      sampleTask.begun.data) = true := sampleRecords.begun
  have hrun : (none : Option String) ≠ some "" := by decide
  refine (h.meets_saveRecord supply_sample (by decide) hvalid (by rfl) (fun _ old hold => ?_) hrun
    fun u hengine hu hsaved => ?_).bind_saves
  · exact h.stored.keepsTarget_of_keeps hsingle.task_eq (.refl _) hold
  have hsingle' := hsingle.savedTask sampleTask.begun rfl hsaved
  have hverified := verifiedForWorker_sample hu.toStocked failedAttempt.runId failedAttempt.workerId
  refine (meets_query_of (I := fun _ => True) hverified ?_).bind_saves
  have hend : Endable u.tables sampleTask.begun failedAttempt recoveredResult true [] :=
    { single := hsingle'
      ofTask := ⟨rfl, rfl⟩
      verified := hverified
      trusted := nofun
      run := show "run-a" ≠ "" by decide
      validAttempt := restartRecords.attempt
      validTask := restartRecords.task
      validMemory := restartRecords.memory }
  exact (hu.finishAttempt_saves supply_sample (by decide) hend).2.mono fun w hw => hw.2

/-- A restart after the first of the two saves makes the failed round an interrupted one, whose
failure is never counted. -/
theorem finished_attempt_rewritten :
    ¬ ∀ (w w' : ResearchWorld) (actions : List ResearchAction), researchSystem.Reachable w →
      researchSystem.Run w actions w' → EndsKept w.tables w'.tables ∧ FailuresCounted w'.tables := by
  intro hclaim
  obtain ⟨t, hreach, hstocked, hsingle⟩ := exists_halfFinished
  have hfresh : FreshTokens t nextTokens := by
    refine ⟨fun m n hsame => ?_, fun n => ?_⟩
    · have hlength := congrArg (fun s => s.toList.length) hsame
      simp only [nextTokens, String.toList_ofList, List.length_replicate] at hlength
      omega
    · rw [hsingle.attempts]
      refine Option.filter_eq_none_iff.2 ?_
      have hne : failedAttempt.id ≠ "attempt-" ++ nextTokens n := by
        intro heq
        have hlist := congrArg (fun s => s.toList[8]?) (show "attempt-a" = _ from heq)
        simp [nextTokens, List.replicate_succ] at hlist
      rintro a ha
      obtain rfl := Option.some.inj ha
      simpa using hne
  have hstage : Stage sampleSupply [] 5 ⟨t, .initial nextConfig nextTokens, rest sampleSupply 5⟩ :=
    ⟨hstocked, rfl⟩
  have hsaves : startRun.Saves (fun u => Single u.tables
      (sampleTask.begun.finished recoveredResult [] true)
      (some (failedAttempt.finished recoveredResult [] true)))
      ⟨t, .initial nextConfig nextTokens, rest sampleSupply 5⟩ := by
    unfold startRun
    refine (meets_self (I := fun _ => True) ?_).bind_saves
    refine Stretch.Saves.bind ?_
    refine Stretch.Saves.tryCatch ?_
    have hrun : some nextConfig.runId ≠ some "" := by decide
    refine (hstage.meets_saveRecord supply_sample (by decide) restartRecords.run (by rfl) nofun
      hrun fun u hengine hu hsaved => ?_).bind_saves
    refine Stretch.Saves.bind ?_
    exact recover_rewrites hu (hsingle.savedOther (by decide) hsaved)
  obtain ⟨u, hu, hrewritten⟩ := hsaves
  have hstep : ResearchStep ⟨t, none⟩ (.start nextConfig nextTokens (rest sampleSupply 5)) _ :=
    .start hfresh (.died hu)
  obtain ⟨hkept, -⟩ := hclaim _ _ _ hreach (.single hstep)
  obtain ⟨a, ha, hstatus, -⟩ := hkept _ _ hsingle.attempt_eq (by decide)
  obtain rfl := Option.some.inj (hrewritten.attempt_eq.symm.trans ha)
  cases hstatus

end Aizim.Research
