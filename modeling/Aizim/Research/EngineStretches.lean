import Aizim.Research.StoreInvariant

/-!
# What the stretches of the engine save

`finishAttempt_meets`, `recover_meets` and `beginAttempt_meets`: what each stretch of the engine
leaves behind when it returns, when it raises, and when the process dies after any of its saves.
Every save is a move of the project, so the invariant of the store holds at each of them.
-/

namespace Aizim.Research

open Aizim.JsonValue Aizim.JsonObject State Orchestration

variable [CharacterDatabase] {s : EngineState}

/-! ## Single effects -/

section

variable {I : EngineState → Prop} {E : ResearchFailure → EngineState → Prop}

lemma meets_saveRecord {kind identity : String} {data : JsonObject} {runId : Option String}
    {Q : Unit → EngineState → Prop}
    (hok : ∀ t', Saved s.tables t' kind identity data →
      I { s.drawn with tables := t' } ∧ Q () { s.drawn with tables := t' })
    (herror : ∀ e, E e s) : (saveRecord kind identity data runId).Meets I Q E s := by
  refine Stretch.meets_save (fun s' a h => ?_) fun e _ => herror e
  simp only [bind_eq_ok, pure_eq_ok, Prod.exists, Prod.mk.injEq] at h
  obtain ⟨t', version, hsave, rfl, -⟩ := h
  exact hok t' (save_ok hsave)

omit [CharacterDatabase] in
lemma meets_query {α : Type} {f : Tables → Except ResearchFailure α} {Q : α → EngineState → Prop}
    (hok : ∀ a, f s.tables = .ok a → Q a s) (herror : ∀ e, E e s) : (query f).Meets I Q E s :=
  Stretch.meets_read hok fun e _ => herror e

omit [CharacterDatabase] in
lemma meets_self {Q : Engine → EngineState → Prop} (h : Q s.engine s) : self.Meets I Q E s := by
  refine Stretch.meets_read (fun a ha => ?_) fun e he => by cases he
  obtain rfl := Except.ok.inj ha
  exact h

omit [CharacterDatabase] in
lemma meets_modifyEngine {f : Engine → Engine} {Q : Unit → EngineState → Prop}
    (h : Q () { s with engine := f s.engine }) : (modifyEngine f).Meets I Q E s :=
  Stretch.meets_modify h

omit [CharacterDatabase] in
lemma meets_drawToken {Q : String → EngineState → Prop}
    (h : Q (s.engine.tokens 0)
      { s with engine := { s.engine with tokens := fun n => s.engine.tokens (n + 1) } }) :
    drawToken.Meets I Q E s :=
  (meets_self (meets_modifyEngine (Stretch.meets_pure h)).bind).bind

end

/-! ## Finishing an attempt -/

/-- What `_finish` needs: the attempt as it was recorded, of a task that is not verified, and no
other attempt of the task that is running. -/
structure Finishable (t : Tables) (attempt : Attempt) (task : Task) : Prop where
  found : attemptAt t attempt.id = some attempt
  ofTask : taskAt t attempt.taskId = some task
  unverified : task.status ≠ .verified
  counted : attempt.round ≤ task.rounds
  others : ∀ id other, attemptAt t id = some other → other.taskId = attempt.taskId →
    other.status = .running → id = attempt.id

/-- The store after part of a stretch about one attempt of one task. -/
structure Progress (t : Tables) (attemptId taskId : String) (u : Tables) : Prop where
  store : StoreInvariant u
  grows : Grows (viewOf t) (viewOf u)
  attempts : ∀ id, id ≠ attemptId → attemptAt u id = attemptAt t id
  tasks : ∀ id, id ≠ taskId → taskAt u id = taskAt t id
  evidence : evidenceOf u.toEventLog = evidenceOf t.toEventLog

lemma Progress.refl {t : Tables} (h : StoreInvariant t) (attemptId taskId : String) :
    Progress t attemptId taskId t :=
  ⟨h, .refl _, fun _ _ => rfl, fun _ _ => rfl, rfl⟩

lemma Progress.trans {t u w : Tables} {attemptId taskId : String}
    (h : Progress t attemptId taskId u) (h' : Progress u attemptId taskId w) :
    Progress t attemptId taskId w where
  store := h'.store
  grows := h.grows.trans h'.grows
  attempts := fun id hid => (h'.attempts id hid).trans (h.attempts id hid)
  tasks := fun id hid => (h'.tasks id hid).trans (h.tasks id hid)
  evidence := h'.evidence.trans h.evidence

section

variable {t t' : Tables} {attemptId taskId : String}

/-- Saving the attempt. -/
lemma Progress.of_attempt (h : StoreInvariant t) {attempt : Attempt}
    (hsaved : Saved t t' "attempt" attempt.id attempt.data)
    (hmove : ResearchMove (viewOf t) ((viewOf t).setAttempt attempt)) (taskId : String) :
    Progress t attempt.id taskId t' ∧ viewOf t' = (viewOf t).setAttempt attempt := by
  have hview := hsaved.viewOf_attempt h.log
  obtain ⟨hstore, hgrows⟩ := h.saved hsaved (Or.inr (hview ▸ hmove))
  refine ⟨⟨hstore, hgrows, fun id hid => ?_, fun id _ => ?_, hsaved.evidenceOf_eq h.log⟩, hview⟩
  · rw [hsaved.attemptAt_eq, Function.update_of_ne hid]
  · rw [hsaved.taskAt_of_ne (by decide)]

/-- Saving the task. -/
lemma Progress.of_task (h : StoreInvariant t) {task : Task}
    (hsaved : Saved t t' "task" task.taskId task.data)
    (hmove : ResearchMove (viewOf t) ((viewOf t).setTask task)) (attemptId : String) :
    Progress t attemptId task.taskId t' ∧ viewOf t' = (viewOf t).setTask task := by
  have hview := hsaved.viewOf_task h.log
  obtain ⟨hstore, hgrows⟩ := h.saved hsaved (Or.inr (hview ▸ hmove))
  refine ⟨⟨hstore, hgrows, fun id _ => ?_, fun id hid => ?_, hsaved.evidenceOf_eq h.log⟩, hview⟩
  · rw [hsaved.attemptAt_of_ne (by decide)]
  · rw [hsaved.taskAt_eq, Function.update_of_ne hid]

/-- Saving a record of another kind. -/
lemma Progress.of_other (h : StoreInvariant t) {kind identity : String} {data : JsonObject}
    (hsaved : Saved t t' kind identity data) (htask : kind ≠ "task") (hattempt : kind ≠ "attempt")
    (attemptId taskId : String) :
    Progress t attemptId taskId t' ∧ viewOf t' = viewOf t := by
  have hview := hsaved.viewOf_of_ne h.log htask hattempt
  obtain ⟨hstore, hgrows⟩ := h.saved hsaved (Or.inl hview)
  refine ⟨⟨hstore, hgrows, fun id _ => ?_, fun id _ => ?_, hsaved.evidenceOf_eq h.log⟩, hview⟩
  · rw [hsaved.attemptAt_of_ne hattempt]
  · rw [hsaved.taskAt_of_ne htask]

end

/-- What `_finish` leaves when it returns. -/
structure Finished (t : Tables) (attempt : Attempt) (task : Task) (result : AttemptResult)
    (interrupted : Bool) (u : Tables) : Prop where
  progress : Progress t attempt.id attempt.taskId u
  ended : ∃ accepted, (accepted ≠ [] ↔ PublishedIn t.toEventLog attempt.runId attempt.workerId) ∧
    attemptAt u attempt.id = some (attempt.finished result accepted interrupted) ∧
    taskAt u attempt.taskId = some (task.finished result accepted interrupted)

omit [CharacterDatabase] in
lemma finished_status (attempt : Attempt) (result : AttemptResult) (accepted : List String)
    (interrupted : Bool) :
    (attempt.finished result accepted interrupted).status ≠ .running ∧
      ((attempt.finished result accepted interrupted).status = .verified ↔ accepted ≠ []) := by
  cases accepted <;> cases interrupted <;>
    simp [Attempt.finished, finalStatus]

omit [CharacterDatabase] in
lemma task_finished_status (task : Task) (result : AttemptResult) (accepted : List String)
    (interrupted : Bool) :
    (task.finished result accepted interrupted).status ≠ .running ∧
      ((task.finished result accepted interrupted).status = .verified ↔ accepted ≠ []) := by
  cases accepted with
  | cons head tail => simp [Task.finished, statusAfterAttempt]
  | nil =>
    simp only [Task.finished, statusAfterAttempt, List.isEmpty_nil, Bool.not_true,
      Bool.false_eq_true, if_false, ne_eq, not_true_eq_false, iff_false]
    split <;> exact ⟨by decide, by decide⟩

omit [CharacterDatabase] in
lemma attempt_keeps_finished (attempt : Attempt) (result : AttemptResult)
    (accepted : List String) (interrupted : Bool) :
    attempt.Keeps (attempt.finished result accepted interrupted) :=
  ⟨rfl, rfl, rfl, rfl, rfl⟩

omit [CharacterDatabase] in
lemma task_keeps_finished (task : Task) (result : AttemptResult) (accepted : List String)
    (interrupted : Bool) : task.Keeps (task.finished result accepted interrupted) :=
  ⟨rfl, rfl, rfl, rfl, rfl, rfl, rfl, rfl⟩

/-- After the attempt has ended, its task is settled. -/
lemma settled_of_ended {t : Tables} {attempt attempt' : Attempt} {task : Task}
    (h : StoreInvariant t) (hf : Finishable t attempt task) (hkeeps : attempt.Keeps attempt')
    (hended : attempt'.status ≠ .running) : ((viewOf t).setAttempt attempt').Settled task := by
  have htask : task.taskId = attempt.taskId := h.project.taskNamed _ task hf.ofTask
  intro id other hother hsame
  rw [ResearchView.attempts_setAttempt, hkeeps.id] at hother
  by_cases hid : id = attempt.id
  · rw [if_pos hid] at hother
    obtain rfl := Option.some.inj hother
    rw [hkeeps.round]
    exact ⟨hended, hf.counted⟩
  · rw [if_neg hid] at hother
    have hnot : other.status ≠ .running := fun hrunning =>
      hid (hf.others id other hother (hsame.trans htask) hrunning)
    refine ⟨hnot, ?_⟩
    rcases h.project.counted id other task hother (by rw [hsame, htask]; exact hf.ofTask) with
      hle | ⟨hrunning, -⟩
    · exact hle
    · exact absurd hrunning hnot

/-- **`_finish`.** -/
lemma finishAttempt_meets {attempt : Attempt} {task : Task} {result : AttemptResult}
    {interrupted : Bool} (h : StoreInvariant s.tables) (hf : Finishable s.tables attempt task) :
    (finishAttempt attempt result interrupted).Meets
      (fun u => Progress s.tables attempt.id attempt.taskId u.tables)
      (fun _ u => u.engine = s.engine ∧
        Finished s.tables attempt task result interrupted u.tables)
      (fun _ u => u.engine = s.engine ∧ Progress s.tables attempt.id attempt.taskId u.tables) s := by
  have htask : task.taskId = attempt.taskId := h.project.taskNamed _ task hf.ofTask
  have hstart := Progress.refl h attempt.id attempt.taskId
  unfold finishAttempt
  refine (meets_query (fun task' hrequire => ?_) fun e => ⟨rfl, hstart⟩).bind
  obtain rfl := Option.some.inj (hf.ofTask.symm.trans (requireTask_ok hrequire))
  refine (meets_query (fun accepted hread => ?_) fun e => ⟨rfl, hstart⟩).bind
  simp only [bind_eq_ok, require_eq_ok, pure_eq_ok, exists_and_left, exists_const] at hread
  obtain ⟨-, accepted', hverified, -, rfl⟩ := hread
  have hevidence := verifiedForWorker_ok h.log hverified
  obtain ⟨hended, hsound⟩ := finished_status attempt result accepted' interrupted
  have hkeeps := attempt_keeps_finished attempt result accepted' interrupted
  have hmove : ResearchMove (viewOf s.tables)
      ((viewOf s.tables).setAttempt (attempt.finished result accepted' interrupted)) :=
    .endAttempt hf.found hkeeps hf.ofTask hf.unverified hf.counted hf.others hended
      fun hv => hevidence.1 (hsound.1 hv)
  refine (meets_saveRecord (fun t₁ hsaved => ?_) fun e => ⟨rfl, hstart⟩).bind
  obtain ⟨hfirst, hview⟩ := Progress.of_attempt h hsaved hmove attempt.taskId
  refine ⟨hfirst, ?_⟩
  have hfound : (viewOf t₁).tasks task.taskId = some task := by
    rw [hview, htask]
    exact hf.ofTask
  obtain ⟨-, hsound'⟩ := task_finished_status task result accepted' interrupted
  have hkeeps' := task_keeps_finished task result accepted' interrupted
  have hmove' : ResearchMove (viewOf t₁)
      ((viewOf t₁).setTask (task.finished result accepted' interrupted)) := by
    refine .endTask hfound hkeeps' hf.unverified rfl ?_ fun hv => ?_
    · rw [hview]
      exact settled_of_ended h hf hkeeps hended
    · refine ⟨attempt.id, attempt.finished result accepted' interrupted, ?_, htask.symm,
        hsound.2 (hsound'.1 hv)⟩
      rw [hview]
      exact (ResearchView.attempts_setAttempt ..).trans (if_pos rfl)
  refine (meets_saveRecord (fun t₂ hsaved' => ?_) fun e => ⟨rfl, hfirst⟩).bind
  have hsaved' : Saved t₁ t₂ "task" (task.finished result accepted' interrupted).taskId
      (task.finished result accepted' interrupted).data := by
    rw [hkeeps'.taskId, htask]
    exact hsaved'
  obtain ⟨hsecond, hview'⟩ := Progress.of_task hfirst.store hsaved' hmove' attempt.id
  rw [hkeeps'.taskId, htask] at hsecond
  have hboth := hfirst.trans hsecond
  refine ⟨hboth, ?_⟩
  have hdone : Finished s.tables attempt task result interrupted t₂ := by
    refine ⟨hboth, accepted', hevidence, ?_, ?_⟩
    · have hattempts : (viewOf t₂).attempts attempt.id =
          some (attempt.finished result accepted' interrupted) := by
        rw [hview', hview]
        exact (ResearchView.attempts_setAttempt ..).trans (if_pos rfl)
      exact hattempts
    · have htasks : (viewOf t₂).tasks attempt.taskId =
          some (task.finished result accepted' interrupted) := by
        rw [hview', ← htask]
        exact (ResearchView.tasks_setTask ..).trans (if_pos rfl)
      exact htasks
  refine (meets_query (fun memory _ => ?_) fun e => ⟨rfl, hboth⟩).bind
  split
  · refine meets_saveRecord (fun t₃ hsaved'' => ?_) fun e => ⟨rfl, hboth⟩
    obtain ⟨hthird, hview''⟩ := Progress.of_other hboth.store hsaved'' (by decide) (by decide)
      attempt.id attempt.taskId
    refine ⟨hboth.trans hthird, rfl, hboth.trans hthird, ?_⟩
    have hattempts := congrFun (congrArg ResearchView.attempts hview'') attempt.id
    have htasks := congrFun (congrArg ResearchView.tasks hview'') attempt.taskId
    obtain ⟨accepted, haccepted, hattempt, htask'⟩ := hdone.ended
    exact ⟨accepted, haccepted, hattempts.trans hattempt, htasks.trans htask'⟩
  · exact Stretch.meets_pure ⟨rfl, hdone⟩


/-! ## Recovery -/

/-- The attempt has the latest round of the task. -/
structure IsLatest (t : Tables) (taskId : String) (attempt : Attempt) : Prop where
  found : attemptAt t attempt.id = some attempt
  ofTask : attempt.taskId = taskId
  latest : ∀ id other, attemptAt t id = some other → other.taskId = taskId →
    other.round ≤ attempt.round

omit [CharacterDatabase] in
lemma isLatest_of_latestAttempt {t : Tables} {attempts : List Attempt} {taskId : String}
    {attempt : Attempt} (hmem : ∀ a, a ∈ attempts ↔ attemptAt t a.id = some a)
    (hnamed : ∀ id a, attemptAt t id = some a → a.id = id)
    (h : latestAttempt attempts taskId = some attempt) : IsLatest t taskId attempt := by
  have hin := List.mem_filter.1 (List.argmax_mem h)
  refine ⟨(hmem attempt).1 hin.1, by simpa using hin.2, fun id other hother hsame => ?_⟩
  refine List.le_of_mem_argmax (List.mem_filter.2 ⟨(hmem other).2 ?_, by simpa using hsame⟩) h
  rw [hnamed id other hother]
  exact hother

omit [CharacterDatabase] in
lemma no_attempt_of_latestAttempt {t : Tables} {attempts : List Attempt} {taskId : String}
    (hmem : ∀ a, a ∈ attempts ↔ attemptAt t a.id = some a)
    (hnamed : ∀ id a, attemptAt t id = some a → a.id = id)
    (h : latestAttempt attempts taskId = none) (id : String) (a : Attempt)
    (ha : attemptAt t id = some a) : a.taskId ≠ taskId := by
  intro hsame
  have hnil := List.argmax_eq_none.1 h
  have hin : a ∈ attempts.filter fun attempt => attempt.taskId = taskId := by
    refine List.mem_filter.2 ⟨(hmem a).2 ?_, by simpa using hsame⟩
    rw [hnamed id a ha]
    exact ha
  rw [hnil] at hin
  cases hin

/-- A task has one latest attempt. -/
lemma IsLatest.unique {t : Tables} (h : StoreInvariant t) {taskId : String} {a b : Attempt}
    (ha : IsLatest t taskId a) (hb : IsLatest t taskId b) : a = b := by
  have hround : a.round = b.round :=
    le_antisymm (hb.latest _ a ha.found ha.ofTask) (ha.latest _ b hb.found hb.ofTask)
  have hid := h.project.distinct _ _ a b ha.found hb.found (ha.ofTask.trans hb.ofTask.symm) hround
  have hfound := hb.found
  rw [← hid, ha.found] at hfound
  exact Option.some.inj hfound

/-- A running attempt is the latest of its task. -/
lemma isLatest_of_running {t : Tables} (h : StoreInvariant t) {id : String} {a : Attempt}
    (ha : attemptAt t id = some a) (hrunning : a.status = .running) :
    IsLatest t a.taskId a where
  found := by
    rw [h.project.attemptNamed id a ha]
    exact ha
  ofTask := rfl
  latest := fun j b hb hsame => h.project.latest id j a b ha hb hsame.symm hrunning

/-- The store after part of a stretch about one task. -/
structure TaskProgress (t : Tables) (taskId : String) (u : Tables) : Prop where
  store : StoreInvariant u
  grows : Grows (viewOf t) (viewOf u)
  attempts : ∀ id, (∀ a, attemptAt t id = some a → a.taskId ≠ taskId) →
    attemptAt u id = attemptAt t id
  tasks : ∀ id, id ≠ taskId → taskAt u id = taskAt t id
  evidence : evidenceOf u.toEventLog = evidenceOf t.toEventLog

lemma Progress.taskProgress {t u : Tables} {attempt : Attempt} {taskId : String}
    (h : Progress t attempt.id taskId u) (hfound : attemptAt t attempt.id = some attempt)
    (htask : attempt.taskId = taskId) : TaskProgress t taskId u where
  store := h.store
  grows := h.grows
  attempts := by
    intro id hid
    refine h.attempts id fun heq => ?_
    subst heq
    exact hid attempt hfound htask
  tasks := h.tasks
  evidence := h.evidence

/-- The latest attempt of the task was published, and it or its task was left running. -/
def Recoverable (t : Tables) (task : Task) : Prop :=
  ∃ attempt, IsLatest t task.taskId attempt ∧
    (attempt.status = .running ∨ task.status = .running) ∧
    PublishedIn t.toEventLog attempt.runId attempt.workerId

/-- What recovery leaves of a task. -/
def Recovered (t : Tables) (task : Task) (u : Tables) : Prop :=
  ∃ task', taskAt u task.taskId = some task' ∧ (viewOf u).Settled task' ∧
    (task'.status = .verified ↔ task.status = .verified ∨ Recoverable t task)

/-- A task that recovery leaves as it is. -/
lemma recovered_self {task : Task} {t : Tables} (h : StoreInvariant t)
    (htask : taskAt t task.taskId = some task)
    (hidle : ∀ a, IsLatest t task.taskId a → a.status ≠ .running ∧ task.status ≠ .running) :
    Recovered t task t := by
  refine ⟨task, htask, fun id a ha hsame => ?_, ?_⟩
  · have hnot : a.status ≠ .running := by
      intro hrunning
      have hlatest := isLatest_of_running h ha hrunning
      exact (hidle a ⟨hlatest.found, hsame, fun j b hb hb' =>
        hlatest.latest j b hb (hb'.trans hsame.symm)⟩).1 hrunning
    refine ⟨hnot, ?_⟩
    rcases h.project.counted id a task ha (hsame ▸ htask) with hle | ⟨hrunning, -⟩
    · exact hle
    · exact absurd hrunning hnot
  · constructor
    · exact Or.inl
    · rintro (hv | ⟨a, hlatest, hrunning, -⟩)
      · exact hv
      · exfalso
        obtain ⟨hnot, hnot'⟩ := hidle a hlatest
        rcases hrunning with hr | hr
        · exact hnot hr
        · exact hnot' hr

/-- The task with the round of its latest attempt counted. -/
def Task.countRound (task : Task) (attempt : Attempt) : Task :=
  { task with rounds := max task.rounds attempt.round }

/-- What `recover` finds of a task that it settles. -/
structure Unsettled (t : Tables) (task : Task) (attempt : Attempt) : Prop where
  ofTask : taskAt t task.taskId = some task
  latest : IsLatest t task.taskId attempt
  running : attempt.status = .running ∨ task.status = .running

section

variable {t : Tables} {task : Task} {attempt : Attempt} (hu : Unsettled t task attempt)
include hu

lemma Unsettled.unverified (h : StoreInvariant t) : task.status ≠ .verified := by
  intro hv
  rcases hu.running with hr | hr
  · exact (h.project.settled _ task hu.ofTask hv _ attempt hu.latest.found hu.latest.ofTask).1 hr
  · rw [hr] at hv
    cases hv

/-- No other attempt of the task is running. -/
lemma Unsettled.others (h : StoreInvariant t) : ∀ id other, attemptAt t id = some other →
    other.taskId = attempt.taskId → other.status = .running → id = attempt.id := by
  intro id other hother hsame hr
  have hother' := isLatest_of_running h hother hr
  rw [hsame, hu.latest.ofTask] at hother'
  rw [← h.project.attemptNamed id other hother, hother'.unique h hu.latest]

/-- After the round has been counted the attempt can be finished. -/
lemma Unsettled.counted (h : StoreInvariant t) {t₁ : Tables}
    (hsaved : Saved t t₁ "task" task.taskId (task.countRound attempt).data) :
    Progress t attempt.id task.taskId t₁ ∧ attemptAt t₁ = attemptAt t ∧
      Finishable t₁ attempt (task.countRound attempt) := by
  have hmove : ResearchMove (viewOf t) ((viewOf t).setTask (task.countRound attempt)) :=
    .countRound hu.ofTask ⟨rfl, rfl, rfl, rfl, rfl, rfl, rfl, rfl⟩ (hu.unverified h) (Or.inl rfl)
      (le_max_left _ _) fun id a ha hsame =>
        (hu.latest.latest id a ha hsame).trans (le_max_right _ _)
  obtain ⟨hfirst, hview⟩ := Progress.of_task h hsaved hmove attempt.id
  have hattempts : attemptAt t₁ = attemptAt t := congrArg ResearchView.attempts hview
  have htask₁ : taskAt t₁ task.taskId = some (task.countRound attempt) := by
    have hread := congrFun (congrArg ResearchView.tasks hview) task.taskId
    exact hread.trans ((ResearchView.tasks_setTask ..).trans (if_pos rfl))
  exact ⟨hfirst, hattempts, hattempts ▸ hu.latest.found, hu.latest.ofTask ▸ htask₁,
    hu.unverified h, le_max_right _ _, hattempts ▸ hu.others h⟩

end

/-- **`recover` for an attempt that did not end.** -/
lemma recoverAttempt_meets {task : Task} {attempt : Attempt} (h : StoreInvariant s.tables)
    (hunsettled : Unsettled s.tables task attempt) :
    (recoverAttempt task attempt).Meets
      (fun u => TaskProgress s.tables task.taskId u.tables)
      (fun _ u => u.engine = s.engine ∧ TaskProgress s.tables task.taskId u.tables ∧
        Recovered s.tables task u.tables)
      (fun _ u => u.engine = s.engine ∧ TaskProgress s.tables task.taskId u.tables) s := by
  have hlatest := hunsettled.latest
  have hunverified := hunsettled.unverified h
  have honly := hunsettled.others h
  have hstart := (Progress.refl h attempt.id task.taskId).taskProgress hlatest.found hlatest.ofTask
  unfold recoverAttempt
  refine (meets_saveRecord (fun t₁ hsaved => ?_) fun e => ⟨rfl, hstart⟩).bind
  obtain ⟨hfirst, hattempts, hfinishable⟩ := hunsettled.counted h hsaved
  have hfirst' := hfirst.taskProgress hlatest.found hlatest.ofTask
  refine ⟨hfirst', ?_⟩
  refine (meets_query (fun accepted _ => ?_) fun e => ⟨rfl, hfirst'⟩).bind
  have hweaken : ∀ u, Progress t₁ attempt.id attempt.taskId u →
      TaskProgress s.tables task.taskId u := by
    intro u hu
    rw [hlatest.ofTask] at hu
    exact (hfirst.trans hu).taskProgress hlatest.found hlatest.ofTask
  refine (finishAttempt_meets hfirst.store hfinishable).mono (fun u hu => hweaken u.tables hu)
    (fun _ u hu => ?_) fun _ u hu => ⟨hu.1, hweaken u.tables hu.2⟩
  obtain ⟨hengine, hfinished⟩ := hu
  obtain ⟨accepted', hevidence, hended, htask'⟩ := hfinished.ended
  refine ⟨hengine, hweaken u.tables hfinished.progress, _, hlatest.ofTask ▸ htask', ?_, ?_⟩
  · intro id other hother hsame
    have hsame : other.taskId = attempt.taskId := hsame.trans hlatest.ofTask.symm
    by_cases hid : id = attempt.id
    · subst hid
      obtain rfl := Option.some.inj (hended.symm.trans hother)
      exact ⟨(finished_status attempt _ accepted' _).1, le_max_right _ _⟩
    · have hold : attemptAt s.tables id = some other := by
        rw [← hattempts, ← hfinished.progress.attempts id hid]
        exact hother
      have hnot : other.status ≠ .running := fun hr => hid (honly id other hold hsame hr)
      refine ⟨hnot, ?_⟩
      exact (hlatest.latest id other hold (hsame.trans hlatest.ofTask)).trans (le_max_right _ _)
  · rw [(task_finished_status (task.countRound attempt) _ accepted' _).2, hevidence,
      publishedIn_of_evidence hfirst.evidence]
    constructor
    · exact fun hpublished => Or.inr ⟨attempt, hlatest, hunsettled.running, hpublished⟩
    · rintro (hv | ⟨other, hother, -, hpublished⟩)
      · exact absurd hv hunverified
      · rwa [hother.unique h hlatest] at hpublished

/-- **`recover` for one task.** -/
lemma recoverTask_meets {task : Task} {attempts : List Attempt} (h : StoreInvariant s.tables)
    (htask : taskAt s.tables task.taskId = some task)
    (hsome : ∀ a, latestAttempt attempts task.taskId = some a → IsLatest s.tables task.taskId a)
    (hnone : latestAttempt attempts task.taskId = none →
      ∀ id a, attemptAt s.tables id = some a → a.taskId ≠ task.taskId) :
    (recoverTask attempts task).Meets
      (fun u => TaskProgress s.tables task.taskId u.tables)
      (fun _ u => u.engine = s.engine ∧ TaskProgress s.tables task.taskId u.tables ∧
        Recovered s.tables task u.tables)
      (fun _ u => u.engine = s.engine ∧ TaskProgress s.tables task.taskId u.tables) s := by
  have hstart : TaskProgress s.tables task.taskId s.tables :=
    ⟨h, .refl _, fun _ _ => rfl, fun _ _ => rfl, rfl⟩
  unfold recoverTask
  cases hlatest : latestAttempt attempts task.taskId with
  | none =>
    refine Stretch.meets_pure ⟨rfl, hstart, recovered_self h htask fun a ha => ?_⟩
    exact absurd ha.ofTask (hnone hlatest _ a ha.found)
  | some attempt =>
    have hattempt := hsome attempt hlatest
    show Stretch.Meets (if _ then _ else _) _ _ _ _
    split
    · rename_i hidle
      refine Stretch.meets_pure ⟨rfl, hstart, recovered_self h htask fun a ha => ?_⟩
      rwa [ha.unique h hattempt]
    · rename_i hbusy
      refine recoverAttempt_meets h ⟨htask, hattempt, ?_⟩
      by_contra hidle
      rw [not_or] at hidle
      exact hbusy hidle


/-- The store in the loop of `recover`: the tasks that were passed are recovered, and the others and
their attempts are as they were. -/
structure RecoverLoop (t : Tables) (passed : List Task) (u : Tables) : Prop where
  store : StoreInvariant u
  grows : Grows (viewOf t) (viewOf u)
  attempts : ∀ id, (∀ a, attemptAt t id = some a → ∀ p ∈ passed, a.taskId ≠ p.taskId) →
    attemptAt u id = attemptAt t id
  tasks : ∀ id, (∀ p ∈ passed, id ≠ p.taskId) → taskAt u id = taskAt t id
  evidence : evidenceOf u.toEventLog = evidenceOf t.toEventLog
  recovered : ∀ p ∈ passed, Recovered t p u

/-- The attempts of a task that was not passed are as they were. -/
lemma RecoverLoop.attempt_iff {t u : Tables} {passed : List Task} (h : RecoverLoop t passed u)
    {taskId : String} (hnew : ∀ p ∈ passed, taskId ≠ p.taskId) {id : String} {a : Attempt}
    (ha : a.taskId = taskId) : attemptAt u id = some a ↔ attemptAt t id = some a := by
  cases hid : attemptAt t id with
  | none =>
    have hsame := h.attempts id fun b hb => by
      rw [hid] at hb
      cases hb
    rw [hsame, hid]
  | some b =>
    constructor
    · intro hu
      obtain ⟨b', hb', hkeeps⟩ := h.grows.attempts id b hid
      obtain rfl := Option.some.inj (hu.symm.trans hb')
      have hsame := h.attempts id fun c hc p hp => by
        obtain rfl := Option.some.inj (hid.symm.trans hc)
        rw [← hkeeps.taskId, ha]
        exact hnew p hp
      rw [← hid, ← hsame]
      exact hu
    · intro hb
      obtain rfl := Option.some.inj hb
      have hsame := h.attempts id fun c hc p hp => by
        obtain rfl := Option.some.inj (hid.symm.trans hc)
        rw [ha]
        exact hnew p hp
      rw [hsame, hid]

lemma RecoverLoop.isLatest_iff {t u : Tables} {passed : List Task} (h : RecoverLoop t passed u)
    {taskId : String} (hnew : ∀ p ∈ passed, taskId ≠ p.taskId) {a : Attempt} :
    IsLatest u taskId a ↔ IsLatest t taskId a := by
  constructor
  · rintro ⟨hfound, hof, hlatest⟩
    exact ⟨(h.attempt_iff hnew hof).1 hfound, hof,
      fun id b hb hsame => hlatest id b ((h.attempt_iff hnew hsame).2 hb) hsame⟩
  · rintro ⟨hfound, hof, hlatest⟩
    exact ⟨(h.attempt_iff hnew hof).2 hfound, hof,
      fun id b hb hsame => hlatest id b ((h.attempt_iff hnew hsame).1 hb) hsame⟩

/-- One more task is recovered. -/
lemma RecoverLoop.step {t u w : Tables} {passed : List Task} {task : Task}
    (h : RecoverLoop t passed u) (hnew : ∀ p ∈ passed, task.taskId ≠ p.taskId)
    (hprogress : TaskProgress u task.taskId w) (hrecovered : Recovered u task w) :
    RecoverLoop t (passed ++ [task]) w := by
  have hlast : task ∈ passed ++ [task] := List.mem_append_right _ (List.mem_singleton_self task)
  refine
    { store := hprogress.store
      grows := h.grows.trans hprogress.grows
      attempts := fun id hid => ?_
      tasks := fun id hid => ?_
      evidence := hprogress.evidence.trans h.evidence
      recovered := fun p hp => ?_ }
  · have hsame := h.attempts id fun a ha p hp => hid a ha p (List.mem_append_left _ hp)
    rw [← hsame]
    refine hprogress.attempts id fun a ha => hid a (hsame ▸ ha) task hlast
  · rw [hprogress.tasks id (hid task hlast)]
    exact h.tasks id fun p hp => hid p (List.mem_append_left _ hp)
  · rcases List.mem_append.1 hp with hp | hp
    · obtain ⟨p', hp', hsettled, hiff⟩ := h.recovered p hp
      refine ⟨p', ?_, fun id a ha hsame => ?_, hiff⟩
      · rw [hprogress.tasks p.taskId fun heq => hnew p hp heq.symm]
        exact hp'
      · have hpid : p'.taskId = p.taskId := h.store.project.taskNamed _ p' hp'
        refine hsettled id a ?_ hsame
        have hsame' := hprogress.attempts id fun b hb hother => by
          obtain ⟨a', ha', hkeeps⟩ := hprogress.grows.attempts id b hb
          obtain rfl := Option.some.inj (ha.symm.trans ha')
          refine hnew p hp ?_
          rw [← hother, ← hkeeps.taskId, hsame, hpid]
        exact hsame'.symm.trans ha
    · obtain rfl := List.mem_singleton.1 hp
      obtain ⟨p', hp', hsettled, hiff⟩ := hrecovered
      refine ⟨p', hp', hsettled, hiff.trans ?_⟩
      unfold Recoverable
      simp only [h.isLatest_iff hnew, publishedIn_of_evidence h.evidence]

/-- What `recover` leaves when it raises. -/
structure RecoveredSome (t u : Tables) : Prop where
  store : StoreInvariant u
  grows : Grows (viewOf t) (viewOf u)
  attempts : ∀ id, attemptAt t id = none → attemptAt u id = none

/-- What `recover` leaves when it returns. -/
structure RecoveredAll (t u : Tables) : Prop extends RecoveredSome t u where
  tasks : ∀ id, taskAt t id = none → taskAt u id = none
  evidence : evidenceOf u.toEventLog = evidenceOf t.toEventLog
  recovered : ∀ id task, taskAt t id = some task → Recovered t task u

/-- The attempts that `recover` read tell the latest attempt of the task. -/
structure ReadsLatest (t : Tables) (attempts : List Attempt) (taskId : String) : Prop where
  latest : ∀ a, latestAttempt attempts taskId = some a → IsLatest t taskId a
  unbegun : latestAttempt attempts taskId = none →
    ∀ id a, attemptAt t id = some a → a.taskId ≠ taskId

/-- **`recover`**, with anything else that the recovery of each task keeps. -/
lemma recover_keeps {R : Tables → Prop} (h : StoreInvariant s.tables) (hstart : R s.tables)
    (hstep : ∀ attempts passed task u, RecoverLoop s.tables passed u.tables →
      (∀ p ∈ passed, task.taskId ≠ p.taskId) → taskAt u.tables task.taskId = some task →
      ReadsLatest u.tables attempts task.taskId → R u.tables →
      (recoverTask attempts task).Meets (fun w => R w.tables) (fun _ w => R w.tables)
        (fun _ w => R w.tables) u) :
    recover.Meets
      (fun u => (StoreInvariant u.tables ∧ Grows (viewOf s.tables) (viewOf u.tables)) ∧ R u.tables)
      (fun _ u => (u.engine = s.engine ∧ RecoveredAll s.tables u.tables) ∧ R u.tables)
      (fun _ u => (u.engine = s.engine ∧ RecoveredSome s.tables u.tables) ∧ R u.tables) s := by
  have hnothing : RecoveredSome s.tables s.tables := ⟨h, .refl _, fun _ hid => hid⟩
  obtain ⟨attempts, hattempts, -, hmem⟩ := h.stored.exists_attemptRecords
  obtain ⟨tasks, htasks, hnodup, htask⟩ := h.stored.exists_taskRecords
  have hnamed := h.project.attemptNamed
  unfold recover
  refine (meets_query (fun attempts' hok => ?_) fun e => ⟨⟨rfl, hnothing⟩, hstart⟩).bind
  obtain rfl := Except.ok.inj (hattempts.symm.trans hok)
  refine (meets_query (fun tasks' hok' => ?_) fun e => ⟨⟨rfl, hnothing⟩, hstart⟩).bind
  obtain rfl := Except.ok.inj (htasks.symm.trans hok')
  have hloop : (Stretch.forEach (recoverTask attempts) tasks).Meets
      (fun u => (StoreInvariant u.tables ∧ Grows (viewOf s.tables) (viewOf u.tables)) ∧ R u.tables)
      (fun _ u => (u.engine = s.engine ∧ RecoverLoop s.tables tasks u.tables) ∧ R u.tables)
      (fun _ u => (u.engine = s.engine ∧ RecoveredSome s.tables u.tables) ∧ R u.tables) s := by
    refine Stretch.meets_forEach
      (fun passed (u : EngineState) =>
        (u.engine = s.engine ∧ RecoverLoop s.tables passed u.tables) ∧ R u.tables)
      (fun passed task rest hsplit u hu => ?_)
      ⟨⟨rfl, h, .refl _, fun _ _ => rfl, fun _ _ => rfl, rfl, fun p hp => by cases hp⟩, hstart⟩
    obtain ⟨⟨hengine, hu⟩, hr⟩ := hu
    have hin : task ∈ tasks := by
      rw [hsplit]
      exact List.mem_append_right _ List.mem_cons_self
    have hnew : ∀ p ∈ passed, task.taskId ≠ p.taskId := by
      intro p hp heq
      rw [hsplit, List.map_append, List.map_cons] at hnodup
      have hdisjoint := (List.nodup_append.1 hnodup).2.2
      exact hdisjoint p.taskId (List.mem_map_of_mem hp) task.taskId List.mem_cons_self heq.symm
    have hfound : taskAt u.tables task.taskId = some task := by
      rw [hu.tasks task.taskId hnew]
      exact (htask task).1 hin
    have hreads : ReadsLatest u.tables attempts task.taskId := by
      refine ⟨fun a ha => ?_, fun hnone id a ha hof => ?_⟩
      · exact (hu.isLatest_iff hnew).2 (isLatest_of_latestAttempt hmem hnamed ha)
      · exact no_attempt_of_latestAttempt hmem hnamed hnone id a
          ((hu.attempt_iff hnew hof).1 ha) hof
    refine ((recoverTask_meets hu.store hfound hreads.latest hreads.unbegun).and
      (hstep attempts passed task u hu hnew hfound hreads hr)).mono
      (fun w hw => ⟨⟨hw.1.store, hu.grows.trans hw.1.grows⟩, hw.2⟩) (fun _ w hw => ?_)
      fun _ w hw => ?_
    · exact ⟨⟨hw.1.1.trans hengine, hu.step hnew hw.1.2.1 hw.1.2.2⟩, hw.2⟩
    · refine ⟨⟨hw.1.1.trans hengine, hw.1.2.store, hu.grows.trans hw.1.2.grows, fun id hid => ?_⟩,
        hw.2⟩
      have hsame := (hu.attempts id fun a ha => absurd (hid.symm.trans ha) (by simp)).trans hid
      exact (hw.1.2.attempts id fun a ha => absurd (hsame.symm.trans ha) (by simp)).trans hsame
  refine hloop.mono (fun _ hu => hu) (fun _ u hu => ?_) fun _ _ hu => hu
  obtain ⟨⟨hengine, hu⟩, hr⟩ := hu
  refine ⟨⟨hengine, ⟨hu.store, hu.grows, fun id hid => ?_⟩, fun id hid => ?_, hu.evidence,
    fun id task hid => ?_⟩, hr⟩
  · have hsame := hu.attempts id fun a ha => absurd (hid.symm.trans ha) (by simp)
    exact hsame.trans hid
  · have hsame := hu.tasks id fun p hp heq => by
      rw [heq, (htask p).1 hp] at hid
      cases hid
    exact hsame.trans hid
  · refine hu.recovered task ((htask task).2 ?_)
    rw [h.project.taskNamed id task hid]
    exact hid

/-- **`recover`.** -/
theorem recover_meets (h : StoreInvariant s.tables) :
    recover.Meets
      (fun u => StoreInvariant u.tables ∧ Grows (viewOf s.tables) (viewOf u.tables))
      (fun _ u => u.engine = s.engine ∧ RecoveredAll s.tables u.tables)
      (fun _ u => u.engine = s.engine ∧ RecoveredSome s.tables u.tables) s := by
  refine (recover_keeps (R := fun _ => True) h trivial ?_).mono (fun _ hu => hu.1)
    (fun _ _ hu => hu.1) fun _ _ hu => hu.1
  intro attempts passed task u hu _ hfound hreads _
  exact (recoverTask_meets hu.store hfound hreads.latest hreads.unbegun).mono (fun _ _ => trivial)
    (fun _ _ _ => trivial) fun _ _ _ => trivial

/-! ## Beginning an attempt -/

/-- A task of which an attempt may begin. -/
structure Ready (t : Tables) (task : Task) : Prop where
  found : taskAt t task.taskId = some task
  pending : task.status = .pending
  free : task.rounds < task.maxRounds
  dependencies : ∀ d ∈ task.dependsOn, (viewOf t).IsVerified d
  settled : (viewOf t).Settled task

/-- What `_begin` leaves when it returns. -/
structure Begun (t : Tables) (task : Task) (attempt : Attempt) (u : Tables) : Prop where
  progress : Progress t attempt.id task.taskId u
  ofTask : attempt.taskId = task.taskId
  round : attempt.round = task.rounds + 1
  running : attempt.status = .running
  found : attemptAt u attempt.id = some attempt
  counted : taskAt u task.taskId =
    some { task with status := .running, rounds := task.rounds + 1 }

/-- What `_begin` leaves when it raises. -/
structure BegunSome (t : Tables) (task : Task) (attemptId : String) (u : Tables) : Prop where
  progress : Progress t attemptId task.taskId u
  ofTask : ∀ a, attemptAt u attemptId = some a → a.taskId = task.taskId

lemma Begun.begunSome {t u : Tables} {task : Task} {attempt : Attempt}
    (h : Begun t task attempt u) : BegunSome t task attempt.id u where
  progress := h.progress
  ofTask := by
    intro a ha
    obtain rfl := Option.some.inj (ha.symm.trans h.found)
    exact h.ofTask

/-- Reading the inbox leaves tasks and attempts alone. -/
lemma consume_meets {t : Tables} {task : Task} {attempt : Attempt} {engine : Engine}
    (runId identity : String) (entry : JsonObject) (h : Begun t task attempt s.tables)
    (hengine : s.engine = engine) :
    (consume runId identity entry).Meets (fun u => Progress t attempt.id task.taskId u.tables)
      (fun _ u => u.engine = engine ∧ Begun t task attempt u.tables)
      (fun _ u => u.engine = engine ∧ BegunSome t task attempt.id u.tables) s := by
  unfold consume
  refine (meets_query (fun consumed _ => ?_) fun e => ⟨hengine, h.begunSome⟩).bind
  refine meets_saveRecord (fun t' hsaved => ?_) fun e => ⟨hengine, h.begunSome⟩
  obtain ⟨hstep, hview⟩ := Progress.of_other h.progress.store hsaved (by decide) (by decide)
    attempt.id task.taskId
  have hattempts := congrFun (congrArg ResearchView.attempts hview) attempt.id
  have htasks := congrFun (congrArg ResearchView.tasks hview) task.taskId
  have hprogress := h.progress.trans hstep
  exact ⟨hprogress, hengine, hprogress, h.ofTask, h.round, h.running, hattempts.trans h.found,
    htasks.trans h.counted⟩

/-- **`_begin`.** -/
lemma beginAttempt_meets {task : Task} (h : StoreInvariant s.tables) (hready : Ready s.tables task)
    (hnew : attemptAt s.tables ("attempt-" ++ s.engine.tokens 0) = none) :
    (beginAttempt task).Meets
      (fun u => Progress s.tables ("attempt-" ++ s.engine.tokens 0) task.taskId u.tables)
      (fun attempt u =>
        u.engine = { s.engine with tokens := fun n => s.engine.tokens (n + 2) } ∧
          attempt.id = "attempt-" ++ s.engine.tokens 0 ∧ Begun s.tables task attempt u.tables)
      (fun _ u => u.engine = { s.engine with tokens := fun n => s.engine.tokens (n + 2) } ∧
        BegunSome s.tables task ("attempt-" ++ s.engine.tokens 0) u.tables) s := by
  have hstart : BegunSome s.tables task ("attempt-" ++ s.engine.tokens 0) s.tables := by
    refine ⟨Progress.refl h _ _, fun a ha => ?_⟩
    rw [hnew] at ha
    cases ha
  unfold beginAttempt
  refine (meets_self ?_).bind
  refine (meets_drawToken ?_).bind
  refine (meets_drawToken ?_).bind
  refine (meets_query (fun entries _ => ?_) fun e => ⟨rfl, hstart⟩).bind
  dsimp only
  generalize hattempt : newAttempt s.engine.config task ("attempt-" ++ s.engine.tokens 0)
    ("worker-" ++ s.engine.tokens (0 + 1)) _ = attempt
  have hid : attempt.id = "attempt-" ++ s.engine.tokens 0 := by rw [← hattempt]; rfl
  have htask : attempt.taskId = task.taskId := by rw [← hattempt]; rfl
  have hround : attempt.round = task.rounds + 1 := by rw [← hattempt]; rfl
  have hrunning : attempt.status = .running := by rw [← hattempt]; rfl
  rw [← hid] at hstart hnew ⊢
  have hmove : ResearchMove (viewOf s.tables) ((viewOf s.tables).setAttempt attempt) :=
    .beginAttempt hready.found hready.pending hready.free hready.dependencies hready.settled hnew
      htask hround hrunning
  refine (meets_saveRecord (fun t₁ hsaved => ?_) fun e => ⟨rfl, hstart⟩).bind
  obtain ⟨hfirst, hview⟩ := Progress.of_attempt h hsaved hmove task.taskId
  refine ⟨hfirst, ?_⟩
  have hfound : (viewOf t₁).attempts attempt.id = some attempt := by
    rw [hview]
    exact (ResearchView.attempts_setAttempt ..).trans (if_pos rfl)
  have htask₁ : (viewOf t₁).tasks task.taskId = some task := by
    rw [hview]
    exact hready.found
  have hmove' : ResearchMove (viewOf t₁) ((viewOf t₁).setTask
      { task with status := .running, rounds := task.rounds + 1 }) := by
    refine .countRound htask₁ ⟨rfl, rfl, rfl, rfl, rfl, rfl, rfl, rfl⟩ ?_ (Or.inr rfl)
      (Nat.le_succ _) fun id a ha hsame => ?_
    · rw [hready.pending]
      decide
    · rw [hview, ResearchView.attempts_setAttempt] at ha
      by_cases hnamed : id = attempt.id
      · rw [if_pos hnamed] at ha
        obtain rfl := Option.some.inj ha
        exact hround.le
      · rw [if_neg hnamed] at ha
        exact (hready.settled id a ha hsame).2.trans (Nat.le_succ _)
  have hfirst' : BegunSome s.tables task attempt.id t₁ := by
    refine ⟨hfirst, fun a ha => ?_⟩
    obtain rfl := Option.some.inj (ha.symm.trans hfound)
    exact htask
  refine (meets_saveRecord (fun t₂ hsaved' => ?_) fun e => ⟨rfl, hfirst'⟩).bind
  obtain ⟨hsecond, hview'⟩ := Progress.of_task hfirst.store hsaved' hmove' attempt.id
  have hboth := hfirst.trans hsecond
  have hbegun : Begun s.tables task attempt t₂ := by
    refine ⟨hboth, htask, hround, hrunning, ?_, ?_⟩
    · exact (congrFun (congrArg ResearchView.attempts hview') attempt.id).trans hfound
    · refine (congrFun (congrArg ResearchView.tasks hview') task.taskId).trans ?_
      exact (ResearchView.tasks_setTask ..).trans (if_pos rfl)
  refine ⟨hboth, ?_⟩
  refine Stretch.Meets.bind ?_
  refine (Stretch.meets_forEach
    (fun _ (u : EngineState) =>
      u.engine = { s.engine with tokens := fun n => s.engine.tokens (n + 2) } ∧
        Begun s.tables task attempt u.tables)
    (fun _ entry _ _ u hu => consume_meets s.engine.config.runId attempt.id entry hu.2 hu.1)
    ⟨rfl, hbegun⟩).mono (fun _ hu => hu) (fun _ u hu => ?_) fun _ u hu => ⟨hu.1, hu.2⟩
  exact Stretch.meets_pure ⟨hu.1, rfl, hu.2⟩

end Aizim.Research
