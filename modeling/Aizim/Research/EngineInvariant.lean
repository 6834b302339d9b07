import Aizim.Research.EngineSystem

/-!
# The invariant of the engine

`EngineInvariant` relates an engine to the store it runs over: at most as many attempts are active
as there are workers, an attempt that has not ended can be finished, and while the loop goes on every
round is counted and a task with a running attempt is itself running.  Every stretch of the engine
keeps it, and so does whatever else happens between two stretches.
-/

namespace Aizim.Research

open Aizim.JsonValue Aizim.JsonObject State Orchestration

variable [CharacterDatabase]

/-! ## Changes that leave a task alone -/

/-- The attempts of the task, its status and its counts are as they were. -/
structure Undisturbed (t u : Tables) (taskId : String) : Prop where
  attempts : ∀ id a, a.taskId = taskId → (attemptAt u id = some a ↔ attemptAt t id = some a)
  task : ∀ task, taskAt t taskId = some task → ∃ task', taskAt u taskId = some task' ∧
    task'.status = task.status ∧ task'.rounds = task.rounds ∧ task'.failures = task.failures

/-- What an attempt of another task, begun or finished, leaves alone. -/
lemma Progress.undisturbed {t u : Tables} {attemptId taskId other : String}
    (h : Progress t attemptId taskId u)
    (hof : ∀ a, attemptAt u attemptId = some a → a.taskId = taskId) (hne : other ≠ taskId) :
    Undisturbed t u other where
  attempts := by
    intro id a ha
    by_cases hid : id = attemptId
    · subst hid
      constructor
      · intro hu
        exact absurd (ha.symm.trans (hof a hu)) hne
      · intro ht
        obtain ⟨a', ha', hkeeps⟩ := h.grows.attempts id a ht
        exact absurd (ha.symm.trans (hkeeps.taskId.symm.trans (hof a' ha'))) hne
    · rw [h.attempts id hid]
  task := by
    intro task htask
    rw [h.tasks other hne]
    exact ⟨task, htask, rfl, rfl, rfl⟩

/-- A change that leaves every attempt alone, and the status and counts of every task. -/
structure LeavesAttempts (t u : Tables) : Prop where
  store : StoreInvariant u
  grows : Grows (viewOf t) (viewOf u)
  attempts : attemptAt u = attemptAt t
  tasks : ∀ id task, taskAt t id = some task → ∃ task', taskAt u id = some task' ∧
    task'.status = task.status ∧ task'.rounds = task.rounds ∧ task'.failures = task.failures

lemma LeavesAttempts.undisturbed {t u : Tables} (h : LeavesAttempts t u) (taskId : String) :
    Undisturbed t u taskId :=
  ⟨fun id a _ => by rw [h.attempts], h.tasks taskId⟩

lemma OperatorChange.leavesAttempts {t u : Tables} (h : OperatorChange t u)
    (hstore : StoreInvariant t) : LeavesAttempts t u := by
  obtain ⟨kind, identity, data, hsaved⟩ := h.saved
  obtain ⟨hstore', hgrows⟩ := hstore.saved hsaved h.move
  exact ⟨hstore', hgrows, h.attempts, h.tasks⟩

lemma Unrelated.leavesAttempts {t u : Tables} (h : Unrelated t u) (hstore : StoreInvariant t) :
    LeavesAttempts t u := by
  obtain ⟨hstore', hgrows⟩ := hstore.unrelated h
  refine ⟨hstore', hgrows, h.attemptAt_eq, fun id task htask => ⟨task, ?_, rfl, rfl, rfl⟩⟩
  rw [h.taskAt_eq]
  exact htask

omit [CharacterDatabase] in
/-- An attempt can still be finished after a change that leaves its task alone. -/
lemma Finishable.undisturbed {t u : Tables} {attempt : Attempt} {task : Task}
    (h : Finishable t attempt task) (hu : Undisturbed t u attempt.taskId) :
    ∃ task', Finishable u attempt task' := by
  obtain ⟨task', htask', hstatus, hrounds, -⟩ := hu.task task h.ofTask
  refine ⟨task', (hu.attempts _ attempt rfl).2 h.found, htask', ?_, ?_, fun id other ho hof hr => ?_⟩
  · rw [hstatus]
    exact h.unverified
  · rw [hrounds]
    exact h.counted
  · exact h.others id other ((hu.attempts id other hof).1 ho) hof hr

/-! ## The invariant -/

/-- The attempts of the list are in the store: one that has not ended can be finished, and one that
has ended well is saved as ended. -/
structure Attended (t : Tables) (active : List ActiveAttempt) : Prop where
  distinct : (active.map (·.attempt.id)).Nodup
  recorded : ∀ a ∈ active, ∃ r, attemptAt t a.attempt.id = some r
  inProgress : ∀ a ∈ active, a.isEnded = false → a.attempt.status = .running ∧
    ∃ task, Finishable t a.attempt task
  ended : ∀ a ∈ active, a.phase = .ended (.ok ()) →
    ∃ r, attemptAt t a.attempt.id = some r ∧ r.status ≠ .running

/-- Every round is counted, and a task with a running attempt is running. -/
def Looping (t : Tables) : Prop :=
  ∀ id a task, attemptAt t id = some a → taskAt t a.taskId = some task →
    a.round ≤ task.rounds ∧ (a.status = .running → task.status = .running)

/-- An attempt has raised. -/
def Engine.hasFailed (engine : Engine) : Prop :=
  ∃ a ∈ engine.active, ∃ e, a.phase = .ended (.error e)

/-- The loop of `run` goes on. -/
def LoopPhase.goesOn : LoopPhase → Prop
  | .waiting | .idle => True
  | _ => False

/-- Where an engine awaits says whether attempts are active. -/
structure Engine.Positioned (engine : Engine) : Prop where
  idle : engine.phase = .idle → engine.active = []
  waiting : engine.phase = .waiting → engine.active ≠ []
  closing : engine.phase = .closing (.ok ()) → engine.stop = true ∨ engine.active = []

omit [CharacterDatabase] in
/-- An engine that awaits at the same place, with as many active attempts. -/
lemma Engine.Positioned.map {engine engine' : Engine} (h : engine.Positioned)
    {f : ActiveAttempt → ActiveAttempt} (hactive : engine'.active = engine.active.map f)
    (hphase : engine'.phase = engine.phase) (hstop : engine.stop = true → engine'.stop = true) :
    engine'.Positioned where
  idle := fun hidle => by rw [hactive, h.idle (hphase ▸ hidle), List.map_nil]
  waiting := by
    intro hwaiting
    rw [hactive, Ne, List.map_eq_nil_iff]
    exact h.waiting (hphase ▸ hwaiting)
  closing := by
    intro hclosing
    refine (h.closing (hphase ▸ hclosing)).imp hstop fun hempty => ?_
    rw [hactive, hempty, List.map_nil]

omit [CharacterDatabase] in
/-- The loop has ended with an exception, or altogether. -/
lemma Engine.Positioned.of_ended {engine : Engine}
    (h : (∃ e, engine.phase = .closing (.error e)) ∨ ∃ result, engine.phase = .ended result) :
    engine.Positioned := by
  rcases h with ⟨e, he⟩ | ⟨result, hresult⟩
  · exact ⟨fun h => by simp [he] at h, fun h => by simp [he] at h, fun h => by simp [he] at h⟩
  · exact ⟨fun h => by simp [hresult] at h, fun h => by simp [hresult] at h,
      fun h => by simp [hresult] at h⟩

/-- What holds of an engine and the store it runs over, whatever it does. -/
structure Staffed (t : Tables) (engine : Engine) : Prop where
  size : engine.active.length ≤ engine.config.workers
  attended : Attended t engine.active
  fresh : FreshTokens t engine.tokens

/-- What holds of an engine between two stretches. -/
structure EngineInvariant (t : Tables) (engine : Engine) : Prop extends Staffed t engine where
  looping : engine.phase.goesOn → ¬ engine.hasFailed → Looping t
  positioned : engine.Positioned

/-- What holds of an engine when a turn of its loop begins. -/
structure TurnReady (t : Tables) (engine : Engine) : Prop extends Staffed t engine where
  looping : Looping t
  unended : ∀ a ∈ engine.active, a.isEnded = false

/-! ## Other changes -/

lemma Attended.leavesAttempts {t u : Tables} {active : List ActiveAttempt} (h : Attended t active)
    (hu : LeavesAttempts t u) : Attended u active where
  distinct := h.distinct
  recorded := by
    rw [hu.attempts]
    exact h.recorded
  inProgress := by
    intro a ha hended
    obtain ⟨hrunning, task, hfinishable⟩ := h.inProgress a ha hended
    exact ⟨hrunning, hfinishable.undisturbed (hu.undisturbed _)⟩
  ended := by
    rw [hu.attempts]
    exact h.ended

lemma Looping.leavesAttempts {t u : Tables} (hstore : StoreInvariant t) (h : Looping t)
    (hu : LeavesAttempts t u) : Looping u := by
  intro id a task ha htask
  rw [hu.attempts] at ha
  obtain ⟨old, hold⟩ := hstore.project.owned id a ha
  obtain ⟨task', htask', hstatus, hrounds, -⟩ := hu.tasks _ old hold
  obtain rfl := Option.some.inj (htask.symm.trans htask')
  rw [hstatus, hrounds]
  exact h id a old ha hold

/-- What happens between two stretches keeps the invariant. -/
lemma EngineInvariant.leavesAttempts {t u : Tables} {engine : Engine} (h : EngineInvariant t engine)
    (hstore : StoreInvariant t) (hu : LeavesAttempts t u) : EngineInvariant u engine where
  size := h.size
  attended := h.attended.leavesAttempts hu
  fresh := ⟨h.fresh.injective, by rw [hu.attempts]; exact h.fresh.unused⟩
  looping := fun hphase hfailed => (h.looping hphase hfailed).leavesAttempts hstore hu
  positioned := h.positioned

/-! ## The set of active attempts -/

omit [CharacterDatabase] in
/-- The attempts stay attended when some of them are cancelled, begun, or fail. -/
lemma Attended.map {t : Tables} {active : List ActiveAttempt} (h : Attended t active)
    {f : ActiveAttempt → ActiveAttempt} (hattempt : ∀ a ∈ active, (f a).attempt = a.attempt)
    (hended : ∀ a ∈ active, (f a).isEnded = false → a.isEnded = false)
    (hphase : ∀ a ∈ active, (f a).phase = .ended (.ok ()) → a.phase = .ended (.ok ())) :
    Attended t (active.map f) where
  distinct := by
    rw [List.map_map, List.map_congr_left fun a ha => ?_]
    · exact h.distinct
    · exact congrArg Attempt.id (hattempt a ha)
  recorded := by
    intro b hb
    obtain ⟨a, ha, rfl⟩ := List.mem_map.1 hb
    rw [hattempt a ha]
    exact h.recorded a ha
  inProgress := by
    intro b hb hunended
    obtain ⟨a, ha, rfl⟩ := List.mem_map.1 hb
    rw [hattempt a ha]
    exact h.inProgress a ha (hended a ha hunended)
  ended := by
    intro b hb hok
    obtain ⟨a, ha, rfl⟩ := List.mem_map.1 hb
    rw [hattempt a ha]
    exact h.ended a ha (hphase a ha hok)

omit [CharacterDatabase] in
lemma Attended.filter {t : Tables} {active : List ActiveAttempt} (h : Attended t active)
    (p : ActiveAttempt → Bool) : Attended t (active.filter p) where
  distinct := h.distinct.sublist (List.filter_sublist.map _)
  recorded := fun a ha => h.recorded a (List.mem_filter.1 ha).1
  inProgress := fun a ha => h.inProgress a (List.mem_filter.1 ha).1
  ended := fun a ha => h.ended a (List.mem_filter.1 ha).1

omit [CharacterDatabase] in
@[simp] lemma ActiveAttempt.cancel_attempt (a : ActiveAttempt) : a.cancel.attempt = a.attempt := by
  unfold ActiveAttempt.cancel
  split <;> rfl

omit [CharacterDatabase] in
@[simp] lemma ActiveAttempt.cancel_phase (a : ActiveAttempt) : a.cancel.phase = a.phase := by
  unfold ActiveAttempt.cancel
  split <;> rfl

omit [CharacterDatabase] in
@[simp] lemma ActiveAttempt.cancel_isEnded (a : ActiveAttempt) : a.cancel.isEnded = a.isEnded := by
  rw [ActiveAttempt.isEnded, ActiveAttempt.cancel_phase, ActiveAttempt.isEnded]

omit [CharacterDatabase] in
lemma Attended.cancel {t : Tables} {active : List ActiveAttempt} (h : Attended t active) :
    Attended t (active.map ActiveAttempt.cancel) :=
  h.map (fun a _ => a.cancel_attempt) (fun a _ hended => a.cancel_isEnded ▸ hended)
    fun a _ hphase => a.cancel_phase ▸ hphase

omit [CharacterDatabase] in
/-- Attempts of the list with one id are the same. -/
lemma Attended.eq_of_id {t : Tables} {active : List ActiveAttempt}
    (h : Attended t active) {a b : ActiveAttempt} (ha : a ∈ active) (hb : b ∈ active)
    (hid : a.attempt.id = b.attempt.id) : a = b :=
  List.inj_on_of_nodup_map h.distinct ha hb hid

/-! ## Settling an attempt -/

omit [CharacterDatabase] in
/-- Two attempts in progress are attempts of different tasks. -/
lemma Attended.taskId_ne {t : Tables} {active : List ActiveAttempt} (h : Attended t active)
    {a b : ActiveAttempt} (hb : b ∈ active) (hunended : b.isEnded = false) {task : Task}
    (hf : Finishable t a.attempt task) (hne : b.attempt.id ≠ a.attempt.id) :
    b.attempt.taskId ≠ a.attempt.taskId := by
  intro hsame
  obtain ⟨hrunning, task', hf'⟩ := h.inProgress b hb hunended
  exact hne (hf.others _ b.attempt hf'.found hsame hrunning)

/-- What an attempt leaves of the others when it is finished, or fails to be. -/
lemma Attended.finished {t u : Tables} {active : List ActiveAttempt} (h : Attended t active)
    {a : ActiveAttempt} {task : Task} (hf : Finishable t a.attempt task)
    (hu : Progress t a.attempt.id a.attempt.taskId u) (result : Except ResearchFailure Unit)
    (hsaved : result = .ok () → ∃ r, attemptAt u a.attempt.id = some r ∧ r.status ≠ .running) :
    Attended u (active.map fun b =>
      if b.attempt.id = a.attempt.id then { b with phase := .ended result } else b) := by
  have hof : ∀ r, attemptAt u a.attempt.id = some r → r.taskId = a.attempt.taskId := by
    intro r hr
    obtain ⟨r', hr', hkeeps⟩ := hu.grows.attempts _ a.attempt hf.found
    obtain rfl := Option.some.inj (hr.symm.trans hr')
    exact hkeeps.taskId
  have hmem : ∀ c ∈ active.map fun b =>
      if b.attempt.id = a.attempt.id then { b with phase := .ended result } else b,
      ∃ b ∈ active, c.attempt = b.attempt ∧ (b.attempt.id = a.attempt.id ∧
        c.phase = .ended result ∨ b.attempt.id ≠ a.attempt.id ∧ c = b) := by
    intro c hc
    obtain ⟨b, hb, rfl⟩ := List.mem_map.1 hc
    by_cases hid : b.attempt.id = a.attempt.id
    · rw [if_pos hid]
      exact ⟨b, hb, rfl, Or.inl ⟨hid, rfl⟩⟩
    · rw [if_neg hid]
      exact ⟨b, hb, rfl, Or.inr ⟨hid, rfl⟩⟩
  refine
    { distinct := ?_
      recorded := fun c hc => ?_
      inProgress := fun c hc hunended => ?_
      ended := fun c hc hphase => ?_ }
  · rw [List.map_map, List.map_congr_left fun b _ => ?_]
    · exact h.distinct
    · show (if _ then _ else _ : ActiveAttempt).attempt.id = _
      split <;> rfl
  · obtain ⟨b, hb, hattempt, -⟩ := hmem c hc
    obtain ⟨r, hr⟩ := h.recorded b hb
    obtain ⟨r', hr', -⟩ := hu.grows.attempts _ r hr
    exact ⟨r', hattempt ▸ hr'⟩
  · obtain ⟨b, hb, -, ⟨-, hphase⟩ | ⟨hid, rfl⟩⟩ := hmem c hc
    · rw [ActiveAttempt.isEnded, hphase] at hunended
      cases hunended
    · obtain ⟨hrunning, task', hf'⟩ := h.inProgress c hb hunended
      have hne := h.taskId_ne hb hunended hf hid
      exact ⟨hrunning, hf'.undisturbed (hu.undisturbed hof hne)⟩
  · obtain ⟨b, hb, hattempt, ⟨hid, hresult⟩ | ⟨hid, rfl⟩⟩ := hmem c hc
    · rw [hattempt, hid]
      exact hsaved (AttemptPhase.ended.inj (hresult.symm.trans hphase))
    · rw [hu.attempts _ hid]
      exact h.ended c hb hphase

/-- The tokens stay new while no attempt is begun. -/
lemma FreshTokens.progress {t u : Tables} {tokens : ℕ → String} {attemptId taskId : String}
    (h : FreshTokens t tokens) (hu : Progress t attemptId taskId u) {r : Attempt}
    (hfound : attemptAt t attemptId = some r) : FreshTokens u tokens where
  injective := h.injective
  unused := by
    intro n
    rw [hu.attempts _ fun hid => ?_]
    · exact h.unused n
    · rw [← hid, h.unused n] at hfound
      cases hfound

/-- After an attempt has ended every round is still counted. -/
lemma Looping.finished {t u : Tables} (h : Looping t) {attempt : Attempt} {task : Task}
    {result : AttemptResult} {interrupted : Bool} (hf : Finishable t attempt task)
    (hu : Finished t attempt task result interrupted u) : Looping u := by
  obtain ⟨accepted, -, hattempt, htask⟩ := hu.ended
  intro id a task' ha htask'
  by_cases hid : id = attempt.id
  · subst hid
    obtain rfl := Option.some.inj (ha.symm.trans hattempt)
    obtain rfl := Option.some.inj (htask'.symm.trans htask)
    have hended := (finished_status attempt result accepted interrupted).1
    exact ⟨hf.counted, fun hrunning => absurd hrunning hended⟩
  · rw [hu.progress.attempts id hid] at ha
    by_cases hsame : a.taskId = attempt.taskId
    · rw [hsame] at htask'
      obtain rfl := Option.some.inj (htask'.symm.trans htask)
      refine ⟨(h id a task ha (hsame ▸ hf.ofTask)).1, fun hrunning => ?_⟩
      exact absurd (hf.others id a ha hsame hrunning) hid
    · rw [hu.progress.tasks _ hsame] at htask'
      exact h id a task' ha htask'

/-- What an attempt leaves when it ends. -/
structure AttemptEnded (s : EngineState) (attempt : Attempt) (execution : Execution)
    (u : EngineState) : Prop where
  store : StoreInvariant u.tables
  grows : Grows (viewOf s.tables) (viewOf u.tables)
  invariant : EngineInvariant u.tables u.engine
  ended : ∃ result, (execution.isCancelled = true → ∃ e, result = .error e) ∧
    u.engine = { s.engine with active := s.engine.active.map fun a =>
      if a.attempt.id = attempt.id then { a with phase := .ended result } else a }

variable {s : EngineState}

/-- **`_attempt`.** -/
lemma settleAttempt_meets {a : ActiveAttempt} (execution : Execution)
    (h : StoreInvariant s.tables) (hengine : EngineInvariant s.tables s.engine)
    (ha : a ∈ s.engine.active) (hphase : a.phase = .executing) :
    (settleAttempt a.attempt execution).Meets
      (fun u => StoreInvariant u.tables ∧ Grows (viewOf s.tables) (viewOf u.tables))
      (fun _ u => AttemptEnded s a.attempt execution u) (fun _ _ => False) s := by
  have hunended : a.isEnded = false := by rw [ActiveAttempt.isEnded, hphase]
  obtain ⟨-, task, hf⟩ := hengine.attended.inProgress a ha hunended
  unfold settleAttempt
  refine Stretch.Meets.bind ?_
  -- whatever was raised, the attempt ends in the state it was raised in
  have hend : ∀ (result : Except ResearchFailure Unit) (u : EngineState), u.engine = s.engine →
      Progress s.tables a.attempt.id a.attempt.taskId u.tables →
      (execution.isCancelled = true → ∃ e, result = .error e) →
      (result = .ok () → Finished s.tables a.attempt task execution.result execution.isCancelled
        u.tables) →
      (setAttemptPhase a.attempt.id (.ended result)).Meets
        (fun u => StoreInvariant u.tables ∧ Grows (viewOf s.tables) (viewOf u.tables))
        (fun _ u => AttemptEnded s a.attempt execution u) (fun _ _ => False) u := by
    intro result u hsame hu hcancelled hok
    refine meets_modifyEngine ?_
    rw [hsame]
    refine ⟨hu.store, hu.grows, ?_, result, hcancelled, rfl⟩
    refine
      { size := by rw [List.length_map]; exact hengine.size
        attended := ?_
        fresh := hengine.fresh.progress hu hf.found
        looping := fun hgoes hfailed => ?_
        positioned := hengine.positioned.map rfl rfl id }
    · refine hengine.attended.finished hf hu result fun hres => ?_
      obtain ⟨accepted, -, hattempt, -⟩ := (hok hres).ended
      exact ⟨_, hattempt, (finished_status a.attempt _ accepted _).1⟩
    · have hmem : ∀ b ∈ s.engine.active, (if b.attempt.id = a.attempt.id then
          { b with phase := .ended result } else b) ∈ s.engine.active.map fun b =>
            if b.attempt.id = a.attempt.id then { b with phase := .ended result } else b :=
        fun b hb => List.mem_map_of_mem hb
      cases result with
      | error e =>
        refine absurd ⟨_, hmem a ha, e, ?_⟩ hfailed
        rw [if_pos rfl]
      | ok =>
        refine (hengine.looping hgoes fun hfailed' => ?_).finished hf (hok rfl)
        obtain ⟨b, hb, e, hbe⟩ := hfailed'
        have hid : b.attempt.id ≠ a.attempt.id := by
          intro hid
          rw [hengine.attended.eq_of_id hb ha hid, hphase] at hbe
          cases hbe
        refine hfailed ⟨_, hmem b hb, e, ?_⟩
        rw [if_neg hid]
        exact hbe
  refine Stretch.Meets.tryCatch ?_
  refine Stretch.Meets.bind ?_
  refine (finishAttempt_meets h hf).mono (fun u hu => ⟨hu.store, hu.grows⟩) (fun _ u hu => ?_)
    fun e u hu => ?_
  · refine Stretch.meets_pure ?_
    refine hend _ u hu.1 hu.2.progress (fun hcancelled => ?_) fun _ => hu.2
    exact ⟨.cancelled, by rw [if_pos hcancelled]⟩
  · refine Stretch.meets_pure ?_
    refine hend _ u hu.1 hu.2 (fun _ => ⟨e, rfl⟩) fun hok => ?_
    cases hok

/-! ## A turn of the loop -/

omit [CharacterDatabase] in
lemma attemptId_injective {x y : String} (h : "attempt-" ++ x = "attempt-" ++ y) : x = y := by
  have hlist := congrArg String.toList h
  rw [String.toList_append, String.toList_append] at hlist
  exact String.toList_injective (List.append_cancel_left hlist)

/-- The tokens stay new when two have been used for an attempt. -/
lemma FreshTokens.drawn {t u : Tables} {tokens : ℕ → String} {taskId : String}
    (h : FreshTokens t tokens) (hu : Progress t ("attempt-" ++ tokens 0) taskId u) :
    FreshTokens u fun n => tokens (n + 2) where
  injective := by
    intro m n hmn
    have hsame := h.injective hmn
    omega
  unused := by
    intro n
    rw [hu.attempts _ fun hid => ?_]
    · exact h.unused (n + 2)
    · have hsame := h.injective (attemptId_injective hid)
      omega

omit [CharacterDatabase] in
/-- A task of the frontier may be attempted while every round is counted. -/
lemma InFrontier.ready {t : Tables} {task : Task} (h : InFrontier t task) (hlooping : Looping t) :
    Ready t task := by
  refine ⟨h.found, h.pending, h.free, h.dependencies, fun id a ha hsame => ?_⟩
  obtain ⟨hcounted, hrunning⟩ := hlooping id a task ha (by rw [hsame]; exact h.found)
  refine ⟨fun hr => ?_, hcounted⟩
  have hstatus := hrunning hr
  rw [h.pending] at hstatus
  cases hstatus

omit [CharacterDatabase] in
/-- The attempts in progress are attempts of tasks that are not in the frontier. -/
lemma TurnReady.taskId_ne {t : Tables} {engine : Engine} (h : TurnReady t engine) {task : Task}
    (hready : Ready t task) {a : ActiveAttempt} (ha : a ∈ engine.active) :
    a.attempt.taskId ≠ task.taskId := by
  intro hsame
  obtain ⟨hrunning, other, hf⟩ := h.attended.inProgress a ha (h.unended a ha)
  exact (hready.settled _ a.attempt hf.found hsame).1 hrunning

/-- What the attempts in progress keep when another one is begun, or fails to be. -/
lemma TurnReady.attended_of_progress {t u : Tables} {engine : Engine} (h : TurnReady t engine)
    {task : Task} {attemptId : String} (hready : Ready t task)
    (hu : Progress t attemptId task.taskId u)
    (hof : ∀ a, attemptAt u attemptId = some a → a.taskId = task.taskId) :
    Attended u engine.active where
  distinct := h.attended.distinct
  recorded := by
    intro a ha
    obtain ⟨r, hr⟩ := h.attended.recorded a ha
    obtain ⟨r', hr', -⟩ := hu.grows.attempts _ r hr
    exact ⟨r', hr'⟩
  inProgress := by
    intro a ha hunended
    obtain ⟨hrunning, other, hf⟩ := h.attended.inProgress a ha hunended
    exact ⟨hrunning, hf.undisturbed (hu.undisturbed hof (h.taskId_ne hready ha))⟩
  ended := by
    intro a ha hphase
    have hunended := h.unended a ha
    rw [ActiveAttempt.isEnded, hphase] at hunended
    cases hunended

/-- The engine is the same but for its tokens, its active attempts and where it awaits. -/
structure SameRun (engine engine' : Engine) : Prop where
  config : engine'.config = engine.config
  stop : engine'.stop = engine.stop
  timedOut : engine'.timedOut = engine.timedOut
  phase : engine'.phase = engine.phase

omit [CharacterDatabase] in
lemma SameRun.trans {a b c : Engine} (h : SameRun a b) (h' : SameRun b c) : SameRun a c :=
  ⟨h'.config.trans h.config, h'.stop.trans h.stop, h'.timedOut.trans h.timedOut,
    h'.phase.trans h.phase⟩

/-- The store and the engine after part of a turn. -/
structure Turned (s u : EngineState) : Prop where
  store : StoreInvariant u.tables
  grows : Grows (viewOf s.tables) (viewOf u.tables)
  staffed : Staffed u.tables u.engine
  same : SameRun s.engine u.engine

lemma Turned.refl (h : StoreInvariant s.tables) (hstaffed : Staffed s.tables s.engine) :
    Turned s s :=
  ⟨h, .refl _, hstaffed, rfl, rfl, rfl, rfl⟩

lemma Turned.trans {u w : EngineState} (h : Turned s u) (h' : Turned u w) : Turned s w :=
  ⟨h'.store, h.grows.trans h'.grows, h'.staffed, h.same.trans h'.same⟩

/-- An attempt was begun. -/
lemma TurnReady.begun {t u : Tables} {engine : Engine} (h : TurnReady t engine)
    (hroom : engine.active.length < engine.config.workers) {task : Task} {attempt : Attempt}
    (hready : Ready t task) (hid : attempt.id = "attempt-" ++ engine.tokens 0)
    (hu : Begun t task attempt u) :
    TurnReady u { engine with
      tokens := fun n => engine.tokens (n + 2)
      active := engine.active ++ [⟨task, attempt, .created, false⟩] } := by
  have hnew : attemptAt t attempt.id = none := by
    rw [hid]
    exact h.fresh.unused 0
  have hold := h.attended_of_progress hready hu.progress hu.begunSome.ofTask
  have hactive : ∀ a ∈ engine.active ++ [⟨task, attempt, .created, false⟩],
      a ∈ engine.active ∨ a = ⟨task, attempt, .created, false⟩ := by
    intro a ha
    simpa using ha
  have hfinishable : Finishable u attempt
      { task with status := .running, rounds := task.rounds + 1 } := by
    refine ⟨hu.found, hu.ofTask ▸ hu.counted, (fun hv => by cases hv), hu.round.le,
      fun id a ha hsame hr => ?_⟩
    by_contra hne
    rw [hu.progress.attempts id hne] at ha
    exact (hready.settled id a ha (hsame.trans hu.ofTask)).1 hr
  refine
    { size := ?_
      attended :=
        { distinct := ?_
          recorded := fun a ha => ?_
          inProgress := fun a ha hunended => ?_
          ended := fun a ha hphase => ?_ }
      fresh := h.fresh.drawn (hid ▸ hu.progress)
      looping := fun id a task' ha htask' => ?_
      unended := fun a ha => ?_ }
  · rw [List.length_append]
    exact hroom
  · rw [List.map_append, List.nodup_append]
    refine ⟨h.attended.distinct, List.nodup_singleton _, fun x hx y hy hxy => ?_⟩
    obtain ⟨a, ha, rfl⟩ := List.mem_map.1 hx
    obtain ⟨r, hr⟩ := h.attended.recorded a ha
    rw [List.mem_singleton.1 hy] at hxy
    rw [hxy] at hr
    exact absurd (hnew.symm.trans hr) (by simp)
  · rcases hactive a ha with ha | rfl
    · exact hold.recorded a ha
    · exact ⟨attempt, hu.found⟩
  · rcases hactive a ha with ha | rfl
    · exact hold.inProgress a ha hunended
    · exact ⟨hu.running, _, hfinishable⟩
  · rcases hactive a ha with ha | rfl
    · exact hold.ended a ha hphase
    · cases hphase
  · by_cases hsame : id = attempt.id
    · subst hsame
      obtain rfl := Option.some.inj (ha.symm.trans hu.found)
      rw [hu.ofTask, hu.counted] at htask'
      obtain rfl := Option.some.inj htask'
      exact ⟨hu.round.le, fun _ => rfl⟩
    · rw [hu.progress.attempts id hsame] at ha
      by_cases hof : a.taskId = task.taskId
      · rw [hof, hu.counted] at htask'
        obtain rfl := Option.some.inj htask'
        exact ⟨(hready.settled id a ha hof).2.trans (Nat.le_succ _), fun _ => rfl⟩
      · rw [hu.progress.tasks _ hof] at htask'
        exact h.looping id a task' ha htask'
  · rcases hactive a ha with ha | rfl
    · exact h.unended a ha
    · rfl

/-- **The inner loop of `run`.** -/
lemma fill_meets (free : ℕ) (h : StoreInvariant s.tables) (hready : TurnReady s.tables s.engine)
    (hroom : s.engine.active.length + free ≤ s.engine.config.workers) :
    (fill free).Meets
      (fun u => StoreInvariant u.tables ∧ Grows (viewOf s.tables) (viewOf u.tables))
      (fun _ u => Turned s u ∧ TurnReady u.tables u.engine) (fun _ u => Turned s u) s := by
  induction free generalizing s with
  | zero => exact Stretch.meets_pure ⟨.refl h hready.toStaffed, hready⟩
  | succ free ih =>
    have hstart := Turned.refl h hready.toStaffed
    unfold fill
    refine (meets_query (fun tasks hfrontier => ?_) fun e => hstart).bind
    cases tasks with
    | nil => exact Stretch.meets_pure ⟨hstart, hready⟩
    | cons task tasks =>
      have htask : Ready s.tables task := by
        obtain ⟨tasks', htasks', hin⟩ := exists_frontier h
        obtain rfl := Except.ok.inj (hfrontier.symm.trans htasks')
        exact (hin task List.mem_cons_self).ready hready.looping
      refine Stretch.Meets.bind ?_
      refine (beginAttempt_meets h htask (hready.fresh.unused 0)).mono
        (fun u hu => ⟨hu.store, hu.grows⟩) (fun attempt u hu => ?_) fun e u hu => ?_
      · obtain ⟨tables, engine, draws⟩ := u
        obtain ⟨rfl, hid, hbegun⟩ : engine = _ ∧ _ ∧ Begun s.tables task attempt tables := hu
        refine (meets_modifyEngine ?_).bind
        have hnext := hready.begun (by omega) htask hid hbegun
        refine (ih hbegun.progress.store hnext ?_).mono
          (fun w hw => ⟨hw.1, hbegun.progress.grows.trans hw.2⟩) (fun _ w hw => ?_) fun e w hw => ?_
        · simp only [List.length_append, List.length_singleton]
          omega
        · refine ⟨.trans ?_ hw.1, hw.2⟩
          exact ⟨hbegun.progress.store, hbegun.progress.grows, hnext.toStaffed, rfl, rfl, rfl, rfl⟩
        · refine .trans ?_ hw
          exact ⟨hbegun.progress.store, hbegun.progress.grows, hnext.toStaffed, rfl, rfl, rfl, rfl⟩
      · obtain ⟨hengine, hbegun⟩ := hu
        refine ⟨hbegun.progress.store, hbegun.progress.grows, ?_, ?_⟩
        · rw [hengine]
          exact ⟨hready.size, hready.attended_of_progress htask hbegun.progress hbegun.ofTask,
            hready.fresh.drawn hbegun.progress⟩
        · rw [hengine]
          exact ⟨rfl, rfl, rfl, rfl⟩

/-- Where a turn ends. -/
def TurnEnd (s u : EngineState) : LoopPhase → Prop
  | .waiting => TurnReady u.tables u.engine ∧ u.engine.active ≠ []
  | .idle => TurnReady u.tables u.engine ∧ u.engine.active = []
  | .closing result => result = .ok () ∧ (s.engine.stop = true ∧ u = s ∨ u.engine.active = [])
  | .ended _ => False

/-- **A turn of the loop of `run`.** -/
lemma turn_meets (h : StoreInvariant s.tables) (hready : TurnReady s.tables s.engine) :
    turn.Meets (fun u => StoreInvariant u.tables ∧ Grows (viewOf s.tables) (viewOf u.tables))
      (fun phase u => Turned s u ∧ TurnEnd s u phase) (fun _ u => Turned s u) s := by
  have hstart := Turned.refl h hready.toStaffed
  unfold turn
  refine (meets_self ?_).bind
  split
  · rename_i hstop
    exact Stretch.meets_pure ⟨hstart, rfl, Or.inl ⟨hstop, rfl⟩⟩
  · refine (meets_query (fun _ _ => ?_) fun e => hstart).bind
    refine Stretch.Meets.bind ?_
    refine (fill_meets _ h hready ?_).mono (fun u hu => hu) (fun _ u hu => ?_) fun e u hu => hu
    · have hsize := hready.size
      omega
    · refine (meets_self ?_).bind
      split
      · rename_i hempty
        have hactive := List.isEmpty_iff.1 hempty
        split
        · exact Stretch.meets_pure ⟨hu.1, hu.2, hactive⟩
        · exact Stretch.meets_pure ⟨hu.1, rfl, Or.inr hactive⟩
      · rename_i hsome
        exact Stretch.meets_pure ⟨hu.1, hu.2, fun hempty => hsome (List.isEmpty_iff.2 hempty)⟩

/-- What a stretch of the loop leaves. -/
structure LoopStretch (s u : EngineState) : Prop where
  store : StoreInvariant u.tables
  grows : Grows (viewOf s.tables) (viewOf u.tables)
  invariant : EngineInvariant u.tables u.engine

/-- What the next await asks of the state of a turn. -/
structure NextAwait (u : EngineState) (phase : LoopPhase) : Prop where
  ready : phase.goesOn → TurnReady u.tables u.engine
  idle : phase = .idle → u.engine.active = []
  waiting : phase = .waiting → u.engine.active ≠ []
  closing : phase = .closing (.ok ()) → u.engine.stop = true ∨ u.engine.active = []

omit [CharacterDatabase] in
/-- After an exception the loop ends. -/
lemma NextAwait.of_error (u : EngineState) (e : ResearchFailure) :
    NextAwait u (.closing (.error e)) ∧ NextAwait u (.ended (.error e)) :=
  ⟨⟨fun h => absurd h id, nofun, nofun, nofun⟩, ⟨fun h => absurd h id, nofun, nofun, nofun⟩⟩

/-- Going on to the next await. -/
lemma Turned.enterPhase {u : EngineState} {phase : LoopPhase} (h : Turned s u)
    (hnext : NextAwait u phase) :
    (enterPhase phase).Meets
      (fun u => StoreInvariant u.tables ∧ Grows (viewOf s.tables) (viewOf u.tables))
      (fun _ u => LoopStretch s u) (fun _ _ => False) u := by
  unfold Research.enterPhase
  refine meets_modifyEngine ⟨h.store, h.grows, ?_⟩
  obtain ⟨hsize, hattended, hfresh⟩ := h.staffed
  cases phase with
  | closing result =>
    refine ⟨⟨?_, hattended.cancel, hfresh⟩, fun hgoes => absurd hgoes id, ?_⟩
    · rw [List.length_map]
      exact hsize
    · refine ⟨nofun, nofun, fun hok => ?_⟩
      refine (hnext.closing (LoopPhase.closing.inj hok ▸ rfl)).imp id fun hempty => ?_
      rw [hempty, List.map_nil]
  | waiting =>
    exact ⟨⟨hsize, hattended, hfresh⟩, fun _ _ => (hnext.ready trivial).looping,
      nofun, fun _ => hnext.waiting rfl, nofun⟩
  | idle =>
    exact ⟨⟨hsize, hattended, hfresh⟩, fun _ _ => (hnext.ready trivial).looping,
      fun _ => hnext.idle rfl, nofun, nofun⟩
  | ended result =>
    exact ⟨⟨hsize, hattended, hfresh⟩, fun hgoes => absurd hgoes id,
      .of_ended (Or.inr ⟨result, rfl⟩)⟩

/-- **The loop of `run` with its clean-up.** -/
lemma guarded_meets {x : EngineM LoopPhase}
    (hx : x.Meets (fun u => StoreInvariant u.tables ∧ Grows (viewOf s.tables) (viewOf u.tables))
      (fun phase u => Turned s u ∧ TurnEnd s u phase) (fun _ u => Turned s u) s) :
    (guarded x).Meets
      (fun u => StoreInvariant u.tables ∧ Grows (viewOf s.tables) (viewOf u.tables))
      (fun _ u => LoopStretch s u) (fun _ _ => False) s := by
  unfold guarded
  refine Stretch.Meets.bind ?_
  refine Stretch.Meets.tryCatch ?_
  refine hx.mono (fun u hu => hu) (fun phase u hu => ?_) fun e u hu => ?_
  · obtain ⟨hturned, hend⟩ := hu
    refine hturned.enterPhase ⟨fun hgoes => ?_, fun hidle => ?_, fun hwaiting => ?_, fun hok => ?_⟩
    · cases phase with
      | waiting => exact hend.1
      | idle => exact hend.1
      | closing result => exact absurd hgoes id
      | ended result => exact absurd hgoes id
    · subst hidle
      exact hend.2
    · subst hwaiting
      exact hend.2
    · subst hok
      refine hend.2.imp_left fun hstop => ?_
      rw [hstop.2]
      exact hstop.1
  · refine Stretch.meets_pure ?_
    exact hu.enterPhase (NextAwait.of_error u e).1

/-! ## The stretches of the loop -/

/-- Saving a record that is neither a task nor an attempt. -/
lemma Saved.leavesAttempts {t u : Tables} {kind identity : String} {data : JsonObject}
    (h : Saved t u kind identity data) (hstore : StoreInvariant t) (htask : kind ≠ "task")
    (hattempt : kind ≠ "attempt") : LeavesAttempts t u :=
  (OperatorChange.of_ne hstore.log h htask hattempt).leavesAttempts hstore

/-- A turn of the loop from a state of the loop. -/
lemma guarded_turn_meets (h : StoreInvariant s.tables) (hready : TurnReady s.tables s.engine)
    {t : Tables} (hgrows : Grows (viewOf t) (viewOf s.tables)) :
    (guarded turn).Meets (fun u => StoreInvariant u.tables ∧ Grows (viewOf t) (viewOf u.tables))
      (fun _ u => StoreInvariant u.tables ∧ Grows (viewOf t) (viewOf u.tables) ∧
        EngineInvariant u.tables u.engine) (fun _ _ => False) s :=
  (guarded_meets (turn_meets h hready)).mono (fun _ hw => ⟨hw.1, hgrows.trans hw.2⟩)
    (fun _ _ hw => ⟨hw.store, hgrows.trans hw.grows, hw.invariant⟩) fun _ _ hfalse => hfalse

/-- Recovery counts every round. -/
lemma RecoveredAll.looping {t u : Tables} (h : RecoveredAll t u) : Looping u := by
  intro id a task ha htask
  cases hold : taskAt t a.taskId with
  | none =>
    rw [h.tasks _ hold] at htask
    cases htask
  | some old =>
    obtain ⟨task', htask', hsettled, -⟩ := h.recovered _ old hold
    have hname : task'.taskId = old.taskId := h.store.project.taskNamed _ task' htask'
    have hsame : a.taskId = task'.taskId := by
      obtain ⟨new, hnew, hkeeps, -⟩ := h.grows.tasks _ old hold
      have hnamed := h.store.project.taskNamed _ new hnew
      rw [hname, ← hnamed, hkeeps.taskId]
    rw [hsame, hname, htask'] at htask
    obtain rfl := Option.some.inj htask
    obtain ⟨hended, hcounted⟩ := hsettled id a ha hsame
    exact ⟨hcounted, fun hrunning => absurd hrunning hended⟩

omit [CharacterDatabase] in
/-- An engine without active attempts. -/
lemma staffed_of_empty {t : Tables} {engine : Engine} (hactive : engine.active = [])
    (hfresh : FreshTokens t engine.tokens) : Staffed t engine := by
  refine ⟨?_, ?_, hfresh⟩
  · rw [hactive]
    exact Nat.zero_le _
  · rw [hactive]
    exact ⟨List.nodup_nil, fun a ha => (by cases ha), fun a ha => (by cases ha),
      fun a ha => (by cases ha)⟩

/-- After recovery the first turn may begin. -/
lemma RecoveredAll.turnReady {t u : Tables} {engine : Engine} (h : RecoveredAll t u)
    (hactive : engine.active = []) (hfresh : FreshTokens t engine.tokens) : TurnReady u engine := by
  have hfresh' : FreshTokens u engine.tokens :=
    ⟨hfresh.injective, fun n => h.attempts _ (hfresh.unused n)⟩
  refine ⟨staffed_of_empty hactive hfresh', h.looping, fun a ha => ?_⟩
  rw [hactive] at ha
  cases ha

/-- **The start of a run.** -/
lemma startRun_meets (h : StoreInvariant s.tables) (hfresh : FreshTokens s.tables s.engine.tokens)
    (hactive : s.engine.active = []) :
    startRun.Meets (fun u => StoreInvariant u.tables ∧ Grows (viewOf s.tables) (viewOf u.tables))
      (fun _ u => LoopStretch s u) (fun _ _ => False) s := by
  have hfail : ∀ (e : ResearchFailure) (u : EngineState), u.engine = s.engine →
      RecoveredSome s.tables u.tables → (enterPhase (.ended (.error e))).Meets
        (fun u => StoreInvariant u.tables ∧ Grows (viewOf s.tables) (viewOf u.tables))
        (fun _ u => LoopStretch s u) (fun _ _ => False) u := by
    intro e u hengine hu
    have hturned : Turned s u := by
      refine ⟨hu.store, hu.grows, ?_, ?_⟩
      · rw [hengine]
        exact staffed_of_empty hactive ⟨hfresh.injective, fun n => hu.attempts _ (hfresh.unused n)⟩
      · rw [hengine]
        exact ⟨rfl, rfl, rfl, rfl⟩
    exact hturned.enterPhase (NextAwait.of_error u e).2
  unfold startRun
  refine (meets_self ?_).bind
  refine Stretch.Meets.bind ?_
  refine Stretch.Meets.tryCatch ?_
  refine (meets_saveRecord (fun t₁ hsaved => ?_) fun e => ?_).bind
  · have hleaves := hsaved.leavesAttempts h (by decide) (by decide)
    have hfresh' : FreshTokens t₁ s.engine.tokens :=
      ⟨hfresh.injective, by rw [hleaves.attempts]; exact hfresh.unused⟩
    refine ⟨⟨hleaves.store, hleaves.grows⟩, ?_⟩
    refine Stretch.Meets.bind ?_
    refine (recover_meets hleaves.store).mono
      (fun u hu => ⟨hu.1, hleaves.grows.trans hu.2⟩) (fun _ u hu => ?_) fun e u hu => ?_
    · refine Stretch.meets_pure ?_
      obtain ⟨hengine, hu⟩ : u.engine = s.engine ∧ RecoveredAll t₁ u.tables := hu
      have hready : TurnReady u.tables u.engine := by
        rw [hengine]
        exact hu.turnReady hactive hfresh'
      exact (guarded_turn_meets hu.store hready (hleaves.grows.trans hu.grows)).mono
        (fun _ hw => hw) (fun _ _ hw => ⟨hw.1, hw.2.1, hw.2.2⟩) fun _ _ hfalse => hfalse
    · refine Stretch.meets_pure ?_
      refine hfail e u hu.1 ⟨hu.2.store, hleaves.grows.trans hu.2.grows, fun id hid => ?_⟩
      refine hu.2.attempts id ?_
      rw [hleaves.attempts]
      exact hid
  · refine Stretch.meets_pure ?_
    exact hfail e s rfl ⟨h, .refl _, fun _ hid => hid⟩

omit [CharacterDatabase] in
/-- Changing the phases of attempts, or asking them to stop, keeps the invariant. -/
lemma EngineInvariant.map {t : Tables} {engine engine' : Engine} (h : EngineInvariant t engine)
    {f : ActiveAttempt → ActiveAttempt} (hconfig : engine'.config = engine.config)
    (htokens : engine'.tokens = engine.tokens) (hactive : engine'.active = engine.active.map f)
    (hloop : engine'.phase.goesOn → engine'.phase = engine.phase)
    (hattempt : ∀ a ∈ engine.active, (f a).attempt = a.attempt)
    (hended : ∀ a ∈ engine.active, (f a).isEnded = false → a.isEnded = false)
    (hphase : ∀ a ∈ engine.active, ∀ result, (f a).phase = .ended result → result = .ok () →
      a.phase = .ended result)
    (hfails : ∀ a ∈ engine.active, ∀ e, a.phase = .ended (.error e) →
      (f a).phase = .ended (.error e)) (hpositioned : engine'.Positioned) :
    EngineInvariant t engine' where
  size := by
    rw [hactive, hconfig, List.length_map]
    exact h.size
  attended := by
    rw [hactive]
    exact h.attended.map hattempt hended fun a ha hok => hphase a ha _ hok rfl
  fresh := htokens ▸ h.fresh
  looping := by
    intro hgoes hfailed
    rw [hloop hgoes] at hgoes
    refine h.looping hgoes fun hold => hfailed ?_
    obtain ⟨a, ha, e, he⟩ := hold
    refine ⟨f a, ?_, e, hfails a ha e he⟩
    rw [hactive]
    exact List.mem_map_of_mem ha
  positioned := hpositioned

/-- A task of the event loop takes its first step, or none. -/
lemma setAttemptPhase_meets {id : String} {phase : AttemptPhase} (h : StoreInvariant s.tables)
    (hengine : EngineInvariant s.tables s.engine)
    (hcreated : ∃ a ∈ s.engine.active, a.attempt.id = id ∧ a.phase = .created)
    (hphase : phase ≠ .ended (.ok ())) :
    (setAttemptPhase id phase).Meets
      (fun u => StoreInvariant u.tables ∧ Grows (viewOf s.tables) (viewOf u.tables))
      (fun _ u => LoopStretch s u) (fun _ _ => False) s := by
  obtain ⟨a, ha, hid, hnew⟩ := hcreated
  have hsame : ∀ b ∈ s.engine.active, b.attempt.id = id → b.phase = .created := by
    intro b hb hbid
    rw [hengine.attended.eq_of_id hb ha (hbid.trans hid.symm)]
    exact hnew
  refine meets_modifyEngine ⟨h, .refl _, ?_⟩
  refine hengine.map rfl rfl rfl (fun _ => rfl) (fun b hb => ?_) (fun b hb hended => ?_)
    (fun b hb result hresult hok => ?_) (fun b hb e he => ?_)
    (hengine.positioned.map rfl rfl fun hstop => hstop)
  · split <;> rfl
  · by_cases hbid : b.attempt.id = id
    · rw [ActiveAttempt.isEnded, hsame b hb hbid]
    · rwa [if_neg hbid] at hended
  · by_cases hbid : b.attempt.id = id
    · rw [if_pos hbid] at hresult
      subst hok
      exact absurd hresult hphase
    · rwa [if_neg hbid] at hresult
  · by_cases hbid : b.attempt.id = id
    · rw [hsame b hb hbid] at he
      cases he
    · rwa [if_neg hbid]

omit [CharacterDatabase] in
/-- Asking every attempt to stop. -/
lemma EngineInvariant.cancel {t : Tables} {engine engine' : Engine} (h : EngineInvariant t engine)
    (hconfig : engine'.config = engine.config) (htokens : engine'.tokens = engine.tokens)
    (hactive : engine'.active = engine.active.map ActiveAttempt.cancel)
    (hloop : engine'.phase.goesOn → engine'.phase = engine.phase)
    (hpositioned : engine'.Positioned) : EngineInvariant t engine' := by
  refine h.map hconfig htokens hactive hloop (fun a _ => a.cancel_attempt)
    (fun a _ hended => ?_) (fun a _ result hresult _ => ?_) (fun a _ e he => ?_) hpositioned
  · rwa [a.cancel_isEnded] at hended
  · rwa [a.cancel_phase] at hresult
  · rwa [a.cancel_phase]

omit [CharacterDatabase] in
/-- Attempts have ended well, and a turn may begin with the others. -/
lemma EngineInvariant.turnReady_awake {t : Tables} {engine : Engine} (h : EngineInvariant t engine)
    (henabled : (EngineAction.wake none).Enabled engine) :
    TurnReady t { engine with active := engine.active.filter fun a => !a.isEnded } := by
  obtain ⟨hwaiting, -, hgood⟩ := henabled
  refine ⟨⟨(List.length_filter_le _ _).trans h.size, h.attended.filter _, h.fresh⟩, ?_,
    fun a ha => ?_⟩
  · refine h.looping (by rw [hwaiting]; trivial) ?_
    rintro ⟨a, ha, e, he⟩
    exact hgood a ha e he
  · simpa using (List.mem_filter.1 ha).2

omit [CharacterDatabase] in
/-- A turn of an idle engine may begin. -/
lemma EngineInvariant.turnReady_idle {t : Tables} {engine : Engine} (h : EngineInvariant t engine)
    (hidle : engine.phase = .idle) : TurnReady t engine := by
  have hactive := h.positioned.idle hidle
  refine ⟨h.toStaffed, h.looping (by rw [hidle]; trivial) ?_, fun a ha => ?_⟩
  · rintro ⟨a, ha, -⟩
    rw [hactive] at ha
    cases ha
  · rw [hactive] at ha
    cases ha

/-- **The loop wakes up.** -/
lemma wake_meets {failure : Option ResearchFailure} (h : StoreInvariant s.tables)
    (hengine : EngineInvariant s.tables s.engine)
    (henabled : (EngineAction.wake failure).Enabled s.engine) :
    (wake failure).Meets
      (fun u => StoreInvariant u.tables ∧ Grows (viewOf s.tables) (viewOf u.tables))
      (fun _ u => LoopStretch s u) (fun _ _ => False) s := by
  obtain ⟨tables, engine, draws⟩ := s
  have h : StoreInvariant tables := h
  have hstaffed : Staffed tables { engine with
      active := engine.active.filter fun a => !a.isEnded } :=
    ⟨(List.length_filter_le _ _).trans hengine.size, hengine.attended.filter _, hengine.fresh⟩
  unfold wake
  refine (meets_modifyEngine ?_).bind
  cases failure with
  | some e =>
    refine (guarded_meets (Stretch.meets_throw ?_)).mono (fun _ hu => hu)
      (fun _ u hu => ⟨hu.store, hu.grows, hu.invariant⟩) fun _ _ hfalse => hfalse
    exact Turned.refl h hstaffed
  | none =>
    exact (guarded_turn_meets h (hengine.turnReady_awake henabled) (.refl _)).mono
      (fun _ hu => hu) (fun _ _ hw => ⟨hw.1, hw.2.1, hw.2.2⟩) fun _ _ hfalse => hfalse

/-- **The actions of the event loop.** -/
lemma action_meets {action : EngineAction} (h : StoreInvariant s.tables)
    (hengine : EngineInvariant s.tables s.engine) (henabled : action.Enabled s.engine) :
    action.code.Meets (fun u => StoreInvariant u.tables ∧ Grows (viewOf s.tables) (viewOf u.tables))
      (fun _ u => LoopStretch s u) (fun _ _ => False) s := by
  cases action with
  | begin id =>
    obtain ⟨a, ha, hid, hphase, -⟩ := henabled
    exact setAttemptPhase_meets h hengine ⟨a, ha, hid, hphase⟩ (fun hended => by cases hended)
  | discard id =>
    obtain ⟨a, ha, hid, hphase, -⟩ := henabled
    exact setAttemptPhase_meets h hengine ⟨a, ha, hid, hphase⟩ (fun hended => by cases hended)
  | settle attempt execution =>
    obtain ⟨a, ha, rfl, hphase⟩ := henabled
    exact (settleAttempt_meets _ h hengine ha hphase).mono (fun _ hu => hu)
      (fun _ u hu => ⟨hu.store, hu.grows, hu.invariant⟩) fun _ _ hfalse => hfalse
  | wake failure => exact wake_meets h hengine henabled
  | poll =>
    exact (guarded_turn_meets h (hengine.turnReady_idle henabled) (.refl _)).mono
      (fun _ hu => hu) (fun _ _ hw => ⟨hw.1, hw.2.1, hw.2.2⟩) fun _ _ hfalse => hfalse
  | close result =>
    show (closed result).Meets _ _ _ _
    refine meets_modifyEngine ⟨h, .refl _, ⟨Nat.zero_le _, ?_, hengine.fresh⟩, ?_,
      .of_ended (Or.inr ⟨result, rfl⟩)⟩
    · exact ⟨List.nodup_nil, fun a ha => (by cases ha), fun a ha => (by cases ha),
        fun a ha => (by cases ha)⟩
    · exact fun hgoes => absurd hgoes id
  | requestStop =>
    show requestStop.Meets _ _ _ _
    refine meets_modifyEngine ⟨h, .refl _, hengine.cancel rfl rfl rfl (fun _ => rfl) ?_⟩
    exact hengine.positioned.map rfl rfl fun _ => rfl
  | timeLimit =>
    refine (meets_modifyEngine ?_).bind
    refine meets_modifyEngine ⟨h, .refl _, hengine.cancel rfl rfl rfl (fun hgoes => ?_) ?_⟩
    · exact absurd hgoes id
    · exact .of_ended (Or.inl ⟨.cancelled, rfl⟩)

/-- Recording the stop of the controller is not about research records. -/
lemma unrelated_recordControllerStop {t t' : Tables} {stamp : Stamp} {sessionId reason : String}
    (h : StoreInvariant t) (hok : recordControllerStop t stamp sessionId reason = .ok t') :
    Unrelated t t' := by
  obtain ⟨event, record, htype, -, -, happlied, hqueue⟩ := appendControl_ok hok
  refine unrelated_of_run h.log (TransitionSystem.Run.single ⟨record, happlied⟩)
    (fun e he => ?_) (hqueue ▸ h.queue)
  rw [List.mem_singleton.1 he, htype]
  decide

/-- **The end of a run.** -/
lemma closeRun_meets (result : Except ResearchFailure Unit) (h : StoreInvariant s.tables) :
    (closeRun result).Meets
      (fun u => StoreInvariant u.tables ∧ Grows (viewOf s.tables) (viewOf u.tables))
      (fun _ u => StoreInvariant u.tables ∧ Grows (viewOf s.tables) (viewOf u.tables))
      (fun _ u => StoreInvariant u.tables ∧ Grows (viewOf s.tables) (viewOf u.tables)) s := by
  unfold closeRun
  refine (meets_self ?_).bind
  refine Stretch.Meets.bind ?_
  refine Stretch.meets_save (fun u _ hsave => ?_) fun e _ => ⟨h, .refl _⟩
  simp only [bind_eq_ok, mapError_eq_ok, pure_eq_ok, Prod.mk.injEq] at hsave
  obtain ⟨t₁, hstop, rfl, -⟩ := hsave
  obtain ⟨hstore, hgrows⟩ := h.unrelated (unrelated_recordControllerStop h hstop)
  refine ⟨⟨hstore, hgrows⟩, ?_⟩
  refine (Stretch.meets_read (fun finishedAt _ => ?_) fun e _ => ⟨hstore, hgrows⟩).bind
  refine meets_saveRecord (fun t₂ hsaved => ?_) fun e => ⟨hstore, hgrows⟩
  have hleaves := hsaved.leavesAttempts hstore (by decide) (by decide)
  exact ⟨⟨hleaves.store, hgrows.trans hleaves.grows⟩, hleaves.store, hgrows.trans hleaves.grows⟩

/-! ## The invariant of a project -/

/-- What holds of a project at any time. -/
structure ProjectInvariant (w : ResearchWorld) : Prop where
  store : StoreInvariant w.tables
  engine : ∀ engine, w.process = some engine → EngineInvariant w.tables engine

/-- What a stretch leaves satisfies the invariant if each of its outcomes does. -/
lemma Leaves.invariant {code : EngineM Unit} {w : ResearchWorld} (hleaves : Leaves code s w)
    (hcode : code.Meets
      (fun u => StoreInvariant u.tables ∧ Grows (viewOf s.tables) (viewOf u.tables))
      (fun _ u => LoopStretch s u) (fun _ _ => False) s) :
    ProjectInvariant w ∧ Grows (viewOf s.tables) (viewOf w.tables) := by
  cases hleaves with
  | done =>
    cases hresult : (code s).result with
    | ok a =>
      have hdone := hcode.ok hresult
      refine ⟨⟨hdone.store, fun engine hengine => ?_⟩, hdone.grows⟩
      obtain rfl := Option.some.inj hengine
      exact hdone.invariant
    | error e => exact (hcode.error hresult).elim
  | died hsaved =>
    obtain ⟨hstore, hgrows⟩ := hcode.saved hsaved
    exact ⟨⟨hstore, fun engine hengine => by cases hengine⟩, hgrows⟩

/-- The store that the end of a run leaves. -/
lemma Leaves.closed {result : Except ResearchFailure Unit} {w : ResearchWorld}
    (hleaves : Leaves (closeRun result) s w) (h : StoreInvariant s.tables) :
    StoreInvariant w.tables ∧ Grows (viewOf s.tables) (viewOf w.tables) := by
  have hclose := closeRun_meets result h
  cases hleaves with
  | done =>
    cases hresult : (closeRun result s).result with
    | ok a => exact hclose.ok hresult
    | error e => exact hclose.error hresult
  | died hsaved => exact hclose.saved hsaved

/-- Every step of a project keeps the invariant and takes nothing back. -/
lemma ResearchStep.invariant {w w' : ResearchWorld} {action : ResearchAction}
    (hstep : ResearchStep w action w') (h : ProjectInvariant w) :
    ProjectInvariant w' ∧ Grows (viewOf w.tables) (viewOf w'.tables) := by
  cases hstep with
  | request draw params =>
    cases hchange : operatorChange w.tables draw params with
    | error e => exact ⟨h, .refl _⟩
    | ok r =>
      have hleaves := (operatorChange_ok h.store hchange).leavesAttempts h.store
      exact ⟨⟨hleaves.store, fun engine hengine =>
        (h.engine engine hengine).leavesAttempts h.store hleaves⟩, hleaves.grows⟩
  | service hop =>
    have hleaves := (unrelated_exec h.store.log h.store.queue hop).leavesAttempts h.store
    exact ⟨⟨hleaves.store, fun engine hengine =>
      (h.engine engine hengine).leavesAttempts h.store hleaves⟩, hleaves.grows⟩
  | start hfresh hleaves => exact hleaves.invariant (startRun_meets h.store hfresh rfl)
  | engine hrunning henabled hleaves =>
    exact hleaves.invariant (action_meets h.store (h.engine _ rfl) henabled)
  | finish hphase hleaves =>
    obtain ⟨hstore, hgrows⟩ := hleaves.closed h.store
    exact ⟨⟨hstore, fun engine hengine => by cases hengine⟩, hgrows⟩
  | crash => exact ⟨⟨h.store, fun engine hengine => by cases hengine⟩, .refl _⟩

/-! ## The invariant in every reachable state -/

omit [CharacterDatabase] in
lemma recordAt_initial (kind identity : String) : recordAt initialTables kind identity = none := by
  have hnone : ∀ key, findRecord initialTables.projections .research key = none :=
    fun key => rfl
  rw [recordAt, hnone]
  rfl

omit [CharacterDatabase] in
lemma viewOf_initial :
    (∀ id task, taskAt initialTables id ≠ some task) ∧
      ∀ id attempt, attemptAt initialTables id ≠ some attempt := by
  refine ⟨fun id task h => ?_, fun id attempt h => ?_⟩
  · obtain ⟨data, hdata, -⟩ := taskAt_eq_some.1 h
    rw [recordAt_initial] at hdata
    cases hdata
  · obtain ⟨data, hdata, -⟩ := attemptAt_eq_some.1 h
    rw [recordAt_initial] at hdata
    cases hdata

omit [CharacterDatabase] in
/-- A project without tasks and attempts. -/
lemma ResearchInvariant.of_empty {v : ResearchView} (htasks : ∀ id task, v.tasks id ≠ some task)
    (hattempts : ∀ id attempt, v.attempts id ≠ some attempt) : ResearchInvariant v where
  taskNamed := fun id task h => absurd h (htasks id task)
  attemptNamed := fun id attempt h => absurd h (hattempts id attempt)
  owned := fun id attempt h => absurd h (hattempts id attempt)
  closed := fun a _ ⟨task, h, _⟩ => absurd h (htasks a task)
  acyclic := acyclic_of_forall_not fun a _ ⟨task, h, _⟩ => htasks a task h
  begun := fun id attempt _ h => absurd h (hattempts id attempt)
  sound := fun id ⟨task, h, _⟩ => absurd h (htasks id task)
  evidenced := fun id attempt h => absurd h (hattempts id attempt)
  settled := fun id task h => absurd h (htasks id task)
  distinct := fun i _ a _ h => absurd h (hattempts i a)
  positive := fun id attempt h => absurd h (hattempts id attempt)
  bounded := fun id attempt _ h => absurd h (hattempts id attempt)
  latest := fun i _ a _ h => absurd h (hattempts i a)
  counted := fun id attempt _ h => absurd h (hattempts id attempt)

/-- A new store. -/
lemma storeInvariant_initial : StoreInvariant initialTables where
  queue := List.nodup_nil
  log := wellFormedLog_initial
  stored := by
    intro key row hrow
    cases hrow
  project := .of_empty viewOf_initial.1 viewOf_initial.2
  order := by
    refine ⟨fun id => ⟨?_, ?_⟩, fun i j a b _ ha => absurd ha (viewOf_initial.2 i a)⟩
    · rintro ⟨row, hrow, -⟩
      cases hrow
    · rintro ⟨attempt, hattempt⟩
      exact absurd hattempt (viewOf_initial.2 id attempt)

/-- **Every reachable state of a project satisfies the invariant.** -/
theorem projectInvariant_of_reachable {w : ResearchWorld} (h : researchSystem.Reachable w) :
    ProjectInvariant w := by
  refine h.invariant (fun s hs => ?_) fun s action t hs hstep => (hstep.invariant hs).1
  obtain rfl : s = ⟨initialTables, none⟩ := hs
  exact ⟨storeInvariant_initial, fun engine hengine => by cases hengine⟩

/-- **No run of a project takes anything back.** -/
theorem grows_of_run {w w' : ResearchWorld} {actions : List ResearchAction}
    (h : researchSystem.Reachable w) (hrun : researchSystem.Run w actions w') :
    Grows (viewOf w.tables) (viewOf w'.tables) :=
  hrun.mono (P := ProjectInvariant)
    (R := fun (a b : ResearchWorld) => Grows (viewOf a.tables) (viewOf b.tables))
    (fun _ => .refl _) (fun _ _ _ hab hbc => hab.trans hbc)
    (fun _ _ _ hs hstep => ResearchStep.invariant hstep hs) (projectInvariant_of_reachable h)

end Aizim.Research
