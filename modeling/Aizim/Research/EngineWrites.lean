import Aizim.Research.EngineInvariant

/-!
# What the engine writes

The engine writes the beginning of an attempt (`Beginning`), its end (`Ending`), what recovery makes of
a task, and records that concern neither.  An `EngineRule` is a relation between stores that each of
these writes respects; then every step of a project respects it (`EngineRule.step`), from any state in
which the task of each attempt in progress is running.
-/

namespace Aizim.Research

open Aizim.JsonValue Aizim.JsonObject State Orchestration

variable [CharacterDatabase] {t u : Tables}

/-! ## The end of an attempt -/

variable {s : EngineState} {attempt : Attempt} {task : Task} {result : AttemptResult}
  {interrupted : Bool} {accepted : List String}

/-- The end of the attempt was saved, and maybe that of its task. -/
structure Ending (t : Tables) (attempt : Attempt) (task : Task) (result : AttemptResult)
    (interrupted : Bool) (accepted : List String) (u : Tables) : Prop where
  evidence : accepted ≠ [] ↔ PublishedIn t.toEventLog attempt.runId attempt.workerId
  attempts : attemptAt u =
    Function.update (attemptAt t) attempt.id (some (attempt.finished result accepted interrupted))
  task : taskAt u attempt.taskId = some task ∨
    taskAt u attempt.taskId = some (task.finished result accepted interrupted)

/-- What `_finish` has saved at any time. -/
lemma finishAttempt_writes (h : StoreInvariant s.tables) (hf : Finishable s.tables attempt task) :
    (finishAttempt attempt result interrupted).Meets
      (fun u => ∃ accepted, Ending s.tables attempt task result interrupted accepted u.tables)
      (fun _ u => ∃ accepted, Ending s.tables attempt task result interrupted accepted u.tables)
      (fun _ u => u.tables = s.tables ∨
        ∃ accepted, Ending s.tables attempt task result interrupted accepted u.tables) s := by
  unfold finishAttempt
  refine (meets_query (fun task' hrequire => ?_) fun e => Or.inl rfl).bind
  obtain rfl := Option.some.inj (hf.ofTask.symm.trans (requireTask_ok hrequire))
  refine (meets_query (fun accepted hread => ?_) fun e => Or.inl rfl).bind
  simp only [bind_eq_ok, require_eq_ok, pure_eq_ok, exists_and_left, exists_const] at hread
  obtain ⟨-, accepted', hverified, -, rfl⟩ := hread
  have hevidence := verifiedForWorker_ok h.log hverified
  refine (meets_saveRecord (fun t₁ hsaved => ?_) fun e => Or.inl rfl).bind
  have hfirst : Ending s.tables attempt task result interrupted accepted' t₁ := by
    refine ⟨hevidence, ?_, Or.inl ?_⟩
    · rw [hsaved.attemptAt_eq, Attempt.ofData_data]
    · rw [hsaved.taskAt_of_ne (by decide)]
      exact hf.ofTask
  refine ⟨⟨_, hfirst⟩, ?_⟩
  refine (meets_saveRecord (fun t₂ hsaved' => ?_) fun e => Or.inr ⟨_, hfirst⟩).bind
  have hsecond : Ending s.tables attempt task result interrupted accepted' t₂ := by
    refine ⟨hevidence, ?_, Or.inr ?_⟩
    · rw [hsaved'.attemptAt_of_ne (by decide), hfirst.attempts]
    · rw [hsaved'.taskAt_eq, Function.update_self, Task.ofData_data]
  refine ⟨⟨_, hsecond⟩, ?_⟩
  refine (meets_query (fun memory _ => ?_) fun e => Or.inr ⟨_, hsecond⟩).bind
  split
  · refine meets_saveRecord (fun t₃ hsaved'' => ?_) fun e => Or.inr ⟨_, hsecond⟩
    have hthird : Ending s.tables attempt task result interrupted accepted' t₃ := by
      refine ⟨hevidence, ?_, ?_⟩
      · rw [hsaved''.attemptAt_of_ne (by decide), hsecond.attempts]
      · rw [hsaved''.taskAt_of_ne (by decide)]
        exact hsecond.task
    exact ⟨⟨_, hthird⟩, _, hthird⟩
  · exact Stretch.meets_pure ⟨_, hsecond⟩

/-! ## The beginning of an attempt -/

/-- The attempt was saved, and maybe that its task runs. -/
structure Beginning (t : Tables) (task : Task) (attempt : Attempt) (u : Tables) : Prop where
  made : ∃ config token workerId inboxIds,
    attempt = newAttempt config task ("attempt-" ++ token) workerId inboxIds
  attempts : attemptAt u = Function.update (attemptAt t) attempt.id (some attempt)
  task : taskAt u task.taskId = some task ∨
    taskAt u task.taskId = some { task with status := .running, rounds := task.rounds + 1 }

/-- What `_begin` has saved at any time. -/
lemma beginAttempt_writes (htask : taskAt s.tables task.taskId = some task) :
    (beginAttempt task).Meets
      (fun u => ∃ attempt, attempt.id = "attempt-" ++ s.engine.tokens 0 ∧
        Beginning s.tables task attempt u.tables)
      (fun _ u => ∃ attempt, attempt.id = "attempt-" ++ s.engine.tokens 0 ∧
        Beginning s.tables task attempt u.tables)
      (fun _ u => u.tables = s.tables ∨ ∃ attempt, attempt.id = "attempt-" ++ s.engine.tokens 0 ∧
        Beginning s.tables task attempt u.tables) s := by
  unfold beginAttempt
  refine (meets_self ?_).bind
  refine (meets_drawToken ?_).bind
  refine (meets_drawToken ?_).bind
  refine (meets_query (fun entries _ => ?_) fun e => Or.inl rfl).bind
  dsimp only
  generalize hattempt : newAttempt s.engine.config task ("attempt-" ++ s.engine.tokens 0)
    ("worker-" ++ s.engine.tokens (0 + 1)) _ = attempt
  have hid : attempt.id = "attempt-" ++ s.engine.tokens 0 := by rw [← hattempt]; rfl
  have hmade : ∃ config token workerId inboxIds,
      attempt = newAttempt config task ("attempt-" ++ token) workerId inboxIds :=
    ⟨_, _, _, _, hattempt.symm⟩
  rw [← hid]
  refine (meets_saveRecord (fun t₁ hsaved => ?_) fun e => Or.inl rfl).bind
  have hfirst : Beginning s.tables task attempt t₁ := by
    refine ⟨hmade, ?_, Or.inl ?_⟩
    · rw [hsaved.attemptAt_eq, Attempt.ofData_data]
    · rw [hsaved.taskAt_of_ne (by decide)]
      exact htask
  refine ⟨⟨attempt, rfl, hfirst⟩, ?_⟩
  refine (meets_saveRecord (fun t₂ hsaved' => ?_) fun e => Or.inr ⟨attempt, rfl, hfirst⟩).bind
  have hsecond : Beginning s.tables task attempt t₂ := by
    refine ⟨hmade, ?_, Or.inr ?_⟩
    · rw [hsaved'.attemptAt_of_ne (by decide), hfirst.attempts]
    · rw [hsaved'.taskAt_eq, Function.update_self, Task.ofData_data]
  refine ⟨⟨attempt, rfl, hsecond⟩, ?_⟩
  -- the inbox is written after the attempt and its task
  refine Stretch.Meets.bind ?_
  refine (Stretch.meets_forEach
    (fun _ (u : EngineState) => Beginning s.tables task attempt u.tables)
    (fun _ entry _ _ u hu => ?_) hsecond).mono (fun _ hu => hu) (fun _ u hu => ?_)
    fun _ u hu => hu
  · unfold consume
    refine (meets_query (fun consumed _ => ?_) fun e => Or.inr ⟨attempt, rfl, hu⟩).bind
    refine meets_saveRecord (fun t₃ hsaved'' => ?_) fun e => Or.inr ⟨attempt, rfl, hu⟩
    have hthird : Beginning s.tables task attempt t₃ := by
      refine ⟨hmade, ?_, ?_⟩
      · rw [hsaved''.attemptAt_of_ne (by decide), hu.attempts]
      · rw [hsaved''.taskAt_of_ne (by decide)]
        exact hu.task
    exact ⟨⟨attempt, rfl, hthird⟩, hthird⟩
  · exact Stretch.meets_pure ⟨attempt, rfl, hu⟩

omit [CharacterDatabase] in
lemma Beginning.ofTask (h : Beginning t task attempt u) : attempt.taskId = task.taskId := by
  obtain ⟨config, token, workerId, inboxIds, rfl⟩ := h.made
  rfl

omit [CharacterDatabase] in
lemma Beginning.running (h : Beginning t task attempt u) : attempt.status = .running := by
  obtain ⟨config, token, workerId, inboxIds, rfl⟩ := h.made
  rfl

/-! ## The attempts in progress -/

/-- The task of every attempt in progress is running. -/
def Underway (t : Tables) (active : List ActiveAttempt) : Prop :=
  ∀ a ∈ active, a.isEnded = false →
    ∃ task, taskAt t a.attempt.taskId = some task ∧ task.status = .running

/-- What a stretch leaves of the store and the attempts in progress. -/
structure Kept (R : Tables → Tables → Prop) (s u : EngineState) : Prop where
  related : R s.tables u.tables
  underway : Underway u.tables u.engine.active

omit [CharacterDatabase] in
lemma Underway.of_ended {active active' : List ActiveAttempt} (h : Underway t active)
    (hsub : ∀ b ∈ active', b.isEnded = false →
      ∃ a ∈ active, a.isEnded = false ∧ b.attempt = a.attempt) : Underway t active' := by
  intro b hb hunended
  obtain ⟨a, ha, hunended', hattempt⟩ := hsub b hb hunended
  rw [hattempt]
  exact h a ha hunended'

omit [CharacterDatabase] in
lemma Underway.cancel {active : List ActiveAttempt} (h : Underway t active) :
    Underway t (active.map ActiveAttempt.cancel) := by
  refine h.of_ended fun b hb hunended => ?_
  obtain ⟨a, ha, rfl⟩ := List.mem_map.1 hb
  exact ⟨a, ha, a.cancel_isEnded ▸ hunended, a.cancel_attempt⟩

omit [CharacterDatabase] in
lemma Underway.undisturbed {active : List ActiveAttempt} (h : Underway t active)
    (hu : ∀ a ∈ active, a.isEnded = false → Undisturbed t u a.attempt.taskId) :
    Underway u active := by
  intro a ha hunended
  obtain ⟨task, htask, hrunning⟩ := h a ha hunended
  obtain ⟨task', htask', hstatus, -⟩ := (hu a ha hunended).task task htask
  exact ⟨task', htask', hstatus.trans hrunning⟩

omit [CharacterDatabase] in
/-- The loop goes on with attempts whose tasks are running. -/
lemma TurnReady.underway {engine : Engine} (h : TurnReady t engine) :
    Underway t engine.active := by
  intro a ha hunended
  obtain ⟨hrunning, task, hf⟩ := h.attended.inProgress a ha hunended
  exact ⟨task, hf.ofTask, (h.looping _ a.attempt task hf.found hf.ofTask).2 hrunning⟩

section

variable {R : Tables → Tables → Prop}

omit [CharacterDatabase] in
/-- Going on to the next await. -/
lemma Kept.enterPhase {w : EngineState} (h : Kept R s w) (phase : LoopPhase) :
    (enterPhase phase).Meets (fun u => R s.tables u.tables) (fun _ u => Kept R s u)
      (fun _ _ => False) w := by
  unfold Research.enterPhase
  refine meets_modifyEngine ⟨h.related, ?_⟩
  cases phase with
  | closing result => exact h.underway.cancel
  | _ => exact h.underway

omit [CharacterDatabase] in
/-- The loop of `run` with its clean-up. -/
lemma guarded_kept {x : EngineM LoopPhase} {w : EngineState}
    (hx : x.Meets (fun u => R s.tables u.tables) (fun _ u => Kept R s u)
      (fun _ u => Kept R s u) w) :
    (guarded x).Meets (fun u => R s.tables u.tables) (fun _ u => Kept R s u)
      (fun _ _ => False) w := by
  unfold guarded
  refine Stretch.Meets.bind ?_
  refine Stretch.Meets.tryCatch ?_
  refine hx.mono (fun u hu => hu) (fun phase u hu => hu.enterPhase phase) fun e u hu => ?_
  exact Stretch.meets_pure (hu.enterPhase _)

omit [CharacterDatabase] in
/-- What a stretch leaves, after each of its outcomes. -/
lemma Leaves.kept {code : EngineM Unit} {w : ResearchWorld} (hleaves : Leaves code s w)
    (hkeeps : code.Meets (fun u => R s.tables u.tables) (fun _ u => Kept R s u)
      (fun _ _ => False) s) :
    R s.tables w.tables ∧ ∀ engine, w.process = some engine → Underway w.tables engine.active := by
  cases hleaves with
  | done =>
    cases hresult : (code s).result with
    | ok a =>
      have hdone := hkeeps.ok hresult
      refine ⟨hdone.related, fun engine hengine => ?_⟩
      obtain rfl := Option.some.inj hengine
      exact hdone.underway
    | error e => exact (hkeeps.error hresult).elim
  | died hsaved => exact ⟨hkeeps.saved hsaved, fun engine hengine => by cases hengine⟩

/-- What holds of a project, its attempts in progress included. -/
structure Manned (w : ResearchWorld) : Prop extends ProjectInvariant w where
  underway : ∀ engine, w.process = some engine → Underway w.tables engine.active

/-- The stores that a process starts in are whole. -/
def StartsIn (whole : Tables → Prop) (w : ResearchWorld) : ResearchAction → Prop
  | .start .. => whole w.tables
  | _ => True

end

/-! ## The stretches of the engine -/

/-- A relation between stores that every write of a project respects.  A process that starts in a
store of `whole` recovers in a way that respects it. -/
structure EngineRule (R : Tables → Tables → Prop) (whole : Tables → Prop) : Prop where
  refl : ∀ t, R t t
  trans : ∀ {t u w}, R t u → R u w → R t w
  other : ∀ {t u}, StoreInvariant t → LeavesAttempts t u → taskAt u = taskAt t → R t u
  requested : ∀ {t u draw params version}, StoreInvariant t →
    operatorChange t draw params = .ok (u, version) → R t u
  begun : ∀ {t u task attempt}, StoreInvariant t → InFrontier t task → Ready t task →
    attemptAt t attempt.id = none → Progress t attempt.id task.taskId u →
    Beginning t task attempt u → R t u
  ended : ∀ {t u task attempt result interrupted accepted}, StoreInvariant t →
    Finishable t attempt task → attempt.status = .running → task.status = .running →
    Progress t attempt.id attempt.taskId u →
    Ending t attempt task result interrupted accepted u → R t u
  recovered : ∀ {s : EngineState}, StoreInvariant s.tables → whole s.tables →
    recover.Meets (fun u => R s.tables u.tables) (fun _ u => R s.tables u.tables)
      (fun _ u => R s.tables u.tables) s
  whole_run : ∀ {t u identity data}, StoreInvariant t → Saved t u "run" identity data →
    whole t → whole u

namespace EngineRule

variable {R : Tables → Tables → Prop} {whole : Tables → Prop} (rule : EngineRule R whole)
include rule

/-- `_attempt` -/
lemma settleAttempt_keeps {a : ActiveAttempt} (execution : Execution)
    (h : StoreInvariant s.tables) (hengine : EngineInvariant s.tables s.engine)
    (hunderway : Underway s.tables s.engine.active) (ha : a ∈ s.engine.active)
    (hphase : a.phase = .executing) :
    (settleAttempt a.attempt execution).Meets (fun u => R s.tables u.tables)
      (fun _ u => Kept R s u) (fun _ _ => False) s := by
  have hunended : a.isEnded = false := by rw [ActiveAttempt.isEnded, hphase]
  obtain ⟨hrunning, task, hf⟩ := hengine.attended.inProgress a ha hunended
  have htask : task.status = .running := by
    obtain ⟨task', htask', hstatus⟩ := hunderway a ha hunended
    obtain rfl := Option.some.inj (hf.ofTask.symm.trans htask')
    exact hstatus
  have hend : ∀ (result : Except ResearchFailure Unit) (u : EngineState), u.engine = s.engine →
      Progress s.tables a.attempt.id a.attempt.taskId u.tables → R s.tables u.tables →
      (setAttemptPhase a.attempt.id (.ended result)).Meets (fun u => R s.tables u.tables)
        (fun _ u => Kept R s u) (fun _ _ => False) u := by
    intro result u hsame hprogress hrelated
    refine meets_modifyEngine ⟨hrelated, ?_⟩
    rw [hsame]
    have hof : ∀ r, attemptAt u.tables a.attempt.id = some r → r.taskId = a.attempt.taskId := by
      intro r hr
      obtain ⟨r', hr', hkeeps⟩ := hprogress.grows.attempts _ a.attempt hf.found
      obtain rfl := Option.some.inj (hr'.symm.trans hr)
      exact hkeeps.taskId
    have hothers : Underway u.tables
        (s.engine.active.filter fun b => decide (b.attempt.id ≠ a.attempt.id)) := by
      refine (hunderway.of_ended fun b hb hb' => ⟨b, (List.mem_filter.1 hb).1, hb', rfl⟩).undisturbed
        fun b hb hb' => ?_
      obtain ⟨hin, hne⟩ := List.mem_filter.1 hb
      exact hprogress.undisturbed hof
        (hengine.attended.taskId_ne hin hb' hf (by simpa using hne))
    refine hothers.of_ended fun c hc hc' => ?_
    obtain ⟨b, hb, rfl⟩ := List.mem_map.1 hc
    by_cases hid : b.attempt.id = a.attempt.id
    · rw [if_pos hid] at hc'
      cases hc'
    · rw [if_neg hid] at hc' ⊢
      exact ⟨b, List.mem_filter.2 ⟨hb, by simpa using hid⟩, hc', rfl⟩
  unfold settleAttempt
  refine Stretch.Meets.bind ?_
  refine Stretch.Meets.tryCatch ?_
  refine Stretch.Meets.bind ?_
  refine ((finishAttempt_meets h hf).and (finishAttempt_writes h hf)).mono (fun u hu => ?_)
    (fun _ u hu => ?_) fun e u hu => ?_
  · obtain ⟨hprogress, accepted, hending⟩ := hu
    exact rule.ended h hf hrunning htask hprogress hending
  · obtain ⟨⟨hsame, hfinished⟩, accepted, hending⟩ := hu
    refine Stretch.meets_pure ?_
    exact hend _ u hsame hfinished.progress
      (rule.ended h hf hrunning htask hfinished.progress hending)
  · obtain ⟨⟨hsame, hprogress⟩, hstate | ⟨accepted, hending⟩⟩ := hu
    · refine Stretch.meets_pure ?_
      exact hend _ u hsame hprogress (hstate ▸ rule.refl _)
    · refine Stretch.meets_pure ?_
      exact hend _ u hsame hprogress (rule.ended h hf hrunning htask hprogress hending)

/-- The inner loop of `run`. -/
lemma fill_keeps (free : ℕ) (h : StoreInvariant s.tables) (hready : TurnReady s.tables s.engine)
    (hroom : s.engine.active.length + free ≤ s.engine.config.workers) :
    (fill free).Meets (fun u => R s.tables u.tables) (fun _ u => Kept R s u)
      (fun _ u => Kept R s u) s := by
  induction free generalizing s with
  | zero => exact Stretch.meets_pure ⟨rule.refl _, hready.underway⟩
  | succ free ih =>
    have hstart : Kept R s s := ⟨rule.refl _, hready.underway⟩
    unfold fill
    refine (meets_query (fun tasks hfrontier => ?_) fun e => hstart).bind
    cases tasks with
    | nil => exact Stretch.meets_pure hstart
    | cons task tasks =>
      have hin : InFrontier s.tables task := by
        obtain ⟨tasks', htasks', hin⟩ := exists_frontier h
        obtain rfl := Except.ok.inj (hfrontier.symm.trans htasks')
        exact hin task List.mem_cons_self
      have htask : Ready s.tables task := hin.ready hready.looping
      have hnew := hready.fresh.unused 0
      have hbegins : ∀ (u : Tables) (attempt : Attempt),
          attempt.id = "attempt-" ++ s.engine.tokens 0 →
          Progress s.tables ("attempt-" ++ s.engine.tokens 0) task.taskId u →
          Beginning s.tables task attempt u → R s.tables u := by
        intro u attempt hid hprogress hbeginning
        rw [← hid] at hnew hprogress
        exact rule.begun h hin htask hnew hprogress hbeginning
      refine Stretch.Meets.bind ?_
      refine ((beginAttempt_meets h htask hnew).and (beginAttempt_writes htask.found)).mono
        (fun u hu => ?_) (fun attempt u hu => ?_) fun e u hu => ?_
      · obtain ⟨hprogress, attempt, hid, hbeginning⟩ := hu
        exact hbegins _ attempt hid hprogress hbeginning
      · obtain ⟨tables, engine, draws⟩ := u
        obtain ⟨⟨rfl, hid, hbegun⟩, attempt', hid', hbeginning⟩ :
          (engine = _ ∧ _ ∧ Begun s.tables task attempt tables) ∧ _ := hu
        have hrelated : R s.tables tables :=
          hbegins _ attempt' hid' (hid ▸ hbegun.progress) hbeginning
        refine (meets_modifyEngine ?_).bind
        have hnext := hready.begun (by omega) htask hid hbegun
        refine (ih hbegun.progress.store hnext ?_).mono (fun w hw => rule.trans hrelated hw)
          (fun _ w hw => ?_) fun e w hw => ?_
        · simp only [List.length_append, List.length_singleton]
          omega
        · exact ⟨rule.trans hrelated hw.related, hw.underway⟩
        · exact ⟨rule.trans hrelated hw.related, hw.underway⟩
      · obtain ⟨⟨hengine, hbegun⟩, hwrites⟩ := hu
        refine ⟨?_, ?_⟩
        · rcases hwrites with hsame | ⟨attempt, hid, hbeginning⟩
          · exact hsame ▸ rule.refl _
          · exact hbegins _ attempt hid hbegun.progress hbeginning
        · rw [hengine]
          exact hready.underway.undisturbed fun a ha _ =>
            hbegun.progress.undisturbed hbegun.ofTask (hready.taskId_ne htask ha)

/-- A turn of the loop of `run`. -/
lemma turn_keeps (h : StoreInvariant s.tables) (hready : TurnReady s.tables s.engine) :
    turn.Meets (fun u => R s.tables u.tables) (fun _ u => Kept R s u)
      (fun _ u => Kept R s u) s := by
  have hstart : Kept R s s := ⟨rule.refl _, hready.underway⟩
  unfold turn
  refine (meets_self ?_).bind
  split
  · exact Stretch.meets_pure hstart
  · refine (meets_query (fun _ _ => ?_) fun e => hstart).bind
    refine Stretch.Meets.bind ?_
    refine (fill_keeps rule _ h hready ?_).mono (fun u hu => hu) (fun _ u hu => ?_) fun e u hu => hu
    · have hsize := hready.size
      omega
    · refine (meets_self ?_).bind
      split
      · exact Stretch.meets_pure hu
      · exact Stretch.meets_pure hu

/-- A turn of the loop, after what came before it. -/
lemma guarded_turn_keeps {w : EngineState} (h : StoreInvariant w.tables)
    (hready : TurnReady w.tables w.engine) (hrelated : R s.tables w.tables) :
    (guarded turn).Meets (fun u => R s.tables u.tables) (fun _ u => Kept R s u)
      (fun _ _ => False) w :=
  guarded_kept ((turn_keeps rule h hready).mono (fun _ hu => rule.trans hrelated hu)
    (fun _ _ hu => ⟨rule.trans hrelated hu.related, hu.underway⟩)
    fun _ _ hu => ⟨rule.trans hrelated hu.related, hu.underway⟩)

/-- The loop wakes up. -/
lemma wake_keeps {failure : Option ResearchFailure} (h : StoreInvariant s.tables)
    (hengine : EngineInvariant s.tables s.engine) (hunderway : Underway s.tables s.engine.active)
    (henabled : (EngineAction.wake failure).Enabled s.engine) :
    (wake failure).Meets (fun u => R s.tables u.tables) (fun _ u => Kept R s u)
      (fun _ _ => False) s := by
  unfold wake
  refine (meets_modifyEngine ?_).bind
  cases failure with
  | some e =>
    refine guarded_kept (Stretch.meets_throw ⟨rule.refl _, ?_⟩)
    exact hunderway.of_ended fun b hb hunended => ⟨b, (List.mem_filter.1 hb).1, hunended, rfl⟩
  | none => exact guarded_turn_keeps rule h (hengine.turnReady_awake henabled) (rule.refl _)

/-- The actions of the event loop. -/
lemma action_keeps {action : EngineAction} (h : StoreInvariant s.tables)
    (hengine : EngineInvariant s.tables s.engine) (hunderway : Underway s.tables s.engine.active)
    (henabled : action.Enabled s.engine) :
    action.code.Meets (fun u => R s.tables u.tables) (fun _ u => Kept R s u)
      (fun _ _ => False) s := by
  -- an attempt that changes its phase had not ended before
  have hphase : ∀ id phase, (∃ a ∈ s.engine.active, a.attempt.id = id ∧ a.phase = .created) →
      (setAttemptPhase id phase).Meets (fun u => R s.tables u.tables)
        (fun _ u => Kept R s u) (fun _ _ => False) s := by
    rintro id phase ⟨a, ha, hid, hcreated⟩
    refine meets_modifyEngine ⟨rule.refl _, hunderway.of_ended fun c hc hc' => ?_⟩
    obtain ⟨b, hb, rfl⟩ := List.mem_map.1 hc
    by_cases hbid : b.attempt.id = id
    · rw [if_pos hbid]
      refine ⟨b, hb, ?_, rfl⟩
      rw [hengine.attended.eq_of_id hb ha (hbid.trans hid.symm), ActiveAttempt.isEnded, hcreated]
    · rw [if_neg hbid] at hc' ⊢
      exact ⟨b, hb, hc', rfl⟩
  cases action with
  | begin id =>
    obtain ⟨a, ha, hid, hcreated, -⟩ := henabled
    exact hphase id _ ⟨a, ha, hid, hcreated⟩
  | discard id =>
    obtain ⟨a, ha, hid, hcreated, -⟩ := henabled
    exact hphase id _ ⟨a, ha, hid, hcreated⟩
  | settle attempt execution =>
    obtain ⟨a, ha, rfl, hexecuting⟩ := henabled
    exact settleAttempt_keeps rule execution h hengine hunderway ha hexecuting
  | wake failure => exact wake_keeps rule h hengine hunderway henabled
  | poll => exact guarded_turn_keeps rule h (hengine.turnReady_idle henabled) (rule.refl _)
  | close result =>
    show (closed result).Meets _ _ _ _
    exact meets_modifyEngine ⟨rule.refl _, fun a ha => absurd ha List.not_mem_nil⟩
  | requestStop =>
    show requestStop.Meets _ _ _ _
    exact meets_modifyEngine ⟨rule.refl _, hunderway.cancel⟩
  | timeLimit =>
    refine (meets_modifyEngine ?_).bind
    refine Kept.enterPhase ?_ _
    exact ⟨rule.refl _, hunderway⟩

/-- The end of a run. -/
lemma closeRun_keeps (runResult : Except ResearchFailure Unit) (h : StoreInvariant s.tables) :
    (closeRun runResult).Meets (fun u : EngineState => R s.tables u.tables)
      (fun _ (u : EngineState) => R s.tables u.tables)
      (fun _ (u : EngineState) => R s.tables u.tables) s := by
  unfold closeRun
  refine (meets_self ?_).bind
  refine Stretch.Meets.bind ?_
  refine Stretch.meets_save (fun u _ hsave => ?_) fun e _ => rule.refl _
  simp only [bind_eq_ok, mapError_eq_ok, pure_eq_ok, Prod.mk.injEq] at hsave
  obtain ⟨t₁, hstop, rfl, -⟩ := hsave
  have hunrelated := unrelated_recordControllerStop h hstop
  have hfirst : R s.tables t₁ := rule.other h (hunrelated.leavesAttempts h) hunrelated.taskAt_eq
  have hstore := (h.unrelated hunrelated).1
  refine ⟨hfirst, ?_⟩
  refine Stretch.Meets.bind ?_
  refine Stretch.meets_read (fun finishedAt _ => ?_) fun e _ => hfirst
  refine meets_saveRecord (fun t₂ hsaved => ?_) fun e => hfirst
  have hsecond : R t₁ t₂ :=
    rule.other hstore (hsaved.leavesAttempts hstore (by decide) (by decide))
      (hsaved.taskAt_of_ne (by decide))
  exact ⟨rule.trans hfirst hsecond, rule.trans hfirst hsecond⟩

/-- The start of a run. -/
lemma startRun_keeps (h : StoreInvariant s.tables)
    (hfresh : FreshTokens s.tables s.engine.tokens) (hactive : s.engine.active = [])
    (hwhole : whole s.tables) :
    startRun.Meets (fun u => R s.tables u.tables) (fun _ u => Kept R s u)
      (fun _ _ => False) s := by
  have hfail : ∀ (e : ResearchFailure) (u : EngineState), u.engine = s.engine →
      R s.tables u.tables → (enterPhase (.ended (.error e))).Meets
        (fun u => R s.tables u.tables) (fun _ u => Kept R s u) (fun _ _ => False) u := by
    intro e u hengine hu
    refine Kept.enterPhase ⟨hu, fun a ha => ?_⟩ _
    rw [hengine, hactive] at ha
    cases ha
  unfold startRun
  refine (meets_self ?_).bind
  refine Stretch.Meets.bind ?_
  refine Stretch.Meets.tryCatch ?_
  refine (meets_saveRecord (fun t₁ hsaved => ?_) fun e => ?_).bind
  · have hleaves := hsaved.leavesAttempts h (by decide) (by decide)
    have hfirst : R s.tables t₁ := rule.other h hleaves (hsaved.taskAt_of_ne (by decide))
    have hfresh' : FreshTokens t₁ s.engine.tokens :=
      ⟨hfresh.injective, by rw [hleaves.attempts]; exact hfresh.unused⟩
    refine ⟨hfirst, ?_⟩
    refine Stretch.Meets.bind ?_
    refine ((recover_meets hleaves.store).and
      (rule.recovered hleaves.store (rule.whole_run h hsaved hwhole))).mono
      (fun u hu => rule.trans hfirst hu.2) (fun _ u hu => ?_) fun e u hu => ?_
    · refine Stretch.meets_pure ?_
      obtain ⟨⟨hengine, hrecovered⟩, hrelated⟩ :
        (u.engine = s.engine ∧ RecoveredAll t₁ u.tables) ∧ R t₁ u.tables := hu
      refine guarded_turn_keeps rule hrecovered.store ?_ (rule.trans hfirst hrelated)
      rw [hengine]
      exact hrecovered.turnReady hactive hfresh'
    · refine Stretch.meets_pure ?_
      exact hfail e u hu.1.1 (rule.trans hfirst hu.2)
  · refine Stretch.meets_pure ?_
    exact hfail e s rfl (rule.refl _)

/-! ## The steps of a project -/

/-- **Every step of a project respects what its writes respect.** -/
theorem step {w w' : ResearchWorld} {action : ResearchAction} (h : Manned w)
    (hadmitted : (researchSystem.restrict (StartsIn whole)).step w action w') :
    Manned w' ∧ R w.tables w'.tables := by
  obtain ⟨hstep, hwhole⟩ : ResearchStep w action w' ∧ StartsIn whole w action := hadmitted
  have hinvariant := (hstep.invariant h.toProjectInvariant).1
  have hothers : ∀ {u : Tables}, LeavesAttempts w.tables u →
      ∀ engine, w.process = some engine → Underway u engine.active := fun hleaves engine hengine =>
    (h.underway engine hengine).undisturbed fun _ _ _ => hleaves.undisturbed _
  cases hstep with
  | request draw params =>
    cases hchange : operatorChange w.tables draw params with
    | error e => exact ⟨h, rule.refl _⟩
    | ok r =>
      rw [hchange] at hinvariant
      have hleaves := (operatorChange_ok h.store hchange).leavesAttempts h.store
      exact ⟨⟨hinvariant, hothers hleaves⟩, rule.requested h.store hchange⟩
  | service hop =>
    have hunrelated := unrelated_exec h.store.log h.store.queue hop
    have hleaves := hunrelated.leavesAttempts h.store
    exact ⟨⟨hinvariant, hothers hleaves⟩, rule.other h.store hleaves hunrelated.taskAt_eq⟩
  | start hfresh hleaves =>
    obtain ⟨hrelated, hunderway⟩ := hleaves.kept (startRun_keeps rule h.store hfresh rfl hwhole)
    exact ⟨⟨hinvariant, hunderway⟩, hrelated⟩
  | engine hrunning henabled hleaves =>
    obtain ⟨hrelated, hunderway⟩ := hleaves.kept
      (action_keeps rule h.store (h.engine _ rfl) (h.underway _ rfl) henabled)
    exact ⟨⟨hinvariant, hunderway⟩, hrelated⟩
  | @finish t engine result draws w' hphase hleaves =>
    have hclose := closeRun_keeps (s := ⟨t, engine, draws⟩) rule result h.store
    have hrelated : R t w'.tables := by
      cases hleaves with
      | done =>
        cases hresult : (closeRun result ⟨t, engine, draws⟩).result with
        | ok a => exact hclose.ok hresult
        | error e => exact hclose.error hresult
      | died hsaved => exact hclose.saved hsaved
    exact ⟨⟨hinvariant, fun engine hengine => by cases hengine⟩, hrelated⟩
  | crash => exact ⟨⟨hinvariant, fun engine hengine => by cases hengine⟩, rule.refl _⟩

/-- Every state of a project whose processes start whole is manned. -/
lemma manned {w : ResearchWorld} (h : (researchSystem.restrict (StartsIn whole)).Reachable w) :
    Manned w := by
  refine h.invariant (fun w hw => ?_) fun w action w' hw hstep => (rule.step hw hstep).1
  obtain rfl : w = ⟨initialTables, none⟩ := hw
  exact ⟨⟨storeInvariant_initial, fun engine hengine => by cases hengine⟩,
    fun engine hengine => by cases hengine⟩

/-- Every run respects what its writes respect. -/
lemma run {w w' : ResearchWorld} {actions : List ResearchAction}
    (h : (researchSystem.restrict (StartsIn whole)).Reachable w)
    (hrun : (researchSystem.restrict (StartsIn whole)).Run w actions w') : R w.tables w'.tables :=
  hrun.mono (P := Manned) (R := fun (a b : ResearchWorld) => R a.tables b.tables)
    (fun _ => rule.refl _) (fun _ _ _ hab hbc => rule.trans hab hbc)
    (fun _ _ _ hs hstep => rule.step hs hstep) (rule.manned h)

end EngineRule

end Aizim.Research
