import Aizim.Research.ProjectSafety

/-!
# The stop of a run by the operator

`request_stop` cancels the attempts that have not ended.  The event loop throws the cancellation into
each of them, the attempt raises it again when it has been saved, and the loop of `run`, which awaits
the attempts, raises it on: `run_research` takes it for a failure.  An attempt that had not taken its
first step is not saved at all.  So a stop is graceful only when no attempt is cancelled:
`stops_gracefully_iff` says so for every reachable state and every moment.
-/

namespace Aizim.Research

open Aizim.JsonValue Aizim.JsonObject State Orchestration TransitionSystem

variable [CharacterDatabase]

/-! ## The run after a stop -/

/-- What may happen after a stop: the operator and the service go on, and so does the event loop, but
the time limit does not expire. -/
def ResearchAction.FollowsStop : ResearchAction → Prop
  | .request .. | .service .. => True
  | .engine action _ => action ≠ .timeLimit
  | _ => False

/-- The engine after `request_stop`. -/
def Engine.stopped (engine : Engine) : Engine :=
  { engine with stop := true, active := engine.active.map ActiveAttempt.cancel }

/-- What a run that has ended leaves on record: its status and the reason of the stop. -/
structure RunRecorded (t : Tables) (runId status reason : String) : Prop where
  run : ∃ data, recordAt t "run" runId = some data ∧ getEntry "status" data = some (.str status)
  stop : ∃ row ∈ t.events, row.eventType = .controllerStopped ∧
    row.field? "controller_session_id" = some (.str runId) ∧
    row.field? "reason_code" = some (.str reason)

/-- The end of a run after a stop is graceful: `run` returned, what was active when the stop was
requested is saved as ended, no interrupted attempt added to the failures of its task, and the run
is recorded as interrupted by the operator. -/
structure GracefulEnd (t : Tables) (engine : Engine) (u : Tables) (engine' : Engine)
    (result : Except ResearchFailure Unit) : Prop where
  returned : result = .ok ()
  saved : ∀ a ∈ engine.active, ∃ r, attemptAt u a.attempt.id = some r ∧ r.status ≠ .running
  failures : ∀ a ∈ engine.active, ∀ r task, attemptAt u a.attempt.id = some r →
    r.status = .interrupted → taskAt t a.attempt.taskId = some task →
    ∃ task', taskAt u a.attempt.taskId = some task' ∧ task'.failures ≤ task.failures
  recorded : ∀ draws, (closeRun result ⟨u, engine', draws⟩).result = .ok () →
    RunRecorded (closeRun result ⟨u, engine', draws⟩).state.tables engine'.config.runId
      "interrupted" "OPERATOR_SIGNAL"

/-- A stop that is requested now is graceful: `run` comes to an end, and every end is graceful. -/
structure StopsGracefully (t : Tables) (engine : Engine) : Prop where
  ends : ∃ actions u engine' result, (∀ action ∈ actions, action.FollowsStop) ∧
    researchSystem.Run ⟨t, some engine.stopped⟩ actions ⟨u, some engine'⟩ ∧
    engine'.phase = .ended result
  graceful : ∀ actions u engine' result, (∀ action ∈ actions, action.FollowsStop) →
    researchSystem.Run ⟨t, some engine.stopped⟩ actions ⟨u, some engine'⟩ →
    engine'.phase = .ended result → GracefulEnd t engine u engine' result

/-- `request_stop` leads to the engine that is stopped. -/
lemma step_requestStop {t : Tables} {engine : Engine} (hrunning : engine.isEnded = false)
    (draws : ℕ → Draw) :
    ResearchStep ⟨t, some engine⟩ (.engine .requestStop draws) ⟨t, some engine.stopped⟩ :=
  .engine hrunning trivial .done

/-! ## What is on record -/

/-- `closeRun` records the outcome of the run. -/
lemma closeRun_records {s : EngineState} {result : Except ResearchFailure Unit}
    (h : StoreInvariant s.tables) (hok : (closeRun result s).result = .ok ()) :
    RunRecorded (closeRun result s).state.tables s.engine.config.runId
      (runOutcome s.engine result).1 (stopReason (runOutcome s.engine result)) := by
  have hmeets : (closeRun result).Meets (fun _ => True)
      (fun _ u => RunRecorded u.tables s.engine.config.runId (runOutcome s.engine result).1
        (stopReason (runOutcome s.engine result))) (fun _ _ => True) s := by
    unfold closeRun
    refine (meets_self ?_).bind
    refine Stretch.Meets.bind ?_
    refine Stretch.meets_save (fun u _ hsave => ⟨trivial, ?_⟩) fun _ _ => trivial
    simp only [bind_eq_ok, mapError_eq_ok, pure_eq_ok, Prod.mk.injEq] at hsave
    obtain ⟨t₁, hstop, rfl, -⟩ := hsave
    refine (Stretch.meets_read (fun finishedAt _ => ?_) fun _ _ => trivial).bind
    refine meets_saveRecord (fun t₂ hsaved => ⟨trivial, ?_⟩) fun _ => trivial
    obtain ⟨event, record, htype, -, hpayload, happlied, -⟩ := appendControl_ok hstop
    obtain ⟨hlog, row, hrow, -, hevents⟩ := rows_of_append h.log happlied
    obtain ⟨-, row', hevents', -⟩ := hsaved.exists_row hlog
    constructor
    · obtain ⟨createdAt, updatedAt, hstored⟩ := hsaved.stored
      refine ⟨_, (hstored "run" (by decide) _).trans (if_pos ⟨rfl, rfl⟩), ?_⟩
      rw [getEntry_stamped (by decide) (by decide)]
      rfl
    · refine ⟨row, ?_, hrow.eventType.trans htype, ?_, ?_⟩
      · show row ∈ t₂.events
        rw [hevents', hevents]
        simp
      · rw [hrow.field?, hpayload]
        rfl
      · rw [hrow.field?, hpayload]
        rfl
  exact hmeets.ok hok

/-! ## A stop while no attempt is in progress -/

/-- The engine whose loop ends after a stop. -/
def Engine.leaving (engine : Engine) : Engine :=
  { engine with active := engine.active.map ActiveAttempt.cancel, phase := .closing (.ok ()) }

/-- After a stop the loop ends without touching the store. -/
lemma guarded_turn_of_stop {s : EngineState} (hstop : s.engine.stop = true) :
    (guarded turn).Meets (fun _ => False)
      (fun _ u => u = { s with engine := s.engine.leaving }) (fun _ _ => False) s := by
  unfold guarded
  refine Stretch.Meets.bind ?_
  refine Stretch.Meets.tryCatch ?_
  unfold turn
  refine (meets_self ?_).bind
  rw [if_pos hstop]
  refine Stretch.meets_pure ?_
  exact meets_modifyEngine rfl

/-- A project in which a stop was requested while no attempt was in progress. -/
structure Stopping (t : Tables) (w : ResearchWorld) : Prop where
  store : StoreInvariant w.tables
  attempts : attemptAt w.tables = attemptAt t
  failures : ∀ id task, taskAt t id = some task → ∃ task', taskAt w.tables id = some task' ∧
    task'.failures = task.failures
  stop : ∀ engine, w.process = some engine → engine.stop = true
  ended : ∀ engine, w.process = some engine → ∀ a ∈ engine.active, a.isEnded = true
  waiting : ∀ engine, w.process = some engine → engine.phase = .waiting →
    ∀ a ∈ engine.active, a.phase = .ended (.ok ())
  closing : ∀ engine, w.process = some engine → ∀ e, engine.phase ≠ .closing (.error e)
  returned : ∀ engine, w.process = some engine → ∀ e, engine.phase ≠ .ended (.error e)

/-- What happens beside the engine keeps it. -/
lemma Stopping.leavesAttempts {t u : Tables} {w : ResearchWorld} (h : Stopping t w)
    (hu : LeavesAttempts w.tables u) : Stopping t { w with tables := u } where
  store := hu.store
  attempts := hu.attempts.trans h.attempts
  failures := by
    intro id task htask
    obtain ⟨task', htask', hfailures⟩ := h.failures id task htask
    obtain ⟨task'', htask'', -, -, hfailures'⟩ := hu.tasks id task' htask'
    exact ⟨task'', htask'', hfailures'.trans hfailures⟩
  stop := h.stop
  ended := h.ended
  waiting := h.waiting
  closing := h.closing
  returned := h.returned

/-- The actions of the event loop keep it. -/
lemma Stopping.action {t t' : Tables} {engine : Engine} {action : EngineAction}
    {draws : ℕ → Draw} {w : ResearchWorld} (h : Stopping t ⟨t', some engine⟩)
    (henabled : action.Enabled engine) (hlimit : action ≠ .timeLimit)
    (hleaves : Leaves action.code ⟨t', engine, draws⟩ w) : Stopping t w := by
  have hended := h.ended engine rfl
  -- it suffices that the store stays as it is, and where the engine goes
  have hmeets : ∀ {code : EngineM Unit}, code.Meets (fun _ => False)
      (fun _ u => u.tables = t' ∧ u.engine.stop = true ∧
        (∀ a ∈ u.engine.active, a.isEnded = true) ∧ (u.engine.phase = .waiting →
          ∀ a ∈ u.engine.active, a.phase = .ended (.ok ())) ∧ (∀ e, u.engine.phase ≠ .closing (.error e)) ∧ ∀ e, u.engine.phase ≠ .ended (.error e))
      (fun _ _ => False) ⟨t', engine, draws⟩ → Leaves code ⟨t', engine, draws⟩ w →
      Stopping t w := by
    intro code hcode hleaves
    cases hleaves with
    | done =>
      cases hresult : (code ⟨t', engine, draws⟩).result with
      | error e => exact (hcode.error hresult).elim
      | ok _ =>
        obtain ⟨hsame, hstop, hactive, hwaiting, hclosing, hreturned⟩ := hcode.ok hresult
        have hsome : ∀ e', some (code ⟨t', engine, draws⟩).state.engine = some e' →
            (code ⟨t', engine, draws⟩).state.engine = e' := fun _ => Option.some.inj
        rw [hsame]
        exact ⟨h.store, h.attempts, h.failures, fun e' he' => hsome e' he' ▸ hstop,
          fun e' he' => hsome e' he' ▸ hactive, fun e' he' => hsome e' he' ▸ hwaiting,
          fun e' he' => hsome e' he' ▸ hclosing, fun e' he' => hsome e' he' ▸ hreturned⟩
    | died hsaved => exact (hcode.saved hsaved).elim
  have hnone : ∀ a ∈ engine.active, a.phase ≠ .created ∧ a.phase ≠ .executing := by
    intro a ha
    have hend := hended a ha
    rw [ActiveAttempt.isEnded] at hend
    constructor
    · intro hphase
      rw [hphase] at hend
      cases hend
    · intro hphase
      rw [hphase] at hend
      cases hend
  have hleaving : ∀ {code : EngineM Unit} {e' : Engine}, e'.stop = true →
      (∀ a ∈ e'.active, a.isEnded = true) →
      code.Meets (fun _ => False) (fun _ u => u = ⟨t', e'.leaving, draws⟩) (fun _ _ => False)
        ⟨t', engine, draws⟩ → Leaves code ⟨t', engine, draws⟩ w → Stopping t w := by
    intro code e' hstop hactive hcode
    refine hmeets (hcode.mono (fun _ hu => hu) (fun _ u hu => ?_) fun _ _ hu => hu)
    subst hu
    refine ⟨rfl, hstop, fun a ha => ?_, by simp [Engine.leaving], by simp [Engine.leaving], by simp [Engine.leaving]⟩
    obtain ⟨b, hb, rfl⟩ := List.mem_map.1 ha
    exact b.cancel_isEnded.trans (hactive b hb)
  cases action with
  | begin id =>
    obtain ⟨a, ha, -, hphase, -⟩ := henabled
    exact absurd hphase (hnone a ha).1
  | discard id =>
    obtain ⟨a, ha, -, hphase, -⟩ := henabled
    exact absurd hphase (hnone a ha).1
  | settle attempt execution =>
    obtain ⟨a, ha, -, hphase⟩ := henabled
    exact absurd hphase (hnone a ha).2
  | wake failure =>
    cases failure with
    | some e =>
      obtain ⟨hwaiting, a, ha, hphase⟩ := henabled
      rw [h.waiting engine rfl hwaiting a ha] at hphase
      cases hphase
    | none =>
      have hactive : ∀ a ∈ engine.active.filter (fun a => !a.isEnded), a.isEnded = true :=
        fun a ha => hended a (List.mem_filter.1 ha).1
      refine @hleaving _ { engine with active := engine.active.filter fun a => !a.isEnded }
        (h.stop engine rfl) hactive ?_ hleaves
      refine (meets_modifyEngine ?_).bind
      exact guarded_turn_of_stop (s := ⟨t', _, draws⟩) (h.stop engine rfl)
  | poll =>
    exact hleaving (h.stop engine rfl) hended
      (guarded_turn_of_stop (s := ⟨t', engine, draws⟩) (h.stop engine rfl)) hleaves
  | close result =>
    have hleaves : Leaves (closed result) ⟨t', engine, draws⟩ w := hleaves
    unfold closed at hleaves
    refine hmeets (meets_modifyEngine ?_) hleaves
    have hresult : result = .ok () := by
      cases result with
      | ok => rfl
      | error e => exact absurd henabled.1 (h.closing engine rfl e)
    subst hresult
    refine ⟨rfl, h.stop engine rfl, fun a ha => ?_, fun hwaiting => ?_, fun e he => ?_,
      fun e he => ?_⟩
    · cases ha
    · cases hwaiting
    · cases he
    · cases he
  | requestStop =>
    have hleaves : Leaves requestStop ⟨t', engine, draws⟩ w := hleaves
    unfold requestStop at hleaves
    refine hmeets (meets_modifyEngine ?_) hleaves
    refine ⟨rfl, rfl, fun a ha => ?_, fun hwaiting a ha => ?_, h.closing engine rfl,
      h.returned engine rfl⟩
    · obtain ⟨b, hb, rfl⟩ := List.mem_map.1 ha
      exact b.cancel_isEnded.trans (hended b hb)
    · obtain ⟨b, hb, rfl⟩ := List.mem_map.1 ha
      exact b.cancel_phase.trans (h.waiting engine rfl hwaiting b hb)
  | timeLimit => exact absurd rfl hlimit

/-- Every step after the stop keeps it. -/
lemma Stopping.step {t : Tables} {w w' : ResearchWorld} {action : ResearchAction}
    (h : Stopping t w) (hfollows : action.FollowsStop) (hstep : ResearchStep w action w') :
    Stopping t w' := by
  cases hstep with
  | request draw params =>
    cases hchange : operatorChange w.tables draw params with
    | error e => exact h
    | ok r =>
      exact h.leavesAttempts ((operatorChange_ok h.store hchange).leavesAttempts h.store)
  | service hop =>
    exact h.leavesAttempts ((unrelated_exec h.store.log h.store.queue hop).leavesAttempts h.store)
  | start hfresh hleaves => exact absurd hfollows id
  | engine hrunning henabled hleaves => exact h.action henabled hfollows hleaves
  | finish hphase hleaves => exact absurd hfollows id
  | crash => exact absurd hfollows id

/-- The run is not raising, every attempt has ended and is saved as ended, and the loop does not wait
for one that has raised. -/
structure Quiet (t : Tables) (engine : Engine) : Prop where
  returning : ∀ e, engine.phase ≠ .closing (.error e)
  saved : ∀ a ∈ engine.active, a.isEnded = true ∧
    ∃ r, attemptAt t a.attempt.id = some r ∧ r.status ≠ .running
  waiting : engine.phase = .waiting → ∀ a ∈ engine.active, a.phase = .ended (.ok ())

omit [CharacterDatabase] in
lemma Engine.phase_stopped (engine : Engine) : engine.stopped.phase = engine.phase := rfl

lemma Quiet.stopping {t : Tables} {engine : Engine} (h : Quiet t engine) (hstore : StoreInvariant t)
    (hrunning : engine.isEnded = false) : Stopping t ⟨t, some engine.stopped⟩ where
  store := hstore
  attempts := rfl
  failures := fun _ task htask => ⟨task, htask, rfl⟩
  stop := by
    intro e he
    obtain rfl := Option.some.inj he
    rfl
  ended := by
    intro e he a ha
    obtain rfl := Option.some.inj he
    obtain ⟨b, hb, rfl⟩ := List.mem_map.1 ha
    exact b.cancel_isEnded.trans (h.saved b hb).1
  waiting := by
    intro e he hwaiting a ha
    obtain rfl := Option.some.inj he
    obtain ⟨b, hb, rfl⟩ := List.mem_map.1 ha
    exact b.cancel_phase.trans (h.waiting hwaiting b hb)
  closing := by
    intro e he
    obtain rfl := Option.some.inj he
    exact h.returning
  returned := by
    intro e he f hf
    obtain rfl := Option.some.inj he
    rw [Engine.phase_stopped] at hf
    rw [Engine.isEnded, hf] at hrunning
    cases hrunning

/-- Every end of a run that was stopped while no attempt was in progress is graceful. -/
lemma Quiet.graceful {t u : Tables} {engine engine' : Engine} {actions : List ResearchAction}
    {result : Except ResearchFailure Unit} (h : Quiet t engine) (hstore : StoreInvariant t)
    (hrunning : engine.isEnded = false)
    (hfollows : ∀ action ∈ actions, action.FollowsStop)
    (hrun : researchSystem.Run ⟨t, some engine.stopped⟩ actions ⟨u, some engine'⟩)
    (hphase : engine'.phase = .ended result) : GracefulEnd t engine u engine' result := by
  have hstopping : Stopping t ⟨u, some engine'⟩ :=
    hrun.invariant_of (fun _ _ _ hs hadmitted hstep => hs.step hadmitted hstep) hfollows
      (h.stopping hstore hrunning)
  have hattempts : attemptAt u = attemptAt t := hstopping.attempts
  have hresult : result = .ok () := by
    cases result with
    | ok => rfl
    | error e => exact absurd hphase (hstopping.returned engine' rfl e)
  subst hresult
  refine ⟨rfl, fun a ha => ?_, fun a ha r task hr hstatus htask => ?_, fun draws hok => ?_⟩
  · rw [hattempts]
    exact (h.saved a ha).2
  · obtain ⟨task', htask', hfailures⟩ := hstopping.failures _ task htask
    exact ⟨task', htask', hfailures.le⟩
  · have hrecords := closeRun_records (s := ⟨u, engine', draws⟩) hstopping.store hok
    have houtcome : runOutcome engine' (.ok ()) = ("interrupted", "") := by
      rw [runOutcome, hstopping.stop engine' rfl]
      rfl
    rw [houtcome] at hrecords
    exact hrecords

/-! ## Runs that come to an end -/

/-- Some writes, which need not succeed. -/
def anyDraws : ℕ → Draw := fun _ => ⟨⟨"", ⟨1, 1, 1, 0, 0, 0, 0, by decide⟩⟩, ""⟩

/-- The step of an action of the event loop, which runs to its end. -/
lemma step_of_enabled {t : Tables} {engine : Engine} (action : EngineAction)
    (hrunning : engine.isEnded = false) (henabled : action.Enabled engine) {Q : EngineState → Prop}
    (hcode : action.code.Meets (fun _ => True) (fun _ => Q) (fun _ _ => False)
      ⟨t, engine, anyDraws⟩) :
    ∃ u engine', ResearchStep ⟨t, some engine⟩ (.engine action anyDraws) ⟨u, some engine'⟩ ∧
      ∃ draws, Q ⟨u, engine', draws⟩ := by
  refine ⟨_, _, .engine hrunning henabled .done, (action.code ⟨t, engine, anyDraws⟩).state.draws, ?_⟩
  cases hresult : (action.code ⟨t, engine, anyDraws⟩).result with
  | ok a => exact hcode.ok hresult
  | error e => exact (hcode.error hresult).elim

/-- The last step of `run`. -/
lemma exists_close {t : Tables} {engine : Engine} {result : Except ResearchFailure Unit}
    (hphase : engine.phase = .closing result) (hended : ∀ a ∈ engine.active, a.isEnded = true) :
    ∃ engine', ResearchStep ⟨t, some engine⟩ (.engine (.close result) anyDraws)
      ⟨t, some engine'⟩ ∧ engine'.phase = .ended result := by
  have hrunning : engine.isEnded = false := by rw [Engine.isEnded, hphase]
  exact ⟨_, .engine hrunning ⟨hphase, hended⟩ .done, rfl⟩

/-- A run that was stopped while no attempt was in progress comes to an end. -/
lemma Quiet.ends {t : Tables} {engine : Engine} (h : Quiet t engine) (hstore : StoreInvariant t)
    (hengine : EngineInvariant t engine) (hrunning : engine.isEnded = false) :
    ∃ actions u engine' result, (∀ action ∈ actions, action.FollowsStop) ∧
      researchSystem.Run ⟨t, some engine.stopped⟩ actions ⟨u, some engine'⟩ ∧
      engine'.phase = .ended result := by
  have hstopping := h.stopping hstore hrunning
  -- from where the loop has ended, one step is left
  have hlast : ∀ {actions u engine'}, (∀ action ∈ actions, action.FollowsStop) →
      researchSystem.Run ⟨t, some engine.stopped⟩ actions ⟨u, some engine'⟩ →
      engine'.phase = .closing (.ok ()) → ∃ actions u engine' result,
        (∀ action ∈ actions, action.FollowsStop) ∧
        researchSystem.Run ⟨t, some engine.stopped⟩ actions ⟨u, some engine'⟩ ∧
        engine'.phase = .ended result := by
    intro actions u engine' hfollows hrun hphase
    have hend : Stopping t ⟨u, some engine'⟩ :=
      hrun.invariant_of (fun _ _ _ hs hadmitted hstep => hs.step hadmitted hstep) hfollows hstopping
    have hended := hend.ended engine' rfl
    obtain ⟨engine'', hstep, hphase'⟩ := exists_close hphase hended
    refine ⟨_, u, engine'', _, fun action haction => ?_, hrun.snoc hstep, hphase'⟩
    rcases List.mem_append.1 haction with haction | haction
    · exact hfollows action haction
    · rw [List.mem_singleton.1 haction]
      intro htime
      cases htime
  have hrunning' : engine.stopped.isEnded = false := hrunning
  have hturn : ∀ action : EngineAction, action ≠ .timeLimit → action.Enabled engine.stopped →
      action.code.Meets (fun _ => True) (fun _ u => u.engine.phase = .closing (.ok ()))
        (fun _ _ => False) ⟨t, engine.stopped, anyDraws⟩ → ∃ actions u engine' result,
        (∀ action ∈ actions, action.FollowsStop) ∧
        researchSystem.Run ⟨t, some engine.stopped⟩ actions ⟨u, some engine'⟩ ∧
        engine'.phase = .ended result := by
    intro action hlimit henabled hcode
    obtain ⟨u, engine', hstep, _, hphase⟩ := step_of_enabled action hrunning' henabled hcode
    refine hlast (fun a ha => ?_) (Run.single hstep) hphase
    rw [List.mem_singleton.1 ha]
    exact hlimit
  cases hphase : engine.phase with
  | waiting =>
    obtain ⟨a, ha⟩ := List.exists_mem_of_ne_nil _ (hengine.positioned.waiting hphase)
    have hactive : ∀ b ∈ engine.stopped.active, b.phase = .ended (.ok ()) :=
      hstopping.waiting _ rfl hphase
    refine hturn (.wake none) (by simp) ⟨hphase, ⟨a.cancel, List.mem_map_of_mem ha, ?_⟩,
      fun b hb e he => ?_⟩ ?_
    · exact a.cancel_isEnded.trans (h.saved a ha).1
    · rw [hactive b hb] at he
      cases he
    · refine (meets_modifyEngine ?_).bind
      exact (guarded_turn_of_stop (s := ⟨t, _, anyDraws⟩) rfl).mono (fun _ hu => hu.elim)
        (fun _ u hu => hu ▸ rfl) fun _ _ hu => hu
  | idle =>
    refine hturn .poll (by simp) hphase ?_
    exact (guarded_turn_of_stop (s := ⟨t, _, anyDraws⟩) rfl).mono (fun _ hu => hu.elim)
      (fun _ u hu => hu ▸ rfl) fun _ _ hu => hu
  | closing result =>
    have hresult : result = .ok () := by
      cases result with
      | ok => rfl
      | error e => exact absurd hphase (h.returning e)
    subst hresult
    exact hlast (fun a ha => absurd ha List.not_mem_nil) (.nil _) hphase
  | ended result =>
    rw [Engine.isEnded, hphase] at hrunning
    cases hrunning

/-! ## Writes that fail -/

/-- A save that takes an event id that is none raises. -/
lemma saveRecord_fails {s : EngineState} (hdraws : s.draws = anyDraws) (kind identity : String)
    (data : JsonObject) (runId : Option String) :
    (saveRecord kind identity data runId).Meets (fun _ => False) (fun _ _ => False)
      (fun _ u => u = s) s := by
  refine Stretch.meets_save (fun s' a h => ?_) fun _ _ => rfl
  exfalso
  simp only [bind_eq_ok, hdraws, save, appendEvent, mapError_eq_ok, Prod.exists] at h
  obtain ⟨t', version, ⟨key, -, -, -, previous, -, -, -, actor, -, t₁, record, ⟨-, -, event, hevent, -⟩,
    -⟩, -⟩ := h
  have hid := event.eventId_valid
  rw [(makeEvent_ok hevent).1] at hid
  exact absurd hid (by decide)

/-- An attempt whose end cannot be saved ends all the same. -/
lemma settleAttempt_fails {s : EngineState} (hdraws : s.draws = anyDraws) (attempt : Attempt)
    (execution : Execution) : (settleAttempt attempt execution).Meets (fun _ => True)
      (fun _ u => u.tables = s.tables) (fun _ _ => False) s := by
  have hfinish : (finishAttempt attempt execution.result execution.isCancelled).Meets
      (fun _ => False) (fun _ _ => False) (fun _ u => u = s) s := by
    unfold finishAttempt
    refine (meets_query (E := fun _ u => u = s) (fun task _ => ?_) fun _ => rfl).bind
    refine (meets_query (E := fun _ u => u = s) (fun accepted _ => ?_) fun _ => rfl).bind
    exact ((saveRecord_fails hdraws ..).mono (fun _ hu => hu) (fun _ _ hfalse => hfalse.elim)
      fun _ _ hu => hu).bind
  unfold settleAttempt
  refine Stretch.Meets.bind ?_
  refine Stretch.Meets.tryCatch ?_
  refine Stretch.Meets.bind ?_
  refine hfinish.mono (fun _ _ => trivial) (fun _ _ hfalse => hfalse.elim) fun e u hu => ?_
  refine Stretch.meets_pure ?_
  exact meets_modifyEngine (by rw [hu])

/-! ## Ending every attempt -/

/-- What becomes of an active attempt when attempts are cancelled: one that had ended is as it was,
and one that ends raises. -/
structure Cancels (a b : ActiveAttempt) : Prop where
  attempt : b.attempt = a.attempt
  kept : a.isEnded = true → b = a
  raises : a.isEnded = false → b.isEnded = true → ∃ e, b.phase = .ended (.error e)

omit [CharacterDatabase] in
lemma Cancels.refl (a : ActiveAttempt) : Cancels a a :=
  ⟨rfl, fun _ => rfl, fun hunended hended => absurd (hunended.symm.trans hended) (by decide)⟩

omit [CharacterDatabase] in
lemma Cancels.trans {a b c : ActiveAttempt} (h : Cancels a b) (h' : Cancels b c) :
    Cancels a c where
  attempt := h'.attempt.trans h.attempt
  kept := by
    intro hended
    have hsame := h.kept hended
    subst hsame
    exact h'.kept hended
  raises := by
    intro hunended hended
    cases hb : b.isEnded with
    | true =>
      rw [h'.kept hb]
      exact h.raises hunended hb
    | false => exact h'.raises hb hended

/-- A run after the stop that cancels attempts and leaves the loop where it is. -/
structure Cancelling (t : Tables) (engine : Engine) (u : Tables) (engine' : Engine) : Prop where
  run : ∃ actions, (∀ action ∈ actions, action.FollowsStop) ∧
    researchSystem.Run ⟨t, some engine⟩ actions ⟨u, some engine'⟩
  invariant : ProjectInvariant ⟨u, some engine'⟩
  tables : u = t
  phase : engine'.phase = engine.phase
  active : List.Forall₂ Cancels engine.active engine'.active

lemma Cancelling.refl {t : Tables} {engine : Engine} (h : ProjectInvariant ⟨t, some engine⟩) :
    Cancelling t engine t engine where
  run := ⟨[], fun _ haction => absurd haction List.not_mem_nil, .nil _⟩
  invariant := h
  tables := rfl
  phase := rfl
  active := List.forall₂_same.2 fun a _ => .refl a

lemma Cancelling.trans {t u v : Tables} {e f g : Engine} (h : Cancelling t e u f)
    (h' : Cancelling u f v g) : Cancelling t e v g where
  run := by
    obtain ⟨as, has, hrun⟩ := h.run
    obtain ⟨bs, hbs, hrun'⟩ := h'.run
    refine ⟨as ++ bs, fun action haction => ?_, hrun.append hrun'⟩
    exact (List.mem_append.1 haction).elim (has action) (hbs action)
  invariant := h'.invariant
  tables := h'.tables.trans h.tables
  phase := h'.phase.trans h.phase
  active := by
    have hlength := h.active.length_eq
    have hlength' := h'.active.length_eq
    refine List.forall₂_iff_get.2 ⟨hlength.trans hlength', fun i hi hi' => ?_⟩
    have hfirst := (List.forall₂_iff_get.1 h.active).2 i hi (hlength ▸ hi)
    have hsecond := (List.forall₂_iff_get.1 h'.active).2 i (hlength ▸ hi) hi'
    exact hfirst.trans hsecond

/-- A step that changes the phase of one attempt. -/
lemma Cancelling.of_step {t u : Tables} {engine engine' : Engine} {action : EngineAction}
    (h : ProjectInvariant ⟨t, some engine⟩) (hlimit : action ≠ .timeLimit)
    (hstep : ResearchStep ⟨t, some engine⟩ (.engine action anyDraws) ⟨u, some engine'⟩)
    (htables : u = t) {id : String} {phase : AttemptPhase} (hengine : engine' = { engine with
      active := engine.active.map fun a => if a.attempt.id = id then { a with phase } else a })
    (hunended : ∀ a ∈ engine.active, a.attempt.id = id → a.isEnded = false)
    (hraises : ∀ result, phase = .ended result → ∃ e, result = .error e) :
    Cancelling t engine u engine' where
  run := by
    refine ⟨_, fun a ha => ?_, Run.single hstep⟩
    rw [List.mem_singleton.1 ha]
    exact hlimit
  invariant := (hstep.invariant h).1
  tables := htables
  phase := by rw [hengine]
  active := by
    rw [hengine, List.forall₂_map_right_iff, List.forall₂_same]
    intro a ha
    by_cases hid : a.attempt.id = id
    · rw [if_pos hid]
      have ha' := hunended a ha hid
      refine ⟨rfl, fun hended => absurd (ha'.symm.trans hended) (by decide), fun _ hended => ?_⟩
      cases phase with
      | ended result =>
        obtain ⟨e, rfl⟩ := hraises result rfl
        exact ⟨e, rfl⟩
      | created => cases hended
      | executing => cases hended
    · rw [if_neg hid]
      exact .refl a

/-- The phase of an attempt that has not ended is changed. -/
lemma Cancelling.of_setPhase {t u : Tables} {engine engine' : Engine} (action : EngineAction)
    (h : ProjectInvariant ⟨t, some engine⟩) (hlimit : action ≠ .timeLimit)
    (hstep : ResearchStep ⟨t, some engine⟩ (.engine action anyDraws) ⟨u, some engine'⟩)
    (htables : u = t) {a : ActiveAttempt} (ha : a ∈ engine.active) (hunended : a.isEnded = false)
    {phase : AttemptPhase} (hengine : engine' = { engine with
      active := engine.active.map fun b =>
        if b.attempt.id = a.attempt.id then { b with phase } else b })
    (hraises : ∀ result, phase = .ended result → ∃ e, result = .error e) :
    Cancelling t engine u engine' ∧ { a with phase } ∈ engine'.active ∧
      ∀ b ∈ engine'.active, b.attempt.id = a.attempt.id → b.phase = phase := by
  have hattended := (h.engine engine rfl).attended
  refine ⟨.of_step h hlimit hstep htables hengine (fun b hb hid => ?_) hraises, ?_, ?_⟩
  · rw [hattended.eq_of_id hb ha hid]
    exact hunended
  · rw [hengine]
    refine List.mem_map.2 ⟨a, ha, ?_⟩
    rw [if_pos rfl]
  · rw [hengine]
    intro b hb hid
    obtain ⟨c, hc, rfl⟩ := List.mem_map.1 hb
    by_cases hcid : c.attempt.id = a.attempt.id
    · rw [if_pos hcid]
    · rw [if_neg hcid] at hid
      exact absurd hid hcid

/-- An attempt that awaits its executor can end by being cancelled. -/
lemma exists_cancelling_of_executing {t : Tables} {engine : Engine}
    (h : ProjectInvariant ⟨t, some engine⟩) (hrunning : engine.isEnded = false)
    {a : ActiveAttempt} (ha : a ∈ engine.active) (hphase : a.phase = .executing) :
    ∃ u engine', Cancelling t engine u engine' ∧
      ∀ b ∈ engine'.active, b.attempt.id = a.attempt.id → b.isEnded = true := by
  have hcode := (settleAttempt_meets (s := ⟨t, engine, anyDraws⟩) .cancelled
    h.store (h.engine engine rfl) ha hphase).and (settleAttempt_fails rfl a.attempt .cancelled)
  obtain ⟨u, engine', hstep, _, hended, htables⟩ := step_of_enabled
    (.settle a.attempt .cancelled) hrunning ⟨a, ha, rfl, hphase⟩
    (hcode.mono (fun _ _ => trivial) (fun _ _ hu => hu) fun _ _ hu => hu.1)
  obtain ⟨result, hraises, hengine⟩ := hended.ended
  obtain ⟨e, rfl⟩ := hraises rfl
  have hunended : a.isEnded = false := by rw [ActiveAttempt.isEnded, hphase]
  obtain ⟨hcancelling, -, hsame⟩ := Cancelling.of_setPhase
    (.settle a.attempt .cancelled) h (by simp) hstep htables ha hunended hengine
    fun result hresult => ⟨e, (AttemptPhase.ended.inj hresult).symm⟩
  refine ⟨u, engine', hcancelling, fun b hb hid => ?_⟩
  rw [ActiveAttempt.isEnded, hsame b hb hid]

/-- An attempt that has not ended can end by being cancelled. -/
lemma exists_cancelling {t : Tables} {engine : Engine}
    (h : ProjectInvariant ⟨t, some engine⟩) (hrunning : engine.isEnded = false)
    {a : ActiveAttempt} (ha : a ∈ engine.active) (hunended : a.isEnded = false) :
    ∃ u engine', Cancelling t engine u engine' ∧
      ∀ b ∈ engine'.active, b.attempt.id = a.attempt.id → b.isEnded = true := by
  -- the step of a task of the event loop that has not begun
  have hfirst : ∀ (action : EngineAction) (phase : AttemptPhase), action ≠ .timeLimit →
      action.Enabled engine → action.code = setAttemptPhase a.attempt.id phase →
      (∀ result, phase = .ended result → ∃ e, result = .error e) →
      ∃ u engine', Cancelling t engine u engine' ∧ { a with phase } ∈ engine'.active ∧
        ∀ b ∈ engine'.active, b.attempt.id = a.attempt.id → b.phase = phase := by
    intro action phase hlimit henabled hcode hraises
    have hmeets : action.code.Meets (fun _ => True) (fun _ u => u.engine = { engine with
        active := engine.active.map fun b =>
          if b.attempt.id = a.attempt.id then { b with phase } else b } ∧ u.tables = t)
        (fun _ _ => False) ⟨t, engine, anyDraws⟩ := by
      rw [hcode]
      exact meets_modifyEngine ⟨rfl, rfl⟩
    obtain ⟨u, engine', hstep, _, hengine, htables⟩ :=
      step_of_enabled action hrunning henabled hmeets
    exact ⟨u, engine', Cancelling.of_setPhase _ h hlimit hstep htables ha hunended hengine hraises⟩
  cases hphase : a.phase with
  | created =>
    cases hrequested : a.cancelRequested with
    | true =>
      obtain ⟨u, engine', hcancelling, -, hsame⟩ := hfirst (.discard a.attempt.id)
        (.ended (.error .cancelled)) (by simp) ⟨a, ha, rfl, hphase, hrequested⟩ rfl
        fun result hresult => ⟨_, (AttemptPhase.ended.inj hresult).symm⟩
      refine ⟨u, engine', hcancelling, fun b hb hid => ?_⟩
      rw [ActiveAttempt.isEnded, hsame b hb hid]
    | false =>
      obtain ⟨u, engine', hcancelling, hmem, -⟩ := hfirst (.begin a.attempt.id) .executing (by simp)
        ⟨a, ha, rfl, hphase, hrequested⟩ rfl (by simp)
      have hrunning' : engine'.isEnded = false := by
        rw [Engine.isEnded, hcancelling.phase]
        exact hrunning
      obtain ⟨v, engine'', hcancelling', hended⟩ :=
        exists_cancelling_of_executing hcancelling.invariant hrunning' hmem rfl
      exact ⟨v, engine'', hcancelling.trans hcancelling', hended⟩
  | executing => exact exists_cancelling_of_executing h hrunning ha hphase
  | ended result =>
    rw [ActiveAttempt.isEnded, hphase] at hunended
    cases hunended

/-- What an active attempt was before it was cancelled. -/
lemma Cancelling.exists_before {t u : Tables} {engine engine' : Engine}
    (h : Cancelling t engine u engine') {b : ActiveAttempt} (hb : b ∈ engine'.active) :
    ∃ a ∈ engine.active, Cancels a b := by
  obtain ⟨i, hi, rfl⟩ := List.getElem_of_mem hb
  have hi' : i < engine.active.length := h.active.length_eq ▸ hi
  exact ⟨engine.active[i], List.getElem_mem hi', (List.forall₂_iff_get.1 h.active).2 i hi' hi⟩

/-- What becomes of an active attempt. -/
lemma Cancelling.exists_after {t u : Tables} {engine engine' : Engine}
    (h : Cancelling t engine u engine') {a : ActiveAttempt} (ha : a ∈ engine.active) :
    ∃ b ∈ engine'.active, Cancels a b := by
  obtain ⟨i, hi, rfl⟩ := List.getElem_of_mem ha
  have hi' : i < engine'.active.length := h.active.length_eq ▸ hi
  exact ⟨engine'.active[i], List.getElem_mem hi', (List.forall₂_iff_get.1 h.active).2 i hi hi'⟩

/-- Every attempt of a list can be cancelled. -/
lemma exists_cancelling_ids {t : Tables} {engine : Engine}
    (h : ProjectInvariant ⟨t, some engine⟩) (hrunning : engine.isEnded = false)
    (ids : List String) :
    ∃ u engine', Cancelling t engine u engine' ∧
      ∀ b ∈ engine'.active, b.attempt.id ∈ ids → b.isEnded = true := by
  induction ids with
  | nil => exact ⟨t, engine, .refl h, fun b _ hid => absurd hid List.not_mem_nil⟩
  | cons id ids ih =>
    obtain ⟨u, engine', hcancelling, hended⟩ := ih
    by_cases hid : ∃ a ∈ engine'.active, a.attempt.id = id ∧ a.isEnded = false
    · obtain ⟨a, ha, rfl, hunended⟩ := hid
      have hrunning' : engine'.isEnded = false := by
        rw [Engine.isEnded, hcancelling.phase]
        exact hrunning
      obtain ⟨v, engine'', hcancelling', hended'⟩ :=
        exists_cancelling hcancelling.invariant hrunning' ha hunended
      refine ⟨v, engine'', hcancelling.trans hcancelling', fun b hb hmem => ?_⟩
      rcases List.mem_cons.1 hmem with hsame | hmem
      · exact hended' b hb hsame
      · obtain ⟨c, hc, hcancels⟩ := hcancelling'.exists_before hb
        rw [hcancels.attempt] at hmem
        have hcended := hended c hc hmem
        rw [hcancels.kept hcended]
        exact hcended
    · refine ⟨u, engine', hcancelling, fun b hb hmem => ?_⟩
      rcases List.mem_cons.1 hmem with hsame | hmem
      · by_contra hunended
        exact hid ⟨b, hb, hsame, Bool.eq_false_iff.2 hunended⟩
      · exact hended b hb hmem

/-- Every active attempt can be cancelled. -/
lemma exists_all_cancelled {t : Tables} {engine : Engine}
    (h : ProjectInvariant ⟨t, some engine⟩) (hrunning : engine.isEnded = false) :
    ∃ u engine', Cancelling t engine u engine' ∧ ∀ b ∈ engine'.active, b.isEnded = true := by
  obtain ⟨u, engine', hcancelling, hended⟩ :=
    exists_cancelling_ids h hrunning (engine.active.map (·.attempt.id))
  refine ⟨u, engine', hcancelling, fun b hb => hended b hb ?_⟩
  obtain ⟨a, ha, hcancels⟩ := hcancelling.exists_before hb
  rw [hcancels.attempt]
  exact List.mem_map_of_mem ha

/-! ## A stop that is not graceful -/

/-- The loop ends with the exception of an attempt. -/
lemma exists_wake {t : Tables} {engine : Engine} {e : ResearchFailure}
    (hphase : engine.phase = .waiting) (hended : ∀ a ∈ engine.active, a.isEnded = true)
    (hfailed : ∃ a ∈ engine.active, a.phase = .ended (.error e)) :
    ∃ u engine', ResearchStep ⟨t, some engine⟩ (.engine (.wake (some e)) anyDraws)
      ⟨u, some engine'⟩ ∧ engine'.phase = .closing (.error e) ∧ engine'.active = [] := by
  have hrunning : engine.isEnded = false := by rw [Engine.isEnded, hphase]
  have hnone : engine.active.filter (fun a => !a.isEnded) = [] := by
    rw [List.filter_eq_nil_iff]
    intro a ha
    rw [hended a ha]
    decide
  have hcode : (EngineAction.wake (some e)).code.Meets (fun _ => True)
      (fun _ u => u.engine.phase = .closing (.error e) ∧ u.engine.active = []) (fun _ _ => False)
      ⟨t, engine, anyDraws⟩ := by
    refine (meets_modifyEngine ?_).bind
    rw [hnone]
    unfold guarded
    refine Stretch.Meets.bind ?_
    refine Stretch.Meets.tryCatch ?_
    refine Stretch.meets_throw ?_
    refine Stretch.meets_pure ?_
    exact meets_modifyEngine ⟨rfl, rfl⟩
  obtain ⟨u, engine', hstep, _, hend⟩ := step_of_enabled (.wake (some e)) hrunning
    ⟨hphase, hfailed⟩ hcode
  exact ⟨u, engine', hstep, hend⟩

omit [CharacterDatabase] in
/-- The actions after a stop, and one more. -/
lemma followsStop_snoc {actions : List ResearchAction}
    (hfollows : ∀ action ∈ actions, action.FollowsStop) (action : EngineAction)
    (hlimit : action ≠ .timeLimit) : ∀ a ∈ actions ++ [.engine action anyDraws], a.FollowsStop := by
  intro a ha
  rcases List.mem_append.1 ha with ha | ha
  · exact hfollows a ha
  · rw [List.mem_singleton.1 ha]
    exact hlimit

section

variable {t : Tables} {engine : Engine} (h : ProjectInvariant ⟨t, some engine⟩)
  (hrunning : engine.isEnded = false)
include h hrunning

/-- A stop, after which every active attempt is cancelled. -/
lemma exists_cancelled : ∃ u engine', Cancelling t engine.stopped u engine' ∧
    ∀ b ∈ engine'.active, b.isEnded = true :=
  exists_all_cancelled ((step_requestStop hrunning anyDraws).invariant h).1 hrunning

/-- A run that is closing ends with its result, and the store may stay as it is. -/
lemma exists_ended_of_closing {result : Except ResearchFailure Unit}
    (hphase : engine.phase = .closing result) :
    ∃ actions engine', (∀ action ∈ actions, action.FollowsStop) ∧
      researchSystem.Run ⟨t, some engine.stopped⟩ actions ⟨t, some engine'⟩ ∧
      engine'.phase = .ended result := by
  obtain ⟨u, engine', hcancelling, hended⟩ := exists_cancelled h hrunning
  obtain ⟨actions, hfollows, hrun⟩ := hcancelling.run
  obtain rfl := hcancelling.tables
  obtain ⟨engine'', hstep, hend⟩ :=
    exists_close (t := u) (hcancelling.phase.trans hphase) hended
  exact ⟨_, engine'', followsStop_snoc hfollows (.close result) (by simp), hrun.snoc hstep,
    hend⟩

/-- A run that waits for an attempt that does not end well can end with an exception. -/
lemma exists_raised (hphase : engine.phase = .waiting) {a : ActiveAttempt} (ha : a ∈ engine.active)
    (hbad : a.phase ≠ .ended (.ok ())) :
    ∃ actions u engine' e, (∀ action ∈ actions, action.FollowsStop) ∧
      researchSystem.Run ⟨t, some engine.stopped⟩ actions ⟨u, some engine'⟩ ∧
      engine'.phase = .ended (.error e) := by
  obtain ⟨u, engine', hcancelling, hended⟩ := exists_cancelled h hrunning
  obtain ⟨actions, hfollows, hrun⟩ := hcancelling.run
  obtain ⟨b, hb, hcancels⟩ := hcancelling.exists_after (List.mem_map_of_mem ha)
  obtain ⟨e, he⟩ : ∃ e, b.phase = .ended (.error e) := by
    cases hunended : a.cancel.isEnded with
    | false => exact hcancels.raises hunended (hended b hb)
    | true =>
      rw [hcancels.kept hunended, a.cancel_phase]
      rw [a.cancel_isEnded, ActiveAttempt.isEnded] at hunended
      cases hend : a.phase with
      | created => rw [hend] at hunended; cases hunended
      | executing => rw [hend] at hunended; cases hunended
      | ended result =>
        cases result with
        | ok => exact absurd hend hbad
        | error e => exact ⟨e, rfl⟩
  obtain ⟨v, engine'', hwake, hclosing, hempty⟩ :=
    exists_wake (t := u) (hcancelling.phase.trans hphase) hended ⟨b, hb, he⟩
  obtain ⟨final, hclose, hend⟩ := exists_close (t := v) hclosing fun c hc => by
    rw [hempty] at hc
    cases hc
  have hfollows' := followsStop_snoc hfollows (.wake (some e)) (by simp)
  exact ⟨_, v, final, e, followsStop_snoc hfollows' (.close (.error e)) (by simp),
    (hrun.snoc hwake).snoc hclose, hend⟩

/-- A stop that is graceful was requested at such a moment. -/
lemma StopsGracefully.quiet (hgraceful : StopsGracefully t engine) : Quiet t engine := by
  have hattended := (h.engine engine rfl).attended
  have hreturning : ∀ e, engine.phase ≠ .closing (.error e) := by
    intro e he
    obtain ⟨actions, engine', hfollows, hrun, hend⟩ := exists_ended_of_closing h hrunning he
    have hreturned := (hgraceful.graceful actions _ engine' _ hfollows hrun hend).returned
    cases hreturned
  have hwaiting : engine.phase = .waiting → ∀ a ∈ engine.active, a.phase = .ended (.ok ()) := by
    intro hphase a ha
    by_contra hbad
    obtain ⟨actions, u, engine', e, hfollows, hrun, hend⟩ := exists_raised h hrunning hphase ha hbad
    have hreturned := (hgraceful.graceful actions u engine' _ hfollows hrun hend).returned
    cases hreturned
  refine ⟨hreturning, fun a ha => ?_, hwaiting⟩
  cases hphase : engine.phase with
  | waiting =>
    have hok := hwaiting hphase a ha
    refine ⟨?_, hattended.ended a ha hok⟩
    rw [ActiveAttempt.isEnded, hok]
  | idle =>
    rw [(h.engine engine rfl).positioned.idle hphase] at ha
    cases ha
  | closing result =>
    cases result with
    | error e => exact absurd hphase (hreturning e)
    | ok =>
      -- the attempt is cancelled before it ends, and its end is not saved
      obtain ⟨actions, engine', hfollows, hrun, hend⟩ := exists_ended_of_closing h hrunning hphase
      have hsaved := (hgraceful.graceful actions t engine' _ hfollows hrun hend).saved a ha
      refine ⟨?_, hsaved⟩
      by_contra hunended
      obtain ⟨hstatus, task, hf⟩ := hattended.inProgress a ha (Bool.eq_false_iff.2 hunended)
      obtain ⟨r, hr, hended⟩ := hsaved
      obtain rfl := Option.some.inj (hf.found.symm.trans hr)
      exact hended hstatus
  | ended result =>
    rw [Engine.isEnded, hphase] at hrunning
    cases hrunning

end

/-- **When a stop is graceful.**  A stop is graceful exactly when the run is not raising, every
attempt in `active` has ended and is saved as ended, and the loop does not wait for one that has
raised. -/
theorem stops_gracefully_iff {w : ResearchWorld} {engine : Engine}
    (hw : researchSystem.Reachable w) (hprocess : w.process = some engine)
    (hrunning : engine.isEnded = false) :
    StopsGracefully w.tables engine ↔ (∀ e, engine.phase ≠ .closing (.error e)) ∧
      (∀ a ∈ engine.active, a.isEnded = true ∧
        ∃ r, attemptAt w.tables a.attempt.id = some r ∧ r.status ≠ .running) ∧
      (engine.phase = .waiting → ∀ a ∈ engine.active, a.phase = .ended (.ok ())) := by
  obtain ⟨t, process⟩ := w
  obtain rfl : process = some engine := hprocess
  have hinvariant := projectInvariant_of_reachable hw
  have hstore : StoreInvariant t := hinvariant.store
  constructor
  · intro h
    have hquiet := h.quiet hinvariant hrunning
    exact ⟨hquiet.returning, hquiet.saved, hquiet.waiting⟩
  · rintro ⟨hreturning, hsaved, hwaiting⟩
    have hquiet : Quiet t engine := ⟨hreturning, hsaved, hwaiting⟩
    exact ⟨hquiet.ends hstore (hinvariant.engine engine rfl) hrunning,
      fun actions u engine' result hfollows hrun hend =>
        hquiet.graceful hstore hrunning hfollows hrun hend⟩

omit [CharacterDatabase] in
/-- A stop right after the first attempt has begun. -/
theorem stops_gracefully_begun : letI := asciiDatabase
    ∃ t, researchSystem.Reachable ⟨t, some sampleEngine⟩ ∧ (StopsGracefully t sampleEngine ↔
      (∀ e, sampleEngine.phase ≠ .closing (.error e)) ∧
        (∀ a ∈ sampleEngine.active, a.isEnded = true ∧
          ∃ r, attemptAt t a.attempt.id = some r ∧ r.status ≠ .running) ∧
        (sampleEngine.phase = .waiting → ∀ a ∈ sampleEngine.active, a.phase = .ended (.ok ()))) := by
  let := asciiDatabase
  obtain ⟨t, hreach, -, -⟩ := exists_sampleBegun
  exact ⟨t, hreach, stops_gracefully_iff hreach rfl rfl⟩

omit [CharacterDatabase] in
/-- It is not graceful. -/
theorem stop_not_graceful : letI := asciiDatabase
    ¬ ∀ (w : ResearchWorld) (engine : Engine), researchSystem.Reachable w →
      w.process = some engine → engine.isEnded = false → StopsGracefully w.tables engine := by
  let := asciiDatabase
  intro hclaim
  obtain ⟨t, hreach, -, -⟩ := exists_sampleBegun
  have hgraceful : StopsGracefully t sampleEngine := hclaim _ sampleEngine hreach rfl rfl
  have hquiet := hgraceful.quiet (projectInvariant_of_reachable hreach) rfl
  have hphase := hquiet.waiting rfl _ (List.mem_singleton_self _)
  cases hphase

end Aizim.Research
