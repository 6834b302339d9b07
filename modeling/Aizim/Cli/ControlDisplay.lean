import Aizim.Cli.ControlProjection
import Aizim.Orchestration.DispatchOutcome

/-!
# What is shown, and when

The tables of the command line do not cover everything that the system writes.  `Displayable` says
which steps stay within them, and `documents_displayed` that after such steps the documents are made
and show the statuses of the records.

`DisplayInvariant` is what the checks of the documents need of the records; it is kept by every step
that is displayable.
-/

namespace Aizim.Cli

open JsonValue JsonObject Domain State TransitionSystem Orchestration

/-! ## What the checks need -/

/-- The fields of a record. -/
abbrev Fields := String → Option JsonValue

/-- A record of the runtime that passes. -/
structure RuntimeShown (f : Fields) (provider : String) (version : ℕ) : Prop where
  controller : f "controller_id" = some (.str controllerId)
  configured : f "provider" = some (.str provider)
  session : ∃ s, f "controller_session_id" = some (.str s) ∧ isTrustedId "controller" s = true
  controllerVersion : f "controller_version" = some (.int version)
  positive : 0 < version
  backend : ∃ s, s ≠ "" ∧ f "backend_version" = some (.str s)
  status : ∃ status reason, f "status" = some (.str status.text) ∧
    runtimeReason status (f "reason_code") = .ok reason

/-- A record of an execution that passes. -/
structure ExecutionShown (f : Fields) (assignmentId : String) : Prop where
  assignment : f "assignment_id" = some (.str assignmentId)
  sha256 : isSha256 assignmentId = true
  controller : f "controller_id" = some (.str controllerId)
  session : ∃ s, f "controller_session_id" = some (.str s) ∧ isTrustedId "controller" s = true
  version : ∃ n : ℕ, 0 < n ∧ f "controller_version" = some (.int n)
  worker : ∃ s, s ≠ "" ∧ f "worker_id" = some (.str s)
  task : ∃ n : ℕ, 0 < n ∧ f "task_version" = some (.int n)
  execution : ∃ s, f "execution_id" = some (.str s) ∧ isTrustedId "execution" s = true
  status : ∃ status reason, f "status" = some (.str status.text) ∧
    executionReason status (f "reason_code") = .ok reason

/-- A record of an assignment that passes. -/
structure AssignmentShown (f : Fields) : Prop where
  assignment : ∃ s, f "assignment_id" = some (.str s)
  controller : f "controller_id" = some (.str controllerId)
  task : ∃ s, f "task" = some (.str s)
  taskHash : ∃ s, f "task_hash" = some (.str s)
  taskVersion : ∃ n : ℕ, 0 < n ∧ f "task_version" = some (.int n)

/-- A record of the configuration that passes. -/
structure ControllerShown (f : Fields) (provider : String) : Prop where
  configured : f "provider" = some (.str provider)
  valid : isControllerProviderId provider = true
  model : f "model" = none ∨ ∃ s, f "model" = some (.str s)

/-- A record of a worker that passes. -/
structure WorkerShown (f : Fields) : Prop where
  role : ∃ s, f "role" = some (.str s)
  status : ∃ s, f "status" = some (.str s)

/-- Every record is an object. -/
def StateObjects (table : ProjectionTable) : Prop :=
  ∀ projection id row, findRecord table projection id = some row → ∃ o, row.state? = some o

/-- The assignment of a worker has this id. -/
def HasAssignment (t : Tables) (workerId id : String) : Prop :=
  fieldOf t.projections .workerAssignments workerId "assignment_id" = some (.str id)

/-- What the documents need of the records. -/
structure DisplayInvariant (t : Tables) : Prop where
  objects : StateObjects t.projections
  primary : ∀ id row, findRecord t.projections .controllerRuntime id = some row → id = controllerId
  controller : ∀ row, findRecord t.projections .controller controllerId = some row →
    ∃ provider, ControllerShown (fieldOf t.projections .controller controllerId) provider
  runtime : ∀ row, findRecord t.projections .controllerRuntime controllerId = some row →
    ∃ configured provider, findRecord t.projections .controller controllerId = some configured ∧
      fieldOf t.projections .controller controllerId "provider" = some (.str provider) ∧
      RuntimeShown (fieldOf t.projections .controllerRuntime controllerId) provider
        configured.version
  worker : ∀ id row, findRecord t.projections .workerRoster id = some row →
    WorkerShown (fieldOf t.projections .workerRoster id)
  assignment : ∀ id row, findRecord t.projections .workerAssignments id = some row →
    AssignmentShown (fieldOf t.projections .workerAssignments id)
  execution : ∀ id row, findRecord t.projections .workerExecutions id = some row →
    ExecutionShown (fieldOf t.projections .workerExecutions id) id
  claimed : ∀ workerId id row, HasAssignment t workerId id →
    findRecord t.projections .workerExecutions id = some row →
      fieldOf t.projections .workerExecutions id "worker_id" = some (.str workerId) ∧
      fieldOf t.projections .workerExecutions id "task_version" =
        fieldOf t.projections .workerAssignments workerId "task_version"
  distinct : ∀ workerId workerId' id, HasAssignment t workerId id → HasAssignment t workerId' id →
    workerId = workerId'

variable [CharacterDatabase] {t t' : Tables}

/-! ## Objects -/

lemma StateObjects.event {log log' : EventLog} {event : EventEnvelope} {record : EventRecord}
    (hlog : StateObjects log.projections)
    (h : applyEventMutation log event log.projections = .ok (log', record)) :
    StateObjects log'.projections := by
  obtain ⟨-, -, ⟨records, hrecords, hprojections⟩, -⟩ := applyEventMutation_ok h
  simp only [applyEvent, bind_eq_ok, pure_eq_ok] at hrecords
  obtain ⟨payload, -, rfl⟩ := hrecords
  have hmade : ∀ r ∈ changes log.projections event payload, ∃ o, r.stateJson.object? = some o := by
    intro r hr
    have hmake : ∀ projection id state, ∃ o,
        (makeRecord log.projections projection id state).stateJson.object? = some o :=
      fun projection id state => ⟨_, JsonText.object?_ofObject state⟩
    unfold changes at hr
    rcases List.mem_cons.1 hr with rfl | hr
    · exact hmake _ _ _
    · rcases List.mem_append.1 hr with hr | hr
      · split at hr
        · rw [List.mem_singleton.1 hr]
          exact hmake _ _ _
        · simp at hr
      · split at hr
        · rw [List.mem_singleton.1 hr]
          exact hmake _ _ _
        · rw [List.mem_singleton.1 hr]
          exact hmake _ _ _
        · simp at hr
  rw [hprojections]
  generalize changes log.projections event payload = records at hmade
  generalize log.projections = table at hlog
  induction records generalizing table with
  | nil => exact hlog
  | cons r records ih =>
    refine ih (fun r hr => hmade r (List.mem_cons_of_mem _ hr)) _ fun projection id row hrow => ?_
    rw [findRecord_upsertRecord] at hrow
    split at hrow
    · obtain rfl := Option.some.inj hrow
      exact hmade r List.mem_cons_self
    · exact hlog projection id row hrow

lemma StateObjects.run {log log' : EventLog} {events : List EventEnvelope}
    (hlog : StateObjects log.projections) (h : eventLogSystem.Run log events log') :
    StateObjects log'.projections := by
  refine h.invariant (P := fun log => StateObjects log.projections) ?_ hlog
  rintro log event log' hlog ⟨record, hstep⟩
  exact hlog.event hstep

/-- What the controller appends is an object too. -/
lemma StateObjects.appendControl {stamp : Stamp} {type : EventType} {actor : String}
    {payload : JsonObject} (ht : StateObjects t.projections)
    (h : State.appendControl t stamp type actor payload = .ok t') :
    StateObjects t'.projections := by
  obtain ⟨event, record, -, -, -, hlog, -⟩ := appendControl_ok h
  exact ht.event hlog

/-! ## Steps that leave the control plane -/

omit [CharacterDatabase] in
lemma DisplayInvariant.congr (ht : DisplayInvariant t) (hobjects : StateObjects t'.projections)
    (h : ∀ projection ∈ controlProjections, ∀ id,
      findRecord t'.projections projection id = findRecord t.projections projection id) :
    DisplayInvariant t' := by
  have hfield : ∀ projection ∈ controlProjections, ∀ id,
      fieldOf t'.projections projection id = fieldOf t.projections projection id := by
    intro projection hprojection id
    funext field
    rw [fieldOf, h projection hprojection, fieldOf]
  constructor
  · exact hobjects
  · simpa only [h .controllerRuntime (by decide)] using ht.primary
  · simpa only [h .controller (by decide), hfield .controller (by decide)] using ht.controller
  · simpa only [h .controller (by decide), hfield .controller (by decide),
      h .controllerRuntime (by decide), hfield .controllerRuntime (by decide)] using ht.runtime
  · simpa only [h .workerRoster (by decide), hfield .workerRoster (by decide)] using ht.worker
  · simpa only [h .workerAssignments (by decide), hfield .workerAssignments (by decide)]
      using ht.assignment
  · simpa only [h .workerExecutions (by decide), hfield .workerExecutions (by decide)]
      using ht.execution
  · simpa only [HasAssignment, h .workerExecutions (by decide),
      hfield .workerExecutions (by decide), hfield .workerAssignments (by decide)] using ht.claimed
  · simpa only [HasAssignment, hfield .workerAssignments (by decide)] using ht.distinct


/-! ## Steps that change one record -/

/-- Of the control plane, only one record has changed. -/
structure ChangesOnly (t t' : Tables) (projection : ProjectionName) (id : String) : Prop where
  objects : StateObjects t'.projections
  other : ∀ p ∈ controlProjections, ∀ id', p ≠ projection ∨ id' ≠ id →
    findRecord t'.projections p id' = findRecord t.projections p id'

namespace ChangesOnly

variable {projection : ProjectionName} {id : String}

omit [CharacterDatabase] in
lemma fieldOf_eq (h : ChangesOnly t t' projection id) {p : ProjectionName} {id' : String}
    (hp : p ∈ controlProjections) (hne : p ≠ projection ∨ id' ≠ id) :
    fieldOf t'.projections p id' = fieldOf t.projections p id' := by
  funext field
  rw [fieldOf, h.other p hp id' hne, fieldOf]

omit [CharacterDatabase] in
/-- What holds of every record of a projection is only to be shown of the one that changed. -/
lemma forall_records (h : ChangesOnly t t' projection id) {p : ProjectionName}
    (hp : p ∈ controlProjections) {P : String → Fields → Prop}
    (ht : ∀ id row, findRecord t.projections p id = some row → P id (fieldOf t.projections p id))
    (hchanged : p = projection → P id (fieldOf t'.projections p id)) :
    ∀ id row, findRecord t'.projections p id = some row →
      P id (fieldOf t'.projections p id) := by
  intro id' row hrow
  by_cases hsame : p = projection ∧ id' = id
  · obtain ⟨rfl, rfl⟩ := hsame
    exact hchanged rfl
  · have hne : p ≠ projection ∨ id' ≠ id := by
      rwa [← not_and_or]
    rw [h.fieldOf_eq hp hne]
    rw [h.other p hp id' hne] at hrow
    exact ht id' row hrow

end ChangesOnly

/-- What is to be shown of a record that changed. -/
structure ShowsChange (t' : Tables) (projection : ProjectionName) (id : String) : Prop where
  primary : projection = .controllerRuntime → id = controllerId
  controller : projection = .controller →
    ∃ provider, ControllerShown (fieldOf t'.projections .controller id) provider
  runtime : projection = .controller ∨ projection = .controllerRuntime →
    ∀ row, findRecord t'.projections .controllerRuntime controllerId = some row →
      ∃ configured provider, findRecord t'.projections .controller controllerId = some configured ∧
        fieldOf t'.projections .controller controllerId "provider" = some (.str provider) ∧
        RuntimeShown (fieldOf t'.projections .controllerRuntime controllerId) provider
          configured.version
  worker : projection = .workerRoster → WorkerShown (fieldOf t'.projections .workerRoster id)
  assignment : projection = .workerAssignments →
    AssignmentShown (fieldOf t'.projections .workerAssignments id) ∧
    ∀ assigned, HasAssignment t' id assigned →
      findRecord t'.projections .workerExecutions assigned = none ∧
      ∀ workerId, HasAssignment t' workerId assigned → workerId = id
  execution : projection = .workerExecutions →
    ExecutionShown (fieldOf t'.projections .workerExecutions id) id ∧
    ∀ workerId, HasAssignment t' workerId id →
      fieldOf t'.projections .workerExecutions id "worker_id" = some (.str workerId) ∧
      fieldOf t'.projections .workerExecutions id "task_version" =
        fieldOf t'.projections .workerAssignments workerId "task_version"

omit [CharacterDatabase] in
lemma DisplayInvariant.change {projection : ProjectionName} {id : String}
    (ht : DisplayInvariant t) (h : ChangesOnly t t' projection id)
    (hshows : ShowsChange t' projection id) : DisplayInvariant t' := by
  have hunassigned : projection ≠ .workerAssignments → ∀ workerId,
      fieldOf t'.projections .workerAssignments workerId =
        fieldOf t.projections .workerAssignments workerId :=
    fun hne workerId => h.fieldOf_eq (by decide) (Or.inl hne.symm)
  refine ⟨h.objects, ?_, ?_, ?_, ?_, ?_, ?_, ?_, ?_⟩
  · exact h.forall_records (by decide) (P := fun id _ => id = controllerId) ht.primary
      fun hp => hshows.primary hp.symm
  · intro row hrow
    refine h.forall_records (p := .controller) (by decide)
      (P := fun id f => id = controllerId → ∃ provider, ControllerShown f provider)
      (fun id row hrow hid => ?_) (fun hp _ => hshows.controller hp.symm) _ _ hrow rfl
    subst hid
    exact ht.controller row hrow
  · intro row hrow
    by_cases hp : projection = .controller ∨ projection = .controllerRuntime
    · exact hshows.runtime hp row hrow
    · obtain ⟨hcontroller, hruntime⟩ := not_or.1 hp
      have hcontroller : ProjectionName.controller ≠ projection := Ne.symm hcontroller
      have hruntime : ProjectionName.controllerRuntime ≠ projection := Ne.symm hruntime
      rw [h.other _ (by decide) _ (Or.inl hruntime)] at hrow
      rw [h.other _ (by decide) _ (Or.inl hcontroller), h.fieldOf_eq (by decide) (Or.inl hcontroller),
        h.fieldOf_eq (by decide) (Or.inl hruntime)]
      exact ht.runtime row hrow
  · exact h.forall_records (by decide) (P := fun _ f => WorkerShown f) ht.worker
      fun hp => hshows.worker hp.symm
  · exact h.forall_records (by decide) (P := fun _ f => AssignmentShown f) ht.assignment
      fun hp => (hshows.assignment hp.symm).1
  · exact h.forall_records (by decide) (P := fun id f => ExecutionShown f id) ht.execution
      fun hp => (hshows.execution hp.symm).1
  · intro workerId assigned row hassigned hrow
    by_cases hassignments : projection = .workerAssignments
    · by_cases hworker : workerId = id
      · subst hworker
        have hnone := ((hshows.assignment hassignments).2 assigned hassigned).1
        rw [hnone] at hrow
        cases hrow
      · have hexecutions : ProjectionName.workerExecutions ≠ projection := by
          rw [hassignments]
          decide
        rw [h.other _ (by decide) _ (Or.inl hexecutions)] at hrow
        rw [HasAssignment, h.fieldOf_eq (by decide) (Or.inr hworker)] at hassigned
        rw [h.fieldOf_eq (by decide) (Or.inl hexecutions), h.fieldOf_eq (by decide) (Or.inr hworker)]
        exact ht.claimed workerId assigned row hassigned hrow
    · by_cases hsame : projection = .workerExecutions ∧ assigned = id
      · obtain ⟨hexecutions, rfl⟩ := hsame
        exact (hshows.execution hexecutions).2 workerId hassigned
      · have hne : ProjectionName.workerExecutions ≠ projection ∨ assigned ≠ id := by
          rw [ne_comm, ← not_and_or]
          exact hsame
        rw [h.other _ (by decide) _ hne] at hrow
        rw [HasAssignment, hunassigned hassignments] at hassigned
        rw [h.fieldOf_eq (by decide) hne, hunassigned hassignments]
        exact ht.claimed workerId assigned row hassigned hrow
  · intro workerId workerId' assigned hassigned hassigned'
    by_cases hassignments : projection = .workerAssignments
    · have hdistinct := (hshows.assignment hassignments).2 assigned
      by_cases hworker : workerId = id
      · subst hworker
        exact ((hdistinct hassigned).2 _ hassigned').symm
      · by_cases hworker' : workerId' = id
        · subst hworker'
          exact (hdistinct hassigned').2 _ hassigned
        · rw [HasAssignment, h.fieldOf_eq (by decide) (Or.inr hworker)] at hassigned
          rw [HasAssignment, h.fieldOf_eq (by decide) (Or.inr hworker')] at hassigned'
          exact ht.distinct workerId workerId' assigned hassigned hassigned'
    · rw [HasAssignment, hunassigned hassignments] at hassigned hassigned'
      exact ht.distinct workerId workerId' assigned hassigned hassigned'


lemma changesOnly_of_appended {type : EventType} {id : String} {payload : JsonObject}
    (hobjects : StateObjects t.projections) (h : OrchestrationAppended t t' type id payload) :
    ChangesOnly t t' type.projection id := by
  obtain ⟨event, record, -, -, hlog⟩ := h.appended
  exact ⟨hobjects.event hlog, fun p hp id' hne => h.findRecord_ne hp hne⟩

/-! ## Requests of the operator -/

/-- The id that a task gets when it is assigned. -/
def nextAssignmentId (t : Tables) (workerId task : String) : String :=
  assignmentId workerId (sha256Text task)
    (((findRecord t.projections .workerAssignments workerId).map (·.version + 1)).getD 1)

/-- The request keeps what is shown in order: the controller is configured before anything has
started, and the id of an assignment is not the one of another. -/
def KeepsOrder (t : Tables) : ControlOperation → Prop
  | .configureController .. => findRecord t.projections .controllerRuntime controllerId = none
  | .registerWorker .. => True
  | .assignTask workerId task =>
    findRecord t.projections .workerExecutions (nextAssignmentId t workerId task) = none ∧
      ∀ other, ¬ HasAssignment t other (nextAssignmentId t workerId task)

lemma changesOnly_of_operator {op : ControlOperation} {stamp : Stamp} {version : ℕ}
    (hobjects : StateObjects t.projections) (h : op.run t stamp = .ok (t', version)) :
    ChangesOnly t t' op.eventType.projection op.entity := by
  obtain ⟨event, record, -, -, -, -, hlog, -⟩ := ControlOperation.run_ok h
  refine ⟨hobjects.event hlog, fun p hp id hne => ?_⟩
  have hother : p ≠ .documents ∧ p ≠ .epochs := by
    revert hp
    cases p <;> decide
  obtain ⟨state, hrecord⟩ := ControlOperation.findRecord_run h hother.1 hother.2 id
  rw [hrecord, if_neg (not_and_or.2 hne)]

lemma DisplayInvariant.operator {op : ControlOperation} {stamp : Stamp} {version : ℕ}
    (ht : DisplayInvariant t) (h : op.run t stamp = .ok (t', version)) (horder : KeepsOrder t op) :
    DisplayInvariant t' := by
  have hchanges := changesOnly_of_operator ht.objects h
  have hfields := ControlOperation.fieldOf_run h
  have hvalid := ControlOperation.isValid_of_run h
  cases op with
  | configureController provider model =>
    have hchanges : ChangesOnly t t' .controller controllerId := hchanges
    refine ht.change hchanges ⟨fun _ => rfl, fun _ => ⟨provider, hfields "provider", ?_, ?_⟩,
      fun _ row hrow => ?_, ProjectionName.noConfusion, ProjectionName.noConfusion, ProjectionName.noConfusion⟩
    · simp only [ControlOperation.isValid, Bool.and_eq_true] at hvalid
      exact hvalid.1
    · have hmodel := hfields "model"
      cases model with
      | none => exact Or.inl hmodel
      | some model => exact Or.inr ⟨model, hmodel⟩
    · rw [hchanges.other .controllerRuntime (by decide) _ (Or.inl (by decide)), horder] at hrow
      cases hrow
  | registerWorker workerId role =>
    have hchanges : ChangesOnly t t' .workerRoster workerId := hchanges
    exact ht.change hchanges ⟨ProjectionName.noConfusion, ProjectionName.noConfusion, by simp,
      fun _ => ⟨⟨role.text, hfields "role"⟩, ⟨"idle", hfields "status"⟩⟩, ProjectionName.noConfusion, ProjectionName.noConfusion⟩
  | assignTask workerId task =>
    have hchanges : ChangesOnly t t' .workerAssignments workerId := hchanges
    refine ht.change hchanges ⟨ProjectionName.noConfusion, ProjectionName.noConfusion, by simp, ProjectionName.noConfusion,
      fun _ => ⟨?_, fun assigned hassigned => ?_⟩, ProjectionName.noConfusion⟩
    · refine ⟨⟨_, hfields "assignment_id"⟩, hfields "controller_id", ⟨_, hfields "task"⟩,
        ⟨_, hfields "task_hash"⟩, ⟨_, ?_, hfields "task_version"⟩⟩
      cases findRecord t.projections .workerAssignments workerId <;> simp
    · obtain ⟨hexecution, hother⟩ := horder
      have hid := hfields "assignment_id"
      have hnew : assigned = nextAssignmentId t workerId task :=
        JsonValue.str.inj (Option.some.inj (hassigned.symm.trans hid))
      subst hnew
      refine ⟨?_, fun other hsame => ?_⟩
      · rw [hchanges.other .workerExecutions (by decide) _ (Or.inl (by decide))]
        exact hexecution
      · by_contra hne
        rw [HasAssignment, hchanges.fieldOf_eq (by decide) (Or.inr hne)] at hsame
        exact hother other hsame

/-! ## The runtime -/

omit [CharacterDatabase] in
/-- A record of the runtime passes on, if only its status and reason change. -/
lemma RuntimeShown.status_change {f f' : Fields} {provider : String} {version : ℕ}
    (h : RuntimeShown f provider version)
    (hsame : ∀ field ∈ ["controller_id", "provider", "controller_session_id", "controller_version",
      "backend_version"], f' field = f field)
    (hstatus : ∃ status reason, f' "status" = some (.str (RuntimeStatus.text status)) ∧
      runtimeReason status ( f' "reason_code") = .ok reason) :
    RuntimeShown f' provider version := by
  refine ⟨?_, ?_, ?_, ?_, h.positive, ?_, hstatus⟩
  · rw [hsame _ (by decide)]
    exact h.controller
  · rw [hsame _ (by decide)]
    exact h.configured
  · rw [hsame _ (by decide)]
    exact h.session
  · rw [hsame _ (by decide)]
    exact h.controllerVersion
  · rw [hsame _ (by decide)]
    exact h.backend

/-- The end of a session is shown, if its reason is. -/
lemma DisplayInvariant.ended {type : EventType} {sessionId reasonCode : String}
    {reason : Option String} (ht : DisplayInvariant t) (status : RuntimeStatus)
    (h : OrchestrationAppended t t' type controllerId [("controller_id", .str controllerId),
      ("controller_session_id", .str sessionId), ("reason_code", .str reasonCode)])
    (htype : type = .controllerStopped ∨ type = .controllerCrashed)
    (hstatus : targetStatus type = status.text)
    (hreason : runtimeReason status (some (.str reasonCode)) = .ok reason) :
    DisplayInvariant t' := by
  have hchanges := changesOnly_of_appended ht.objects h
  have hkind : type.projection = .controllerRuntime ∧
      executionField type = "controller_session_id" ∧ .null ∉ allowedPrevious type := by
    rcases htype with rfl | rfl <;> decide
  obtain ⟨hprojection, hexecution, hnull⟩ := hkind
  obtain ⟨-, -, hallowed, hsame, hfields⟩ := h
  rw [hprojection] at hchanges hallowed hsame hfields
  have hrow : ∃ row, findRecord t.projections .controllerRuntime controllerId = some row := by
    cases hrow : findRecord t.projections .controllerRuntime controllerId with
    | none =>
      rw [fieldOf, hrow] at hallowed
      exact absurd hallowed hnull
    | some row => exact ⟨row, rfl⟩
  obtain ⟨row, hrow⟩ := hrow
  obtain ⟨configured, provider, hconfigured, hprovider, hshown⟩ := ht.runtime row hrow
  refine ht.change hchanges ⟨fun _ => rfl, ProjectionName.noConfusion, fun _ row' hrow' => ?_, ProjectionName.noConfusion, ProjectionName.noConfusion, ProjectionName.noConfusion⟩
  refine ⟨configured, provider, ?_, ?_, hshown.status_change (fun field hfield => ?_)
    ⟨status, reason, ?_, ?_⟩⟩
  · rw [hchanges.other _ (by decide) _ (Or.inl (by decide))]
    exact hconfigured
  · rw [hchanges.fieldOf_eq (by decide) (Or.inl (by decide))]
    exact hprovider
  · have hsession := hsame row hrow
    rw [hexecution] at hsession
    have hfield' := hfields field
    revert hfield
    simp only [List.mem_cons, List.not_mem_nil, or_false]
    rintro (rfl | rfl | rfl | rfl | rfl)
    · exact hfield'.trans hshown.controller.symm
    · exact hfield'
    · exact hfield'.trans hsession.symm
    · exact hfield'
    · exact hfield'
  · rw [hfields, if_pos rfl, hstatus]
  · rw [hfields]
    exact hreason


/-- A session that starts is shown, if none has started before. -/
lemma DisplayInvariant.start {stamp : Stamp} {sessionId : String} {version : ℕ}
    {provider : ControllerProviderId} {backendVersion executableHash : String}
    (ht : DisplayInvariant t)
    (h : startController t stamp sessionId version provider backendVersion executableHash =
      .ok t')
    (hidle : findRecord t.projections .controllerRuntime controllerId = none)
    (hsession : isTrustedId "controller" sessionId = true) : DisplayInvariant t' := by
  simp only [startController, bind_eq_ok, require_eq_ok, orThrow_eq_ok, readPayload_eq_ok,
    exists_and_left, exists_const] at h
  obtain ⟨configured, hconfigured, payload, hpayload, rfl, hprovider, -, -, -, happend⟩ := h
  have happended := appendControl_runtime happend rfl rfl
  have hchanges : ChangesOnly t t' .controllerRuntime controllerId :=
    changesOnly_of_appended ht.objects happended
  have hfields := happended.fields
  have hvalid : 0 < configured.version ∧ backendVersion ≠ "" := by
    have hvalid := validatePayload_of_appendControl happend
    simp [validatePayload, codec?, PayloadCodec.validate_eq_ok_iff, PayloadCodec.validator,
      fieldValidators, FieldCheck.accepts, textPayload, keys] at hvalid
    exact ⟨hvalid.2.2.1, hvalid.2.2.2.2.1⟩
  refine ht.change hchanges ⟨fun _ => rfl, ProjectionName.noConfusion, fun _ row hrow => ?_, ProjectionName.noConfusion, ProjectionName.noConfusion, ProjectionName.noConfusion⟩
  refine ⟨configured, provider.value, ?_, ?_, hfields "controller_id", hfields "provider",
    ⟨sessionId, hfields "controller_session_id", hsession⟩, hfields "controller_version", hvalid.1,
    ⟨backendVersion, hvalid.2, hfields "backend_version"⟩, ⟨.running, none, hfields "status", ?_⟩⟩
  · rw [hchanges.other _ (by decide) _ (Or.inl (by decide))]
    exact hconfigured
  · rw [hchanges.fieldOf_eq (by decide) (Or.inl (by decide)), fieldOf_eq hconfigured hpayload]
    exact hprovider
  · have hnone : fieldOf t.projections .controllerRuntime controllerId "reason_code" = none := by
      rw [fieldOf, hidle, Option.bind_none]
    have hreason : fieldOf t'.projections .controllerRuntime controllerId "reason_code" = none :=
      (hfields "reason_code").trans hnone
    rw [hreason]
    rfl

/-! ## Executions -/

/-- A claim is shown. -/
lemma DisplayInvariant.claim {stamp : Stamp} {workerId sessionId executionId : String}
    {version : ℕ} {claim : ClaimedAssignment} (ht : DisplayInvariant t)
    (hids : (ids t.publicationQueue).Nodup)
    (h : claimAssignment t stamp workerId sessionId version executionId = .ok (t', claim))
    (hexecution : isTrustedId "execution" executionId = true) : DisplayInvariant t' := by
  have hcurrent := (standing_of_claimAssignment hids h).current trivial
  obtain ⟨rfl, hsha, hsession, hpositive, hworker, htask, -⟩ := valid_of_claimAssignment h
  obtain ⟨hruns, rfl, hunclaimed, -, happended⟩ := claimAssignment_ok h
  have hchanges : ChangesOnly t t' .workerExecutions claim.assignmentId :=
    changesOnly_of_appended ht.objects happended
  have hfields := happended.fields
  have hnone : fieldOf t.projections .workerExecutions claim.assignmentId "reason_code" = none := by
    rw [fieldOf, hunclaimed, Option.bind_none]
  have htrusted : isTrustedId "controller" sessionId = true := by
    obtain ⟨row, hrow⟩ := exists_findRecord_of_fieldOf hruns.session
    obtain ⟨_, _, -, -, hshown⟩ := ht.runtime row hrow
    obtain ⟨s, hs, htrusted⟩ := hshown.session
    rw [hruns.session, Option.some.injEq, JsonValue.str.injEq] at hs
    rwa [hs]
  refine ht.change hchanges ⟨ProjectionName.noConfusion, ProjectionName.noConfusion, by simp, ProjectionName.noConfusion, ProjectionName.noConfusion, fun _ => ⟨?_, ?_⟩⟩
  · refine ⟨hfields "assignment_id", hsha, hfields "controller_id",
      ⟨sessionId, hfields "controller_session_id", htrusted⟩,
      ⟨_, hpositive, hfields "controller_version"⟩, ⟨_, hworker, hfields "worker_id"⟩,
      ⟨_, htask, hfields "task_version"⟩, ⟨_, hfields "execution_id", hexecution⟩,
      ⟨.claimed, none, hfields "status", ?_⟩⟩
    have hreason : fieldOf t'.projections .workerExecutions claim.assignmentId "reason_code" =
      none := (hfields "reason_code").trans hnone
    rw [hreason]
    rfl
  · intro other hassigned
    have hsame : other = claim.workerId := by
      have hassigned' : HasAssignment t' claim.workerId claim.assignmentId := hcurrent.assignment
      rw [HasAssignment, hchanges.fieldOf_eq (by decide) (Or.inl (by decide))]
        at hassigned hassigned'
      exact ht.distinct _ _ _ hassigned hassigned'
    subst hsame
    rw [hcurrent.taskVersion]
    exact ⟨hfields "worker_id", hfields "task_version"⟩

omit [CharacterDatabase] in
/-- A record of an execution passes on, if only its status and reason change. -/
lemma ExecutionShown.status_change {f f' : Fields} {assignmentId : String}
    (h : ExecutionShown f assignmentId)
    (hsame : ∀ field ∈ ["assignment_id", "controller_id", "controller_session_id",
      "controller_version", "worker_id", "task_version", "execution_id"], f' field = f field)
    (hstatus : ∃ status reason, f' "status" = some (.str (ExecutionStatus.text status)) ∧
      executionReason status ( f' "reason_code") = .ok reason) :
    ExecutionShown f' assignmentId := by
  refine ⟨?_, h.sha256, ?_, ?_, ?_, ?_, ?_, ?_, hstatus⟩
  · rw [hsame _ (by decide)]
    exact h.assignment
  · rw [hsame _ (by decide)]
    exact h.controller
  · rw [hsame _ (by decide)]
    exact h.session
  · rw [hsame _ (by decide)]
    exact h.version
  · rw [hsame _ (by decide)]
    exact h.worker
  · rw [hsame _ (by decide)]
    exact h.task
  · rw [hsame _ (by decide)]
    exact h.execution


/-- An event that continues an execution is shown, if its status and reason are. -/
lemma DisplayInvariant.continued {type : EventType} {assignmentId executionId : String}
    {fields : JsonObject} (ht : DisplayInvariant t)
    (h : OrchestrationAppended t t' type assignmentId
      ([("assignment_id", .str assignmentId), ("execution_id", .str executionId)] ++ fields))
    (htype : type ∈ executionTypes.erase .workerTaskClaimed)
    (hother : ∀ field ∈ ["controller_id", "controller_session_id", "controller_version",
      "worker_id", "task_version"], getEntry field fields = none)
    (hstatus : ∀ before reason, JsonValue.str (ExecutionStatus.text before) ∈ allowedPrevious type →
      executionReason before
        (fieldOf t.projections .workerExecutions assignmentId "reason_code") = .ok reason →
      ∃ status reason, targetStatus type = ExecutionStatus.text status ∧
        executionReason status (((getEntry "reason_code" fields).map canonical).or
          (fieldOf t.projections .workerExecutions assignmentId "reason_code")) = .ok reason) :
    DisplayInvariant t' := by
  have hchanges := changesOnly_of_appended ht.objects h
  have hkind : type.projection = .workerExecutions ∧ executionField type = "execution_id" ∧
      .null ∉ allowedPrevious type := by
    revert htype
    cases type <;> decide
  obtain ⟨hprojection, hexecution, hnull⟩ := hkind
  obtain ⟨-, -, hallowed, hsame, hfields⟩ := h
  rw [hprojection] at hchanges hallowed hsame hfields
  have hrow : ∃ row, findRecord t.projections .workerExecutions assignmentId = some row := by
    cases hrow : findRecord t.projections .workerExecutions assignmentId with
    | none =>
      rw [fieldOf, hrow] at hallowed
      exact absurd hallowed hnull
    | some row => exact ⟨row, rfl⟩
  obtain ⟨row, hrow⟩ := hrow
  have hshown := ht.execution _ row hrow
  have hkept : ∀ field ∈ ["assignment_id", "controller_id", "controller_session_id",
      "controller_version", "worker_id", "task_version", "execution_id"],
      fieldOf t'.projections .workerExecutions assignmentId field =
        fieldOf t.projections .workerExecutions assignmentId field := by
    intro field hfield
    have hold : ∀ field ∈ ["controller_id", "controller_session_id", "controller_version",
        "worker_id", "task_version"], fieldOf t'.projections .workerExecutions assignmentId field =
          fieldOf t.projections .workerExecutions assignmentId field := by
      intro field hfield
      have hnone := hother field hfield
      have hwritten := hfields field
      revert hfield hnone hwritten
      simp only [List.mem_cons, List.not_mem_nil, or_false]
      rintro (rfl | rfl | rfl | rfl | rfl) hnone hwritten <;>
        simpa [getEntry_cons, hnone] using hwritten
    have hexecutionId := hsame row hrow
    rw [hexecution] at hexecutionId
    by_cases hmem : field ∈ ["controller_id", "controller_session_id", "controller_version",
        "worker_id", "task_version"]
    · exact hold field hmem
    · have htwo : field = "assignment_id" ∨ field = "execution_id" := by
        revert hfield hmem
        simp only [List.mem_cons, List.not_mem_nil, or_false]
        tauto
      rcases htwo with rfl | rfl
      · exact (hfields "assignment_id").trans hshown.assignment.symm
      · exact (hfields "execution_id").trans hexecutionId.symm
  obtain ⟨before, reason, hbefore, hreason⟩ := hshown.status
  rw [hbefore] at hallowed
  obtain ⟨status, reason', htarget, hreason'⟩ := hstatus before reason hallowed hreason
  refine ht.change hchanges ⟨ProjectionName.noConfusion, ProjectionName.noConfusion, by simp, ProjectionName.noConfusion, ProjectionName.noConfusion, fun _ =>
    ⟨hshown.status_change hkept ⟨status, reason', ?_, ?_⟩, fun workerId hassigned => ?_⟩⟩
  · rw [hfields, if_pos rfl, htarget]
  · rw [← hreason']
    congr 1
    have hwritten := hfields "reason_code"
    simpa [getEntry_cons] using hwritten
  · rw [HasAssignment, hchanges.fieldOf_eq (by decide) (Or.inl (by decide))] at hassigned
    rw [hkept _ (by decide), hkept _ (by decide),
      hchanges.fieldOf_eq (by decide) (Or.inl (by decide))]
    exact ht.claimed workerId _ row hassigned hrow

omit [CharacterDatabase] in
/-- A status without a reason has none. -/
lemma isNone_of_executionReason {status : ExecutionStatus} {value : Option JsonValue}
    {reason : Option String} (h : executionReason status value = .ok reason)
    (hstatus : status = .claimed ∨ status = .planned) : isNone value = true := by
  rcases hstatus with rfl | rfl <;>
  · simp only [executionReason, bind_eq_ok, pure_eq_ok, require_eq_ok] at h
    obtain ⟨_, rfl, _, hvalid, -⟩ := h
    exact hvalid

omit [CharacterDatabase] in
lemma executionReason_of_isNone {status : ExecutionStatus} {value : Option JsonValue}
    (h : isNone value = true) (hstatus : status = .planned ∨ status = .completed) :
    ∃ reason, executionReason status value = .ok reason := by
  rcases hstatus with rfl | rfl <;>
  · refine ⟨textOrNone value, ?_⟩
    simp only [executionReason, h]
    rfl

lemma appendControl_of_appendClaimed {stamp : Stamp} {claim : ClaimedAssignment} {type : EventType}
    {allowed : List JsonValue} {fields : JsonObject}
    (h : appendClaimed t stamp claim type allowed fields = .ok t') :
    appendControl t stamp type controllerId ([("assignment_id", .str claim.assignmentId),
      ("execution_id", .str claim.executionId)] ++ fields) = .ok t' := by
  simp only [appendClaimed, bind_eq_ok] at h
  obtain ⟨⟨⟩, -, happend⟩ := h
  exact happend


/-- A step of an execution is shown, unless it fails for the lack of a formal target. -/
lemma DisplayInvariant.execute {stamp : Stamp} {claim : ClaimedAssignment} {step : ExecutionStep}
    (ht : DisplayInvariant t) (h : step.run t stamp claim = .ok t')
    (hreason : ∀ reason, step = .fail reason → reason ≠ "FORMAL_TARGET_REQUIRED") :
    DisplayInvariant t' := by
  cases step with
  | plan directiveId artifactHash instructionHash budget timeout =>
    have happended := appendControl_orchestration (appendControl_of_appendClaimed h) (by decide) rfl
    refine ht.continued happended (by decide) (by simp) fun before reason hbefore hold => ?_
    have hclaimed : before = .claimed := by
      cases before <;> simp [allowedPrevious, ExecutionStatus.text] at hbefore ⊢
    subst hclaimed
    obtain ⟨reason, hreason⟩ :=
      executionReason_of_isNone (isNone_of_executionReason hold (Or.inl rfl)) (Or.inl rfl)
    exact ⟨.planned, reason, rfl, hreason⟩
  | complete resultHash =>
    have happended := appendControl_orchestration (appendControl_of_appendClaimed h) (by decide) rfl
    refine ht.continued happended (by decide) (by simp) fun before reason hbefore hold => ?_
    have hplanned : before = .planned := by
      cases before <;> simp [allowedPrevious, ExecutionStatus.text] at hbefore ⊢
    subst hplanned
    obtain ⟨reason, hreason⟩ :=
      executionReason_of_isNone (isNone_of_executionReason hold (Or.inr rfl)) (Or.inr rfl)
    exact ⟨.completed, reason, rfl, hreason⟩
  | fail reasonCode =>
    have happend := appendControl_of_appendClaimed h
    have hmem : reasonCode ∈ failedReasons := by
      have hvalid := validatePayload_of_appendControl happend
      have hlisted : reasonCode ∈ failureReasons := by
        simp [validatePayload, codec?, PayloadCodec.validate_eq_ok_iff, PayloadCodec.validator,
          fieldValidators, FieldCheck.accepts, textPayload, keys] at hvalid
        simpa [failureReasons] using hvalid.2.2
      have hne := hreason reasonCode rfl
      revert hlisted
      simp only [failureReasons, failedReasons, List.mem_cons, List.not_mem_nil, or_false]
      tauto
    refine ht.continued (appendControl_orchestration happend (by decide) rfl) (by decide) (by simp)
      fun before reason hbefore hold => ⟨.failed, some reasonCode, rfl, ?_⟩
    simp only [getEntry_cons, if_true, Option.map_some, canonical_str, Option.some_or,
      executionReason, textOrNone, Option.any_some, List.contains_eq_mem, hmem]
    rfl
  | interrupt reasonCode =>
    have happend := appendControl_of_appendClaimed h
    have hmem : reasonCode = "OPERATOR_SIGNAL" ∨ reasonCode = "CONTROLLER_RESTART" := by
      have hvalid := validatePayload_of_appendControl happend
      simp [validatePayload, codec?, PayloadCodec.validate_eq_ok_iff, PayloadCodec.validator,
        fieldValidators, FieldCheck.accepts, textPayload, keys] at hvalid
      exact hvalid.2.2
    refine ht.continued (appendControl_orchestration happend (by decide) rfl) (by decide) (by simp)
      fun before reason hbefore hold => ⟨.interrupted, some reasonCode, rfl, ?_⟩
    rcases hmem with rfl | rfl <;> rfl

/-- So is a round of the recovery. -/
lemma DisplayInvariant.interrupt {stamp : Stamp} {record : ProjectionRecord}
    (ht : DisplayInvariant t) (h : interruptRecord t stamp record = .ok t')
    (hrecord : findRecord t.projections .workerExecutions record.entityId =
      some ⟨record.version, record.stateJson⟩) : DisplayInvariant t' := by
  have hshown := ht.execution _ _ hrecord
  simp only [interruptRecord, bind_eq_ok, Orchestration.payloadOf_eq_ok] at h
  obtain ⟨payload, hpayload, h⟩ := h
  have hfield := fieldOf_eq hrecord hpayload
  split at h
  · simp only [bind_eq_ok, textOf_eq_ok] at h
    obtain ⟨id, ⟨-, hid⟩, executionId, -, happend⟩ := h
    have hsame := hshown.assignment
    rw [hfield, hid, Option.some.injEq, JsonValue.str.injEq] at hsame
    subst hsame
    exact ht.continued (appendControl_orchestration happend (by decide) rfl) (by decide) (by decide)
      fun before reason hbefore hold => ⟨.interrupted, some "CONTROLLER_RESTART", rfl, rfl⟩
  · obtain rfl := pure_eq_ok.1 h
    exact ht


/-! ## Runs -/

/-- What the callers promise of the ids that they give: those of a supervisor and of its executions
are made by it, and the session of the research runner is named after an event id. -/
def Issued : ControllerAction → Prop
  | .openSession sessionId true => isTrustedId "controller" sessionId = true
  | .openSession sessionId false => ∃ ulid, isUlid ulid = true ∧
      sessionId = "research-" ++ String.ofList (ulid.toList.map Char.toLower)
  | .claim _ _ executionId => isTrustedId "execution" executionId = true
  | _ => True

/-- The steps that what is shown covers: of the sessions only a supervisor starts, and none before
it; nothing is configured after that; an assignment has no id twice; and the reasons of stops and
failures are the ones of the tables. -/
def Displayable (w : ControllerWorld) : ControllerAction → Prop
  | .operator _ op => KeepsOrder w.tables op
  | .start .. => findRecord w.tables.projections .controllerRuntime controllerId = none ∧
      ∀ s, w.session = some s → s.supervises = true
  | .execute _ _ (.fail reasonCode) => reasonCode ≠ "FORMAL_TARGET_REQUIRED"
  | .stop _ reasonCode => reasonCode ≠ "RESEARCH_IDLE" ∧ reasonCode ≠ "TIME_LIMIT"
  | _ => True

/-- The controller, as its callers use it. -/
def issuedSystem : TransitionSystem ControllerWorld ControllerAction :=
  controllerSystem.restrict fun _ a => Issued a

/-- The controller with displayable steps only. -/
def displayableSystem : TransitionSystem ControllerWorld ControllerAction :=
  controllerSystem.restrict fun w a => Issued a ∧ Displayable w a

/-- What is kept, with the session. -/
structure WorldShown (w : ControllerWorld) : Prop where
  shown : DisplayInvariant w.tables
  trusted : ∀ s, w.session = some s → s.supervises = true →
    isTrustedId "controller" s.sessionId = true

omit [CharacterDatabase] in
lemma worldShown_initial : WorldShown ⟨initialTables, none⟩ := by
  have hnone : ∀ projection ≠ .epochs, ∀ id,
      findRecord initialTables.projections projection id = none := by
    intro projection hne id
    simp [findRecord, initialTables, initialLog, initialProjections, hne]
  have hfield : ∀ projection ≠ .epochs, ∀ id field,
      fieldOf initialTables.projections projection id field = none := by
    intro projection hne id field
    rw [fieldOf, hnone projection hne, Option.bind_none]
  have hobjects : StateObjects initialTables.projections := by
    intro projection id row hrow
    simp only [findRecord, initialTables, initialLog, initialProjections, Table.get?_upsert] at hrow
    split at hrow
    · obtain rfl := Option.some.inj hrow
      exact ⟨_, JsonText.object?_ofObject _⟩
    · simp at hrow
  refine ⟨⟨hobjects, ?_, ?_, ?_, ?_, ?_, ?_, ?_, ?_⟩, by simp⟩ <;>
    simp [HasAssignment, hnone, hfield]

/-- A displayable step keeps what is shown. -/
lemma WorldShown.step {w w' : ControllerWorld} {a : ControllerAction} (hw : WorldShown w)
    (hinv : ControllerInvariant w) (h : ControllerStep w a w') (hissued : Issued a)
    (hdisplayable : Displayable w a) : WorldShown w' := by
  obtain ⟨ht, htrusted⟩ := hw
  cases h with
  | operator h => exact ⟨ht.operator h hdisplayable, htrusted⟩
  | service hop =>
    obtain ⟨events, hrun, htypes⟩ := StateOp.exists_run_exec hinv.ids_nodup _
    refine ⟨ht.congr (ht.objects.run hrun) fun projection hprojection id => ?_, htrusted⟩
    have hother : projection ≠ .documents ∧ projection ≠ .epochs := by
      revert hprojection
      cases projection <;> decide
    exact findRecord_of_run hrun hother.1 hother.2
      (fun e he hsame => hop _ (htypes e he) (hsame ▸ hprojection)) id
  | openSession sessionId supervises =>
    refine ⟨ht, fun s hs hsupervises => ?_⟩
    obtain rfl := Option.some.inj hs
    subst hsupervises
    exact hissued
  | recover hphase h =>
    rename_i t t' s stamp crashed
    refine ⟨?_, fun s' hs' => ?_⟩
    · unfold recoverUncleanController at h
      split at h
      · obtain ⟨rfl, -⟩ := Prod.mk.inj (pure_eq_ok.1 h)
        exact ht
      · simp only [bind_eq_ok, readPayload_eq_ok] at h
        obtain ⟨payload, -, h⟩ := h
        split at h
        · obtain ⟨rfl, -⟩ := Prod.mk.inj (pure_eq_ok.1 h)
          exact ht
        · simp only [bind_eq_ok, pure_eq_ok, Prod.mk.injEq] at h
          obtain ⟨sessionId, -, t₁, happend, rfl, -⟩ := h
          exact ht.ended .crashed (appendControl_runtime happend rfl rfl) (Or.inr rfl) rfl rfl
    · obtain rfl := Option.some.inj hs'
      exact htrusted s rfl
  | interruptNext hphase h =>
    rename_i t t' s stamp record pending
    obtain ⟨-, -, hrecords, -⟩ := (hinv.session s rfl).recovering _ hphase
    refine ⟨ht.interrupt h (hrecords record List.mem_cons_self), fun s' hs' => ?_⟩
    obtain rfl := Option.some.inj hs'
    exact htrusted s rfl
  | finishRecovery hphase =>
    rename_i t s
    refine ⟨ht, fun s' hs' => ?_⟩
    obtain rfl := Option.some.inj hs'
    exact htrusted s rfl
  | start hphase h =>
    rename_i t t' s stamp version provider backendVersion executableHash
    obtain ⟨hidle, hsupervises⟩ := hdisplayable
    refine ⟨ht.start h hidle (htrusted s rfl (hsupervises s rfl)), fun s' hs' => ?_⟩
    obtain rfl := Option.some.inj hs'
    exact htrusted s rfl
  | claim hsupervises hphase h =>
    rename_i t t' s stamp workerId executionId claim
    refine ⟨ht.claim hinv.ids_nodup h hissued, fun s' hs' => ?_⟩
    obtain rfl := Option.some.inj hs'
    exact htrusted s rfl
  | execute hclaim h =>
    rename_i t t' s stamp claim step
    refine ⟨ht.execute h fun reason hstep => ?_, htrusted⟩
    subst hstep
    exact hdisplayable
  | stop hphase h =>
    rename_i t t' s stamp reasonCode
    have hmem : reasonCode = "OPERATOR_SIGNAL" ∨ reasonCode = "PREFLIGHT_FAILED" ∨
        reasonCode = "CONTROLLER_FAILED" := by
      have hvalid := validatePayload_of_appendControl h
      obtain ⟨hidle, hlimit⟩ := hdisplayable
      simp [validatePayload, codec?, PayloadCodec.validate_eq_ok_iff, PayloadCodec.validator,
        fieldValidators, FieldCheck.accepts, textPayload, keys] at hvalid
      tauto
    have hended : ∃ reason, runtimeReason .stopped (some (.str reasonCode)) = .ok reason := by
      rcases hmem with rfl | rfl | rfl <;> exact ⟨_, rfl⟩
    obtain ⟨reason, hreason⟩ := hended
    exact ⟨ht.ended .stopped (appendControl_runtime h rfl rfl) (Or.inl rfl) rfl hreason, by simp⟩
  | crash => exact ⟨ht, by simp⟩

lemma worldShown_of_reachable {w : ControllerWorld} (h : displayableSystem.Reachable w) :
    WorldShown w := by
  have hboth : WorldShown w ∧ ControllerInvariant w := by
    refine h.invariant (P := fun w => WorldShown w ∧ ControllerInvariant w) ?_ ?_
    · rintro w rfl
      exact ⟨worldShown_initial, controllerInvariant_initial⟩
    · rintro w a w' ⟨hw, hinv⟩ ⟨hstep, hissued, hdisplayable⟩
      exact ⟨hw.step hinv hstep hissued hdisplayable, hinv.step hstep⟩
  exact hboth.1

end Aizim.Cli
