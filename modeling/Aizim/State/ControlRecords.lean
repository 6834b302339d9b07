import Aizim.State.History

/-!
# Records of the control plane

The records of the controller, the workers, their assignments and their executions, as events write
them.  An event that configures or assigns replaces the payload of its record; an event of the
controller or of an execution is merged into it, if the status allows the event
(`merges_of_event`).

The events of one execution follow one another in one of a few orders, and all name the execution
that claimed the assignment: `ExecutionRecorded.of_run`, for every sequence of appends.
-/

namespace Aizim.State

open JsonValue JsonObject TransitionSystem

/-! ## Fields -/

/-- `_payload` of a record. -/
def ProjectionRow.payload? (row : ProjectionRow) : Option JsonObject :=
  row.state?.bind fun state => object? (getEntry "payload" state)

/-- A field of the payload of a record. -/
def fieldOf (table : ProjectionTable) (projection : ProjectionName) (id field : String) :
    Option JsonValue :=
  (findRecord table projection id).bind fun row => row.payload?.bind (getEntry field)

/-- What is read from a record is canonical. -/
lemma ProjectionRow.canonicalEntries_payload? {row : ProjectionRow} {payload : JsonObject}
    (h : row.payload? = some payload) : canonicalEntries payload = payload := by
  obtain ⟨state, hstate, hpayload⟩ := Option.bind_eq_some_iff.1 h
  have hcanonical := JsonText.canonicalEntries_of_object? hstate
  have hentry : getEntry "payload" state = some (.dict payload) := by
    unfold object? at hpayload
    split at hpayload
    · rename_i o ho
      rw [ho, Option.some.inj hpayload]
    · cases hpayload
  have hmap := getEntry_canonicalEntries "payload" state
  rw [hcanonical, hentry, Option.map_some, canonical_dict, Option.some.injEq,
    JsonValue.dict.injEq] at hmap
  exact hmap.symm

lemma fieldOf_map_canonical (table : ProjectionTable) (projection : ProjectionName)
    (id field : String) :
    (fieldOf table projection id field).map canonical = fieldOf table projection id field := by
  unfold fieldOf
  cases hrow : findRecord table projection id with
  | none => rfl
  | some row =>
    cases hpayload : row.payload? with
    | none => simp [hpayload]
    | some payload =>
      simp only [Option.bind_some, hpayload]
      rw [← getEntry_canonicalEntries, ProjectionRow.canonicalEntries_payload? hpayload]

variable [CharacterDatabase] {log log' : EventLog} {event : EventEnvelope} {record : EventRecord}

lemma payload?_eventState (version : ℕ) (event : EventEnvelope) (payload : JsonObject) :
    (⟨version, .ofObject (eventState event payload)⟩ : ProjectionRow).payload? =
      some (canonicalEntries payload) := by
  simp [ProjectionRow.payload?, ProjectionRow.state?, eventState, object?]

/-! ## Records after an event -/

/-- The payload that an event writes, and the record it writes it to. -/
lemma findRecord_of_event
    (h : applyEventMutation log event log.projections = .ok (log', record)) :
    ∃ payload, projectionPayload log.projections event = .ok payload ∧
      ∀ projection, projection ≠ .documents → projection ≠ .epochs → ∀ id,
        findRecord log'.projections projection id =
          if projection = event.eventType.projection ∧ id = entityId event then
            some ⟨((findRecord log.projections projection id).map (·.version + 1)).getD 1,
              .ofObject (eventState event payload)⟩
          else findRecord log.projections projection id := by
  obtain ⟨-, -, ⟨records, hrecords, hprojections⟩, -⟩ := applyEventMutation_ok h
  simp only [applyEvent, bind_eq_ok, pure_eq_ok] at hrecords
  obtain ⟨payload, hpayload, rfl⟩ := hrecords
  refine ⟨payload, hpayload, fun projection hdocuments hepochs id => ?_⟩
  rw [hprojections, changes, List.foldl_cons, findRecord_foldl_of_ne]
  · rw [findRecord_upsertRecord]
    unfold makeRecord
    split
    · rename_i hsame
      simp only [hsame.1, hsame.2]
    · rfl
  · -- the other records are of documents and epochs
    rintro r hr ⟨hname, -⟩
    rcases List.mem_append.1 hr with hr | hr
    · split at hr
      · obtain rfl := List.mem_singleton.1 hr
        exact hdocuments hname
      · simp at hr
    · split at hr
      · obtain rfl := List.mem_singleton.1 hr
        exact hepochs hname
      · obtain rfl := List.mem_singleton.1 hr
        exact hepochs hname
      · simp at hr

/-- An event leaves the records of other projections and entities. -/
lemma findRecord_of_event_ne
    (h : applyEventMutation log event log.projections = .ok (log', record))
    {projection : ProjectionName} (hdocuments : projection ≠ .documents)
    (hepochs : projection ≠ .epochs) {id : String}
    (hne : ¬ (projection = event.eventType.projection ∧ id = entityId event)) :
    findRecord log'.projections projection id = findRecord log.projections projection id := by
  obtain ⟨payload, -, hrecord⟩ := findRecord_of_event h
  rw [hrecord projection hdocuments hepochs id, if_neg hne]

/-- A run of appends leaves the records of the projections that none of its events is about. -/
lemma findRecord_of_run {events : List EventEnvelope} (h : eventLogSystem.Run log events log')
    {projection : ProjectionName} (hdocuments : projection ≠ .documents)
    (hepochs : projection ≠ .epochs)
    (hne : ∀ e ∈ events, e.eventType.projection ≠ projection) (id : String) :
    findRecord log'.projections projection id = findRecord log.projections projection id := by
  induction h with
  | nil => rfl
  | snoc hrun hstep ih =>
    obtain ⟨record, hstep⟩ := hstep
    rw [findRecord_of_event_ne hstep hdocuments hepochs fun hsame => hne _ (by simp) hsame.1.symm]
    exact ih fun e he => hne e (List.mem_append_left _ he)

lemma fieldOf_of_event_ne
    (h : applyEventMutation log event log.projections = .ok (log', record))
    {projection : ProjectionName} (hdocuments : projection ≠ .documents)
    (hepochs : projection ≠ .epochs) {id : String}
    (hne : ¬ (projection = event.eventType.projection ∧ id = entityId event)) (field : String) :
    fieldOf log'.projections projection id field = fieldOf log.projections projection id field := by
  rw [fieldOf, findRecord_of_event_ne h hdocuments hepochs hne, fieldOf]

/-- A required text of an event is not empty. -/
lemma text?_of_required {codec : PayloadCodec} (hcodec : codec? event.eventType = some codec)
    {field : String} (hfield : field ∈ codec.required)
    (hcheck : codec.validator field = .text ∨ codec.validator field = .sha256) :
    ∃ s, s ≠ "" ∧ event.text? field = some s := by
  obtain ⟨v, hv, haccepts⟩ := getEntry_of_validatePayload event.payload_valid hcodec hfield
  rw [EventEnvelope.text?, hv]
  rcases hcheck with hcheck | hcheck
  · rw [hcheck] at haccepts
    cases v with
    | str s => exact ⟨s, by simpa [FieldCheck.accepts, textPayload] using haccepts, rfl⟩
    | _ => simp [FieldCheck.accepts, textPayload] at haccepts
  · rw [hcheck] at haccepts
    cases v with
    | str s =>
      refine ⟨s, ?_, rfl⟩
      rintro rfl
      exact absurd haccepts (by decide)
    | _ => simp [FieldCheck.accepts] at haccepts

/-- The entity of an event whose entity field is a text of it. -/
lemma entityId_eq {field s : String} (hfield : event.eventType.entityField = some field)
    (hs : s ≠ "") (htext : event.text? field = some s)
    (htype : event.eventType ≠ .artifactRegistered) : entityId event = s := by
  unfold entityId
  split
  · rename_i heq _ _
    exact absurd heq htype
  · simp [hfield, htext, hs]

/-! ## Events that replace -/

/-- The events that configure the controller and its workers and assign tasks. -/
def EventType.configures : EventType → Bool
  | controllerConfigured | workerConfigured | workerTaskAssigned => true
  | _ => false

/-- The entity of an event that configures. -/
lemma entityId_of_configures (h : event.eventType.configures = true) :
    ∃ field, event.eventType.entityField = some field ∧
      event.text? field = some (entityId event) := by
  have hentity : ∀ field codec, codec? event.eventType = some codec → field ∈ codec.required →
      codec.validator field = .text → event.eventType.entityField = some field →
      event.eventType ≠ .artifactRegistered →
      ∃ field, event.eventType.entityField = some field ∧
        event.text? field = some (entityId event) := by
    intro field codec hcodec hfield hcheck hentity htype
    obtain ⟨s, hs, htext⟩ := text?_of_required hcodec hfield (Or.inl hcheck)
    exact ⟨field, hentity, by rw [entityId_eq hentity hs htext htype, htext]⟩
  cases htype : event.eventType with
  | controllerConfigured =>
    exact htype ▸ hentity "controller_id" _ (by rw [htype]; rfl) (by decide) (by decide)
      (by rw [htype]; rfl) (by rw [htype]; decide)
  | workerConfigured =>
    exact htype ▸ hentity "worker_id" _ (by rw [htype]; rfl) (by decide) (by decide)
      (by rw [htype]; rfl) (by rw [htype]; decide)
  | workerTaskAssigned =>
    exact htype ▸ hentity "worker_id" _ (by rw [htype]; rfl) (by decide) (by decide)
      (by rw [htype]; rfl) (by rw [htype]; decide)
  | _ =>
    rw [htype] at h
    cases h

/-- An event that configures writes its own payload. -/
lemma fieldOf_of_configures
    (h : applyEventMutation log event log.projections = .ok (log', record))
    (htype : event.eventType.configures = true) (field : String) :
    fieldOf log'.projections event.eventType.projection (entityId event) field =
      (getEntry field event.payload).map canonical := by
  obtain ⟨payload, hpayload, hrecord⟩ := findRecord_of_event h
  have hsame : payload = event.payload ∧ event.eventType.projection ≠ .documents ∧
      event.eventType.projection ≠ .epochs := by
    cases heq : event.eventType with
    | controllerConfigured | workerConfigured | workerTaskAssigned =>
      simp only [projectionPayload, heq, EventType.isOrchestration, Bool.false_eq_true, if_false,
        pure_eq_ok] at hpayload
      exact ⟨hpayload.symm, by decide, by decide⟩
    | _ =>
      rw [heq] at htype
      cases htype
  obtain ⟨rfl, hdocuments, hepochs⟩ := hsame
  rw [fieldOf, hrecord _ hdocuments hepochs, if_pos ⟨rfl, rfl⟩, Option.bind_some,
    payload?_eventState, Option.bind_some, getEntry_canonicalEntries]

/-! ## Events that are merged -/

/-- The entity of an event of the controller or of an execution. -/
lemma entityId_of_orchestration (h : event.eventType.isOrchestration = true) :
    event.text? (event.eventType.entityField.getD "") = some (entityId event) := by
  have hentity : ∀ field codec, codec? event.eventType = some codec → field ∈ codec.required →
      codec.validator field = .text ∨ codec.validator field = .sha256 →
      event.eventType.entityField = some field → event.eventType ≠ .artifactRegistered →
      event.text? (event.eventType.entityField.getD "") = some (entityId event) := by
    intro field codec hcodec hfield hcheck hentity htype
    obtain ⟨s, hs, htext⟩ := text?_of_required hcodec hfield hcheck
    rw [entityId_eq hentity hs htext htype, hentity, Option.getD_some, htext]
  cases htype : event.eventType with
  | controllerStarted | controllerStopped | controllerCrashed =>
    exact htype ▸ hentity "controller_id" _ (by rw [htype]; rfl) (by decide) (by decide)
      (by rw [htype]; rfl) (by rw [htype]; decide)
  | workerTaskClaimed | workerTaskDispatchPlanned | workerTaskCompleted | workerTaskFailed
  | workerTaskInterrupted =>
    exact htype ▸ hentity "assignment_id" _ (by rw [htype]; rfl) (by decide) (by decide)
      (by rw [htype]; rfl) (by rw [htype]; decide)
  | _ =>
    rw [htype] at h
    cases h

/-- What an event of the controller or of an execution needs of its record, and what it makes of
it. -/
structure Merges (log log' : EventLog) (event : EventEnvelope) : Prop where
  allowed : (fieldOf log.projections event.eventType.projection (entityId event) "status").getD
    .null ∈ allowedPrevious event.eventType
  same : ∀ row, findRecord log.projections event.eventType.projection (entityId event) = some row →
    fieldOf log.projections event.eventType.projection (entityId event)
      (executionField event.eventType) =
      (getEntry (executionField event.eventType) event.payload).map canonical
  fields : ∀ field, fieldOf log'.projections event.eventType.projection (entityId event) field =
    if field = "status" then some (.str (targetStatus event.eventType))
    else ((getEntry field event.payload).map canonical).or
      (fieldOf log.projections event.eventType.projection (entityId event) field)

lemma merges_of_event (h : applyEventMutation log event log.projections = .ok (log', record))
    (htype : event.eventType.isOrchestration = true) : Merges log log' event := by
  obtain ⟨payload, hpayload, hrecord⟩ := findRecord_of_event h
  have hother : event.eventType.projection ≠ .documents ∧
      event.eventType.projection ≠ .epochs := by
    cases heq : event.eventType <;> simp [heq, EventType.isOrchestration] at htype <;> decide
  obtain ⟨hdocuments, hepochs⟩ := hother
  have hwritten := hrecord _ hdocuments hepochs (entityId event)
  rw [if_pos ⟨rfl, rfl⟩] at hwritten
  simp only [projectionPayload, htype, if_true, reduceOrchestrationPayload,
    entityId_of_orchestration htype, orThrow, ok_bind, bind_eq_ok, require_eq_ok,
    exists_and_left, exists_const] at hpayload
  obtain ⟨previous, hprevious, hallowed, hmerge⟩ := hpayload
  have hfield : ∀ field, fieldOf log.projections event.eventType.projection (entityId event)
      field = previous.bind (getEntry field) := by
    intro field
    unfold fieldOf
    cases hrow : findRecord log.projections event.eventType.projection (entityId event) with
    | none =>
      rw [hrow] at hprevious
      obtain rfl := Except.ok.inj hprevious
      rfl
    | some row =>
      rw [hrow] at hprevious
      simp only [previousPayload, bind_eq_ok, orThrow_eq_ok, pure_eq_ok] at hprevious
      obtain ⟨state, hstate, o, ho, rfl⟩ := hprevious
      simp [ProjectionRow.payload?, hstate, ho]
  have hsome : ∀ row, findRecord log.projections event.eventType.projection (entityId event) =
      some row → ∃ o, previous = some o := by
    intro row hrow
    rw [hrow] at hprevious
    simp only [previousPayload, bind_eq_ok, orThrow_eq_ok, pure_eq_ok] at hprevious
    obtain ⟨state, -, o, -, rfl⟩ := hprevious
    exact ⟨o, rfl⟩
  refine ⟨by rwa [hfield], fun row hrow => ?_, fun field => ?_⟩
  · obtain ⟨o, rfl⟩ := hsome row hrow
    simp only [bind_eq_ok, require_eq_ok, exists_and_left, exists_const] at hmerge
    have hcanonical := fieldOf_map_canonical log.projections event.eventType.projection
      (entityId event) (executionField event.eventType)
    rw [← hcanonical, hfield]
    exact hmerge.1
  · rw [hfield, fieldOf, hwritten, Option.bind_some, payload?_eventState, Option.bind_some,
      getEntry_canonicalEntries]
    cases previous with
    | none =>
      obtain rfl := pure_eq_ok.1 hmerge
      rw [getEntry_set]
      split <;> simp
    | some o =>
      simp only [bind_eq_ok, require_eq_ok, exists_and_left, exists_const] at hmerge
      obtain ⟨-, hmerge⟩ := hmerge
      obtain rfl := pure_eq_ok.1 hmerge
      have hcanonical : (getEntry field o).map canonical = getEntry field o := by
        have := fieldOf_map_canonical log.projections event.eventType.projection
          (entityId event) field
        rwa [hfield] at this
      rw [getEntry_set, getEntry_update]
      split
      · simp
      · cases getEntry field event.payload with
        | none => simpa using hcanonical
        | some v => simp

/-! ## Executions in the log -/

/-- The events of an execution. -/
def executionTypes : List EventType :=
  [.workerTaskClaimed, .workerTaskDispatchPlanned, .workerTaskCompleted, .workerTaskFailed,
   .workerTaskInterrupted]

/-- The orders in which the events of an execution come: it is claimed, may be planned, and may
end, and nothing comes after that. -/
def executionOrders : List (List EventType) :=
  [[], [.workerTaskClaimed], [.workerTaskClaimed, .workerTaskDispatchPlanned],
   [.workerTaskClaimed, .workerTaskFailed], [.workerTaskClaimed, .workerTaskInterrupted],
   [.workerTaskClaimed, .workerTaskDispatchPlanned, .workerTaskCompleted],
   [.workerTaskClaimed, .workerTaskDispatchPlanned, .workerTaskFailed],
   [.workerTaskClaimed, .workerTaskDispatchPlanned, .workerTaskInterrupted]]

/-- The row is of an execution of the assignment. -/
def EventRow.isExecutionOf (assignmentId : String) (row : EventRow) : Bool :=
  executionTypes.contains row.eventType && row.field? "assignment_id" == some (.str assignmentId)

/-- The rows of the executions of an assignment, in the order of the log. -/
def executionRows (log : EventLog) (assignmentId : String) : List EventRow :=
  log.events.filter (EventRow.isExecutionOf assignmentId)

/-- An assignment has been executed at most once: the events that name it come in one of the
orders of one execution, and name the same execution. -/
structure ExecutedOnce (log : EventLog) (assignmentId : String) : Prop where
  order : (executionRows log assignmentId).map (·.eventType) ∈ executionOrders
  same : ∀ r ∈ executionRows log assignmentId, ∀ s ∈ executionRows log assignmentId,
    r.field? "execution_id" = s.field? "execution_id"

/-- The status after these events. -/
def statusAfter (types : List EventType) : Option JsonValue :=
  types.getLast?.map fun type => .str (targetStatus type)

/-- The record of an assignment tells what its last event was, and which execution it is of. -/
structure ExecutionRecorded (log : EventLog) (assignmentId : String) : Prop where
  order : (executionRows log assignmentId).map (·.eventType) ∈ executionOrders
  status : fieldOf log.projections .workerExecutions assignmentId "status" =
    statusAfter ((executionRows log assignmentId).map (·.eventType))
  execution : ∀ r ∈ executionRows log assignmentId,
    r.field? "execution_id" = fieldOf log.projections .workerExecutions assignmentId "execution_id"
  named : ∀ row, findRecord log.projections .workerExecutions assignmentId = some row →
    fieldOf log.projections .workerExecutions assignmentId "assignment_id" =
        some (.str assignmentId) ∧
      ∃ status, fieldOf log.projections .workerExecutions assignmentId "status" =
        some (.str status)

omit [CharacterDatabase] in
lemma ExecutionRecorded.executedOnce {assignmentId : String}
    (h : ExecutionRecorded log assignmentId) : ExecutedOnce log assignmentId :=
  ⟨h.order, fun r hr s hs => (h.execution r hr).trans (h.execution s hs).symm⟩

omit [CharacterDatabase] in
lemma isExecution_iff {type : EventType} :
    type ∈ executionTypes ↔ type.projection = .workerExecutions := by
  cases type <;> decide

omit [CharacterDatabase] in
/-- An event that the status allows continues an order. -/
lemma order_continued : ∀ order ∈ executionOrders, ∀ type ∈ executionTypes,
    (statusAfter order).getD .null ∈ allowedPrevious type → order ++ [type] ∈ executionOrders := by
  decide +kernel

omit [CharacterDatabase] in
lemma exists_findRecord_of_fieldOf {table : ProjectionTable} {projection : ProjectionName}
    {id field : String} {v : JsonValue} (h : fieldOf table projection id field = some v) :
    ∃ row, findRecord table projection id = some row := by
  obtain ⟨row, hrow, -⟩ := Option.bind_eq_some_iff.1 h
  exact ⟨row, hrow⟩

lemma executionRows_of_event
    (h : applyEventMutation log event log.projections = .ok (log', record)) (assignmentId : String) :
    ∃ row : EventRow, row.Records event ∧ executionRows log' assignmentId =
      executionRows log assignmentId ++ [row].filter (EventRow.isExecutionOf assignmentId) := by
  obtain ⟨-, hevents, -⟩ := applyEventMutation_ok h
  refine ⟨.ofEvent (nextSequence (log.events.map (·.sequence))) event, rfl, ?_⟩
  rw [executionRows, hevents, List.filter_append, executionRows]

/-- The assignment that the event of an execution names. -/
lemma text?_of_execution (h : event.eventType ∈ executionTypes) :
    event.text? "assignment_id" = some (entityId event) := by
  have htype : event.eventType.isOrchestration = true := by
    revert h
    cases event.eventType <;> decide
  have htext := entityId_of_orchestration htype
  revert h htext
  cases event.eventType <;> simp [executionTypes, EventType.entityField]

lemma isExecutionOf_iff {row : EventRow} (hrow : row.Records event) {assignmentId : String} :
    row.isExecutionOf assignmentId = true ↔
      event.eventType ∈ executionTypes ∧ assignmentId = entityId event := by
  simp only [EventRow.isExecutionOf, hrow.eventType, List.contains_eq_mem, Bool.and_eq_true,
    decide_eq_true_eq, beq_iff_eq, hrow.field?_eq_str]
  refine and_congr_right fun htype => ?_
  rw [text?_of_execution htype, Option.some.injEq]
  exact eq_comm

lemma exists_execution_id (h : event.eventType ∈ executionTypes) :
    ∃ s, s ≠ "" ∧ event.text? "execution_id" = some s := by
  cases htype : event.eventType with
  | workerTaskClaimed | workerTaskDispatchPlanned | workerTaskCompleted | workerTaskFailed
  | workerTaskInterrupted =>
    exact text?_of_required (by rw [htype]; rfl) (by decide) (Or.inl (by decide))
  | _ =>
    rw [htype] at h
    simp [executionTypes] at h

/-- Events that are not of the assignment leave its rows and its record. -/
lemma ExecutionRecorded.append_of_ne {assignmentId : String}
    (hlog : ExecutionRecorded log assignmentId)
    (h : applyEventMutation log event log.projections = .ok (log', record))
    (hne : ¬ (event.eventType ∈ executionTypes ∧ assignmentId = entityId event)) :
    ExecutionRecorded log' assignmentId := by
  obtain ⟨row, hrow, hrows⟩ := executionRows_of_event h assignmentId
  have hsame : executionRows log' assignmentId = executionRows log assignmentId := by
    rw [hrows, List.filter_eq_nil_iff.2, List.append_nil]
    intro r hr
    obtain rfl := List.mem_singleton.1 hr
    rwa [isExecutionOf_iff hrow]
  have hfield : ∀ field, fieldOf log'.projections .workerExecutions assignmentId field =
      fieldOf log.projections .workerExecutions assignmentId field :=
    fieldOf_of_event_ne h (by decide) (by decide) fun hid =>
      hne ⟨isExecution_iff.2 hid.1.symm, hid.2⟩
  refine ⟨hsame ▸ hlog.order, by rw [hfield, hsame, hlog.status], fun r hr => ?_,
    fun row hrow => ?_⟩
  · rw [hsame] at hr
    rw [hfield, hlog.execution r hr]
  · rw [findRecord_of_event_ne h (by decide) (by decide) fun hid =>
      hne ⟨isExecution_iff.2 hid.1.symm, hid.2⟩] at hrow
    rw [hfield, hfield]
    exact hlog.named row hrow

/-- An event of the assignment continues the order of its events. -/
lemma ExecutionRecorded.append_of_eq (hlog : ExecutionRecorded log (entityId event))
    (h : applyEventMutation log event log.projections = .ok (log', record))
    (htype : event.eventType ∈ executionTypes) : ExecutionRecorded log' (entityId event) := by
  obtain ⟨row, hrow, hrows⟩ := executionRows_of_event h (entityId event)
  rw [List.filter_cons_of_pos ((isExecutionOf_iff hrow).2 ⟨htype, rfl⟩), List.filter_nil] at hrows
  have horchestration : event.eventType.isOrchestration = true := by
    revert htype
    cases event.eventType <;> decide
  obtain ⟨hallowed, hsame, hfields⟩ := merges_of_event h horchestration
  rw [isExecution_iff.1 htype] at hallowed hsame hfields
  have hfield : executionField event.eventType = "execution_id" := by
    revert htype
    cases event.eventType <;> decide
  obtain ⟨s, -, hs⟩ := exists_execution_id htype
  have hnew : fieldOf log'.projections .workerExecutions (entityId event) "execution_id" =
      row.field? "execution_id" := by
    rw [hfields, if_neg (by decide), hrow.field?, Research.str?_eq_some.1 hs]
    rfl
  refine ⟨?_, ?_, ?_, fun _ _ => ⟨?_, _, by rw [hfields, if_pos rfl]⟩⟩
  · rw [hrows, List.map_append, List.map_singleton, hrow.eventType]
    exact order_continued _ hlog.order _ htype (hlog.status ▸ hallowed)
  · rw [hfields, if_pos rfl, hrows]
    simp [statusAfter, hrow.eventType]
  · intro r hr
    rw [hrows, List.mem_append, List.mem_singleton] at hr
    rcases hr with hr | rfl
    · have hstatus : ∃ status, fieldOf log.projections .workerExecutions (entityId event)
          "status" = some status := by
        rw [hlog.status]
        have hne : (executionRows log (entityId event)).map (·.eventType) ≠ [] := by
          simpa using List.ne_nil_of_mem hr
        rw [statusAfter, List.getLast?_eq_some_getLast hne]
        exact ⟨_, rfl⟩
      obtain ⟨status, hstatus⟩ := hstatus
      obtain ⟨old, hold⟩ := exists_findRecord_of_fieldOf hstatus
      have hexecution := hsame old hold
      rw [hfield] at hexecution
      rw [hlog.execution r hr, hexecution, hnew, hrow.field?]
    · exact hnew.symm
  · rw [hfields, if_neg (by decide), Research.str?_eq_some.1 (text?_of_execution htype)]
    rfl

lemma ExecutionRecorded.append {assignmentId : String} (hlog : ExecutionRecorded log assignmentId)
    (h : applyEventMutation log event log.projections = .ok (log', record)) :
    ExecutionRecorded log' assignmentId := by
  by_cases hof : event.eventType ∈ executionTypes ∧ assignmentId = entityId event
  · obtain ⟨htype, rfl⟩ := hof
    exact hlog.append_of_eq h htype
  · exact hlog.append_of_ne h hof

lemma executionRows_of_run {events : List EventEnvelope} (h : eventLogSystem.Run log events log')
    (hne : ∀ e ∈ events, e.eventType ∉ executionTypes) (assignmentId : String) :
    executionRows log' assignmentId = executionRows log assignmentId := by
  induction h with
  | nil => rfl
  | snoc hrun hstep ih =>
    obtain ⟨record, hstep⟩ := hstep
    obtain ⟨row, hrow, hrows⟩ := executionRows_of_event hstep assignmentId
    rw [hrows, List.filter_eq_nil_iff.2, List.append_nil]
    · exact ih fun e he => hne e (List.mem_append_left _ he)
    · intro r hr
      obtain rfl := List.mem_singleton.1 hr
      rw [isExecutionOf_iff hrow]
      exact fun hof => hne _ (by simp) hof.1

/-- Whatever is appended, in any order, an assignment is executed at most once. -/
lemma ExecutionRecorded.of_run {events : List EventEnvelope} {assignmentId : String}
    (hlog : ExecutionRecorded log assignmentId) (h : eventLogSystem.Run log events log') :
    ExecutionRecorded log' assignmentId := by
  refine h.invariant (P := fun log => ExecutionRecorded log assignmentId) ?_ hlog
  rintro log event log' hlog ⟨record, hstep⟩
  exact hlog.append hstep

omit [CharacterDatabase] in
lemma executionRecorded_initial (assignmentId : String) :
    ExecutionRecorded initialLog assignmentId := by
  have hnone : ∀ field, fieldOf initialLog.projections .workerExecutions assignmentId field =
      none := by
    intro field
    simp [fieldOf, findRecord, initialLog, initialProjections]
  have hrows : executionRows initialLog assignmentId = [] := by simp [executionRows, initialLog]
  refine ⟨by rw [hrows]; decide, ?_, by simp [hrows], fun row hrow => ?_⟩
  · rw [hnone, hrows]
    rfl
  · simp [findRecord, initialLog, initialProjections] at hrow

end Aizim.State
