import Mathlib.Data.Prod.Lex
import Aizim.State.Events

/-!
# Projections and their reducers

The projection table and the reducers that change it, one event at a time.  `applyEvent` computes
the records an event writes from the table before it; `projectEvent` writes them.

The reducers look at an event only through its canonical form: `applyEvent_stored` says that
applying an event and applying the same event after it was stored and read back write the same
records.  That is the one fact about the reducers that replay rests on.
-/

namespace Aizim.State

open JsonValue JsonObject

/-! ## The table -/

/-- The primary key of the table `projections`. -/
structure ProjectionKey where
  projection : ProjectionName
  entityId : String
  deriving DecidableEq

/-- The order of `ORDER BY projection_name,entity_id`. -/
instance : LinearOrder ProjectionKey :=
  LinearOrder.lift' (fun k => toLex (k.projection.text, k.entityId)) fun a b h => by
    obtain ⟨hname, hentity⟩ := Prod.ext_iff.1 (toLex.injective h)
    obtain ⟨name, entity⟩ := a
    obtain rfl : name = b.projection := ProjectionName.text_injective hname
    obtain rfl : entity = b.entityId := hentity
    rfl

/-- The columns of `projections` beside its key. -/
structure ProjectionRow where
  version : ℕ
  stateJson : JsonText
  deriving DecidableEq

/-- The table `projections`. -/
abbrev ProjectionTable := Table ProjectionKey ProjectionRow

/-- A record of a projection. -/
structure ProjectionRecord where
  projectionName : ProjectionName
  entityId : String
  version : ℕ
  stateJson : JsonText
  deriving DecidableEq

/-- The record of an entity. -/
def findRecord (snapshots : ProjectionTable) (projection : ProjectionName) (entityId : String) :
    Option ProjectionRow :=
  snapshots.get? ⟨projection, entityId⟩

/-- The state of a record as an object, if it is one. -/
def ProjectionRow.state? (row : ProjectionRow) : Option JsonObject := row.stateJson.object?

/-- The object at a key, if it is one. -/
def object? (v : Option JsonValue) : Option JsonObject :=
  match v with
  | some (.dict o) => some o
  | _ => none

@[simp] lemma object?_map_canonical (v : Option JsonValue) :
    object? (v.map canonical) = (object? v).map canonicalEntries := by
  rcases v with _ | v
  · rfl
  · cases v <;> simp [object?]

/-- Write a record over the one of the same key. -/
def upsertRecord (table : ProjectionTable) (record : ProjectionRecord) : ProjectionTable :=
  table.upsert ⟨record.projectionName, record.entityId⟩ ⟨record.version, record.stateJson⟩

variable [CharacterDatabase]

/-! ## Orchestration events -/

/-- `_TARGET_STATUS` -/
def targetStatus : EventType → String
  | .controllerStarted => "running"
  | .controllerStopped => "stopped"
  | .controllerCrashed => "crashed"
  | .workerTaskClaimed => "claimed"
  | .workerTaskDispatchPlanned => "planned"
  | .workerTaskCompleted => "completed"
  | .workerTaskFailed => "failed"
  | .workerTaskInterrupted => "interrupted"
  | _ => ""

/-- `_ALLOWED_PREVIOUS`, with `null` for a missing status. -/
def allowedPrevious : EventType → List JsonValue
  | .controllerStarted => [.null, .str "stopped", .str "crashed"]
  | .controllerStopped | .controllerCrashed => [.str "running"]
  | .workerTaskClaimed => [.null]
  | .workerTaskDispatchPlanned => [.str "claimed"]
  | .workerTaskCompleted => [.str "planned"]
  | .workerTaskFailed | .workerTaskInterrupted => [.str "claimed", .str "planned"]
  | _ => []

/-- How an error message shows a status. -/
def showStatus : JsonValue → String
  | .null => "None"
  | .str s => "'" ++ s ++ "'"
  | v => v.canonicalJson

/-- `_previous_payload` -/
def previousPayload (projection : ProjectionName) :
    Option ProjectionRow → Except StoreError (Option JsonObject)
  | none => .ok none
  | some row => do
    let state ← orThrow row.state? (.authority projection.text "stored state is invalid")
    let payload ← orThrow (object? (getEntry "payload" state))
      (.authority projection.text "stored payload is invalid")
    pure (some payload)

/-- The field of `_require_same_execution`. -/
def executionField : EventType → String
  | .controllerStopped | .controllerCrashed => "controller_session_id"
  | _ => "execution_id"

/-- `reduce_orchestration_payload` -/
def reduceOrchestrationPayload (snapshots : ProjectionTable) (event : EventEnvelope) :
    Except StoreError JsonObject := do
  let projection := event.eventType.projection
  let entityId ← orThrow (event.text? (event.eventType.entityField.getD ""))
    (.authority projection.text "entity identifier is invalid")
  let previous ← previousPayload projection (findRecord snapshots projection entityId)
  let status := (previous.bind (getEntry "status")).getD .null
  let target := targetStatus event.eventType
  require (status ∈ allowedPrevious event.eventType)
    (.authority projection.text
      ("transition from " ++ showStatus status ++ " to '" ++ target ++ "' is not allowed"))
  match previous with
  | none => pure (set "status" (.str target) event.payload)
  | some previous =>
    let field := executionField event.eventType
    require ((getEntry field previous).map canonical = (getEntry field event.payload).map canonical)
      (.authority projection.text (field ++ " does not match"))
    pure (set "status" (.str target) (update previous event.payload))

/-! ## Reducers -/

/-- `_entity_id` -/
def entityId (event : EventEnvelope) : String :=
  match event.eventType, event.runId, event.text? "relative_path" with
  | .artifactRegistered, some run, some relative => run ++ ":" ++ relative
  | eventType, run, _ =>
    let value := match eventType.entityField with
      | some field => event.text? field
      | none => run
    match value with
    | some s => if s = "" then event.eventId else s
    | none => event.eventId

/-- `_projection_payload` -/
def projectionPayload (snapshots : ProjectionTable) (event : EventEnvelope) :
    Except StoreError JsonObject :=
  if event.eventType.isOrchestration then reduceOrchestrationPayload snapshots event
  else match event.eventType with
    | .leaseReleased | .leaseRecovered =>
      let previous := do
        let row ← findRecord snapshots .leases (← event.text? "lease_id")
        object? (getEntry "payload" (← row.state?))
      match previous with
      | some previous => pure (update previous event.payload)
      | none => pure event.payload
    | _ => pure event.payload

/-- `_complete_document_payload` -/
def completeDocumentPayload (payload : JsonObject) : Option String :=
  if documentFields.all fun field => (getEntry field payload).isSome then
    Research.str? (getEntry "document_id" payload)
  else none

/-- `_record` -/
def makeRecord (snapshots : ProjectionTable) (projection : ProjectionName) (entityId : String)
    (state : JsonObject) : ProjectionRecord where
  projectionName := projection
  entityId
  version := ((findRecord snapshots projection entityId).map (·.version + 1)).getD 1
  stateJson := JsonText.ofObject state

/-- A text or null. -/
def optionalText : Option String → JsonValue
  | some s => .str s
  | none => .null

/-- The state of the record that an event writes for its payload. -/
def eventState (event : EventEnvelope) (payload : JsonObject) : JsonObject :=
  [("event_id", .str event.eventId), ("event_type", .str event.eventType.text),
   ("payload", .dict payload), ("run_id", optionalText event.runId)]

/-- The state of the epoch record. -/
def epochState (payload : JsonObject) : JsonObject :=
  [("base_epoch", (getEntry "base_epoch" payload).getD .null),
   ("knowledge_epoch", (getEntry "knowledge_epoch" payload).getD .null)]

/-- The records that `apply_event` returns for the payload it computed. -/
def changes (snapshots : ProjectionTable) (event : EventEnvelope) (payload : JsonObject) :
    List ProjectionRecord :=
  makeRecord snapshots event.eventType.projection (entityId event) (eventState event payload) ::
    ((match event.eventType, completeDocumentPayload payload with
      | .leaseGranted, some documentId =>
        [makeRecord snapshots .documents documentId (eventState event payload)]
      | _, _ => []) ++
    (match event.eventType with
      | .projectInitialized | .knowledgeDeltaPublished =>
        [makeRecord snapshots .epochs "global" (epochState payload)]
      | _ => []))

/-- `apply_event` -/
def applyEvent (snapshots : ProjectionTable) (event : EventEnvelope) :
    Except StoreError (List ProjectionRecord) := do
  let payload ← projectionPayload snapshots event
  pure (changes snapshots event payload)

/-- Apply an event to the table. -/
def projectEvent (table : ProjectionTable) (event : EventEnvelope) :
    Except StoreError ProjectionTable := do
  let records ← applyEvent table event
  pure (records.foldl upsertRecord table)

/-! ## What an event writes -/

omit [CharacterDatabase] in
lemma findRecord_upsertRecord (table : ProjectionTable) (record : ProjectionRecord)
    (projection : ProjectionName) (entityId : String) :
    findRecord (upsertRecord table record) projection entityId =
      if projection = record.projectionName ∧ entityId = record.entityId then
        some ⟨record.version, record.stateJson⟩
      else findRecord table projection entityId := by
  simp [findRecord, upsertRecord]

omit [CharacterDatabase] in
/-- Writing records leaves the entities that none of them is about. -/
lemma findRecord_foldl_of_ne {records : List ProjectionRecord} (table : ProjectionTable)
    {projection : ProjectionName} {entityId : String}
    (h : ∀ r ∈ records, ¬ (projection = r.projectionName ∧ entityId = r.entityId)) :
    findRecord (records.foldl upsertRecord table) projection entityId =
      findRecord table projection entityId := by
  induction records generalizing table with
  | nil => rfl
  | cons r records ih =>
    rw [List.foldl_cons, ih _ fun r' hr' => h r' (List.mem_cons_of_mem _ hr'),
      findRecord_upsertRecord, if_neg (h r List.mem_cons_self)]

/-- An event writes its own projection, a lease grant the documents too, and a new epoch the
epochs. -/
lemma projection_of_mem_changes {snapshots : ProjectionTable} {event : EventEnvelope}
    {payload : JsonObject} {r : ProjectionRecord} (h : r ∈ changes snapshots event payload) :
    r.projectionName = event.eventType.projection ∨
      (r.projectionName = .documents ∧ event.eventType = .leaseGranted) ∨
      (r.projectionName = .epochs ∧
        (event.eventType = .projectInitialized ∨ event.eventType = .knowledgeDeltaPublished)) := by
  rcases List.mem_cons.1 h with rfl | h
  · exact Or.inl rfl
  · rcases List.mem_append.1 h with h | h
    · split at h
      · rename_i htype _
        obtain rfl := List.mem_singleton.1 h
        exact Or.inr (Or.inl ⟨rfl, htype⟩)
      · simp at h
    · split at h
      · rename_i htype
        obtain rfl := List.mem_singleton.1 h
        exact Or.inr (Or.inr ⟨rfl, Or.inl htype⟩)
      · rename_i htype
        obtain rfl := List.mem_singleton.1 h
        exact Or.inr (Or.inr ⟨rfl, Or.inr htype⟩)
      · simp at h

/-! ## Stored events -/

@[simp] lemma entityId_stored (event : EventEnvelope) : entityId event.stored = entityId event := by
  simp [entityId]

lemma eventState_congr {event : EventEnvelope} {p q : JsonObject}
    (h : canonicalEntries p = canonicalEntries q) :
    JsonText.ofObject (eventState event.stored p) = JsonText.ofObject (eventState event q) := by
  simp [JsonText.ofObject_eq_iff, eventState, h]

omit [CharacterDatabase] in
lemma epochState_congr {p q : JsonObject} (h : canonicalEntries p = canonicalEntries q) :
    JsonText.ofObject (epochState p) = JsonText.ofObject (epochState q) := by
  have hgetD : ∀ v : Option JsonValue, canonical (v.getD .null) = (v.map canonical).getD .null := by
    intro v
    cases v <;> simp
  simp only [JsonText.ofObject_eq_iff, epochState, canonicalEntries_cons, hgetD,
    getEntry_canonical_of_congr h]

omit [CharacterDatabase] in
lemma completeDocumentPayload_congr {p q : JsonObject}
    (h : canonicalEntries p = canonicalEntries q) :
    completeDocumentPayload p = completeDocumentPayload q := by
  have hsome : ∀ k, (getEntry k p).isSome = (getEntry k q).isSome := fun k => by
    simpa using congrArg Option.isSome (getEntry_canonical_of_congr h k)
  have hstr : Research.str? (getEntry "document_id" p) =
      Research.str? (getEntry "document_id" q) := by
    simpa using congrArg Research.str? (getEntry_canonical_of_congr h "document_id")
  simp only [completeDocumentPayload, hsome, hstr]

lemma changes_congr {snapshots : ProjectionTable} {event : EventEnvelope} {p q : JsonObject}
    (h : canonicalEntries p = canonicalEntries q) :
    changes snapshots event.stored p = changes snapshots event q := by
  simp only [changes, makeRecord, EventEnvelope.stored_eventType, entityId_stored,
    eventState_congr h, epochState_congr h, completeDocumentPayload_congr h]

lemma reduceOrchestrationPayload_stored (snapshots : ProjectionTable) (event : EventEnvelope) :
    canonicalEntries <$> reduceOrchestrationPayload snapshots event.stored =
      canonicalEntries <$> reduceOrchestrationPayload snapshots event := by
  have hset : ∀ (s : String) (o : JsonObject),
      canonicalEntries (set "status" (.str s) (update o (canonicalEntries event.payload))) =
        canonicalEntries (set "status" (.str s) (update o event.payload)) := fun s o =>
    canonicalEntries_set_congr rfl (canonicalEntries_update_right o event.payload)
  have hset' : ∀ s : String,
      canonicalEntries (set "status" (.str s) (canonicalEntries event.payload)) =
        canonicalEntries (set "status" (.str s) event.payload) := fun s =>
    canonicalEntries_set_congr rfl (by simp)
  have hcanonical : ∀ v : Option JsonValue, (v.map canonical).map canonical = v.map canonical := by
    intro v
    cases v <;> simp
  unfold reduceOrchestrationPayload
  simp only [EventEnvelope.stored_eventType, EventEnvelope.stored_text?, map_bind]
  refine bind_congr fun entity => bind_congr fun previous => bind_congr fun _ => ?_
  cases previous with
  | none => simp [hset']
  | some previous =>
    simp only [EventEnvelope.stored_payload, getEntry_canonicalEntries, hcanonical, map_bind,
      map_pure, hset]

lemma projectionPayload_stored (snapshots : ProjectionTable) (event : EventEnvelope) :
    canonicalEntries <$> projectionPayload snapshots event.stored =
      canonicalEntries <$> projectionPayload snapshots event := by
  unfold projectionPayload
  rw [EventEnvelope.stored_eventType]
  split
  · exact reduceOrchestrationPayload_stored snapshots event
  · split
    · simp only [EventEnvelope.stored_text?, EventEnvelope.stored_payload]
      split
      · simp [canonicalEntries_update_right]
      · simp
    · simp only [EventEnvelope.stored_text?, EventEnvelope.stored_payload]
      split
      · simp [canonicalEntries_update_right]
      · simp
    · simp

/-- Applying an event writes what applying its stored form writes. -/
theorem applyEvent_stored (snapshots : ProjectionTable) (event : EventEnvelope) :
    applyEvent snapshots event.stored = applyEvent snapshots event := by
  have h := projectionPayload_stored snapshots event
  unfold applyEvent
  cases hp : projectionPayload snapshots event.stored with
  | error e =>
    cases hq : projectionPayload snapshots event with
    | error f =>
      rw [hp, hq] at h
      simpa [Functor.map, Except.map] using h
    | ok q =>
      rw [hp, hq] at h
      simp [Functor.map, Except.map] at h
  | ok p =>
    cases hq : projectionPayload snapshots event with
    | error f =>
      rw [hp, hq] at h
      simp [Functor.map, Except.map] at h
    | ok q =>
      rw [hp, hq] at h
      have hpq : canonicalEntries p = canonicalEntries q := by
        simpa [Functor.map, Except.map] using h
      simp only [ok_bind, changes_congr hpq]

/-- Applying an event to the table is applying its stored form. -/
lemma projectEvent_stored (table : ProjectionTable) (event : EventEnvelope) :
    projectEvent table event.stored = projectEvent table event := by
  simp only [projectEvent, applyEvent_stored]

end Aizim.State
