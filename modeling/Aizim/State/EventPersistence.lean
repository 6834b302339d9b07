import Aizim.Framework.JsonLibrary
import Aizim.State.Store

/-!
# Events as rows of text

The row of an event as the database has it, with the payload as a text, and the way back: the text
is loaded, the row becomes a document, and the document an event.  `event_roundTrip` says that the
event that is read is the one that was written; the order of the keys of a payload is all that may
differ, and no comparison of events sees it.

The store looks into its log through `EventRow`, which keeps the value behind the text.
`eventRecord_columns` says that it reads what this way reads.
-/

namespace Aizim.State

open JsonValue JsonObject

/-! ## Frozen payloads -/

/-- The payload of an event, which cannot be changed. -/
inductive FrozenJson
  | null
  | bool (value : Bool)
  | int (value : Int)
  | float (text : String)
  | str (value : String)
  | tuple (items : List FrozenJson)
  | mapping (entries : List (String × FrozenJson))

mutual

/-- `_freeze` -/
def freeze : JsonValue → FrozenJson
  | .null => .null
  | .bool b => .bool b
  | .int i => .int i
  | .float t => .float t
  | .str s => .str s
  | .list items => .tuple (freezeItems items)
  | .dict entries => .mapping (freezePayload entries)

/-- The items of an array, frozen. -/
def freezeItems : List JsonValue → List FrozenJson
  | [] => []
  | x :: xs => freeze x :: freezeItems xs

/-- `freeze_payload` -/
def freezePayload : JsonObject → List (String × FrozenJson)
  | [] => []
  | (k, v) :: es => (k, freeze v) :: freezePayload es

end

mutual

/-- `_thaw` -/
def thaw : FrozenJson → JsonValue
  | .null => .null
  | .bool b => .bool b
  | .int i => .int i
  | .float t => .float t
  | .str s => .str s
  | .tuple items => .list (thawItems items)
  | .mapping entries => .dict (thawPayload entries)

/-- The items of a tuple, thawed. -/
def thawItems : List FrozenJson → List JsonValue
  | [] => []
  | x :: xs => thaw x :: thawItems xs

/-- `thaw_payload` -/
def thawPayload : List (String × FrozenJson) → JsonObject
  | [] => []
  | (k, v) :: es => (k, thaw v) :: thawPayload es

end

mutual

/-- Thawing undoes freezing. -/
lemma thaw_freeze : ∀ v : JsonValue, thaw (freeze v) = v
  | .null => rfl
  | .bool _ => rfl
  | .int _ => rfl
  | .float _ => rfl
  | .str _ => rfl
  | .list items => congrArg JsonValue.list (thawItems_freezeItems items)
  | .dict entries => congrArg JsonValue.dict (thawPayload_freezePayload entries)

lemma thawItems_freezeItems : ∀ xs : List JsonValue, thawItems (freezeItems xs) = xs
  | [] => rfl
  | x :: xs => by rw [freezeItems, thawItems, thaw_freeze x, thawItems_freezeItems xs]

lemma thawPayload_freezePayload : ∀ es : JsonObject, thawPayload (freezePayload es) = es
  | [] => rfl
  | (k, v) :: es => by rw [freezePayload, thawPayload, thaw_freeze v, thawPayload_freezePayload es]

end

variable [CharacterDatabase]

/-! ## Writing -/

/-- A row of the table `events` as the database has it. -/
structure EventColumns where
  eventId : String
  schemaVersion : Int
  eventType : String
  occurredAt : String
  actor : String
  runId : Option String
  causationId : Option String
  payloadJson : String
  deriving DecidableEq

/-- The values that `apply_event_mutation` inserts, from `event_as_dict`.  It raises for a payload
that the serializer does not print. -/
def insertColumns (lib : JsonLibrary) (event : EventEnvelope) : Except LoadError EventColumns := do
  let payload := JsonValue.dict (thawPayload (freezePayload event.payload))
  require (lib.accepts payload = true) .value
  pure
    { eventId := event.eventId
      schemaVersion := eventSchemaVersion
      eventType := event.eventType.text
      occurredAt := event.occurredAt.text
      actor := event.actor
      runId := event.runId
      causationId := event.causationId
      payloadJson := payload.canonicalJson }

lemma insertColumns_eq_ok {lib : JsonLibrary} {event : EventEnvelope} {columns : EventColumns} :
    insertColumns lib event = .ok columns ↔ lib.accepts (.dict event.payload) = true ∧
      columns = ⟨event.eventId, eventSchemaVersion, event.eventType.text, event.occurredAt.text,
        event.actor, event.runId, event.causationId, (JsonValue.dict event.payload).canonicalJson⟩ := by
  simp only [insertColumns, thawPayload_freezePayload, bind_eq_ok, require_eq_ok, exists_const,
    pure_eq_ok]
  exact and_congr_right fun _ => eq_comm

/-! ## Reading -/

/-- `_EVENT_FIELDS` -/
def eventFields : List String :=
  ["event_id", "schema_version", "event_type", "occurred_at", "actor", "run_id", "causation_id",
   "payload"]

/-- `_required_text_value` -/
def requiredTextValue (document : JsonObject) (key : String) : Except StoreError String :=
  match getEntry key document with
  | some (.str s) =>
    if s = "" then .error (.eventValidation key "must be a non-empty string") else .ok s
  | _ => .error (.eventValidation key "must be a non-empty string")

/-- `_optional_text_value` -/
def optionalTextValue (document : JsonObject) (key : String) : Except StoreError (Option String) :=
  match getEntry key document with
  | some .null => .ok none
  | some (.str s) =>
    if s = "" then .error (.eventValidation key "must be a non-empty string or null")
    else .ok (some s)
  | _ => .error (.eventValidation key "must be a non-empty string or null")

/-- `_timestamp` -/
def eventTimestamp (value : String) : Except StoreError Datetime :=
  orThrow (Datetime.parse? value) (.eventValidation "occurred_at" "must be canonical UTC RFC 3339")

/-- The payload of a document. -/
def payloadValue (document : JsonObject) : Except StoreError JsonObject :=
  match getEntry "payload" document with
  | some (.dict payload) => .ok payload
  | _ => .error (.eventValidation "payload" "must be a JSON object")

/-- `_upcast_v1` -/
def upcastV1 (document : JsonObject) : Except StoreError EventEnvelope := do
  let missing := eventFields.filter fun key => (getEntry key document).isNone
  let unknown := (keys document).filter fun key => !eventFields.contains key
  require (missing = []) (.eventValidation "event" s!"missing fields: {joinSorted missing}")
  require (unknown = []) (.eventValidation "event" s!"unknown fields: {joinSorted unknown}")
  let payload ← payloadValue document
  let eventId ← requiredTextValue document "event_id"
  let eventType ← requiredTextValue document "event_type"
  let occurredAt ← requiredTextValue document "occurred_at"
  let occurredAt ← eventTimestamp occurredAt
  let actor ← requiredTextValue document "actor"
  let runId ← optionalTextValue document "run_id"
  let causationId ← optionalTextValue document "causation_id"
  EventEnvelope.create eventId eventSchemaVersion eventType occurredAt actor runId causationId payload

/-- `upcast` of a document. -/
def upcastDocument (document : JsonObject) : Except StoreError EventEnvelope :=
  match getEntry "schema_version" document with
  | some (.int version) =>
    if version = 1 then upcastV1 document else .error (.incompatibleSchema version)
  | _ => .error (.eventValidation "schema_version" "must be an integer")

/-- The document of a row whose payload was read. -/
def EventColumns.document (row : EventColumns) (payload : JsonObject) : JsonObject :=
  [("event_id", .str row.eventId), ("schema_version", .int row.schemaVersion),
   ("event_type", .str row.eventType), ("occurred_at", .str row.occurredAt),
   ("actor", .str row.actor), ("run_id", optionalText row.runId),
   ("causation_id", optionalText row.causationId), ("payload", .dict payload)]

/-- `_event_record` of a row of text. -/
def eventRecord (lib : JsonLibrary) (sequence : ℕ) (row : EventColumns) :
    Except StoreError EventRecord := do
  let payload ← (lib.loads row.payloadJson).mapError fun _ => StoreError.value "payload_json"
  match payload with
  | .dict payload =>
    let envelope ← upcastDocument (row.document payload)
    pure ⟨sequence, envelope⟩
  | _ => throw (.eventValidation "payload" "stored payload must be a JSON object")

/-! ## Round trip -/

omit [CharacterDatabase] in
lemma requiredTextValue_of_getEntry {document : JsonObject} {key s : String}
    (h : getEntry key document = some (.str s)) (hs : s ≠ "") :
    requiredTextValue document key = .ok s := by
  rw [requiredTextValue, h]
  exact if_neg hs

omit [CharacterDatabase] in
lemma optionalTextValue_of_getEntry {document : JsonObject} {key : String} {value : Option String}
    (h : getEntry key document = some (optionalText value)) (hvalue : value ≠ some "") :
    optionalTextValue document key = .ok value := by
  rw [optionalTextValue, h]
  cases value with
  | none => rfl
  | some s =>
    have hs : s ≠ "" := fun hs => hvalue (congrArg some hs)
    exact if_neg hs

/-- The document of a written row is read as the event that the log keeps. -/
lemma upcastDocument_document {lib : JsonLibrary} {event : EventEnvelope} {columns : EventColumns}
    (h : insertColumns lib event = .ok columns) :
    upcastDocument (columns.document (canonicalEntries event.payload)) = .ok event.stored := by
  obtain ⟨-, rfl⟩ := insertColumns_eq_ok.1 h
  have htype : event.eventType.text ≠ "" := by
    cases event.eventType <;> decide
  have htime : event.occurredAt.text ≠ "" := by
    intro htext
    have hnone : Datetime.parse? "" = none := by decide
    rw [← htext, Datetime.parse?_text] at hnone
    simp at hnone
  rw [upcastDocument]
  show upcastV1 _ = _
  simp only [upcastV1, bind_eq_ok, require_eq_ok, exists_const]
  refine ⟨by rfl, by rfl, canonicalEntries event.payload, rfl, event.eventId,
    requiredTextValue_of_getEntry rfl event.eventId_ne, event.eventType.text,
    requiredTextValue_of_getEntry rfl htype, event.occurredAt.text,
    requiredTextValue_of_getEntry rfl htime, event.occurredAt, ?_, event.actor,
    requiredTextValue_of_getEntry rfl event.actor_ne, event.runId,
    optionalTextValue_of_getEntry rfl event.runId_ne, event.causationId,
    optionalTextValue_of_getEntry rfl event.causationId_ne, event.stored.create_self⟩
  exact orThrow_eq_ok.2 (Datetime.parse?_text _)

/-- A written row is read as the event that the log keeps. -/
lemma eventRecord_of_insertColumns {lib : JsonLibrary} {event : EventEnvelope}
    {columns : EventColumns} (h : insertColumns lib event = .ok columns) (sequence : ℕ) :
    eventRecord lib sequence columns = .ok ⟨sequence, event.stored⟩ := by
  have hupcast := upcastDocument_document h
  obtain ⟨haccepts, rfl⟩ := insertColumns_eq_ok.1 h
  have hloads := lib.loads_canonicalJson _ haccepts
  rw [eventRecord, hloads]
  show (upcastDocument _ >>= _) = _
  rw [hupcast]
  rfl

/-- The store reads its row of an event as the row of text is read. -/
lemma eventRecord_columns {lib : JsonLibrary} {event : EventEnvelope} {columns : EventColumns}
    (h : insertColumns lib event = .ok columns) (sequence : ℕ) :
    eventRecord lib sequence columns = (EventRow.ofEvent sequence event).record := by
  rw [eventRecord_of_insertColumns h, record_ofEvent]

/-- Equality of events: that of their fields, where payloads are compared as mappings. -/
def EventEnvelope.Same (e f : EventEnvelope) : Prop :=
  e.eventId = f.eventId ∧ e.eventType = f.eventType ∧ e.occurredAt = f.occurredAt ∧
    e.actor = f.actor ∧ e.runId = f.runId ∧ e.causationId = f.causationId ∧
    (JsonValue.dict e.payload).Same (.dict f.payload)

/-- **Events are read as they were written.**  The row that a mutation writes, read back through
its text and its document, is the event of the mutation, at the sequence it was given. -/
theorem event_roundTrip (lib : JsonLibrary) {log log' : EventLog} {event : EventEnvelope}
    {snapshots : ProjectionTable} {record : EventRecord} {columns : EventColumns}
    (h : applyEventMutation log event snapshots = .ok (log', record))
    (hcolumns : insertColumns lib event = .ok columns) :
    ∃ e, eventRecord lib record.sequence columns = .ok ⟨record.sequence, e⟩ ∧ e.Same event ∧
      ∃ row ∈ log'.events, row.sequence = record.sequence ∧
        row.record = .ok ⟨record.sequence, e⟩ := by
  refine ⟨event.stored, eventRecord_of_insertColumns hcolumns _, ?_, ?_⟩
  · exact ⟨rfl, rfl, rfl, rfl, rfl, rfl, canonical_same (.dict event.payload)⟩
  · simp only [applyEventMutation, bind_eq_ok, require_eq_ok, exists_const, pure_eq_ok,
      Prod.mk.injEq] at h
    obtain ⟨-, changes, -, rfl, rfl⟩ := h
    exact ⟨_, List.mem_append_right _ (List.mem_singleton_self _), rfl, record_ofEvent _ _⟩

omit [CharacterDatabase] in
/-- The event of a run whose manifest has a fraction and keys in no order. -/
def sampleRunCreated : letI := asciiDatabase; EventEnvelope :=
  letI := asciiDatabase
  { eventId := "01ARZ3NDEKTSV4RRFFQ69G5FAV"
    eventType := .runCreated
    occurredAt := ⟨2026, 1, 1, 12, 0, 0, 500000, by decide⟩
    actor := "operator"
    runId := some "run"
    causationId := none
    payload := [("status", .str "active"),
      ("manifest", .dict [("ratio", .float "0.5"), ("note", .null)])]
    eventId_valid := by decide
    actor_ne := by decide
    runId_ne := by decide
    causationId_ne := by decide
    payload_valid := by decide }

omit [CharacterDatabase] in
/-- It is read as it was written. -/
theorem event_roundTrip_sample : letI := asciiDatabase
    ∃ columns e, insertColumns unlimitedJson sampleRunCreated = .ok columns ∧
      eventRecord unlimitedJson 1 columns = .ok ⟨1, e⟩ ∧ e.Same sampleRunCreated := by
  let := asciiDatabase
  have hcolumns := (@insertColumns_eq_ok _ unlimitedJson _ _).2
    ⟨show unlimitedJson.accepts (.dict sampleRunCreated.payload) = true by decide, rfl⟩
  have happend : ∃ log, applyEventMutation initialLog sampleRunCreated
      initialProjections = .ok (log, ⟨1, sampleRunCreated⟩) := by
    simp only [applyEventMutation, bind_eq_ok, require_eq_ok, exists_const, pure_eq_ok]
    have hreduce : (applyEvent initialProjections sampleRunCreated).toOption.isSome = true := by decide
    obtain ⟨changes, hchanges⟩ := Option.isSome_iff_exists.1 hreduce
    exact ⟨_, List.not_mem_nil, changes, toOption_eq_some.1 hchanges, rfl⟩
  obtain ⟨log, hlog⟩ := happend
  obtain ⟨e, hread, hsame, -⟩ := event_roundTrip unlimitedJson hlog hcolumns
  exact ⟨_, e, hcolumns, hread, hsame⟩

end Aizim.State
