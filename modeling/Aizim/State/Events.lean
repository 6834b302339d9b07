import Aizim.State.Schema

/-!
# Events

An `EventEnvelope` is an event that passed every check of its constructor: it carries the checks
as fields, so an event with a malformed id or payload cannot be built.  `EventEnvelope.create` is
the constructor that raises, and `EventRow` the row that the log keeps of an event.

A row holds the canonical text of the payload.  `record_ofEvent` is the round trip: reading the
row of an event back gives the event with its payload in canonical form, `EventEnvelope.stored`.
The store relies on this wherever it looks into its own log.
-/

namespace Aizim.State

open JsonValue JsonObject

/-! ## Envelopes -/

/-- `EVENT_SCHEMA_VERSION` -/
def eventSchemaVersion : Int := 1

/-- `_ULID_ALPHABET` -/
def ulidAlphabet : List Char := "0123456789ABCDEFGHJKMNPQRSTVWXYZ".toList

/-- A 26-character Crockford ULID. -/
def isUlid (s : String) : Bool :=
  s.toList.length == 26 && s.toList.all fun c => ulidAlphabet.contains c

variable [CharacterDatabase]

/-- An event that passed the checks of its constructor.  Its `schema_version` is always
`eventSchemaVersion`, and a `Datetime` is a timezone-aware UTC datetime. -/
structure EventEnvelope where
  eventId : String
  eventType : EventType
  occurredAt : Datetime
  actor : String
  runId : Option String
  causationId : Option String
  payload : JsonObject
  eventId_valid : isUlid eventId = true
  actor_ne : actor ≠ ""
  runId_ne : runId ≠ some ""
  causationId_ne : causationId ≠ some ""
  payload_valid : validatePayload eventType payload = .ok ()

namespace EventEnvelope

@[ext] lemma ext {e f : EventEnvelope} (hid : e.eventId = f.eventId)
    (htype : e.eventType = f.eventType) (htime : e.occurredAt = f.occurredAt)
    (hactor : e.actor = f.actor) (hrun : e.runId = f.runId)
    (hcause : e.causationId = f.causationId) (hpayload : e.payload = f.payload) : e = f := by
  cases e; cases f; simp_all

/-- The constructor of an event, with the exceptions it raises. -/
def create (eventId : String) (schemaVersion : Int) (eventType : String) (occurredAt : Datetime)
    (actor : String) (runId causationId : Option String) (payload : JsonObject) :
    Except StoreError EventEnvelope :=
  if eventId = "" then .error (.eventValidation "event_id" "must be a non-empty string")
  else if hid : isUlid eventId = false then
    .error (.eventValidation "event_id" "must be a 26-character Crockford ULID")
  else if schemaVersion ≠ eventSchemaVersion then .error (.incompatibleSchema schemaVersion)
  else if eventType = "" then
    .error (.eventValidation "event_type" "must be a non-empty string")
  else if hactor : actor = "" then
    .error (.eventValidation "actor" "must be a non-empty string")
  else if hrun : runId = some "" then
    .error (.eventValidation "run_id" "must be a non-empty string")
  else if hcause : causationId = some "" then
    .error (.eventValidation "causation_id" "must be a non-empty string")
  else
    match EventType.ofText? eventType with
    | none => .error (.unknownEventType eventType)
    | some t =>
      match hp : validatePayload t payload with
      | .error e => .error e
      | .ok _ => .ok ⟨eventId, t, occurredAt, actor, runId, causationId, payload,
          by simpa using hid, hactor, hrun, hcause, hp⟩

/-- What a created event holds. -/
lemma create_ok {eventId eventType actor : String} {schemaVersion : Int} {occurredAt : Datetime}
    {runId causationId : Option String} {payload : JsonObject} {e : EventEnvelope}
    (h : create eventId schemaVersion eventType occurredAt actor runId causationId payload =
      .ok e) :
    e.eventId = eventId ∧ e.eventType.text = eventType ∧ e.occurredAt = occurredAt ∧
      e.actor = actor ∧ e.runId = runId ∧ e.causationId = causationId ∧ e.payload = payload := by
  unfold create at h
  split_ifs at h
  split at h
  · simp at h
  · rename_i t ht
    split at h
    · simp at h
    · obtain rfl := Except.ok.inj h
      exact ⟨rfl, EventType.text_of_ofText? ht, rfl, rfl, rfl, rfl, rfl⟩

lemma eventId_ne (e : EventEnvelope) : e.eventId ≠ "" := by
  intro h
  have hid := e.eventId_valid
  rw [h] at hid
  exact absurd hid (by decide)

/-- An event is created from its own fields. -/
lemma create_self (e : EventEnvelope) :
    create e.eventId eventSchemaVersion e.eventType.text e.occurredAt e.actor e.runId e.causationId
      e.payload = .ok e := by
  have htype : e.eventType.text ≠ "" := by
    cases e.eventType <;> decide
  unfold create
  rw [if_neg e.eventId_ne, dif_neg (by simp [e.eventId_valid]), if_neg (by simp), if_neg htype,
    dif_neg e.actor_ne, dif_neg e.runId_ne, dif_neg e.causationId_ne]
  simp only [EventType.ofText?_text]
  split
  · rename_i err herr
    rw [e.payload_valid] at herr
    simp at herr
  · rfl

/-- The event with its payload as the log keeps it. -/
def stored (e : EventEnvelope) : EventEnvelope :=
  { e with
    payload := canonicalEntries e.payload
    payload_valid := validatePayload_canonicalEntries e.payload_valid }

@[simp] lemma stored_eventId (e : EventEnvelope) : e.stored.eventId = e.eventId := rfl
@[simp] lemma stored_eventType (e : EventEnvelope) : e.stored.eventType = e.eventType := rfl
@[simp] lemma stored_occurredAt (e : EventEnvelope) : e.stored.occurredAt = e.occurredAt := rfl
@[simp] lemma stored_runId (e : EventEnvelope) : e.stored.runId = e.runId := rfl
@[simp] lemma stored_payload (e : EventEnvelope) :
    e.stored.payload = canonicalEntries e.payload := rfl
@[simp] lemma stored_stored (e : EventEnvelope) : e.stored.stored = e.stored := by
  ext <;> simp [stored]

/-- A text field of the payload. -/
def text? (e : EventEnvelope) (field : String) : Option String :=
  Research.str? (getEntry field e.payload)

@[simp] lemma stored_text? (e : EventEnvelope) (field : String) :
    e.stored.text? field = e.text? field := by
  simp [text?]

end EventEnvelope

/-! ## Rows of the log -/

/-- A row of the table `events`. -/
structure EventRow where
  sequence : ℕ
  eventId : String
  schemaVersion : Int
  eventType : EventType
  occurredAt : String
  actor : String
  runId : Option String
  causationId : Option String
  payloadJson : JsonText
  deriving DecidableEq

/-- An event with its place in the log. -/
structure EventRecord where
  sequence : ℕ
  envelope : EventEnvelope

/-- `event_as_dict`, with the payload serialized. -/
def EventRow.ofEvent (sequence : ℕ) (event : EventEnvelope) : EventRow where
  sequence
  eventId := event.eventId
  schemaVersion := eventSchemaVersion
  eventType := event.eventType
  occurredAt := event.occurredAt.text
  actor := event.actor
  runId := event.runId
  causationId := event.causationId
  payloadJson := JsonText.ofObject event.payload

/-- `upcast` of a row whose payload was read. -/
def upcast (row : EventRow) (payload : JsonObject) : Except StoreError EventEnvelope := do
  require (row.schemaVersion = 1) (.incompatibleSchema row.schemaVersion)
  require (row.eventId ≠ "") (.eventValidation "event_id" "must be a non-empty string")
  require (row.occurredAt ≠ "") (.eventValidation "occurred_at" "must be a non-empty string")
  let occurredAt ← orThrow (Datetime.parse? row.occurredAt)
    (.eventValidation "occurred_at" "must be canonical UTC RFC 3339")
  require (row.actor ≠ "") (.eventValidation "actor" "must be a non-empty string")
  require (row.runId ≠ some "") (.eventValidation "run_id" "must be a non-empty string or null")
  require (row.causationId ≠ some "")
    (.eventValidation "causation_id" "must be a non-empty string or null")
  EventEnvelope.create row.eventId eventSchemaVersion row.eventType.text occurredAt row.actor
    row.runId row.causationId payload

/-- `_event_record` -/
def EventRow.record (row : EventRow) : Except StoreError EventRecord := do
  let payload ← orThrow row.payloadJson.object?
    (.eventValidation "payload" "stored payload must be a JSON object")
  let envelope ← upcast row payload
  pure ⟨row.sequence, envelope⟩

/-- Reading the row of an event back gives the event as it is stored. -/
theorem record_ofEvent (sequence : ℕ) (event : EventEnvelope) :
    (EventRow.ofEvent sequence event).record = .ok ⟨sequence, event.stored⟩ := by
  have htime : event.occurredAt.text ≠ "" := by
    intro h
    have hnone : Datetime.parse? "" = none := by decide
    rw [← h, Datetime.parse?_text] at hnone
    simp at hnone
  have hupcast : upcast (.ofEvent sequence event) (canonicalEntries event.payload) =
      .ok event.stored := by
    simp only [upcast, bind_eq_ok, require_eq_ok, orThrow_eq_ok, exists_and_left, exists_const]
    exact ⟨rfl, event.eventId_ne, htime, _, Datetime.parse?_text _, event.actor_ne,
      event.runId_ne, event.causationId_ne, event.stored.create_self⟩
  simp only [EventRow.record, bind_eq_ok, orThrow_eq_ok, pure_eq_ok]
  exact ⟨_, JsonText.object?_ofObject _, _, hupcast, rfl⟩

/-! ## Commands -/

/-- A request for an event (`AppendEventCommand`). -/
structure AppendEventCommand where
  eventType : String
  actor : String
  runId : Option String
  causationId : Option String
  payload : JsonObject

/-- The id and the time that the service takes for one event. -/
structure Stamp where
  eventId : String
  occurredAt : Datetime

/-- `StateService._event` -/
def makeEvent (stamp : Stamp) (command : AppendEventCommand) : Except StoreError EventEnvelope :=
  EventEnvelope.create stamp.eventId eventSchemaVersion command.eventType stamp.occurredAt
    command.actor command.runId command.causationId command.payload

lemma makeEvent_ok {stamp : Stamp} {command : AppendEventCommand} {e : EventEnvelope}
    (h : makeEvent stamp command = .ok e) :
    e.eventId = stamp.eventId ∧ e.eventType.text = command.eventType ∧
      e.occurredAt = stamp.occurredAt ∧ e.actor = command.actor ∧ e.runId = command.runId ∧
      e.causationId = command.causationId ∧ e.payload = command.payload :=
  EventEnvelope.create_ok h

/-- Commands with valid fields make events. -/
lemma exists_makeEvent {stamp : Stamp} {command : AppendEventCommand} {type : EventType}
    (hid : isUlid stamp.eventId = true) (hactor : command.actor ≠ "")
    (hrun : command.runId ≠ some "") (hcause : command.causationId ≠ some "")
    (htype : command.eventType = type.text)
    (hpayload : validatePayload type command.payload = .ok ()) :
    ∃ event, makeEvent stamp command = .ok event := by
  have hself := EventEnvelope.create_self
    ⟨stamp.eventId, type, stamp.occurredAt, command.actor, command.runId, command.causationId,
      command.payload, hid, hactor, hrun, hcause, hpayload⟩
  rw [← htype] at hself
  exact ⟨_, hself⟩

end Aizim.State
