import Mathlib.Data.List.Sort
import Aizim.Framework.Fallible
import Aizim.Research.RecordSchema
import Aizim.State.EventTypes

/-!
# Event payload schema

The errors of the store and the check that a payload fits its event type: one codec an event type,
with required and optional fields and a check a field.  A field check is a value (`FieldCheck`)
with one meaning (`FieldCheck.accepts`), so that what holds of every check is proved once.

The main result is `validatePayload_canonicalEntries`: a payload that was accepted is accepted
again when its stored text is read back.
-/

namespace Aizim.State

open JsonValue JsonObject

/-! ## Errors -/

/-- The exceptions that store operations raise.  `value` is a `ValueError` with its code,
`integrity` a constraint violation that the database reports. -/
inductive StoreError
  | value (code : String)
  | eventValidation (location reason : String)
  | unknownEventType (eventType : String)
  | incompatibleSchema (version : Int)
  | authority (projection reason : String)
  | duplicateEvent (eventId : String)
  | document (code : String)
  | capability (field reason : String)
  | contract (field reason : String)
  | integrity (constraint : String)
  deriving DecidableEq

/-! ## Field checks -/

/-- The checks of one payload field. -/
inductive FieldCheck
  | text
  | integer
  | positiveInteger
  | sha256
  | strings
  | timestamp
  | object
  | array
  | boolean
  | providerId
  | patchEdits
  | enum (values : List String)
  deriving DecidableEq

/-- A non-empty text. -/
def textPayload : JsonValue → Bool
  | str s => !s.isEmpty
  | _ => false

/-- `is_controller_provider_id(value)` -/
def isControllerProviderId (s : String) : Bool :=
  fullmatchIdentifier (fun c => 'a' ≤ c && c ≤ 'z')
    (fun c => ('a' ≤ c && c ≤ 'z') || isAsciiDigit c || c == '_' || c == '-') 63 s

/-- One edit of `patch_edits_payload`. -/
def patchEdit : JsonValue → Bool
  | dict item =>
    hasKeys item ["start_byte", "end_byte", "replacement_hex"] &&
      match getEntry "start_byte" item, getEntry "end_byte" item,
        getEntry "replacement_hex" item with
      | some (int start), some (int stop), some (str hex) =>
        0 ≤ start && start ≤ stop && hex.toList.length % 2 == 0 && hex.toList.all isLowerHex
      | _, _, _ => false
  | _ => false

/-- The values that a check accepts. -/
def FieldCheck.accepts : FieldCheck → JsonValue → Bool
  | text, v => textPayload v
  | integer, .int i => 0 ≤ i
  | positiveInteger, .int i => 0 < i
  | sha256, .str s => isSha256 s
  | strings, .list items => items.all textPayload
  | timestamp, .str s => (Datetime.parse? s).isSome
  | object, .dict _ => true
  | array, .list _ => true
  | boolean, .bool _ => true
  | providerId, .str s => isControllerProviderId s
  | patchEdits, .list items => items.all patchEdit
  | enum values, .str s => values.contains s
  | _, _ => false

/-! ## Codecs -/

/-- `_FIELD_VALIDATORS` -/
def fieldValidators : List (String × FieldCheck) :=
  [("base_epoch", .sha256), ("content_hash", .sha256), ("expected_hash", .sha256),
   ("expected_version", .integer), ("knowledge_epoch", .integer), ("manifest", .object),
   ("operations", .array), ("imports", .strings), ("dependencies", .strings),
   ("assumptions", .strings), ("axioms", .strings), ("evidence_links", .strings),
   ("state_version", .integer), ("version", .integer)]

/-- `_PayloadCodec` -/
structure PayloadCodec where
  required : List String
  optional : List String
  validators : List (String × FieldCheck)

/-- The check of a field: the codec's own, else the general one of that name, else text. -/
def PayloadCodec.validator (codec : PayloadCodec) (field : String) : FieldCheck :=
  ((getEntry field codec.validators).or (getEntry field fieldValidators)).getD .text

/-- `sorted(...)` joined by commas. -/
def joinSorted (names : List String) : String :=
  ", ".intercalate (names.insertionSort (· ≤ ·))

/-- `_PayloadCodec.validate` -/
def PayloadCodec.validate (codec : PayloadCodec) (eventType : EventType) (payload : JsonObject) :
    Except StoreError Unit := do
  let missing := codec.required.filter fun field => (getEntry field payload).isNone
  let unknown := (keys payload).filter fun field =>
    !codec.required.contains field && !codec.optional.contains field
  require (missing = []) (.eventValidation eventType.text s!"missing fields: {joinSorted missing}")
  require (unknown = []) (.eventValidation eventType.text s!"unknown fields: {joinSorted unknown}")
  match payload.find? fun e => !(codec.validator e.1).accepts e.2 with
  | some e => throw (.eventValidation eventType.text s!"field {e.1} has an invalid type")
  | none => pure ()

/-- `DOCUMENT_FIELDS` -/
def documentFields : List String :=
  ["document_id", "lease_id", "worker_id", "relative_path", "virtual_document_namespace",
   "base_epoch", "knowledge_epoch", "version", "content_hash", "expires_at"]

/-- `DOCUMENT_VALIDATORS` -/
def documentValidators : List (String × FieldCheck) :=
  [("base_epoch", .sha256), ("content_hash", .sha256), ("expires_at", .timestamp)]

/-- `_CONTRIBUTION_OPTIONAL` -/
def contributionOptional : List String :=
  ["worker_id", "lease_id", "document_id", "payload_kind", "payload_hash", "expected_file_version",
   "expected_content_hash", "environment_fingerprint", "base_epoch", "knowledge_epoch",
   "candidate_name", "complete_type", "imports", "dependencies", "assumptions", "evidence_links",
   "edits", "rebased_from"]

/-- The list fields that declarations and deltas share. -/
def evidenceValidators : List (String × FieldCheck) :=
  [("dependencies", .strings), ("assumptions", .strings), ("axioms", .strings),
   ("evidence_links", .strings)]

/-- `_CONTRIBUTION_VALIDATORS` -/
def contributionValidators : List (String × FieldCheck) :=
  [("payload_kind", .enum ["patch", "snapshot"]), ("payload_hash", .sha256),
   ("expected_file_version", .integer), ("expected_content_hash", .sha256),
   ("environment_fingerprint", .sha256), ("edits", .patchEdits), ("base_epoch", .sha256),
   ("knowledge_epoch", .integer), ("imports", .strings), ("dependencies", .strings),
   ("assumptions", .strings), ("evidence_links", .strings)]

/-- `_DECLARATION_OPTIONAL` -/
def declarationOptional : List String :=
  ["name", "type", "content_hash", "contribution_id", "module", "dependencies", "assumptions",
   "axioms", "evidence_links", "publication_sequence"]

/-- `_DELTA_OPTIONAL` -/
def deltaOptional : List String :=
  ["declaration_id", "contribution_id", "previous_base_epoch", "previous_knowledge_epoch",
   "fully_qualified_name", "complete_type", "module", "dependencies", "assumptions", "axioms",
   "evidence_links", "publication_sequence"]

/-- `_CODECS`, with the codecs of the orchestration events.  Research records have no codec. -/
def codec? : EventType → Option PayloadCodec
  | .projectInitialized => some ⟨["project_id", "base_epoch", "knowledge_epoch"],
      ["environment_fingerprint"],
      [("base_epoch", .sha256), ("environment_fingerprint", .sha256)]⟩
  | .runCreated => some ⟨[], ["manifest", "status"], []⟩
  | .runCompleted => some ⟨[], ["outcome", "ended_at"], [("ended_at", .timestamp)]⟩
  | .runAborted => some ⟨[], ["reason_code", "ended_at"], [("ended_at", .timestamp)]⟩
  | .workerRegistered => some ⟨["worker_id"], ["role", "status"], []⟩
  | .workerStarted => some ⟨["worker_id"], ["role", "started_at"], [("started_at", .timestamp)]⟩
  | .workerStopped => some ⟨["worker_id"], ["reason_code", "stopped_at"],
      [("stopped_at", .timestamp)]⟩
  | .workerCrashed => some ⟨["worker_id"], ["reason_code", "artifact_hash"],
      [("artifact_hash", .sha256)]⟩
  | .capabilityMinted => some ⟨["worker_id", "role"],
      ["token_hash", "lease_id", "operations", "expires_at"],
      [("token_hash", .sha256), ("expires_at", .timestamp)]⟩
  | .capabilityDenied => some
      ⟨["reason_code", "role", "worker_id", "operation", "request_id"], [], []⟩
  | .sandboxProbeStarted => some ⟨["probe_id"], ["profile"], []⟩
  | .sandboxProbeDenied => some ⟨["probe_id", "reason_code"], ["operation", "policy_hash"],
      [("policy_hash", .sha256)]⟩
  | .sandboxProbePassed => some ⟨["probe_id"], ["operation", "policy_hash"],
      [("policy_hash", .sha256)]⟩
  | .sandboxProbeFailed => some ⟨["probe_id", "reason_code"], ["artifact_hash"],
      [("artifact_hash", .sha256)]⟩
  | .leaseGranted => some ⟨documentFields, [], documentValidators⟩
  | .leaseReleased => some ⟨["lease_id"], ["reason_code"], []⟩
  | .leaseRecovered => some ⟨["lease_id"], ["reason_code"], []⟩
  | .documentEditPrepared => some ⟨documentFields ++ ["expected_version", "expected_hash"], [],
      documentValidators ++ [("expected_hash", .sha256)]⟩
  | .documentEdited => some ⟨documentFields, [], documentValidators⟩
  | .documentEditRecovered => some ⟨documentFields, [], documentValidators⟩
  | .formalActionRecorded => some
      ⟨["action_id", "action_kind", "worker_id", "document_id", "input_hash", "output_hash",
        "verdict", "document_version", "base_epoch", "knowledge_epoch", "started_at",
        "completed_at"], [],
       [("action_kind", .enum ["diagnostics", "goal", "trial"]), ("input_hash", .sha256),
        ("output_hash", .sha256), ("document_version", .integer), ("started_at", .timestamp),
        ("completed_at", .timestamp)]⟩
  | .contributionSubmitted => some
      ⟨["contribution_id"], contributionOptional, contributionValidators⟩
  | .contributionRebased => some ⟨["contribution_id", "source_contribution_id"], ["base_epoch"],
      [("base_epoch", .sha256)]⟩
  | .contributionEnqueued => some ⟨["contribution_id"], ["state"], []⟩
  | .promotionStateChanged => some ⟨["contribution_id", "state"],
      ["state_version", "former_owner"], []⟩
  | .promotionPrepared => some
      ⟨["contribution_id", "module", "content_hash", "base_epoch", "knowledge_epoch",
        "declaration_id", "delta_id"], [], [("content_hash", .sha256), ("base_epoch", .sha256)]⟩
  | .promotionFailed => some ⟨["contribution_id", "reason_code"], ["artifact_hash"],
      [("artifact_hash", .sha256)]⟩
  | .declarationPublished => some ⟨["declaration_id"], declarationOptional,
      ("content_hash", .sha256) :: evidenceValidators ++ [("publication_sequence", .integer)]⟩
  | .knowledgeDeltaPublished => some ⟨["delta_id", "base_epoch", "knowledge_epoch"], deltaOptional,
      [("base_epoch", .sha256), ("previous_base_epoch", .sha256),
       ("previous_knowledge_epoch", .integer), ("publication_sequence", .integer)] ++
        evidenceValidators⟩
  | .knowledgeDeltaAcknowledged => some ⟨["acknowledgement_id", "worker_id", "delta_id"], [],
      [("acknowledgement_id", .sha256)]⟩
  | .leanRuntimeStarted => some ⟨["runtime_id"], ["mode", "started_at"],
      [("started_at", .timestamp)]⟩
  | .leanRuntimeCrashed => some ⟨["runtime_id", "reason_code"], ["artifact_hash"],
      [("artifact_hash", .sha256)]⟩
  | .leanRuntimeRestarted => some ⟨["runtime_id"], ["previous_runtime_id"], []⟩
  | .environmentTransitionProposed => some
      ⟨["transition_id", "old_fingerprint", "new_fingerprint", "reason"], [],
       [("old_fingerprint", .sha256), ("new_fingerprint", .sha256)]⟩
  | .environmentTransitionApproved => some
      ⟨["transition_id", "old_fingerprint", "new_fingerprint", "reason", "reviewer"], [],
       [("old_fingerprint", .sha256), ("new_fingerprint", .sha256)]⟩
  | .environmentTransitionRejected => some ⟨["transition_id"], ["reason_code"], []⟩
  | .alignmentReviewed => some ⟨["review_id"], ["verdict", "reviewer", "kind"], []⟩
  | .interventionRecorded => some ⟨["intervention_id"], ["kind", "actor", "reason"], []⟩
  | .controllerConfigured => some ⟨["controller_id", "provider"], ["model"],
      [("provider", .providerId)]⟩
  | .workerConfigured => some ⟨["worker_id", "role", "status"], [], []⟩
  | .workerTaskAssigned => some
      ⟨["assignment_id", "controller_id", "worker_id", "task", "task_hash", "task_version"], [],
       [("assignment_id", .sha256), ("task_hash", .sha256), ("task_version", .positiveInteger)]⟩
  | .scheduleProposed => some ⟨["directive_id", "worker_id", "execution_id"], ["role"], []⟩
  | .workerCursorSaved => some
      ⟨["directive_id", "worker_id", "execution_id", "last_event_sequence", "remaining_budget",
        "terminal"],
       ["last_acknowledged_delta", "lease_id", "document_id", "document_version", "base_epoch",
        "knowledge_epoch"],
       [("last_event_sequence", .integer), ("remaining_budget", .integer), ("terminal", .boolean),
        ("document_version", .integer), ("base_epoch", .sha256), ("knowledge_epoch", .integer)]⟩
  | .workerTimedOut => some ⟨["worker_id", "execution_id"], ["reason_code"], []⟩
  | .agentRunCompleted => some
      ⟨["worker_id", "execution_id", "status", "transport_event_hash", "final_message_hash",
        "exit_code"], ["policy_hash"],
       [("transport_event_hash", .sha256), ("final_message_hash", .sha256), ("exit_code", .integer),
        ("policy_hash", .sha256)]⟩
  | .promotionVerificationRecorded => some
      ⟨["contribution_id", "diagnostics_hash", "diagnostics_verdict", "build_hash",
        "build_verdict", "axiom_verification_hash", "axiom_verification_verdict"],
       ["source_scan_hash", "source_scan_verdict"],
       [("diagnostics_hash", .sha256), ("build_hash", .sha256),
        ("axiom_verification_hash", .sha256), ("source_scan_hash", .sha256)]⟩
  | .leanRuntimeStopped => some ⟨["runtime_id"], [], []⟩
  | .artifactRegistered => some
      ⟨["artifact_name", "content_hash", "relative_path", "media_type", "byte_length"], [],
       [("content_hash", .sha256), ("byte_length", .integer)]⟩
  | .formalTraceSealed => some ⟨["cutoff_kind"], [], []⟩
  | .evaluationTransitionRejected => some ⟨["field", "requested_hash", "reason_code"], [],
      [("requested_hash", .sha256)]⟩
  | .controllerStarted => some
      ⟨["controller_id", "controller_session_id", "controller_version", "provider",
        "backend_version", "executable_hash"], [],
       [("controller_version", .positiveInteger), ("provider", .providerId),
        ("executable_hash", .sha256)]⟩
  | .controllerStopped => some ⟨["controller_id", "controller_session_id", "reason_code"], [],
      [("reason_code", .enum ["OPERATOR_SIGNAL", "PREFLIGHT_FAILED", "RESEARCH_IDLE", "TIME_LIMIT",
        "CONTROLLER_FAILED"])]⟩
  | .controllerCrashed => some ⟨["controller_id", "controller_session_id", "reason_code"], [],
      [("reason_code", .enum ["UNCLEAN_SHUTDOWN"])]⟩
  | .workerTaskClaimed => some
      ⟨["assignment_id", "controller_id", "controller_session_id", "controller_version",
        "worker_id", "task_version", "execution_id"], [],
       [("assignment_id", .sha256), ("controller_version", .positiveInteger),
        ("task_version", .positiveInteger)]⟩
  | .workerTaskDispatchPlanned => some
      ⟨["assignment_id", "execution_id", "directive_id", "directive_artifact_hash",
        "instruction_hash", "budget", "timeout_milliseconds"], [],
       [("assignment_id", .sha256), ("directive_artifact_hash", .sha256),
        ("instruction_hash", .sha256), ("budget", .positiveInteger),
        ("timeout_milliseconds", .positiveInteger)]⟩
  | .workerTaskCompleted => some ⟨["assignment_id", "execution_id", "result_hash"], [],
      [("assignment_id", .sha256), ("result_hash", .sha256)]⟩
  | .workerTaskFailed => some ⟨["assignment_id", "execution_id", "reason_code"], [],
      [("assignment_id", .sha256),
       ("reason_code", .enum ["CONTROLLER_BLOCKED", "CONTROLLER_REJECTED",
        "CONTROLLER_DECISION_INVALID", "CONTROLLER_TIMEOUT", "WORKER_FAILED",
        "WORKER_ROLE_UNSUPPORTED", "FORMAL_TARGET_REQUIRED"])]⟩
  | .workerTaskInterrupted => some ⟨["assignment_id", "execution_id", "reason_code"], [],
      [("assignment_id", .sha256),
       ("reason_code", .enum ["OPERATOR_SIGNAL", "CONTROLLER_RESTART"])]⟩
  | .researchRecordUpdated => none

/-- `validate_payload` -/
def validatePayload [CharacterDatabase] (eventType : EventType) (payload : JsonObject) :
    Except StoreError Unit :=
  match codec? eventType with
  | some codec => codec.validate eventType payload
  | none =>
    require (Research.validRecord payload = true)
      (.eventValidation eventType.text "invalid typed research record")

/-! ## Stored payloads -/

@[simp] lemma textPayload_canonical (v : JsonValue) : textPayload v.canonical = textPayload v := by
  cases v <;> simp [textPayload]

lemma patchEdit_canonical (v : JsonValue) : patchEdit v.canonical = patchEdit v := by
  cases v with
  | dict item =>
    simp only [canonical_dict, patchEdit, hasKeys_canonicalEntries, getEntry_canonicalEntries]
    congr 1
    rcases getEntry "start_byte" item with _ | a
    · rfl
    · rcases getEntry "end_byte" item with _ | b
      · cases a <;> rfl
      · rcases getEntry "replacement_hex" item with _ | c
        · cases a <;> cases b <;> rfl
        · cases a <;> cases b <;> cases c <;> rfl
  | list items => simp [patchEdit]
  | _ => rfl

/-- A check accepts a value exactly when it accepts what was stored for it. -/
@[simp] lemma FieldCheck.accepts_canonical (check : FieldCheck) (v : JsonValue) :
    check.accepts v.canonical = check.accepts v := by
  cases check with
  | strings => cases v <;> simp [accepts, List.all_map, Function.comp_def]
  | patchEdits =>
    cases v <;> simp [accepts, List.all_map, Function.comp_def, patchEdit_canonical]
  | text => exact textPayload_canonical v
  | _ => cases v <;> simp [accepts]

/-- A payload is valid when it has the required fields, no other than the optional ones besides,
and every field passes its check. -/
lemma PayloadCodec.validate_eq_ok_iff (codec : PayloadCodec) (eventType : EventType)
    (payload : JsonObject) (u : Unit) :
    codec.validate eventType payload = .ok u ↔
      (∀ field ∈ codec.required, (getEntry field payload).isSome) ∧
      (∀ field ∈ keys payload, field ∈ codec.required ∨ field ∈ codec.optional) ∧
      ∀ e ∈ payload, (codec.validator e.1).accepts e.2 = true := by
  have hrequired : (codec.required.filter fun field => (getEntry field payload).isNone) = [] ↔
      ∀ field ∈ codec.required, (getEntry field payload).isSome := by
    simp [List.filter_eq_nil_iff, Option.isSome_iff_ne_none]
  have hknown : ((keys payload).filter fun field =>
        !codec.required.contains field && !codec.optional.contains field) = [] ↔
      ∀ field ∈ keys payload, field ∈ codec.required ∨ field ∈ codec.optional := by
    simp [List.filter_eq_nil_iff, or_iff_not_imp_left]
  simp only [validate, bind_eq_ok, require_eq_ok, exists_and_left, exists_const, hrequired, hknown]
  refine and_congr_right fun _ => and_congr_right fun _ => ?_
  split
  · rename_i e hfind
    have hbad := List.find?_some hfind
    simp only [throw_eq_ok, false_iff, not_forall]
    exact ⟨e, List.mem_of_find?_eq_some hfind, by simpa using hbad⟩
  · rename_i hfind
    simpa [List.find?_eq_none] using hfind

/-- What was accepted once is accepted when it is read back from its stored text. -/
theorem validatePayload_canonicalEntries [CharacterDatabase] {eventType : EventType}
    {payload : JsonObject} {u : Unit} (h : validatePayload eventType payload = .ok u) :
    validatePayload eventType (canonicalEntries payload) = .ok u := by
  unfold validatePayload at h ⊢
  split at h
  · rename_i codec _
    obtain ⟨hrequired, hknown, hchecks⟩ := (codec.validate_eq_ok_iff eventType payload u).1 h
    refine (codec.validate_eq_ok_iff eventType _ u).2 ⟨?_, ?_, ?_⟩
    · intro field hfield
      simpa using hrequired field hfield
    · intro field hfield
      exact hknown field (mem_keys_canonicalEntries.1 hfield)
    · rintro ⟨k, w⟩ he
      obtain ⟨v, hv, rfl⟩ := mem_canonicalEntries he
      simpa using hchecks (k, v) hv
  · rw [Research.validRecord_canonicalEntries]
    exact h

/-- A valid payload of a type with a codec has the codec's required fields, each passing its
check. -/
lemma getEntry_of_validatePayload [CharacterDatabase] {eventType : EventType}
    {payload : JsonObject} {u : Unit} (h : validatePayload eventType payload = .ok u)
    {codec : PayloadCodec} (hcodec : codec? eventType = some codec) {field : String}
    (hfield : field ∈ codec.required) :
    ∃ v, getEntry field payload = some v ∧ (codec.validator field).accepts v = true := by
  unfold validatePayload at h
  rw [hcodec] at h
  obtain ⟨hrequired, -, hchecks⟩ := (codec.validate_eq_ok_iff eventType payload u).1 h
  obtain ⟨v, hv⟩ := Option.isSome_iff_exists.1 (hrequired field hfield)
  exact ⟨v, hv, hchecks (field, v) (mem_of_getEntry hv)⟩

end Aizim.State
