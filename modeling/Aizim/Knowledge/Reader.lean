import Aizim.Knowledge.PromotionContext
import Aizim.State.History

/-!
# The knowledge reader

`KnowledgeReader.read` gives the deltas that were published after an epoch, by any run, and
`KnowledgeReader.acknowledge` records that a worker has seen one.

`publishedDeltas_of_run` is how the deltas grow with the log: what a transaction appends adds the
deltas of its own events at the end.
-/

namespace Aizim.Knowledge

open JsonValue JsonObject Domain State TransitionSystem

/-! ## Deltas -/

/-- `PublishedKnowledgeDelta` -/
structure PublishedKnowledgeDelta where
  deltaId : String
  previousEpoch : EpochPair
  newEpoch : EpochPair
  declarationId : String
  fullyQualifiedName : String
  completeType : String
  module : String
  dependencies : List String
  assumptions : List String
  axioms : List String
  evidenceLinks : List String
  contributionId : String
  publicationSequence : ℕ
  deriving DecidableEq

/-- The exception of a malformed delta. -/
def invalidKnowledgeDelta : Fault := .other "INVALID_KNOWLEDGE_DELTA"

/-- `_text` -/
def deltaText (payload : JsonObject) (field : String) : Except Fault String :=
  textField invalidKnowledgeDelta payload field

/-- `_integer` -/
def deltaInteger (payload : JsonObject) (field : String) : Except Fault ℕ :=
  integerField invalidKnowledgeDelta payload field

/-- `_strings` -/
def deltaStrings (payload : JsonObject) (field : String) : Except Fault (List String) :=
  (stringsField payload field).mapError fun _ => invalidKnowledgeDelta

/-- An epoch pair of the payload. -/
def deltaEpoch (payload : JsonObject) (baseField epochField : String) : Except Fault EpochPair := do
  let baseEpoch ← deltaText payload baseField
  let knowledgeEpoch ← deltaInteger payload epochField
  (newEpochPair baseEpoch knowledgeEpoch).mapError Fault.store

/-- `_delta` -/
def deltaOf (payload : JsonObject) : Except Fault PublishedKnowledgeDelta := do
  let deltaId ← deltaText payload "delta_id"
  let previousEpoch ← deltaEpoch payload "previous_base_epoch" "previous_knowledge_epoch"
  let newEpoch ← deltaEpoch payload "base_epoch" "knowledge_epoch"
  let declarationId ← deltaText payload "declaration_id"
  let fullyQualifiedName ← deltaText payload "fully_qualified_name"
  let completeType ← deltaText payload "complete_type"
  let module ← deltaText payload "module"
  let dependencies ← deltaStrings payload "dependencies"
  let assumptions ← deltaStrings payload "assumptions"
  let axioms ← deltaStrings payload "axioms"
  let evidenceLinks ← deltaStrings payload "evidence_links"
  let contributionId ← deltaText payload "contribution_id"
  let publicationSequence ← deltaInteger payload "publication_sequence"
  pure ⟨deltaId, previousEpoch, newEpoch, declarationId, fullyQualifiedName, completeType, module,
    dependencies, assumptions, axioms, evidenceLinks, contributionId, publicationSequence⟩

variable [CharacterDatabase]

namespace KnowledgeReader

/-- The deltas in the log, in its order. -/
def publishedDeltas (log : EventLog) : Except Fault (List PublishedKnowledgeDelta) := do
  let records ← (queryEvents log none).mapError Fault.store
  let published := records.filter fun record =>
    record.envelope.eventType == .knowledgeDeltaPublished
  published.mapM fun record => deltaOf record.envelope.payload

/-- `read` -/
def read (t : Tables) (afterKnowledgeEpoch : Int) :
    Except Fault (List PublishedKnowledgeDelta) := do
  require (0 ≤ afterKnowledgeEpoch) (Fault.other "INVALID_KNOWLEDGE_CURSOR")
  let deltas ← publishedDeltas t.toEventLog
  pure (deltas.filter fun item => afterKnowledgeEpoch < item.newEpoch.knowledgeEpoch)

/-- The id of an acknowledgement. -/
def acknowledgementId (runId workerId deltaId : String) : String :=
  sha256Json (.dict [("run_id", .str runId), ("worker_id", .str workerId),
    ("delta_id", .str deltaId)])

/-- The event of an acknowledgement. -/
def acknowledgement (runId workerId deltaId : String) : AppendEventCommand :=
  ⟨"KnowledgeDeltaAcknowledged", workerId, some runId, none,
    [("acknowledgement_id", .str (acknowledgementId runId workerId deltaId)),
     ("worker_id", .str workerId), ("delta_id", .str deltaId)]⟩

/-- `acknowledge`: whether it recorded anything, with the tables after it. -/
def acknowledge (t : Tables) (stamp : Stamp) (runId workerId deltaId : String) :
    Except Fault (Tables × Bool) := do
  require ("" ∉ [runId, workerId, deltaId]) (Fault.other "INVALID_KNOWLEDGE_ACKNOWLEDGEMENT")
  let events ← (queryEvents t.toEventLog (some runId)).mapError Fault.store
  require (events.any (fun event => event.envelope.eventType == .knowledgeDeltaPublished &&
      getEntry "delta_id" event.envelope.payload == some (.str deltaId)) = true)
    (Fault.other "UNKNOWN_KNOWLEDGE_DELTA")
  if events.any (fun event => event.envelope.eventType == .knowledgeDeltaAcknowledged &&
      getEntry "acknowledgement_id" event.envelope.payload ==
        some (.str (acknowledgementId runId workerId deltaId))) then pure (t, false)
  else do
    let (t, _) ← (State.appendEvent t stamp (acknowledgement runId workerId deltaId)).mapError
      Fault.store
    pure (t, true)

end KnowledgeReader

/-! ## How the deltas grow -/

/-- The deltas of events that were just appended. -/
def deltasOfEvents (events : List EventEnvelope) : Except Fault (List PublishedKnowledgeDelta) :=
  (events.filter fun e => e.eventType == .knowledgeDeltaPublished).mapM fun e =>
    deltaOf e.stored.payload

/-- A loop over the envelopes of records. -/
lemma mapM_envelope {records : List EventRecord} {events : List EventEnvelope}
    (h : records.map (·.envelope) = events.map EventEnvelope.stored) :
    ((records.filter fun record => record.envelope.eventType == .knowledgeDeltaPublished).mapM
      fun record => deltaOf record.envelope.payload) = deltasOfEvents events := by
  have hmap : ∀ records : List EventRecord,
      ((records.filter fun record => record.envelope.eventType == .knowledgeDeltaPublished).mapM
        fun record => deltaOf record.envelope.payload) =
      ((records.map (·.envelope)).filter fun e => e.eventType == .knowledgeDeltaPublished).mapM
        fun e => deltaOf e.payload := by
    intro records
    rw [List.filter_map, List.mapM_map]
    rfl
  rw [hmap, h, List.filter_map, List.mapM_map]
  rfl

/-- What is appended adds the deltas of its events. -/
lemma publishedDeltas_of_run {log log' : EventLog} {events : List EventEnvelope}
    (hlog : WellFormedLog log) (h : eventLogSystem.Run log events log') :
    KnowledgeReader.publishedDeltas log' = (do
      let old ← KnowledgeReader.publishedDeltas log
      let new ← deltasOfEvents events
      pure (old ++ new)) := by
  obtain ⟨-, rows, hrows, hrecords, -⟩ := rows_of_run hlog h
  obtain ⟨records, hread, henvelopes⟩ := exists_records hrecords
  have hquery : queryEvents log' none = (do
      let old ← queryEvents log none
      pure (old ++ records)) := by
    simp only [queryEvents, hrows, List.mapM_append, hread, ok_bind]
  simp only [KnowledgeReader.publishedDeltas, hquery]
  cases queryEvents log none with
  | error e => rfl
  | ok old =>
    rw [ok_bind, ← mapM_envelope henvelopes]
    change ((old ++ records).filter _).mapM _ = _
    rw [List.filter_append, List.mapM_append]
    rfl

end Aizim.Knowledge
