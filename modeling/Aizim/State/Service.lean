import Aizim.State.DocumentSpec
import Aizim.State.QueueProtocol

/-!
# The state service

The service owns the store and is the only caller of its operations.  It makes the events of an
operation itself, or checks that a command of its caller makes an event of the right type, and then
calls the store.  The id and the time it takes for each event are arguments (`Stamp`).

`StateOp` lists the operations that write.  `StateOp.exec` is one of them as a step of the store:
an operation that raises leaves the tables as they were.  `StateOp.run_ok` says which types of
events an operation can append (`StateOp.eventTypes`), and that artifacts are registered only by
`append_event`.
-/

namespace Aizim.State

open JsonValue JsonObject Domain TransitionSystem

variable [CharacterDatabase]

/-! ## Events -/

/-- `append_event` -/
def appendEvent (t : Tables) (stamp : Stamp) (command : AppendEventCommand) :
    Except StoreError (Tables × EventRecord) := do
  require (command.eventType ≠ "EnvironmentTransitionApproved")
    (.eventValidation "event_type" "use approve_environment_transition")
  let event ← makeEvent stamp command
  append t event

/-- The data of an approved environment transition. -/
structure EnvironmentTransition where
  runId : String
  reviewer : String
  proposalEventId : String
  transitionId : String
  oldFingerprint : String
  newFingerprint : String
  reason : String

/-- `approve_environment_transition`, with the answer of `human_approval`. -/
def approveEnvironmentTransition (t : Tables) (stamp : Stamp)
    (humanApproval : String → String → Bool) (a : EnvironmentTransition) :
    Except StoreError (Tables × EventRecord) := do
  require ("" ∉ [a.runId, a.reviewer, a.proposalEventId, a.transitionId, a.oldFingerprint,
    a.newFingerprint, a.reason])
    (.eventValidation "environment_transition" "requires complete approval data")
  require (humanApproval a.runId a.reviewer = true)
    (.eventValidation "reviewer" "is not an authenticated human")
  let event ← makeEvent stamp ⟨"EnvironmentTransitionApproved", a.reviewer, some a.runId,
    some a.proposalEventId,
    [("transition_id", .str a.transitionId), ("old_fingerprint", .str a.oldFingerprint),
     ("new_fingerprint", .str a.newFingerprint), ("reason", .str a.reason),
     ("reviewer", .str a.reviewer)]⟩
  append t event

namespace StateService

/-- `persist_capability` -/
def persistCapability (t : Tables) (stamp : Stamp) (c : CapabilityRecord) :
    Except StoreError (Tables × EventRecord) := do
  let event ← makeEvent stamp ⟨"CapabilityMinted", "capability_issuer", some c.runId, none,
    [("worker_id", .str c.workerId), ("role", .str c.role),
     ("operations", .list (c.operations.map .str)), ("expires_at", .str c.expiresAt.text)] ++
      c.leaseId.toList.map fun leaseId => ("lease_id", .str leaseId)⟩
  State.persistCapability t c event

/-! ## Promotions -/

/-- `_promotion_event` -/
def promotionEvent (stamp : Stamp) : EventFactory :=
  fun contributionId state stateVersion runId formerOwner =>
    makeEvent stamp ⟨"PromotionStateChanged", "promotion_service", runId, none,
      [("contribution_id", .str contributionId), ("state", .str state.text),
       ("state_version", .int stateVersion)] ++
        formerOwner.toList.map fun owner => ("former_owner", .str owner)⟩

/-- The event that accompanies a submission. -/
def queuedEvent (stamp : Stamp) (actor contributionId : String) (submitted : EventEnvelope) :
    Except StoreError EventEnvelope :=
  makeEvent stamp ⟨"ContributionEnqueued", actor, submitted.runId, some submitted.eventId,
    [("contribution_id", .str contributionId), ("state", .str "queued")]⟩

/-- `enqueue_contribution` -/
def enqueueContribution (t : Tables) (stamp queuedStamp : Stamp) (submitted : AppendEventCommand) :
    Except StoreError (Tables × PublicationQueueEntry) := do
  let event ← makeEvent stamp submitted
  require (event.eventType = .contributionSubmitted)
    (.eventValidation "event_type" "must submit a contribution")
  let contributionId ← orThrow (event.text? "contribution_id")
    (.eventValidation "contribution_id" "must be a non-empty string")
  let queued ← queuedEvent queuedStamp "contribution_service" contributionId event
  enqueue t event queued

/-- `claim_next_promotion` -/
def claimNextPromotion (t : Tables) (stamp : Stamp) (now : Datetime) (owner : String) :
    Except StoreError (Tables × Option PublicationQueueEntry) :=
  claimNext t owner now (promotionEvent stamp)

/-- `advance_promotion` -/
def advancePromotion (t : Tables) (stamp : Stamp) (now : Datetime) (contributionId owner : String)
    (target : PublicationQueueState) : Except StoreError (Tables × PublicationQueueEntry) :=
  advance t contributionId owner target now (promotionEvent stamp)

/-- `heartbeat_promotion` -/
def heartbeatPromotion (t : Tables) (stamp : Stamp) (now : Datetime)
    (contributionId owner : String) : Except StoreError (Tables × PublicationQueueEntry) :=
  heartbeat t contributionId owner now (promotionEvent stamp)

/-- `prepare_promotion` -/
def preparePromotion (t : Tables) (stamp : Stamp) (contributionId owner : String)
    (prepared : AppendEventCommand) : Except StoreError (Tables × PublicationQueueEntry) := do
  let event ← makeEvent stamp prepared
  require (event.eventType = .promotionPrepared)
    (.eventValidation "event_type" "must prepare a promotion")
  require (event.text? "contribution_id" = some contributionId)
    (.eventValidation "contribution_id" "must match the promotion")
  prepare t contributionId owner event

/-- `publish_promotion` -/
def publishPromotion (t : Tables) (declarationStamp deltaStamp stamp : Stamp) (now : Datetime)
    (contributionId owner : String) (declaration delta : AppendEventCommand) :
    Except StoreError (Tables × PublicationQueueEntry) := do
  let declarationEvent ← makeEvent declarationStamp declaration
  let deltaEvent ← makeEvent deltaStamp delta
  require (declarationEvent.eventType = .declarationPublished)
    (.eventValidation "event_type" "must publish a declaration")
  require (deltaEvent.eventType = .knowledgeDeltaPublished)
    (.eventValidation "event_type" "must publish a knowledge delta")
  require (declarationEvent.text? "contribution_id" = some contributionId)
    (.eventValidation "contribution_id" "must match the declaration")
  require (deltaEvent.text? "contribution_id" = some contributionId)
    (.eventValidation "contribution_id" "must match the delta")
  State.publishPromotion t contributionId owner now declarationEvent deltaEvent
    (promotionEvent stamp)

/-- `fail_promotion` -/
def failPromotion (t : Tables) (failureStamp stamp : Stamp) (now : Datetime)
    (contributionId owner : String) (failure : AppendEventCommand) :
    Except StoreError (Tables × PublicationQueueEntry) := do
  let event ← makeEvent failureStamp failure
  require (event.eventType = .promotionFailed)
    (.eventValidation "event_type" "must record a promotion failure")
  require (event.text? "contribution_id" = some contributionId)
    (.eventValidation "contribution_id" "must match the promotion failure")
  State.failPromotion t contributionId owner now event (promotionEvent stamp)

/-- `recover_expired_promotion`, with the timeout in microseconds. -/
def recoverExpiredPromotion (t : Tables) (stamp : Stamp) (now : Datetime) (owner : String)
    (claimTimeout : ℕ) : Except StoreError (Tables × Option PublicationQueueEntry) := do
  require (0 < claimTimeout) (.eventValidation "claim_timeout" "must be a positive duration")
  let staleBefore ← orThrow (now.sub? claimTimeout) (.value "date value out of range")
  State.recoverExpiredPromotion t owner now staleBefore (promotionEvent stamp)

/-- `rebase_promotion` -/
def rebasePromotion (t : Tables) (submittedStamp rebasedStamp queuedStamp stamp : Stamp)
    (now : Datetime) (contributionId owner : String) (submitted rebased : AppendEventCommand) :
    Except StoreError (Tables × PublicationQueueEntry × PublicationQueueEntry) := do
  let submittedEvent ← makeEvent submittedStamp submitted
  let rebasedEvent ← makeEvent rebasedStamp rebased
  require (submittedEvent.eventType = .contributionSubmitted)
    (.eventValidation "event_type" "must submit a rebased contribution")
  let replacement ← orThrow (submittedEvent.text? "contribution_id")
    (.eventValidation "contribution_id" "must be a non-empty string")
  require (replacement ≠ "") (.eventValidation "contribution_id" "must be a non-empty string")
  let queued ← queuedEvent queuedStamp "promotion_service" replacement submittedEvent
  rebase t contributionId owner now submittedEvent queued rebasedEvent (promotionEvent stamp)

end StateService

/-! ## Operations -/

/-- The operations of the service that write, with their arguments. -/
inductive StateOp
  | appendEvent (stamp : Stamp) (command : AppendEventCommand)
  | approveEnvironmentTransition (stamp : Stamp) (humanApproval : String → String → Bool)
      (a : EnvironmentTransition)
  | persistCapability (stamp : Stamp) (c : CapabilityRecord)
  | revokeCapability (tokenHash : String) (now : Datetime)
  | grantDocumentLease (stamp : Stamp) (lease : FileLease) (relativePath : PosixPath)
  | prepareDocumentEdit (stamp : Stamp) (access : AccessDocument) (expectedVersion : Int)
      (expectedHash : String)
  | commitDocumentEdit (stamp : Stamp) (now : Datetime) (preparation : DocumentPreparation)
      (replacementHash : String)
  | recoverDocumentEdit (stamp : Stamp) (preparation : DocumentPreparation)
  | releaseDocumentLease (stamp : Stamp) (runId workerId leaseId : String)
  | recoverDocumentLease (stamp : Stamp) (lease : LeaseState)
  | enqueueContribution (stamp queuedStamp : Stamp) (submitted : AppendEventCommand)
  | claimNextPromotion (stamp : Stamp) (now : Datetime) (owner : String)
  | advancePromotion (stamp : Stamp) (now : Datetime) (contributionId owner : String)
      (target : PublicationQueueState)
  | heartbeatPromotion (stamp : Stamp) (now : Datetime) (contributionId owner : String)
  | preparePromotion (stamp : Stamp) (contributionId owner : String) (prepared : AppendEventCommand)
  | publishPromotion (declarationStamp deltaStamp stamp : Stamp) (now : Datetime)
      (contributionId owner : String) (declaration delta : AppendEventCommand)
  | failPromotion (failureStamp stamp : Stamp) (now : Datetime) (contributionId owner : String)
      (failure : AppendEventCommand)
  | recoverExpiredPromotion (stamp : Stamp) (now : Datetime) (owner : String) (claimTimeout : ℕ)
  | rebasePromotion (submittedStamp rebasedStamp queuedStamp stamp : Stamp) (now : Datetime)
      (contributionId owner : String) (submitted rebased : AppendEventCommand)

namespace StateOp

/-- The tables that an operation computes, or the exception it raises. -/
def run (t : Tables) : StateOp → Except StoreError Tables
  | appendEvent stamp command => Prod.fst <$> State.appendEvent t stamp command
  | approveEnvironmentTransition stamp humanApproval a =>
    Prod.fst <$> State.approveEnvironmentTransition t stamp humanApproval a
  | persistCapability stamp c => Prod.fst <$> StateService.persistCapability t stamp c
  | revokeCapability tokenHash now => .ok (State.revokeCapability t tokenHash now).1
  | grantDocumentLease stamp lease path => Prod.fst <$> State.grantDocumentLease t stamp lease path
  | prepareDocumentEdit stamp access version hash =>
    Prod.fst <$> State.prepareDocumentEdit t stamp access version hash
  | commitDocumentEdit stamp now preparation hash =>
    Prod.fst <$> State.commitDocumentEdit t stamp now preparation hash
  | recoverDocumentEdit stamp preparation =>
    Prod.fst <$> State.recoverDocumentEdit t stamp preparation
  | releaseDocumentLease stamp runId workerId leaseId =>
    Prod.fst <$> State.releaseDocumentLease t stamp runId workerId leaseId
  | recoverDocumentLease stamp lease => Prod.fst <$> State.recoverDocumentLease t stamp lease
  | enqueueContribution stamp queuedStamp submitted =>
    Prod.fst <$> StateService.enqueueContribution t stamp queuedStamp submitted
  | claimNextPromotion stamp now owner =>
    Prod.fst <$> StateService.claimNextPromotion t stamp now owner
  | advancePromotion stamp now id owner target =>
    Prod.fst <$> StateService.advancePromotion t stamp now id owner target
  | heartbeatPromotion stamp now id owner =>
    Prod.fst <$> StateService.heartbeatPromotion t stamp now id owner
  | preparePromotion stamp id owner prepared =>
    Prod.fst <$> StateService.preparePromotion t stamp id owner prepared
  | publishPromotion declarationStamp deltaStamp stamp now id owner declaration delta =>
    Prod.fst <$> StateService.publishPromotion t declarationStamp deltaStamp stamp now id owner
      declaration delta
  | failPromotion failureStamp stamp now id owner failure =>
    Prod.fst <$> StateService.failPromotion t failureStamp stamp now id owner failure
  | recoverExpiredPromotion stamp now owner claimTimeout =>
    Prod.fst <$> StateService.recoverExpiredPromotion t stamp now owner claimTimeout
  | rebasePromotion submittedStamp rebasedStamp queuedStamp stamp now id owner submitted rebased =>
    Prod.fst <$> StateService.rebasePromotion t submittedStamp rebasedStamp queuedStamp stamp now id
      owner submitted rebased

/-- The tables after an operation; one that raises changes nothing. -/
def exec (t : Tables) (op : StateOp) : Tables :=
  match op.run t with
  | .ok t' => t'
  | .error _ => t

/-- The types of the events that an operation can append. -/
def eventTypes : StateOp → List EventType
  | appendEvent _ command => (EventType.ofText? command.eventType).toList
  | approveEnvironmentTransition .. => [.environmentTransitionApproved]
  | persistCapability .. => [.capabilityMinted]
  | revokeCapability .. => []
  | grantDocumentLease .. => [.leaseGranted]
  | prepareDocumentEdit .. => [.documentEditPrepared]
  | commitDocumentEdit .. => [.documentEdited]
  | recoverDocumentEdit .. => [.documentEditRecovered]
  | releaseDocumentLease .. => [.leaseReleased]
  | recoverDocumentLease .. => [.leaseRecovered]
  | enqueueContribution .. => [.contributionSubmitted, .contributionEnqueued]
  | claimNextPromotion .. | advancePromotion .. | heartbeatPromotion .. |
    recoverExpiredPromotion .. => [.promotionStateChanged]
  | preparePromotion .. => [.promotionPrepared]
  | publishPromotion .. => [.declarationPublished, .knowledgeDeltaPublished, .promotionStateChanged]
  | failPromotion .. => [.promotionFailed, .promotionStateChanged]
  | rebasePromotion .. =>
    [.promotionStateChanged, .contributionSubmitted, .contributionEnqueued, .contributionRebased]

/-- The operation that publishes. -/
def publishes : StateOp → Bool
  | publishPromotion .. => true
  | _ => false

end StateOp

/-- The tables after a sequence of operations. -/
def runOps (t : Tables) (ops : List StateOp) : Tables := ops.foldl StateOp.exec t

/-! ## Promotion commands -/

namespace StateService

variable {t t' : Tables} {stamp : Stamp}

/-- The service makes events of one type for changes of state. -/
lemma promotionEvent_makes {e : EventEnvelope} (h : (promotionEvent stamp).Makes e) :
    e.eventType = .promotionStateChanged := by
  obtain ⟨id, state, version, run, owner, he⟩ := h
  obtain ⟨-, htype, -⟩ := makeEvent_ok he
  exact EventType.text_injective htype

lemma queuedEvent_ok {actor contributionId : String} {submitted queued : EventEnvelope}
    (h : queuedEvent stamp actor contributionId submitted = .ok queued) :
    queued.eventType = .contributionEnqueued := by
  obtain ⟨-, htype, -⟩ := makeEvent_ok h
  exact EventType.text_injective htype

lemma enqueueContribution_ok {queuedStamp : Stamp} {submitted : AppendEventCommand}
    {entry : PublicationQueueEntry}
    (h : enqueueContribution t stamp queuedStamp submitted = .ok (t', entry)) :
    ∃ event queued, makeEvent stamp submitted = .ok event ∧
      event.eventType = .contributionSubmitted ∧ queued.eventType = .contributionEnqueued ∧
      enqueue t event queued = .ok (t', entry) := by
  simp only [enqueueContribution, bind_eq_ok, require_eq_ok, orThrow_eq_ok, exists_and_left,
    exists_const] at h
  obtain ⟨event, hevent, htype, id, -, queued, hqueued, h⟩ := h
  exact ⟨event, queued, hevent, htype, queuedEvent_ok hqueued, h⟩

lemma preparePromotion_ok {id owner : String} {prepared : AppendEventCommand}
    {entry : PublicationQueueEntry}
    (h : preparePromotion t stamp id owner prepared = .ok (t', entry)) :
    ∃ event, makeEvent stamp prepared = .ok event ∧ event.eventType = .promotionPrepared ∧
      prepare t id owner event = .ok (t', entry) := by
  simp only [preparePromotion, bind_eq_ok, require_eq_ok, exists_and_left, exists_const] at h
  obtain ⟨event, hevent, htype, -, h⟩ := h
  exact ⟨event, hevent, htype, h⟩

lemma publishPromotion_ok {declarationStamp deltaStamp : Stamp} {now : Datetime}
    {id owner : String} {declaration delta : AppendEventCommand} {entry : PublicationQueueEntry}
    (h : publishPromotion t declarationStamp deltaStamp stamp now id owner declaration delta =
      .ok (t', entry)) :
    ∃ declarationEvent deltaEvent, makeEvent declarationStamp declaration = .ok declarationEvent ∧
      makeEvent deltaStamp delta = .ok deltaEvent ∧
      declarationEvent.eventType = .declarationPublished ∧
      deltaEvent.eventType = .knowledgeDeltaPublished ∧
      declarationEvent.text? "contribution_id" = some id ∧
      deltaEvent.text? "contribution_id" = some id ∧
      State.publishPromotion t id owner now declarationEvent deltaEvent (promotionEvent stamp) =
        .ok (t', entry) := by
  simp only [publishPromotion, bind_eq_ok, require_eq_ok, exists_and_left, exists_const] at h
  obtain ⟨declarationEvent, hdeclaration, deltaEvent, hdelta, htype, htype', hid, hid', h⟩ := h
  exact ⟨_, _, hdeclaration, hdelta, htype, htype', hid, hid', h⟩

lemma failPromotion_ok {failureStamp : Stamp} {now : Datetime} {id owner : String}
    {failure : AppendEventCommand} {entry : PublicationQueueEntry}
    (h : failPromotion t failureStamp stamp now id owner failure = .ok (t', entry)) :
    ∃ event, makeEvent failureStamp failure = .ok event ∧ event.eventType = .promotionFailed ∧
      State.failPromotion t id owner now event (promotionEvent stamp) = .ok (t', entry) := by
  simp only [failPromotion, bind_eq_ok, require_eq_ok, exists_and_left, exists_const] at h
  obtain ⟨event, hevent, htype, -, h⟩ := h
  exact ⟨event, hevent, htype, h⟩

lemma recoverExpiredPromotion_ok {now : Datetime} {owner : String} {claimTimeout : ℕ}
    {result : Option PublicationQueueEntry}
    (h : recoverExpiredPromotion t stamp now owner claimTimeout = .ok (t', result)) :
    ∃ staleBefore, now.sub? claimTimeout = some staleBefore ∧
      State.recoverExpiredPromotion t owner now staleBefore (promotionEvent stamp) =
        .ok (t', result) := by
  simp only [recoverExpiredPromotion, bind_eq_ok, require_eq_ok, orThrow_eq_ok, exists_and_left,
    exists_const] at h
  obtain ⟨-, staleBefore, hstale, h⟩ := h
  exact ⟨staleBefore, hstale, h⟩

lemma rebasePromotion_ok {submittedStamp rebasedStamp queuedStamp : Stamp} {now : Datetime}
    {id owner : String} {submitted rebased : AppendEventCommand}
    {entries : PublicationQueueEntry × PublicationQueueEntry}
    (h : rebasePromotion t submittedStamp rebasedStamp queuedStamp stamp now id owner submitted
      rebased = .ok (t', entries)) :
    ∃ submittedEvent queued rebasedEvent, makeEvent submittedStamp submitted = .ok submittedEvent ∧
      makeEvent rebasedStamp rebased = .ok rebasedEvent ∧
      submittedEvent.eventType = .contributionSubmitted ∧
      queued.eventType = .contributionEnqueued ∧
      rebase t id owner now submittedEvent queued rebasedEvent (promotionEvent stamp) =
        .ok (t', entries) := by
  simp only [rebasePromotion, bind_eq_ok, require_eq_ok, orThrow_eq_ok, exists_and_left,
    exists_const] at h
  obtain ⟨submittedEvent, hsubmitted, rebasedEvent, hrebased, htype, newId, -, -, queued, hqueued,
    h⟩ := h
  exact ⟨submittedEvent, queued, rebasedEvent, hsubmitted, hrebased, htype, queuedEvent_ok hqueued,
    h⟩

end StateService

/-! ## Effects -/

/-- What an operation did to the store: it appended an event with `_append`, which registers
artifacts, or it appended events that are not about artifacts. -/
inductive OpEffect (t t' : Tables) (types : List EventType) : Prop
  | append {event : EventEnvelope} {record : EventRecord}
      (appended : State.append t event = .ok (t', record)) (typed : event.eventType ∈ types)
  | appends {events : List EventEnvelope} (appends : Appends t t' events)
      (typed : ∀ e ∈ events, e.eventType ∈ types)
      (artifactFree : ∀ e ∈ events, e.eventType ≠ .artifactRegistered)

/-- The log after an operation is a run of appends of its event types. -/
lemma OpEffect.exists_run {t t' : Tables} {types : List EventType} (h : OpEffect t t' types) :
    ∃ events, eventLogSystem.Run t.toEventLog events t'.toEventLog ∧
      ∀ e ∈ events, e.eventType ∈ types := by
  cases h with
  | append appended typed => exact ⟨_, (append_ok appended).1, by simpa using typed⟩
  | appends appends typed _ => exact ⟨_, appends.run, typed⟩

/-- Appending events of a list of types without artifacts. -/
lemma OpEffect.of_types {t t' : Tables} {types : List EventType} {events : List EventEnvelope}
    (h : Appends t t' events) (htypes : ∀ e ∈ events, e.eventType ∈ types)
    (hartifact : EventType.artifactRegistered ∉ types) : OpEffect t t' types :=
  .appends h htypes fun e he htype => hartifact (htype ▸ htypes e he)

namespace StateOp

variable {t t' : Tables}

/-- A successful document operation appends one event of its type. -/
lemma effect_of_command {stamp : Stamp} {command : AppendEventCommand} {event : EventEnvelope}
    {record : EventRecord} {type : EventType} (hevent : makeEvent stamp command = .ok event)
    (htype : command.eventType = type.text) (hartifact : type ≠ .artifactRegistered)
    (h : appendRevoking t event = .ok (t', record)) :
    OpEffect t t' [type] ∧ t'.publicationQueue = t.publicationQueue := by
  obtain ⟨happends, hqueue, -⟩ := appendRevoking_ok h
  obtain ⟨-, htype', -⟩ := makeEvent_ok hevent
  have hevents : event.eventType = type := EventType.text_injective (htype'.trans htype)
  exact ⟨.of_types happends (by simp [hevents]) (by simpa using hartifact.symm), hqueue⟩

/-- What an operation did to the queue: nothing, or what one of the publication calls does.  Only
`publish_promotion` publishes. -/
def QueueEffect (op : StateOp) (t t' : Tables) : Prop :=
  t'.publicationQueue = t.publicationQueue ∨
    ∃ call : PublicationCall, call.run t = .ok t' ∧ call.publishes = op.publishes

lemma QueueEffect.callStep {op : StateOp} (h : QueueEffect op t t')
    (hids : (ids t.publicationQueue).Nodup) :
    CallStep t.publicationQueue t'.publicationQueue := by
  rcases h with h | ⟨call, hrun, -⟩
  · exact Or.inl h
  · exact call.callStep hids hrun

lemma QueueEffect.isPublished {op : StateOp} (h : QueueEffect op t t')
    (hids : (ids t.publicationQueue).Nodup) (hop : op.publishes = false) (id : String) :
    IsPublished t'.publicationQueue id ↔ IsPublished t.publicationQueue id := by
  rcases h with h | ⟨call, hrun, hcall⟩
  · rw [h]
  · exact call.isPublished hids hrun (hcall.trans hop) id

/-- What a successful operation did to the log and to the queue. -/
lemma run_ok {op : StateOp} (hids : (ids t.publicationQueue).Nodup) (h : op.run t = .ok t') :
    OpEffect t t' op.eventTypes ∧ QueueEffect op t t' := by
  have hcall : ∀ call : PublicationCall, call.run t = .ok t' →
      call.publishes = op.publishes → QueueEffect op t t' :=
    fun call hrun hpublishes => Or.inr ⟨call, hrun, hpublishes⟩
  cases op with
  | appendEvent stamp command =>
    simp only [run, State.appendEvent, map_eq_ok, bind_eq_ok, require_eq_ok, exists_and_left,
      exists_const, Prod.exists] at h
    obtain ⟨a, record, ⟨-, event, hevent, happend⟩, rfl⟩ := h
    obtain ⟨-, htype, -⟩ := makeEvent_ok hevent
    have hof : EventType.ofText? command.eventType = some event.eventType := by
      rw [← htype, EventType.ofText?_text]
    exact ⟨.append happend (by simp [eventTypes, hof]), Or.inl (append_ok happend).2⟩
  | approveEnvironmentTransition stamp approved a =>
    simp only [run, State.approveEnvironmentTransition, map_eq_ok, bind_eq_ok, require_eq_ok,
      exists_and_left, exists_const, Prod.exists] at h
    obtain ⟨b, record, ⟨-, -, event, hevent, happend⟩, rfl⟩ := h
    obtain ⟨-, htype, -⟩ := makeEvent_ok hevent
    have hof : event.eventType = .environmentTransitionApproved := EventType.text_injective htype
    exact ⟨.append happend (by simp [eventTypes, hof]), Or.inl (append_ok happend).2⟩
  | persistCapability stamp c =>
    simp only [run, StateService.persistCapability, map_eq_ok, bind_eq_ok, Prod.exists] at h
    obtain ⟨a, record, ⟨event, hevent, hpersist⟩, rfl⟩ := h
    obtain ⟨-, htype, -⟩ := makeEvent_ok hevent
    have hof : event.eventType = .capabilityMinted := EventType.text_injective htype
    obtain ⟨hrun, hqueue, hartifacts, hassociations⟩ := persistCapability_ok hpersist
    exact ⟨.of_types ⟨hrun, hartifacts, hassociations, by simp [hof, isLeaseTerminal]⟩
      (by simp [eventTypes, hof]) (by simp [eventTypes]), Or.inl hqueue⟩
  | revokeCapability tokenHash now =>
    obtain rfl := Except.ok.inj h
    have hnone : Appends t (State.revokeCapability t tokenHash now).1 [] :=
      ⟨.nil _, rfl, rfl, by simp⟩
    exact ⟨.of_types hnone (by simp) (by simp [eventTypes]), Or.inl rfl⟩
  | grantDocumentLease stamp lease path =>
    simp only [run, State.grantDocumentLease, grantLease, map_eq_ok, bind_eq_ok, Prod.exists] at h
    obtain ⟨a, record, ⟨event, hevent, -, -, happend⟩, rfl⟩ := h
    exact (effect_of_command hevent rfl (by decide) happend).imp id Or.inl
  | prepareDocumentEdit stamp access version hash =>
    simp only [run, State.prepareDocumentEdit, prepareEdit, map_eq_ok, bind_eq_ok, pure_eq_ok,
      Prod.exists, Prod.mk.injEq] at h
    obtain ⟨a, p, ⟨_, _, event, hevent, _, _, _, _, _, _, b, record, happend, rfl, _⟩, rfl⟩ := h
    exact (effect_of_command hevent rfl (by decide) happend).imp id Or.inl
  | commitDocumentEdit stamp now preparation hash =>
    simp only [run, State.commitDocumentEdit, commitEdit, map_eq_ok, bind_eq_ok, Prod.exists] at h
    obtain ⟨a, record, ⟨event, hevent, _, _, _, _, _, _, _, _, happend⟩, rfl⟩ := h
    exact (effect_of_command hevent rfl (by decide) happend).imp id Or.inl
  | recoverDocumentEdit stamp preparation =>
    simp only [run, State.recoverDocumentEdit, recoverEdit, map_eq_ok, bind_eq_ok,
      Prod.exists] at h
    obtain ⟨a, record, ⟨event, hevent, _, _, _, _, _, _, happend⟩, rfl⟩ := h
    exact (effect_of_command hevent rfl (by decide) happend).imp id Or.inl
  | releaseDocumentLease stamp runId workerId leaseId =>
    simp only [run, State.releaseDocumentLease, terminateLease, map_eq_ok, bind_eq_ok,
      Prod.exists] at h
    obtain ⟨a, record, ⟨event, hevent, _, _, _, _, _, _, _, _, happend⟩, rfl⟩ := h
    exact (effect_of_command hevent rfl (by decide) happend).imp id Or.inl
  | recoverDocumentLease stamp lease =>
    simp only [run, State.recoverDocumentLease, terminateLease, map_eq_ok, bind_eq_ok,
      Prod.exists] at h
    obtain ⟨a, record, ⟨event, hevent, _, _, _, _, _, _, _, _, happend⟩, rfl⟩ := h
    exact (effect_of_command hevent rfl (by decide) happend).imp id Or.inl
  | enqueueContribution stamp queuedStamp submitted =>
    simp only [run, map_eq_ok, Prod.exists] at h
    obtain ⟨a, entry, h, rfl⟩ := h
    obtain ⟨event, queued, -, htype, hqueued, h⟩ := StateService.enqueueContribution_ok h
    refine ⟨?_, hcall (.enqueue event queued) (by simp [PublicationCall.run, h]) rfl⟩
    rcases enqueue_ok h with rfl | ⟨happends, -⟩
    · exact .of_types (.refl _) (by simp) (by simp [eventTypes])
    · exact .of_types happends (by simp [eventTypes, htype, hqueued]) (by simp [eventTypes])
  | claimNextPromotion stamp now owner =>
    simp only [run, map_eq_ok, Prod.exists] at h
    obtain ⟨a, result, h, rfl⟩ := h
    refine ⟨?_, hcall (.claimNext owner now (StateService.promotionEvent stamp))
      (map_eq_ok.2 ⟨_, h, rfl⟩) rfl⟩
    rcases claimNext_ok hids h with ⟨rfl, -⟩ | ⟨row, e, entry, -, -, -, -, he, happends, -⟩
    · exact .of_types (.refl _) (by simp) (by simp [eventTypes])
    · exact .of_types happends (by simp [eventTypes, StateService.promotionEvent_makes he])
        (by simp [eventTypes])
  | advancePromotion stamp now id owner target =>
    simp only [run, map_eq_ok, Prod.exists] at h
    obtain ⟨a, entry, h, rfl⟩ := h
    refine ⟨?_, hcall (.advance id owner target now (StateService.promotionEvent stamp))
      (map_eq_ok.2 ⟨_, h, rfl⟩) rfl⟩
    obtain ⟨row, e, he, -, -, hchange⟩ := advance_ok hids h
    exact .of_types hchange.appends (by simp [eventTypes, StateService.promotionEvent_makes he])
      (by simp [eventTypes])
  | heartbeatPromotion stamp now id owner =>
    simp only [run, map_eq_ok, Prod.exists] at h
    obtain ⟨a, entry, h, rfl⟩ := h
    refine ⟨?_, hcall (.heartbeat id owner now (StateService.promotionEvent stamp))
      (map_eq_ok.2 ⟨_, h, rfl⟩) rfl⟩
    obtain ⟨row, e, he, hchange⟩ := heartbeat_ok hids h
    exact .of_types hchange.appends (by simp [eventTypes, StateService.promotionEvent_makes he])
      (by simp [eventTypes])
  | preparePromotion stamp id owner prepared =>
    simp only [run, map_eq_ok, Prod.exists] at h
    obtain ⟨a, entry, h, rfl⟩ := h
    obtain ⟨event, -, htype, h⟩ := StateService.preparePromotion_ok h
    refine ⟨?_, hcall (.prepare id owner event) (by simp [PublicationCall.run, h]) rfl⟩
    obtain ⟨-, -, -, -, ⟨-, happends⟩ | ⟨rfl, -⟩⟩ := prepare_ok h
    · exact .of_types happends (by simp [eventTypes, htype]) (by simp [eventTypes])
    · exact .of_types (.refl _) (by simp) (by simp [eventTypes])
  | publishPromotion declarationStamp deltaStamp stamp now id owner declaration delta =>
    simp only [run, map_eq_ok, Prod.exists] at h
    obtain ⟨a, entry, h, rfl⟩ := h
    obtain ⟨declarationEvent, deltaEvent, -, -, htype, htype', -, -, h⟩ :=
      StateService.publishPromotion_ok h
    refine ⟨?_, hcall (.publishPromotion id owner now declarationEvent deltaEvent
      (StateService.promotionEvent stamp)) (map_eq_ok.2 ⟨_, h, rfl⟩) rfl⟩
    obtain ⟨row, e, he, -, -, hchange⟩ := publishPromotion_ok hids h
    exact .of_types hchange.appends
      (by simp [eventTypes, htype, htype', StateService.promotionEvent_makes he])
      (by simp [eventTypes])
  | failPromotion failureStamp stamp now id owner failure =>
    simp only [run, map_eq_ok, Prod.exists] at h
    obtain ⟨a, entry, h, rfl⟩ := h
    obtain ⟨event, -, htype, h⟩ := StateService.failPromotion_ok h
    refine ⟨?_, hcall (.failPromotion id owner now event (StateService.promotionEvent stamp))
      (map_eq_ok.2 ⟨_, h, rfl⟩) rfl⟩
    obtain ⟨row, e, he, -, hchange⟩ := failPromotion_ok hids h
    exact .of_types hchange.appends
      (by simp [eventTypes, htype, StateService.promotionEvent_makes he]) (by simp [eventTypes])
  | recoverExpiredPromotion stamp now owner claimTimeout =>
    simp only [run, map_eq_ok, Prod.exists] at h
    obtain ⟨a, result, h, rfl⟩ := h
    obtain ⟨staleBefore, -, h⟩ := StateService.recoverExpiredPromotion_ok h
    refine ⟨?_, hcall (.recoverExpiredPromotion owner now staleBefore
      (StateService.promotionEvent stamp)) (map_eq_ok.2 ⟨_, h, rfl⟩) rfl⟩
    rcases recoverExpiredPromotion_ok hids h with ⟨rfl, -⟩ |
      ⟨row, e, entry, -, -, -, -, he, happends, -⟩
    · exact .of_types (.refl _) (by simp) (by simp [eventTypes])
    · exact .of_types happends (by simp [eventTypes, StateService.promotionEvent_makes he])
        (by simp [eventTypes])
  | rebasePromotion submittedStamp rebasedStamp queuedStamp stamp now id owner submitted rebased =>
    simp only [run, map_eq_ok, Prod.exists] at h
    obtain ⟨a, entry, entry', h, rfl⟩ := h
    obtain ⟨submittedEvent, queued, rebasedEvent, -, -, htype, hqueued, h⟩ :=
      StateService.rebasePromotion_ok h
    refine ⟨?_, hcall (.rebase id owner now submittedEvent queued rebasedEvent
      (StateService.promotionEvent stamp)) (map_eq_ok.2 ⟨_, h, rfl⟩) rfl⟩
    obtain ⟨row, e, newId, he, -, hrebased, -, -, -, -, -, -, happends, -⟩ := rebase_ok hids h
    exact .of_types happends
      (by simp [eventTypes, htype, hqueued, hrebased, StateService.promotionEvent_makes he])
      (by simp [eventTypes])

/-- The log after an operation that is carried out as far as it succeeds. -/
lemma exists_run_exec (hids : (ids t.publicationQueue).Nodup) (op : StateOp) :
    ∃ events, eventLogSystem.Run t.toEventLog events (op.exec t).toEventLog ∧
      ∀ e ∈ events, e.eventType ∈ op.eventTypes := by
  unfold exec
  split
  · rename_i t' hrun
    exact (run_ok hids hrun).1.exists_run
  · exact ⟨[], .nil _, by simp⟩

end StateOp

end Aizim.State
