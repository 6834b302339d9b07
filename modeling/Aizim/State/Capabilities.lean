import Aizim.State.DocumentProtocol

/-!
# Capabilities in the store

`capabilityRecord` is how the service looks a capability up by the hash of its token.  A row of the
table is what `capabilityRow` writes of a record, so a look-up reads back the record.

`Revokes` is what an operation may do to the rows: it may revoke one that is not revoked, and
nothing else.  `tokens_of_run` says that every operation of the service but `persist_capability`
does no more, and `terminateLease_revokes` that the end of a lease revokes the capabilities of its
run that are bound to it.
-/

namespace Aizim.State

open JsonValue JsonObject Domain TransitionSystem

/-! ## Reading a capability -/

/-- The exception of a malformed capability, for the first field that is. -/
def invalidCapability (tokenHash runId workerId role : String) (leaseId : Option String) :
    StoreError :=
  if isSha256 tokenHash = false then .capability "token_hash" "must be a lowercase SHA-256 hash"
  else if runId = "" then .capability "run_id" "must be a non-empty string"
  else if workerId = "" then .capability "worker_id" "must be a non-empty string"
  else if role = "" then .capability "role" "must be a non-empty string"
  else if leaseId = some "" then .capability "lease_id" "must be a non-empty string when present"
  else .capability "operations" "must be unique non-empty strings"

/-- The constructor of `CapabilityRecord`. -/
def CapabilityRecord.create (tokenHash runId workerId role : String) (leaseId : Option String)
    (operations : List String) (expiresAt : Datetime) (revokedAt : Option Datetime) :
    Except StoreError CapabilityRecord :=
  if h : isSha256 tokenHash = true ∧ (runId ≠ "" ∧ workerId ≠ "" ∧ role ≠ "") ∧
      leaseId ≠ some "" ∧ operations ≠ [] ∧ "" ∉ operations ∧ operations.Nodup then
    .ok ⟨tokenHash, runId, workerId, role, leaseId, operations, expiresAt, revokedAt, h.1, h.2.1,
      h.2.2.1, h.2.2.2⟩
  else .error (invalidCapability tokenHash runId workerId role leaseId)

lemma CapabilityRecord.create_self (c : CapabilityRecord) :
    create c.tokenHash c.runId c.workerId c.role c.leaseId c.operations c.expiresAt c.revokedAt =
      .ok c :=
  dif_pos ⟨c.tokenHash_valid, c.names_ne, c.leaseId_ne, c.operations_valid⟩

lemma CapabilityRecord.create_ok {tokenHash runId workerId role : String}
    {leaseId : Option String} {operations : List String} {expiresAt : Datetime}
    {revokedAt : Option Datetime} {c : CapabilityRecord}
    (h : create tokenHash runId workerId role leaseId operations expiresAt revokedAt = .ok c) :
    c.tokenHash = tokenHash ∧ c.runId = runId ∧ c.workerId = workerId ∧ c.role = role ∧
      c.leaseId = leaseId ∧ c.operations = operations ∧ c.expiresAt = expiresAt ∧
      c.revokedAt = revokedAt := by
  unfold create at h
  split at h
  · obtain rfl := Except.ok.inj h
    simp
  · simp at h

/-- `_parse_timestamp` -/
def capabilityTime (text field : String) : Except StoreError Datetime :=
  orThrow (Datetime.parse? text) (.capability field "must be canonical UTC RFC 3339")

/-- The time of a revocation, if there is one. -/
def revocationTime : Option String → Except StoreError (Option Datetime)
  | none => .ok none
  | some text => some <$> capabilityTime text "revoked_at"

/-- The text of a stored operation. -/
def operationText : JsonValue → Except StoreError String
  | .str s => .ok s
  | _ => .error (.capability "operations" "stored value must be a JSON string array")

/-- The operations of a stored text. -/
def storedOperations (operations : JsonText) : Except StoreError (List String) :=
  match operations.value with
  | .list values => values.mapM operationText
  | _ => .error (.capability "operations" "stored value must be a JSON string array")

/-- `capability_from_row` -/
def capabilityFromRow (row : CapabilityRow) : Except StoreError CapabilityRecord := do
  let operations ← storedOperations row.operationsJson
  let expiresAt ← capabilityTime row.expiresAt "expires_at"
  let revokedAt ← revocationTime row.revokedAt
  CapabilityRecord.create row.tokenHash row.runId row.workerId row.role row.leaseId operations
    expiresAt revokedAt

/-- The row of a token hash, which is the primary key. -/
def findToken (rows : List CapabilityRow) (tokenHash : String) : Option CapabilityRow :=
  rows.find? fun row => row.tokenHash == tokenHash

/-- `capability_record` -/
def capabilityRecord (t : Tables) (tokenHash : String) :
    Except StoreError (Option CapabilityRecord) :=
  match findToken t.capabilityTokens tokenHash with
  | none => .ok none
  | some row => some <$> capabilityFromRow row

lemma capabilityTime_text (d : Datetime) (field : String) : capabilityTime d.text field = .ok d := by
  simp [capabilityTime, orThrow]

lemma storedOperations_ofValue (operations : List String) :
    storedOperations (.ofValue (.list (operations.map .str))) = .ok operations := by
  have hcanonical : (operations.map JsonValue.str).map canonical = operations.map JsonValue.str := by
    simp
  have hread : (operations.map JsonValue.str).mapM operationText = .ok operations := by
    induction operations with
    | nil => rfl
    | cons operation operations ih =>
      rw [List.map_cons, List.mapM_cons, ih (by simp), operationText]
      rfl
  simp only [storedOperations, JsonText.ofValue, canonical_list, hcanonical]
  exact hread

/-- A row reads back as the record that was written. -/
lemma capabilityFromRow_capabilityRow (c : CapabilityRecord) :
    capabilityFromRow (capabilityRow c) = .ok c := by
  have hrevoked : revocationTime (c.revokedAt.map (·.text)) = .ok c.revokedAt := by
    cases c.revokedAt with
    | none => rfl
    | some d => simp [revocationTime, capabilityTime_text]
  simp only [capabilityFromRow, capabilityRow, storedOperations_ofValue, capabilityTime_text,
    hrevoked, ok_bind]
  exact c.create_self

/-- What a record says of the row it was read from. -/
lemma capabilityFromRow_ok {row : CapabilityRow} {c : CapabilityRecord}
    (h : capabilityFromRow row = .ok c) :
    row.runId = c.runId ∧ row.leaseId = c.leaseId ∧
      row.revokedAt.isSome = c.revokedAt.isSome := by
  simp only [capabilityFromRow, bind_eq_ok] at h
  obtain ⟨operations, -, expiresAt, -, revokedAt, hrevoked, hcreate⟩ := h
  obtain ⟨-, hrun, -, -, hlease, -, -, hrevokedAt⟩ := CapabilityRecord.create_ok hcreate
  refine ⟨hrun.symm, hlease.symm, ?_⟩
  rw [hrevokedAt]
  cases htext : row.revokedAt with
  | none =>
    rw [htext] at hrevoked
    simp [revocationTime] at hrevoked
    simp [← hrevoked]
  | some text =>
    rw [htext] at hrevoked
    simp only [revocationTime, map_eq_ok] at hrevoked
    obtain ⟨d, -, rfl⟩ := hrevoked
    rfl

lemma capabilityRecord_eq_some {t : Tables} {tokenHash : String} {c : CapabilityRecord}
    (h : capabilityRecord t tokenHash = .ok (some c)) :
    ∃ row, findToken t.capabilityTokens tokenHash = some row ∧ capabilityFromRow row = .ok c := by
  unfold capabilityRecord at h
  split at h
  · simp at h
  · rename_i row hrow
    simp only [map_eq_ok, Option.some.injEq, exists_eq_right] at h
    exact ⟨row, hrow, h⟩

/-! ## What may happen to rows -/

/-- The row is as it was, or it was not revoked and now is. -/
def Revoked (row row' : CapabilityRow) : Prop :=
  row' = row ∨ row.revokedAt = none ∧
    ∃ revokedAt : Datetime, row' = { row with revokedAt := some revokedAt.text }

lemma Revoked.trans {r s u : CapabilityRow} (h : Revoked r s) (h' : Revoked s u) : Revoked r u := by
  rcases h with rfl | ⟨hnone, d, rfl⟩
  · exact h'
  · rcases h' with rfl | ⟨hsome, -⟩
    · exact Or.inr ⟨hnone, d, rfl⟩
    · simp at hsome

/-- Rows may have been revoked. -/
def Revokes (rows rows' : List CapabilityRow) : Prop := List.Forall₂ Revoked rows rows'

lemma Revokes.refl (rows : List CapabilityRow) : Revokes rows rows :=
  List.forall₂_same.2 fun _ _ => Or.inl rfl

lemma Revokes.of_eq {rows rows' : List CapabilityRow} (h : rows' = rows) : Revokes rows rows' :=
  h ▸ .refl rows

lemma Revokes.trans {r s u : List CapabilityRow} (h : Revokes r s) (h' : Revokes s u) :
    Revokes r u := by
  induction h generalizing u with
  | nil => exact h'
  | cons hrow _ ih =>
    obtain ⟨_, _, hrow', hrest, rfl⟩ := List.forall₂_cons_left_iff.1 h'
    exact .cons (hrow.trans hrow') (ih hrest)

lemma revokes_revokeWhere (rows : List CapabilityRow) (p : CapabilityRow → Bool)
    (revokedAt : Datetime) : Revokes rows (revokeWhere rows p revokedAt) := by
  refine List.forall₂_map_right_iff.2 (List.forall₂_same.2 fun row _ => ?_)
  split
  · rename_i h
    simp only [Bool.and_eq_true, Option.isNone_iff_eq_none] at h
    exact Or.inr ⟨h.2, revokedAt, rfl⟩
  · exact Or.inl rfl

/-! ## What operations do to the rows -/

section

variable [CharacterDatabase] {t t' : Tables} {event : EventEnvelope} {record : EventRecord}

lemma revokes_revokeLeaseCapabilities (h : revokeLeaseCapabilities t event = .ok t') :
    Revokes t.capabilityTokens t'.capabilityTokens := by
  unfold revokeLeaseCapabilities at h
  split at h
  · obtain rfl := pure_eq_ok.1 h
    exact .refl _
  · simp only [bind_eq_ok, pure_eq_ok] at h
    obtain ⟨-, -, -, -, rfl⟩ := h
    exact revokes_revokeWhere _ _ _

lemma tokens_registerArtifact (h : registerArtifact t event = .ok t') :
    t'.capabilityTokens = t.capabilityTokens := by
  unfold registerArtifact at h
  split at h
  · obtain rfl := pure_eq_ok.1 h
    rfl
  · simp only [bind_eq_ok, require_eq_ok, pure_eq_ok] at h
    obtain ⟨-, -, -, -, -, -, -, -, -, -, -, -, -, -, -, -, rfl⟩ := h
    rfl

lemma revokes_append (h : append t event = .ok (t', record)) :
    Revokes t.capabilityTokens t'.capabilityTokens := by
  simp only [append, mapError_eq_ok, appendMutation, bind_eq_ok, pure_eq_ok, Prod.mk.injEq,
    Prod.exists] at h
  obtain ⟨log, record', -, t₁, hartifact, t₂, hrevoke, rfl, rfl⟩ := h
  have hregister := tokens_registerArtifact hartifact
  exact (Revokes.of_eq hregister).trans (revokes_revokeLeaseCapabilities hrevoke)

lemma revokes_appendRevoking (h : appendRevoking t event = .ok (t', record)) :
    Revokes t.capabilityTokens t'.capabilityTokens := by
  simp only [appendRevoking, bind_eq_ok, pure_eq_ok, Prod.exists, Prod.mk.injEq] at h
  obtain ⟨log, record', -, t₁, hrevoke, rfl, rfl⟩ := h
  have hrevokes := revokes_revokeLeaseCapabilities hrevoke
  exact hrevokes

lemma revokes_appendPublication (h : appendPublication t event = .ok t') :
    Revokes t.capabilityTokens t'.capabilityTokens := by
  simp only [appendPublication, map_eq_ok, Prod.exists] at h
  obtain ⟨t₁, record', h, rfl⟩ := h
  exact revokes_appendRevoking h

lemma revokes_appendChange {entry : PublicationQueueEntry} {formerOwner : Option String}
    {factory : EventFactory} (h : appendChange t entry formerOwner factory = .ok t') :
    Revokes t.capabilityTokens t'.capabilityTokens := by
  simp only [appendChange, bind_eq_ok] at h
  obtain ⟨run, -, change, -, h⟩ := h
  exact revokes_appendPublication h

omit [CharacterDatabase] in
lemma tokens_updateEntry {current entry : PublicationQueueEntry} {owner : String}
    {claimedAt : Datetime} {target : PublicationQueueState}
    (h : updateEntry t current owner claimedAt target = .ok (t', entry)) :
    t'.capabilityTokens = t.capabilityTokens := by
  simp only [updateEntry, bind_eq_ok, pure_eq_ok, Prod.mk.injEq] at h
  obtain ⟨-, -, -, -, rfl, -⟩ := h
  rfl

omit [CharacterDatabase] in
lemma tokens_insertQueued {id : String} (h : insertQueued t id = .ok t') :
    t'.capabilityTokens = t.capabilityTokens := by
  simp only [insertQueued, bind_eq_ok, pure_eq_ok] at h
  obtain ⟨-, -, rfl⟩ := h
  rfl

/-- Calls of the publication store revoke at most. -/
lemma PublicationCall.revokes {call : PublicationCall} (h : call.run t = .ok t') :
    Revokes t.capabilityTokens t'.capabilityTokens := by
  cases call with
  | enqueue submitted queued =>
    simp only [run, State.enqueue, map_eq_ok, bind_eq_ok, Prod.exists] at h
    obtain ⟨t₄, entry, ⟨id, -, -, -, queuedId, -, -, -, h⟩, rfl⟩ := h
    split at h
    · simp only [bind_eq_ok, pure_eq_ok, Prod.mk.injEq] at h
      obtain ⟨-, -, -, -, rfl, -⟩ := h
      exact .refl _
    · simp only [bind_eq_ok, pure_eq_ok, Prod.mk.injEq] at h
      obtain ⟨t₁, h₁, t₂, h₂, t₃, h₃, -, -, rfl, -⟩ := h
      exact ((revokes_appendPublication h₁).trans (.of_eq (tokens_insertQueued h₂))).trans
        (revokes_appendPublication h₃)
  | claimNext owner claimedAt event =>
    simp only [run, State.claimNext, map_eq_ok, Prod.exists] at h
    obtain ⟨t₃, entry, h, rfl⟩ := h
    split at h
    · obtain ⟨rfl, -⟩ := Prod.mk.inj (pure_eq_ok.1 h)
      exact .refl _
    · split at h
      · obtain ⟨rfl, -⟩ := Prod.mk.inj (pure_eq_ok.1 h)
        exact .refl _
      · simp only [bind_eq_ok, pure_eq_ok, Prod.exists, Prod.mk.injEq] at h
        obtain ⟨current, -, t₁, claimed, h₁, t₂, h₂, rfl, -⟩ := h
        exact (Revokes.of_eq (tokens_updateEntry h₁)).trans (revokes_appendChange h₂)
  | advance id owner target changedAt event =>
    simp only [run, State.advance, map_eq_ok, bind_eq_ok, pure_eq_ok, Prod.exists, Prod.mk.injEq] at h
    obtain ⟨t₃, entry, ⟨-, -, current, -, -, -, -, -, t₁, changed, h₁, t₂, h₂, rfl, -⟩, rfl⟩ := h
    exact (Revokes.of_eq (tokens_updateEntry h₁)).trans (revokes_appendChange h₂)
  | heartbeat id owner changedAt event =>
    simp only [run, State.heartbeat, map_eq_ok, bind_eq_ok, pure_eq_ok, Prod.exists, Prod.mk.injEq] at h
    obtain ⟨t₃, entry, ⟨current, -, -, -, t₁, changed, h₁, t₂, h₂, rfl, -⟩, rfl⟩ := h
    exact (Revokes.of_eq (tokens_updateEntry h₁)).trans (revokes_appendChange h₂)
  | prepare id owner prepared =>
    simp only [run, State.prepare, map_eq_ok, bind_eq_ok, Prod.exists] at h
    obtain ⟨t₂, entry, ⟨current, -, -, -, -, -, h⟩, rfl⟩ := h
    split at h
    · simp only [bind_eq_ok, pure_eq_ok, Prod.mk.injEq] at h
      obtain ⟨t₁, h₁, rfl, -⟩ := h
      exact revokes_appendPublication h₁
    · simp only [bind_eq_ok, pure_eq_ok, Prod.mk.injEq] at h
      obtain ⟨-, -, rfl, -⟩ := h
      exact .refl _
  | publishPromotion id owner changedAt declaration delta event =>
    simp only [run, State.publishPromotion, map_eq_ok, bind_eq_ok, pure_eq_ok, Prod.exists,
      Prod.mk.injEq] at h
    obtain ⟨t₅, entry, ⟨current, -, -, -, -, -, t₁, published, h₁, t₂, h₂, t₃, h₃, change, -, t₄, h₄,
      rfl, -⟩, rfl⟩ := h
    exact (((Revokes.of_eq (tokens_updateEntry h₁)).trans (revokes_appendPublication h₂)).trans
      (revokes_appendPublication h₃)).trans (revokes_appendPublication h₄)
  | failPromotion id owner changedAt failure event =>
    simp only [run, State.failPromotion, map_eq_ok, bind_eq_ok, pure_eq_ok, Prod.exists,
      Prod.mk.injEq] at h
    obtain ⟨t₄, entry, ⟨current, -, -, -, t₁, quarantined, h₁, t₂, h₂, change, -, t₃, h₃, rfl, -⟩,
      rfl⟩ := h
    exact ((Revokes.of_eq (tokens_updateEntry h₁)).trans (revokes_appendPublication h₂)).trans
      (revokes_appendPublication h₃)
  | recoverExpiredPromotion owner now staleBefore event =>
    simp only [run, State.recoverExpiredPromotion, map_eq_ok, Prod.exists] at h
    obtain ⟨t₃, entry, h, rfl⟩ := h
    split at h
    · obtain ⟨rfl, -⟩ := Prod.mk.inj (pure_eq_ok.1 h)
      exact .refl _
    · simp only [bind_eq_ok, pure_eq_ok, Prod.exists, Prod.mk.injEq] at h
      obtain ⟨current, -, t₁, recovered, h₁, t₂, h₂, rfl, -⟩ := h
      exact (Revokes.of_eq (tokens_updateEntry h₁)).trans (revokes_appendChange h₂)
  | rebase id owner changedAt submitted queued rebased event =>
    simp only [run, State.rebase, map_eq_ok, bind_eq_ok, pure_eq_ok, Prod.exists, Prod.mk.injEq] at h
    obtain ⟨t₇, entry, entry', ⟨current, -, newId, -, -, -, queuedId, -, -, -, -, -, t₁, quarantined,
      h₁, run, -, change, -, t₂, h₂, t₃, h₃, t₄, h₄, t₅, h₅, t₆, h₆, -, -, rfl, -⟩, rfl⟩ := h
    exact (((((Revokes.of_eq (tokens_updateEntry h₁)).trans (revokes_appendPublication h₂)).trans
      (revokes_appendPublication h₃)).trans (.of_eq (tokens_insertQueued h₄))).trans
      (revokes_appendPublication h₅)).trans (revokes_appendPublication h₆)

/-- The operations that insert a capability. -/
def StateOp.insertsCapability : StateOp → Bool
  | persistCapability .. => true
  | _ => false

/-- Operations other than `persist_capability` revoke at most. -/
lemma StateOp.revokes_of_run {op : StateOp} (h : op.run t = .ok t')
    (hop : op.insertsCapability = false) : Revokes t.capabilityTokens t'.capabilityTokens := by
  have hcall : ∀ {α : Type} {x : Except StoreError (Tables × α)} {a : α} (call : PublicationCall),
      call.run t = Prod.fst <$> x → x = .ok (t', a) →
        Revokes t.capabilityTokens t'.capabilityTokens := by
    rintro α x a call hrun rfl
    exact call.revokes hrun
  cases op with
  | persistCapability _ _ => simp [insertsCapability] at hop
  | revokeCapability tokenHash now =>
    obtain rfl := Except.ok.inj h
    exact revokes_revokeWhere _ _ _
  | appendEvent stamp command =>
    simp only [run, State.appendEvent, map_eq_ok, bind_eq_ok, Prod.exists] at h
    obtain ⟨t₁, record, ⟨-, -, event, -, happend⟩, rfl⟩ := h
    exact revokes_append happend
  | approveEnvironmentTransition stamp approved a =>
    simp only [run, State.approveEnvironmentTransition, map_eq_ok, bind_eq_ok, require_eq_ok,
      exists_and_left, exists_const, Prod.exists] at h
    obtain ⟨t₁, record, ⟨-, -, event, -, happend⟩, rfl⟩ := h
    exact revokes_append happend
  | grantDocumentLease stamp lease path =>
    simp only [run, State.grantDocumentLease, grantLease, map_eq_ok, bind_eq_ok, Prod.exists] at h
    obtain ⟨t₁, record, ⟨event, -, -, -, happend⟩, rfl⟩ := h
    exact revokes_appendRevoking happend
  | prepareDocumentEdit stamp access version hash =>
    simp only [run, State.prepareDocumentEdit, prepareEdit, map_eq_ok, bind_eq_ok, pure_eq_ok,
      Prod.exists, Prod.mk.injEq] at h
    obtain ⟨t₁, preparation, ⟨-, -, event, -, -, -, -, -, -, -, t₂, record, happend, rfl, -⟩,
      rfl⟩ := h
    exact revokes_appendRevoking happend
  | commitDocumentEdit stamp now preparation hash =>
    simp only [run, State.commitDocumentEdit, commitEdit, map_eq_ok, bind_eq_ok, Prod.exists] at h
    obtain ⟨t₁, record, ⟨event, -, -, -, -, -, -, -, -, -, happend⟩, rfl⟩ := h
    exact revokes_appendRevoking happend
  | recoverDocumentEdit stamp preparation =>
    simp only [run, State.recoverDocumentEdit, recoverEdit, map_eq_ok, bind_eq_ok,
      Prod.exists] at h
    obtain ⟨t₁, record, ⟨event, -, -, -, -, -, -, -, happend⟩, rfl⟩ := h
    exact revokes_appendRevoking happend
  | releaseDocumentLease stamp runId workerId leaseId =>
    simp only [run, State.releaseDocumentLease, terminateLease, map_eq_ok, bind_eq_ok,
      Prod.exists] at h
    obtain ⟨t₁, record, ⟨event, -, -, -, -, -, -, -, -, -, happend⟩, rfl⟩ := h
    exact revokes_appendRevoking happend
  | recoverDocumentLease stamp lease =>
    simp only [run, State.recoverDocumentLease, terminateLease, map_eq_ok, bind_eq_ok,
      Prod.exists] at h
    obtain ⟨t₁, record, ⟨event, -, -, -, -, -, -, -, -, -, happend⟩, rfl⟩ := h
    exact revokes_appendRevoking happend
  | enqueueContribution stamp queuedStamp submitted =>
    simp only [run, map_eq_ok, Prod.exists] at h
    obtain ⟨t₁, entry, h, rfl⟩ := h
    obtain ⟨event, queued, -, -, -, h⟩ := StateService.enqueueContribution_ok h
    exact hcall (.enqueue event queued) rfl h
  | claimNextPromotion stamp now owner =>
    simp only [run, map_eq_ok, Prod.exists] at h
    obtain ⟨t₁, entry, h, rfl⟩ := h
    exact hcall (.claimNext owner now (StateService.promotionEvent stamp)) rfl h
  | advancePromotion stamp now id owner target =>
    simp only [run, map_eq_ok, Prod.exists] at h
    obtain ⟨t₁, entry, h, rfl⟩ := h
    exact hcall (.advance id owner target now (StateService.promotionEvent stamp)) rfl h
  | heartbeatPromotion stamp now id owner =>
    simp only [run, map_eq_ok, Prod.exists] at h
    obtain ⟨t₁, entry, h, rfl⟩ := h
    exact hcall (.heartbeat id owner now (StateService.promotionEvent stamp)) rfl h
  | preparePromotion stamp id owner prepared =>
    simp only [run, map_eq_ok, Prod.exists] at h
    obtain ⟨t₁, entry, h, rfl⟩ := h
    obtain ⟨event, -, -, h⟩ := StateService.preparePromotion_ok h
    exact hcall (.prepare id owner event) rfl h
  | publishPromotion declarationStamp deltaStamp stamp now id owner declaration delta =>
    simp only [run, map_eq_ok, Prod.exists] at h
    obtain ⟨t₁, entry, h, rfl⟩ := h
    obtain ⟨declarationEvent, deltaEvent, -, -, -, -, -, -, h⟩ := StateService.publishPromotion_ok h
    exact hcall (.publishPromotion id owner now declarationEvent deltaEvent
      (StateService.promotionEvent stamp)) rfl h
  | failPromotion failureStamp stamp now id owner failure =>
    simp only [run, map_eq_ok, Prod.exists] at h
    obtain ⟨t₁, entry, h, rfl⟩ := h
    obtain ⟨event, -, -, h⟩ := StateService.failPromotion_ok h
    exact hcall (.failPromotion id owner now event (StateService.promotionEvent stamp)) rfl h
  | recoverExpiredPromotion stamp now owner claimTimeout =>
    simp only [run, map_eq_ok, Prod.exists] at h
    obtain ⟨t₁, entry, h, rfl⟩ := h
    obtain ⟨staleBefore, -, h⟩ := StateService.recoverExpiredPromotion_ok h
    exact hcall (.recoverExpiredPromotion owner now staleBefore
      (StateService.promotionEvent stamp)) rfl h
  | rebasePromotion submittedStamp rebasedStamp queuedStamp stamp now id owner submitted rebased =>
    simp only [run, map_eq_ok, Prod.exists] at h
    obtain ⟨t₁, entry, entry', h, rfl⟩ := h
    obtain ⟨submittedEvent, queued, rebasedEvent, -, -, -, -, h⟩ :=
      StateService.rebasePromotion_ok h
    exact hcall (.rebase id owner now submittedEvent queued rebasedEvent
      (StateService.promotionEvent stamp)) rfl h

/-- `persist_capability` adds the row of the capability, whose token is new. -/
lemma tokens_persistCapability {stamp : Stamp} {c : CapabilityRecord}
    (h : (StateOp.persistCapability stamp c).run t = .ok t') :
    c.tokenHash ∉ t.capabilityTokens.map (·.tokenHash) ∧
      t'.capabilityTokens = t.capabilityTokens ++ [capabilityRow c] := by
  simp only [StateOp.run, StateService.persistCapability, State.persistCapability,
    insertCapability, map_eq_ok, mapError_eq_ok, bind_eq_ok, require_eq_ok, pure_eq_ok,
    Prod.mk.injEq, Prod.exists] at h
  obtain ⟨t₁, record, ⟨event, -, t₂, ⟨-, hnew, rfl⟩, log, record', -, rfl, -⟩, rfl⟩ := h
  exact ⟨hnew, rfl⟩

/-! ## Looking a token up -/

omit [CharacterDatabase] in
lemma findToken_some {rows : List CapabilityRow} {tokenHash : String} {row : CapabilityRow}
    (h : findToken rows tokenHash = some row) : row ∈ rows ∧ row.tokenHash = tokenHash :=
  ⟨List.mem_of_find?_eq_some h, by simpa using List.find?_some h⟩

omit [CharacterDatabase] in
/-- The row of a token stays, and is at most revoked. -/
lemma Revokes.findToken {rows rows' : List CapabilityRow} (h : Revokes rows rows')
    {tokenHash : String} {row : CapabilityRow} (hrow : findToken rows tokenHash = some row) :
    ∃ row', State.findToken rows' tokenHash = some row' ∧ Revoked row row' := by
  induction h with
  | nil => simp [State.findToken] at hrow
  | @cons r r' rows rows' hrevoked _ ih =>
    have hsame : r'.tokenHash = r.tokenHash := by
      rcases hrevoked with rfl | ⟨-, d, rfl⟩ <;> rfl
    by_cases hr : r.tokenHash = tokenHash
    · obtain rfl : r = row := by simpa [State.findToken, hr] using hrow
      exact ⟨r', by simp [State.findToken, hsame, hr], hrevoked⟩
    · have hrest : State.findToken rows tokenHash = some row := by
        simpa [State.findToken, hr] using hrow
      obtain ⟨row', hrow', hrevoked'⟩ := ih hrest
      exact ⟨row', by simpa [State.findToken, hsame, hr] using hrow', hrevoked'⟩

omit [CharacterDatabase] in
lemma findToken_append {rows : List CapabilityRow} {tokenHash : String} {row : CapabilityRow}
    (h : findToken rows tokenHash = some row) (new : List CapabilityRow) :
    findToken (rows ++ new) tokenHash = some row := by
  simp only [findToken, List.find?_append] at h ⊢
  simp [h]

/-! ## The end of a lease -/

/-- The lease is active, and its run is this one. -/
def LeaseHeld (t : Tables) (runId leaseId : String) : Prop :=
  ∃ lease, findLease t.projections leaseId = .ok lease ∧ lease.active = true ∧ lease.runId = runId

/-- All capabilities of the run that are bound to the lease are revoked. -/
def LeaseVoid (t : Tables) (runId leaseId : String) : Prop :=
  ∀ row ∈ t.capabilityTokens, row.runId = runId → row.leaseId = some leaseId →
    row.revokedAt.isSome = true

/-- The event of the end of a lease revokes the capabilities of the lease. -/
lemma leaseVoid_of_appendRevoking (h : appendRevoking t event = .ok (t', record))
    (htype : isLeaseTerminal event.eventType = true) {runId leaseId : String}
    (hrun : event.runId = some runId) (hlease : event.text? "lease_id" = some leaseId) :
    LeaseVoid t' runId leaseId := by
  simp only [appendRevoking, bind_eq_ok, pure_eq_ok, Prod.exists, Prod.mk.injEq] at h
  obtain ⟨log, record', -, t₁, hrevoke, rfl, rfl⟩ := h
  unfold revokeLeaseCapabilities at hrevoke
  rw [if_neg (by simp [htype])] at hrevoke
  simp only [hrun, hlease, orThrow, ok_bind, pure_eq_ok] at hrevoke
  subst hrevoke
  intro row hrow hrowRun hrowLease
  simp only [revokeWhere, List.mem_map] at hrow
  obtain ⟨old, hold, rfl⟩ := hrow
  split at hrowRun
  · rename_i hrevoked
    rw [if_pos hrevoked]
    rfl
  · rename_i hkept
    rw [if_neg hkept] at hrowLease ⊢
    simpa [hrowRun, hrowLease, Option.isSome_iff_ne_none] using hkept

/-- An event leaves the leases that it does not name. -/
lemma findLease_of_apply {log log' : EventLog} {snapshot : EventRecord}
    (h : applyEventMutation log event log.projections = .ok (log', snapshot)) {leaseId : String}
    (hid : leaseId ≠ entityId event) :
    findLease log'.projections leaseId = findLease log.projections leaseId := by
  obtain ⟨payload, -, hprojections⟩ := projections_of_apply h
  have hkept : findRecord log'.projections .leases leaseId =
      findRecord log.projections .leases leaseId := by
    rw [hprojections]
    refine findRecord_foldl_of_ne _ fun r hr hsame => ?_
    rcases List.mem_cons.1 hr with rfl | hr
    · exact hid hsame.2
    · rcases List.mem_append.1 hr with hr | hr
      · split at hr
        · rw [List.mem_singleton.1 hr] at hsame
          exact absurd hsame.1 (by simp [makeRecord])
        · simp at hr
      · split at hr
        · rw [List.mem_singleton.1 hr] at hsame
          exact absurd hsame.1 (by simp [makeRecord])
        · rw [List.mem_singleton.1 hr] at hsame
          exact absurd hsame.1 (by simp [makeRecord])
        · simp at hr
  simp only [findLease, hkept]

/-- Ending a lease that is held revokes its capabilities. -/
lemma LeaseHeld.void {runId leaseId eventRun reason : String} {workerId : Option String}
    (hheld : LeaseHeld t runId leaseId)
    (htype : isLeaseTerminal event.eventType = true) (hrun : event.runId = some eventRun)
    (hpayload : event.payload = [("lease_id", .str leaseId), ("reason_code", .str reason)])
    (h : State.terminateLease t eventRun workerId leaseId event = .ok (t', record)) :
    LeaseVoid t' runId leaseId := by
  obtain ⟨lease, hlease, hactive, rfl⟩ := hheld
  simp only [State.terminateLease, bind_eq_ok, require_eq_ok, exists_and_left,
    exists_const] at h
  obtain ⟨ended, hended, -, hendedRun, -, happend⟩ := h
  have htext : event.text? "lease_id" = some leaseId := by
    simp [EventEnvelope.text?, hpayload, Research.str?]
  obtain rfl := Except.ok.inj (hlease.symm.trans hended)
  exact leaseVoid_of_appendRevoking happend htype (hendedRun ▸ hrun) htext

/-- Ending a lease by an event that names it: another lease stays, and of this one the capabilities
are revoked. -/
lemma LeaseHeld.terminateLease {runId leaseId endedId eventRun reason : String}
    {workerId : Option String} (hdec : DecodesDocuments t.projections)
    (hheld : LeaseHeld t runId leaseId)
    (htype : isLeaseTerminal event.eventType = true) (hrun : event.runId = some eventRun)
    (hpayload : event.payload = [("lease_id", .str endedId), ("reason_code", .str reason)])
    (h : State.terminateLease t eventRun workerId endedId event = .ok (t', record)) :
    LeaseHeld t' runId leaseId ∨ LeaseVoid t' runId leaseId := by
  by_cases hid : leaseId = endedId
  · subst hid
    exact Or.inr (hheld.void htype hrun hpayload h)
  · obtain ⟨lease, hlease, hactive, rfl⟩ := hheld
    simp only [State.terminateLease, bind_eq_ok, require_eq_ok, exists_and_left,
      exists_const] at h
    obtain ⟨ended, hended, -, hendedRun, -, happend⟩ := h
    have htext : event.text? "lease_id" = some endedId := by
      simp [EventEnvelope.text?, hpayload, Research.str?]
    obtain ⟨-, -, record', happly⟩ := appendRevoking_ok happend
    have hne : endedId ≠ "" := by
      have hview := findLease_eq_ok.1 hended
      obtain ⟨row, -, hread⟩ := leases_eq_some.1 hview
      exact hdec.leaseId_eq hview ▸ (leaseFromProjection_ok hread).1.leaseId_ne
    have hentity : entityId event = endedId := by
      unfold entityId
      revert htype
      cases event.eventType <;> simp [isLeaseTerminal, EventType.entityField, htext, hne]
    exact Or.inl ⟨lease, (findLease_of_apply happly (hentity ▸ hid)).trans hlease, hactive, rfl⟩

/-- A lease that is held stays so when another one is granted, since its id is taken. -/
lemma LeaseHeld.grantDocumentLease {runId leaseId : String} {stamp : Stamp} {lease : FileLease}
    {path : PosixPath} (hdec : DecodesDocuments t.projections) (hheld : LeaseHeld t runId leaseId)
    (h : State.grantDocumentLease t stamp lease path = .ok (t', record)) :
    LeaseHeld t' runId leaseId := by
  obtain ⟨held, hlease, hactive, rfl⟩ := hheld
  simp only [State.grantDocumentLease, grantLease, bind_eq_ok] at h
  obtain ⟨event, hevent, _, hgrant, happend⟩ := h
  obtain ⟨-, htype, -, -, -, -, hpayload⟩ := makeEvent_ok hevent
  have htype : event.eventType = .leaseGranted := EventType.text_injective htype
  simp only [validateGrant, bind_eq_ok, require_eq_ok, exists_and_left, exists_const] at hgrant
  obtain ⟨-, -, -, -, -, -, leases, hleases, hids, -⟩ := hgrant
  obtain ⟨leases', hleases', hmem, -⟩ := activeLeases_eq_ok hdec
  obtain rfl := Except.ok.inj (hleases.symm.trans hleases')
  have hview := findLease_eq_ok.1 hlease
  have hid := hdec.leaseId_eq hview
  have hother : held.leaseId ≠ lease.leaseId := hids held ((hmem held).2 ⟨hid ▸ hview, hactive⟩)
  have htext : event.text? "lease_id" = some lease.leaseId := by
    simp [EventEnvelope.text?, hpayload, leasePayload, LeaseState.payload, Research.str?]
  have hentity : entityId event = lease.leaseId := by
    simp [entityId, htype, EventType.entityField, htext, lease.names_ne.1]
  obtain ⟨-, -, record', happly⟩ := appendRevoking_ok happend
  rw [hid] at hother
  exact ⟨held, (findLease_of_apply happly (hentity ▸ hother)).trans hlease, hactive, rfl⟩

omit [CharacterDatabase] in
/-- An edit leaves the leases. -/
lemma DocumentStep.leases_of_edit {view view' : DocumentView} {a : EditAction String String String}
    (h : DocumentStep view a view') (hidle : a ≠ .idle)
    (hcreate : ∀ key version hash, a ≠ .create key version hash) : view'.leases = view.leases := by
  cases h with
  | keep => rfl
  | grant _ _ _ => exact absurd rfl (hcreate _ _ _)
  | prepare _ _ => rfl
  | commit _ _ => rfl
  | recover _ _ => rfl
  | terminate _ => exact absurd rfl hidle

omit [CharacterDatabase] in
/-- A view with the same leases. -/
lemma LeaseHeld.of_leases {runId leaseId : String} (hheld : LeaseHeld t runId leaseId)
    (h : (documentView t'.projections).leases = (documentView t.projections).leases) :
    LeaseHeld t' runId leaseId := by
  obtain ⟨lease, hlease, hactive, hrun⟩ := hheld
  rw [findLease_eq_ok, ← h, ← findLease_eq_ok] at hlease
  exact ⟨lease, hlease, hactive, hrun⟩

/-- What an operation does to a lease that is held: it stays so, or its capabilities are revoked. -/
lemma LeaseHeld.exec {runId leaseId : String} (hinv : DocumentInvariant t)
    (hheld : LeaseHeld t runId leaseId) (op : DocumentOp) :
    LeaseHeld (op.1.exec t) runId leaseId ∨ LeaseVoid (op.1.exec t) runId leaseId := by
  obtain ⟨op, hop⟩ := op
  unfold StateOp.exec
  simp only
  split
  swap
  · exact Or.inl hheld
  rename_i t' hrun
  cases hdocument : op.isDocumentOp with
  | false =>
    have hwrites := hop.resolve_left (by simp [hdocument])
    obtain ⟨heffect, -⟩ := StateOp.run_ok hinv.ids_nodup hrun
    obtain ⟨events, hevents, htypes⟩ := heffect.exists_run
    obtain ⟨-, hview⟩ := view_of_run hevents (fun e he => by
      have h := List.any_eq_false.1 hwrites _ (htypes e he)
      simpa using h) hinv.decodes
    exact Or.inl (hheld.of_leases (by rw [hview]))
  | true =>
    cases op with
    | grantDocumentLease stamp lease path =>
      simp only [StateOp.run, map_eq_ok, Prod.exists] at hrun
      obtain ⟨a, record, h, rfl⟩ := hrun
      exact Or.inl (hheld.grantDocumentLease hinv.decodes h)
    | prepareDocumentEdit stamp access version hash =>
      simp only [StateOp.run, map_eq_ok, Prod.exists] at hrun
      obtain ⟨a, preparation, h, rfl⟩ := hrun
      obtain ⟨event, -, -, -, -, -, -, hcall⟩ := prepareDocumentEdit_ok hinv.decodes h
      exact Or.inl (hheld.of_leases (hcall.step.leases_of_edit (by simp) (by simp)))
    | commitDocumentEdit stamp now preparation hash =>
      simp only [StateOp.run, map_eq_ok, Prod.exists] at hrun
      obtain ⟨a, record, h, rfl⟩ := hrun
      obtain ⟨event, document, -, -, -, -, -, hcall⟩ := commitDocumentEdit_ok hinv.decodes h
      exact Or.inl (hheld.of_leases (hcall.step.leases_of_edit (by simp) (by simp)))
    | recoverDocumentEdit stamp preparation =>
      simp only [StateOp.run, map_eq_ok, Prod.exists] at hrun
      obtain ⟨a, record, h, rfl⟩ := hrun
      obtain ⟨event, document, -, -, -, -, hcall⟩ := recoverDocumentEdit_ok hinv.decodes h
      exact Or.inl (hheld.of_leases (hcall.step.leases_of_edit (by simp) (by simp)))
    | releaseDocumentLease stamp eventRun workerId endedId =>
      simp only [StateOp.run, State.releaseDocumentLease, map_eq_ok, bind_eq_ok,
        Prod.exists] at hrun
      obtain ⟨a, record, ⟨event, hevent, hterminate⟩, rfl⟩ := hrun
      obtain ⟨-, htype, -, -, heventRun, -, hpayload⟩ := makeEvent_ok hevent
      replace htype : event.eventType = .leaseReleased := EventType.text_injective htype
      exact hheld.terminateLease hinv.decodes (by rw [htype]; rfl) heventRun hpayload hterminate
    | recoverDocumentLease stamp lease =>
      simp only [StateOp.run, State.recoverDocumentLease, map_eq_ok, bind_eq_ok,
        Prod.exists] at hrun
      obtain ⟨a, record, ⟨event, hevent, hterminate⟩, rfl⟩ := hrun
      obtain ⟨-, htype, -, -, heventRun, -, hpayload⟩ := makeEvent_ok hevent
      replace htype : event.eventType = .leaseRecovered := EventType.text_injective htype
      exact hheld.terminateLease hinv.decodes (by rw [htype]; rfl) heventRun hpayload hterminate
    | _ => simp [StateOp.isDocumentOp] at hdocument

/-- The operations that end a lease. -/
def StateOp.endsLease (leaseId : String) : StateOp → Prop
  | releaseDocumentLease _ _ _ id => id = leaseId
  | recoverDocumentLease _ lease => lease.leaseId = leaseId
  | _ => False

/-- An operation that ends a lease revokes its capabilities. -/
lemma LeaseHeld.void_of_run {runId leaseId : String} {op : StateOp}
    (hheld : LeaseHeld t runId leaseId) (hop : op.endsLease leaseId) (h : op.run t = .ok t') :
    LeaseVoid t' runId leaseId := by
  cases op with
  | releaseDocumentLease stamp eventRun workerId id =>
    obtain rfl : id = leaseId := hop
    simp only [StateOp.run, State.releaseDocumentLease, map_eq_ok, bind_eq_ok, Prod.exists] at h
    obtain ⟨a, record, ⟨event, hevent, hterminate⟩, rfl⟩ := h
    obtain ⟨-, htype, -, -, hrun, -, hpayload⟩ := makeEvent_ok hevent
    replace htype : event.eventType = .leaseReleased := EventType.text_injective htype
    exact hheld.void (by rw [htype]; rfl) hrun hpayload hterminate
  | recoverDocumentLease stamp lease =>
    obtain rfl : lease.leaseId = leaseId := hop
    simp only [StateOp.run, State.recoverDocumentLease, map_eq_ok, bind_eq_ok, Prod.exists] at h
    obtain ⟨a, record, ⟨event, hevent, hterminate⟩, rfl⟩ := h
    obtain ⟨-, htype, -, -, hrun, -, hpayload⟩ := makeEvent_ok hevent
    replace htype : event.eventType = .leaseRecovered := EventType.text_injective htype
    exact hheld.void (by rw [htype]; rfl) hrun hpayload hterminate
  | _ => exact hop.elim

/-- What an operation does to the row of a token: it stays, and is at most revoked. -/
lemma findToken_exec {tokenHash : String} {row : CapabilityRow}
    (hrow : findToken t.capabilityTokens tokenHash = some row) (op : StateOp) :
    ∃ row', findToken (op.exec t).capabilityTokens tokenHash = some row' ∧ Revoked row row' := by
  unfold StateOp.exec
  split
  swap
  · exact ⟨row, hrow, Or.inl rfl⟩
  rename_i t' hrun
  cases hinserts : op.insertsCapability with
  | false => exact (op.revokes_of_run hrun hinserts).findToken hrow
  | true =>
    cases op with
    | persistCapability stamp c =>
      rw [(tokens_persistCapability hrun).2]
      exact ⟨row, findToken_append hrow _, Or.inl rfl⟩
    | _ => simp [StateOp.insertsCapability] at hinserts

end

end Aizim.State
