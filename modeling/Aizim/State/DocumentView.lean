import Mathlib.Data.List.ReduceOption
import Aizim.Framework.VersionedEdits
import Aizim.State.Documents

/-!
# What the document operations do

`documentView` reads the leases and documents of the projection table as two partial functions, and
`DecodesDocuments` says that every record of them can be read.  For each operation of the service
one lemma says how a successful call changes the view, `grantDocumentLease_ok` to
`terminateLease_ok`; an event of any other kind leaves it (`documentView_of_other`).

The records of leases and documents are written by one event each, whose payload the operation has
compared with what it read.  So the lemmas rest on `leaseFields_payload`, the round trip of a lease
through its payload, and on `leaseFields_congr`: only the fields of a payload matter, not its order
or the fields that an event adds.
-/

namespace Aizim.State

open JsonValue JsonObject Domain TransitionSystem

/-! ## Reading payloads -/

lemma textField_eq_ok {payload : JsonObject} {name value : String} :
    textField payload name = .ok value ↔ getEntry name payload = some (.str value) ∧ value ≠ "" := by
  simp only [textField, bind_eq_ok, orThrow_eq_ok, require_eq_ok, pure_eq_ok, exists_and_left,
    exists_const, Research.str?_eq_some]
  constructor
  · rintro ⟨v, hv, hne, rfl⟩
    exact ⟨hv, hne⟩
  · rintro ⟨hv, hne⟩
    exact ⟨value, hv, hne, rfl⟩

lemma integerField_eq_ok {payload : JsonObject} {name : String} {value : ℕ} :
    integerField payload name = .ok value ↔ getEntry name payload = some (.int value) := by
  unfold integerField
  split
  · rename_i i hi
    rw [hi]
    split
    · rename_i hnonneg
      simp only [Except.ok.injEq, Option.some.injEq, JsonValue.int.injEq]
      omega
    · rename_i hneg
      simp only [reduceCtorEq, Option.some.injEq, JsonValue.int.injEq, false_iff]
      omega
  · rename_i hnone
    simp only [reduceCtorEq, false_iff]
    exact fun h => hnone _ h

lemma hashField_eq_ok {payload : JsonObject} {name value : String}
    {valid : isSha256 value = true} :
    hashField payload name = .ok ⟨value, valid⟩ ↔ getEntry name payload = some (.str value) := by
  have hne : value ≠ "" := by
    rintro rfl
    exact absurd valid (by decide)
  simp only [hashField, bind_eq_ok, textField_eq_ok]
  constructor
  · rintro ⟨v, ⟨hv, -⟩, h⟩
    split at h
    · obtain rfl : v = value := by simpa using h
      exact hv
    · simp at h
  · intro h
    exact ⟨value, ⟨h, hne⟩, by simp [valid]⟩

lemma timestampField_eq_ok {payload : JsonObject} {value : Datetime} :
    timestampField payload = .ok value ↔ getEntry "expires_at" payload = some (.str value.text) := by
  simp only [timestampField, orThrow_eq_ok]
  rcases getEntry "expires_at" payload with _ | v
  · simp [Research.str?]
  · cases v with
    | str s =>
      simp only [Research.str?, Option.bind_some, Option.some.injEq, JsonValue.str.injEq]
      exact ⟨fun h => (Datetime.text_of_parse? h).symm, fun h => h ▸ Datetime.parse?_text value⟩
    | _ => simp [Research.str?]

/-- The payload has the fields of the lease. -/
structure LeaseState.Fields (lease : LeaseState) (payload : JsonObject) : Prop where
  leaseId : getEntry "lease_id" payload = some (.str lease.leaseId)
  workerId : getEntry "worker_id" payload = some (.str lease.workerId)
  documentId : getEntry "document_id" payload = some (.str lease.documentId)
  relativePath : ∃ path ≠ "", getEntry "relative_path" payload = some (.str path) ∧
    PosixPath.ofText path = lease.relativePath
  virtualDocumentNamespace : getEntry "virtual_document_namespace" payload =
    some (.str lease.virtualDocumentNamespace)
  baseEpoch : getEntry "base_epoch" payload = some (.str lease.epochPair.baseEpoch)
  knowledgeEpoch : getEntry "knowledge_epoch" payload = some (.int lease.epochPair.knowledgeEpoch)
  version : getEntry "version" payload = some (.int lease.fileVersion)
  contentHash : getEntry "content_hash" payload = some (.str lease.contentHash)
  expiresAt : getEntry "expires_at" payload = some (.str lease.expiresAt.text)

/-- The texts of a lease that its readers ask for. -/
structure LeaseState.Valid (lease : LeaseState) : Prop where
  leaseId_ne : lease.leaseId ≠ ""
  workerId_ne : lease.workerId ≠ ""
  documentId_ne : lease.documentId ≠ ""
  virtualDocumentNamespace_ne : lease.virtualDocumentNamespace ≠ ""
  contentHash_valid : isSha256 lease.contentHash = true

/-- A lease is read from the payloads that have its fields. -/
lemma leaseFields_eq_ok {runId : String} {active : Bool} {payload : JsonObject}
    {lease : LeaseState} :
    leaseFields runId active payload = .ok lease ↔
      lease.runId = runId ∧ lease.active = active ∧ lease.Valid ∧ lease.Fields payload := by
  constructor
  · intro h
    simp only [leaseFields, bind_eq_ok, textField_eq_ok, integerField_eq_ok, timestampField_eq_ok,
      pure_eq_ok, Subtype.exists, hashField_eq_ok] at h
    obtain ⟨leaseId, ⟨hlease, hlease'⟩, workerId, ⟨hworker, hworker'⟩, documentId,
      ⟨hdocument, hdocument'⟩, path, ⟨hpath, hpath'⟩, ns, ⟨hns, hns'⟩, base, hbase, hbase', epoch,
      hepoch, version, hversion, hash, hhash, hhash', expires, hexpires, rfl⟩ := h
    exact ⟨rfl, rfl, ⟨hlease', hworker', hdocument', hns', hhash⟩,
      ⟨hlease, hworker, hdocument, ⟨path, hpath', hpath, rfl⟩, hns, hbase', hepoch, hversion,
        hhash', hexpires⟩⟩
  · rintro ⟨rfl, rfl, hvalid, hfields⟩
    obtain ⟨path, hpath, hentry, hof⟩ := hfields.relativePath
    simp only [leaseFields, bind_eq_ok, textField_eq_ok, integerField_eq_ok, timestampField_eq_ok,
      pure_eq_ok, Subtype.exists, hashField_eq_ok]
    exact ⟨_, ⟨hfields.leaseId, hvalid.leaseId_ne⟩, _, ⟨hfields.workerId, hvalid.workerId_ne⟩, _,
      ⟨hfields.documentId, hvalid.documentId_ne⟩, path, ⟨hentry, hpath⟩, _,
      ⟨hfields.virtualDocumentNamespace, hvalid.virtualDocumentNamespace_ne⟩, _,
      lease.epochPair.baseEpoch_valid, hfields.baseEpoch, _, hfields.knowledgeEpoch, _,
      hfields.version, _, hvalid.contentHash_valid, hfields.contentHash, _, hfields.expiresAt,
      by rw [hof]⟩

lemma LeaseState.Fields.congr {lease : LeaseState} {p q : JsonObject} (hf : lease.Fields p)
    (h : canonicalEntries p = canonicalEntries q) : lease.Fields q where
  leaseId := getEntry_str_of_congr h hf.leaseId
  workerId := getEntry_str_of_congr h hf.workerId
  documentId := getEntry_str_of_congr h hf.documentId
  relativePath := by
    obtain ⟨path, hpath, hentry, hof⟩ := hf.relativePath
    exact ⟨path, hpath, getEntry_str_of_congr h hentry, hof⟩
  virtualDocumentNamespace := getEntry_str_of_congr h hf.virtualDocumentNamespace
  baseEpoch := getEntry_str_of_congr h hf.baseEpoch
  knowledgeEpoch := getEntry_int_of_congr h hf.knowledgeEpoch
  version := getEntry_int_of_congr h hf.version
  contentHash := getEntry_str_of_congr h hf.contentHash
  expiresAt := getEntry_str_of_congr h hf.expiresAt

/-- Fields that are assigned other names do not matter. -/
lemma LeaseState.Fields.update {lease : LeaseState} {p q : JsonObject} (hf : lease.Fields p)
    (h : ∀ field ∈ documentFields, getEntry field q = none ∨ getEntry field q = getEntry field p) :
    lease.Fields (update p q) := by
  have hget : ∀ field ∈ documentFields, getEntry field (JsonObject.update p q) = getEntry field p := by
    intro field hfield
    rcases h field hfield with hq | hq
    · simp [hq]
    · rw [getEntry_update, hq, Option.or_self]
  constructor
  case relativePath =>
    obtain ⟨path, hpath, hentry, hof⟩ := hf.relativePath
    exact ⟨path, hpath, (hget _ (by decide)).trans hentry, hof⟩
  all_goals rw [hget _ (by decide)]
  exacts [hf.leaseId, hf.workerId, hf.documentId, hf.virtualDocumentNamespace, hf.baseEpoch,
    hf.knowledgeEpoch, hf.version, hf.contentHash, hf.expiresAt]

/-- The payload of a lease has its fields. -/
lemma LeaseState.fields_payload (lease : LeaseState) : lease.Fields lease.payload := by
  constructor
  case relativePath =>
    exact ⟨_, lease.relativePath.asPosix_ne, by simp [LeaseState.payload],
      PosixPath.ofText_asPosix _⟩
  all_goals simp [LeaseState.payload]

/-- A document at another version and content. -/
def DocumentState.withContent (document : DocumentState) (version : ℕ) (contentHash : String)
    (preparedEventId : Option String) : DocumentState :=
  { document with
    fileVersion := version
    contentHash := contentHash
    preparedEventId := preparedEventId }

lemma DocumentState.fields_payloadAt (document : DocumentState) (version : ℕ)
    (contentHash : String) (preparedEventId : Option String) :
    (document.withContent version contentHash preparedEventId).lease.Fields
      (document.payloadAt version contentHash) := by
  have h := document.lease.fields_payload
  constructor
  case relativePath =>
    obtain ⟨path, hpath, hentry, hof⟩ := h.relativePath
    exact ⟨path, hpath, by simpa [payloadAt, DocumentState.payload] using hentry, hof⟩
  all_goals simp only [payloadAt, getEntry_set, DocumentState.payload, withContent, lease]
  all_goals simp only [String.reduceEq, if_true, if_false]
  exacts [h.leaseId, h.workerId, h.documentId, h.virtualDocumentNamespace, h.baseEpoch,
    h.knowledgeEpoch, h.expiresAt]

lemma DocumentState.fields_expectedPayload (document : DocumentState) (eventType : EventType)
    (version : ℕ) (contentHash : String) (preparedEventId : Option String) :
    (document.withContent version contentHash preparedEventId).lease.Fields
      (expectedPayload document eventType version contentHash) := by
  have h := document.fields_payloadAt version contentHash preparedEventId
  unfold expectedPayload
  split
  · refine h.update fun field hfield => Or.inl (getEntry_eq_none_iff.2 ?_)
    simp only [List.map_cons, List.map_nil]
    revert field
    decide
  · exact h

/-! ## Reading records -/

variable [CharacterDatabase]

omit [CharacterDatabase] in
/-- A lease that was read has the fields of its record's payload. -/
lemma leaseFromProjection_ok {row : ProjectionRow} {lease : LeaseState}
    (h : leaseFromProjection row = .ok lease) :
    lease.Valid ∧ ∃ payload, lease.Fields payload ∧
      (row.state?.bind fun raw => object? (getEntry "payload" raw)) = some payload := by
  simp only [leaseFromProjection, bind_eq_ok, Prod.exists] at h
  obtain ⟨eventType, run, payload, hrecord, runId, -, hfields⟩ := h
  obtain ⟨-, -, hvalid, hfields⟩ := leaseFields_eq_ok.1 hfields
  simp only [recordPayload, bind_eq_ok, orThrow_eq_ok, pure_eq_ok, Prod.mk.injEq] at hrecord
  obtain ⟨raw, hraw, -, -, -, -, payload', hpayload, -, -, rfl⟩ := hrecord
  exact ⟨hvalid, payload', hfields, by rw [hraw]; exact hpayload⟩

omit [CharacterDatabase] in
/-- A document that was read is valid. -/
lemma documentFromProjection_ok {row : ProjectionRow} {document : DocumentState}
    (h : documentFromProjection row = .ok document) : document.lease.Valid := by
  simp only [documentFromProjection, bind_eq_ok, pure_eq_ok, Prod.exists] at h
  obtain ⟨eventType, run, payload, -, runId, -, eventId, -, lease, hfields, rfl⟩ := h
  obtain ⟨-, -, hvalid, -⟩ := leaseFields_eq_ok.1 hfields
  exact ⟨hvalid.1, hvalid.2, hvalid.3, hvalid.4, hvalid.5⟩

/-- A record holds the type, the run and the payload of its event. -/
lemma recordPayload_eventState {row : ProjectionRow} {event : EventEnvelope} {payload : JsonObject}
    (h : row.stateJson = .ofObject (eventState event payload)) :
    recordPayload row = .ok (event.eventType.text, event.runId, canonicalEntries payload) := by
  have hrun : optionalTextField ((some (optionalText event.runId)).map canonical) =
      .ok event.runId := by
    cases event.runId <;> rfl
  simp only [recordPayload, ProjectionRow.state?, h, JsonText.object?_ofObject, bind_eq_ok,
    orThrow_eq_ok, pure_eq_ok]
  refine ⟨_, rfl, _, ?_, _, ?_, _, ?_, rfl⟩
  · simp [eventState, Research.str?]
  · simpa [eventState] using hrun
  · simp [eventState, object?]

lemma eventId_eventState {row : ProjectionRow} {event : EventEnvelope} {payload : JsonObject}
    (h : row.stateJson = .ofObject (eventState event payload)) :
    (row.state?.bind fun raw => Research.str? (getEntry "event_id" raw)) = some event.eventId := by
  simp [ProjectionRow.state?, h, eventState, Research.str?]

/-- The lease that the record of an event holds. -/
lemma leaseFromProjection_eventState {row : ProjectionRow} {event : EventEnvelope}
    {payload : JsonObject} (h : row.stateJson = .ofObject (eventState event payload))
    {lease : LeaseState} (hrun : event.runId = some lease.runId)
    (hactive : lease.active = (event.eventType == .leaseGranted)) (hvalid : lease.Valid)
    (hfields : lease.Fields payload) : leaseFromProjection row = .ok lease := by
  have htype : (event.eventType.text == "LeaseGranted") = lease.active := by
    rw [hactive]
    cases event.eventType <;> decide
  simp only [leaseFromProjection, recordPayload_eventState h, ok_bind, hrun, orThrow, htype]
  exact leaseFields_eq_ok.2 ⟨rfl, rfl, hvalid, hfields.congr (by simp)⟩

/-- The document that the record of an event holds. -/
lemma documentFromProjection_eventState {row : ProjectionRow} {event : EventEnvelope}
    {payload : JsonObject} (h : row.stateJson = .ofObject (eventState event payload))
    {document : DocumentState} (hrun : event.runId = some document.runId)
    (hprepared : document.preparedEventId =
      if event.eventType = .documentEditPrepared then some event.eventId else none)
    (hvalid : document.lease.Valid) (hfields : document.lease.Fields payload) :
    documentFromProjection row = .ok document := by
  have htype : event.eventType.text = "DocumentEditPrepared" ↔
      event.eventType = .documentEditPrepared := by
    cases event.eventType <;> decide
  have hlease : leaseFields document.runId true (canonicalEntries payload) = .ok document.lease :=
    leaseFields_eq_ok.2 ⟨rfl, rfl, hvalid, hfields.congr (by simp)⟩
  simp only [documentFromProjection, recordPayload_eventState h, eventId_eventState h, ok_bind,
    hrun, orThrow, hlease, htype, ← hprepared]
  rfl

/-- The records of documents are those of document events. -/
lemma isDocumentStateProjection_eventState {row : ProjectionRow} {event : EventEnvelope}
    {payload : JsonObject} (h : row.stateJson = .ofObject (eventState event payload))
    (htype : event.eventType = .leaseGranted ∨ event.eventType.projection = .documents) :
    isDocumentStateProjection row = .ok true := by
  have hmem : documentStateEventTypes.contains event.eventType.text = true := by
    revert htype
    cases event.eventType <;> decide
  simp only [isDocumentStateProjection, recordPayload_eventState h, ok_bind, hmem]
  rfl

/-! ## The view -/

omit [CharacterDatabase]

/-- The leases and the documents of the store. -/
structure DocumentView where
  leases : String → Option LeaseState
  documents : String → Option DocumentState

/-- The leases and the documents that can be read from a table. -/
def documentView (table : ProjectionTable) : DocumentView where
  leases id := (findLease table id).toOption
  documents id := (findDocument table id).toOption

/-- Every record of a lease or a document can be read, and is filed under its id. -/
structure DecodesDocuments (table : ProjectionTable) : Prop where
  leases : ∀ id row, findRecord table .leases id = some row →
    ∃ lease, leaseFromProjection row = .ok lease ∧ lease.leaseId = id
  documents : ∀ id row, findRecord table .documents id = some row →
    isDocumentStateProjection row = .ok true ∧
      ∃ document, documentFromProjection row = .ok document ∧ document.documentId = id

/-- No two active leases are for one document or one path. -/
def DocumentView.Exclusive (view : DocumentView) : Prop :=
  ∀ i j l m, view.leases i = some l → view.leases j = some m → l.active = true →
    m.active = true → l.documentId = m.documentId ∨ l.relativePath = m.relativePath → i = j

variable {table : ProjectionTable}

lemma leases_eq_some {id : String} {lease : LeaseState} :
    (documentView table).leases id = some lease ↔
      ∃ row, findRecord table .leases id = some row ∧ leaseFromProjection row = .ok lease := by
  simp only [documentView, toOption_eq_some, findLease, bind_eq_ok, orThrow_eq_ok]

lemma documents_eq_some {id : String} {document : DocumentState} :
    (documentView table).documents id = some document ↔
      ∃ row, findRecord table .documents id = some row ∧
        documentFromProjection row = .ok document := by
  simp only [documentView, toOption_eq_some, findDocument, bind_eq_ok, orThrow_eq_ok]

lemma findLease_eq_ok {id : String} {lease : LeaseState} :
    findLease table id = .ok lease ↔ (documentView table).leases id = some lease :=
  toOption_eq_some.symm

lemma findDocument_eq_ok {id : String} {document : DocumentState} :
    findDocument table id = .ok document ↔ (documentView table).documents id = some document :=
  toOption_eq_some.symm

namespace DecodesDocuments

variable (h : DecodesDocuments table)

include h

lemma leaseId_eq {id : String} {lease : LeaseState}
    (hlease : (documentView table).leases id = some lease) : lease.leaseId = id := by
  obtain ⟨row, hrow, hread⟩ := leases_eq_some.1 hlease
  obtain ⟨lease', hread', hid⟩ := h.leases id row hrow
  rw [hread] at hread'
  obtain rfl := Except.ok.inj hread'
  exact hid

lemma documentId_eq {id : String} {document : DocumentState}
    (hdocument : (documentView table).documents id = some document) :
    document.documentId = id := by
  obtain ⟨row, hrow, hread⟩ := documents_eq_some.1 hdocument
  obtain ⟨-, document', hread', hid⟩ := h.documents id row hrow
  rw [hread] at hread'
  obtain rfl := Except.ok.inj hread'
  exact hid

lemma documents_eq_none {id : String} :
    (documentView table).documents id = none ↔ findRecord table .documents id = none := by
  cases hrow : findRecord table .documents id with
  | none => simp [documentView, findDocument, hrow, orThrow, Except.toOption]
  | some row =>
    obtain ⟨-, document, hread, -⟩ := h.documents id row hrow
    have hsome := documents_eq_some.2 ⟨row, hrow, hread⟩
    simp [hsome]

end DecodesDocuments

/-! ## Queries -/

/-- The entries of a projection, by entity. -/
lemma mem_rowsOf {projection : ProjectionName} {row : ProjectionRow} :
    row ∈ rowsOf table projection ↔ ∃ id, findRecord table projection id = some row := by
  simp only [rowsOf, List.mem_map, List.mem_filter, beq_iff_eq, findRecord, ← table.mem_entries_iff]
  constructor
  · rintro ⟨⟨⟨p, id⟩, row⟩, ⟨hmem, rfl⟩, rfl⟩
    exact ⟨id, hmem⟩
  · rintro ⟨id, hmem⟩
    exact ⟨_, ⟨hmem, rfl⟩, rfl⟩

/-- Two rows of a projection belong to two entities. -/
lemma pairwise_rowsOf (table : ProjectionTable) (projection : ProjectionName) :
    (rowsOf table projection).Pairwise fun r s => ∃ i j, i ≠ j ∧
      findRecord table projection i = some r ∧ findRecord table projection j = some s := by
  refine List.pairwise_map.2 (((table.sorted.filter _).imp_of_mem ?_))
  rintro ⟨⟨p, i⟩, r⟩ ⟨⟨q, j⟩, s⟩ hr hs hlt
  simp only [List.mem_filter, beq_iff_eq] at hr hs
  obtain ⟨hr, rfl⟩ := hr
  obtain ⟨hs, rfl⟩ := hs
  refine ⟨i, j, ?_, (table.mem_entries_iff).1 hr, (table.mem_entries_iff).1 hs⟩
  rintro rfl
  exact lt_irrefl _ hlt

/-- Reading the rows of a projection, when each can be read and holds at most one value, filed under
its key: the values are those of the rows, each once. -/
lemma mapM_rowsOf {β : Type} {f : ProjectionRow → Except StoreError (Option β)} (key : β → String)
    {table : ProjectionTable} {projection : ProjectionName}
    (h : ∀ id row, findRecord table projection id = some row →
      ∃ y, f row = .ok y ∧ ∀ b, y = some b → key b = id) :
    ∃ ys, (rowsOf table projection).mapM f = .ok ys ∧
      (∀ b, b ∈ ys.reduceOption ↔
        ∃ row, findRecord table projection (key b) = some row ∧ f row = .ok (some b)) ∧
      ys.reduceOption.Pairwise fun a b => key a ≠ key b := by
  have hkey : ∀ id row b, findRecord table projection id = some row → f row = .ok (some b) →
      key b = id := by
    intro id row b hid hb
    obtain ⟨y, hy, hid'⟩ := h id row hid
    exact hid' b (Except.ok.inj (hy.symm.trans hb))
  have hread : ∀ row ∈ rowsOf table projection, ∃ y, f row = .ok y := by
    intro row hrow
    obtain ⟨id, hid⟩ := mem_rowsOf.1 hrow
    obtain ⟨y, hy, -⟩ := h id row hid
    exact ⟨y, hy⟩
  obtain ⟨ys, hys⟩ := exists_mapM_eq_ok hread
  have hall := mapM_eq_ok.1 hys
  refine ⟨ys, hys, fun b => ?_, ?_⟩
  · rw [List.reduceOption_mem_iff]
    constructor
    · intro hb
      obtain ⟨row, hrow, hread⟩ := exists_of_forall₂ hall hb
      obtain ⟨id, hid⟩ := mem_rowsOf.1 hrow
      obtain rfl := hkey id row b hid hread
      exact ⟨row, hid, hread⟩
    · rintro ⟨row, hid, hread⟩
      obtain ⟨y, hy, hrow⟩ := exists_of_forall₂_left hall (mem_rowsOf.2 ⟨_, hid⟩)
      obtain rfl := Except.ok.inj (hread.symm.trans hrow)
      exact hy
  · have hpairwise : ys.Pairwise fun x y => ∀ a, x = some a → ∀ b, y = some b → key a ≠ key b := by
      refine pairwise_of_forall₂ (fun r s x y hx hy hrs a ha b hb => ?_) hall
        (pairwise_rowsOf table projection)
      obtain ⟨i, j, hij, hi, hj⟩ := hrs
      subst ha hb
      rw [hkey i r a hi hx, hkey j s b hj hy]
      exact hij
    exact List.pairwise_filterMap.2 (hpairwise.imp fun hxy a ha b hb => hxy a ha b hb)

/-- A row that can be read gives its lease when it is active. -/
lemma activeLease_of_ok {row : ProjectionRow} {lease : LeaseState}
    (h : leaseFromProjection row = .ok lease) :
    activeLease row = .ok (if lease.active = true then some lease else none) := by
  have hread := h
  simp only [leaseFromProjection, bind_eq_ok, orThrow_eq_ok, Prod.exists] at h
  obtain ⟨eventType, run, payload, hpayload, runId, -, hfields⟩ := h
  obtain ⟨-, hactive, -⟩ := leaseFields_eq_ok.1 hfields
  rw [hactive]
  by_cases htype : eventType = "LeaseGranted"
  · simp [activeLease, isActiveDocumentLeaseProjection, hpayload, hread, htype, pure, Except.pure]
  · simp [activeLease, isActiveDocumentLeaseProjection, hpayload, htype, pure, Except.pure]

/-- The query returns the active leases of the view, each once. -/
lemma activeLeases_eq_ok (h : DecodesDocuments table) :
    ∃ leases, activeLeases table = .ok leases ∧
      (∀ l, l ∈ leases ↔ (documentView table).leases l.leaseId = some l ∧ l.active = true) ∧
      leases.Pairwise fun l m => l.leaseId ≠ m.leaseId := by
  have hactive : ∀ id row, findRecord table .leases id = some row →
      ∃ found, activeLease row = .ok found ∧ ∀ lease, found = some lease → lease.leaseId = id := by
    intro id row hid
    obtain ⟨lease, hlease, hleaseId⟩ := h.leases id row hid
    refine ⟨_, activeLease_of_ok hlease, fun l hl => ?_⟩
    split at hl
    · obtain rfl := Option.some.inj hl
      exact hleaseId
    · simp at hl
  obtain ⟨found, hfound, hmem, hpairwise⟩ := mapM_rowsOf LeaseState.leaseId hactive
  refine ⟨found.reduceOption, by simp [activeLeases, hfound], fun l => ?_, hpairwise⟩
  rw [hmem, leases_eq_some]
  constructor
  · rintro ⟨row, hid, hread⟩
    obtain ⟨lease, hlease, -⟩ := h.leases _ row hid
    rw [activeLease_of_ok hlease] at hread
    split at hread
    · rename_i hactive
      obtain rfl : lease = l := by simpa using hread
      exact ⟨⟨row, hid, hlease⟩, hactive⟩
    · simp at hread
  · rintro ⟨⟨row, hid, hread⟩, hactive⟩
    exact ⟨row, hid, by rw [activeLease_of_ok hread, if_pos hactive]⟩

/-- The query returns the documents of the view with a prepared edit, each once. -/
lemma preparedDocuments_eq_ok (h : DecodesDocuments table) :
    ∃ documents, preparedDocuments table = .ok documents ∧
      (∀ d, d ∈ documents ↔ (documentView table).documents d.documentId = some d ∧
        d.preparedEventId.any (· ≠ "") = true) ∧
      documents.Pairwise fun d e => d.documentId ≠ e.documentId := by
  have hstate : ∀ id row, findRecord table .documents id = some row →
      ∃ document, documentState row = .ok (some document) ∧
        documentFromProjection row = .ok document ∧ document.documentId = id := by
    intro id row hid
    obtain ⟨hisState, document, hread, hdocumentId⟩ := h.documents id row hid
    exact ⟨document, by simp [documentState, hisState, hread], hread, hdocumentId⟩
  have hfiled : ∀ id row, findRecord table .documents id = some row →
      ∃ found, documentState row = .ok found ∧ ∀ d, found = some d → d.documentId = id := by
    intro id row hid
    obtain ⟨document, hdocument, -, hdocumentId⟩ := hstate id row hid
    exact ⟨_, hdocument, fun d hd => Option.some.inj hd ▸ hdocumentId⟩
  obtain ⟨found, hfound, hmem, hpairwise⟩ := mapM_rowsOf DocumentState.documentId hfiled
  refine ⟨_, by rw [preparedDocuments, hfound]; rfl, fun d => ?_, hpairwise.filter _⟩
  rw [List.mem_filter, hmem, documents_eq_some]
  refine and_congr_left fun _ => exists_congr fun row => and_congr_right fun hid => ?_
  obtain ⟨document, hdocument, hread, -⟩ := hstate _ row hid
  rw [hdocument, hread]
  simp

/-- A prepared edit is found on a document of the view. -/
lemma prepared_ok {preparationId : String} {document : DocumentState}
    (h : prepared table preparationId = .ok document) :
    (∃ id, (documentView table).documents id = some document) ∧
      document.preparedEventId = some preparationId := by
  have hrows : ∀ rows, firstPrepared preparationId rows = .ok document →
      (∃ row ∈ rows, documentFromProjection row = .ok document) ∧
        document.preparedEventId = some preparationId := by
    intro rows
    induction rows with
    | nil => simp [firstPrepared]
    | cons row rows ih =>
      intro hfirst
      have hlater : firstPrepared preparationId rows = .ok document →
          (∃ r ∈ row :: rows, documentFromProjection r = .ok document) ∧
            document.preparedEventId = some preparationId := by
        intro hrest
        obtain ⟨⟨r, hr, hread⟩, hprepared⟩ := ih hrest
        exact ⟨⟨r, List.mem_cons_of_mem _ hr, hread⟩, hprepared⟩
      unfold firstPrepared at hfirst
      split at hfirst
      · simp at hfirst
      · rename_i d hstate
        split at hfirst
        · rename_i hprepared
          obtain rfl := Except.ok.inj hfirst
          refine ⟨⟨row, List.mem_cons_self, ?_⟩, hprepared⟩
          simp only [documentState, bind_eq_ok] at hstate
          obtain ⟨isState, -, hread⟩ := hstate
          cases isState <;> simp_all [pure, Except.pure]
        · exact hlater hfirst
      · exact hlater hfirst
  obtain ⟨⟨row, hrow, hread⟩, hprepared⟩ := hrows _ h
  obtain ⟨id, hid⟩ := mem_rowsOf.1 hrow
  exact ⟨⟨id, documents_eq_some.2 ⟨row, hid, hread⟩⟩, hprepared⟩

/-! ## Steps of the view -/

/-- One change of the view, as the edit it makes to the documents. -/
inductive DocumentStep (view : DocumentView) :
    EditAction String String String → DocumentView → Prop
  | keep : DocumentStep view .idle view
  | grant {lease : LeaseState} (active : lease.active = true)
      (free : ∀ id l, view.leases id = some l → l.active = true →
        l.documentId ≠ lease.documentId ∧ l.relativePath ≠ lease.relativePath)
      (fresh : view.documents lease.documentId = none) :
      DocumentStep view (.create lease.documentId lease.fileVersion lease.contentHash)
        ⟨Function.update view.leases lease.leaseId (some lease),
          Function.update view.documents lease.documentId (some (lease.document none))⟩
  | prepare {document : DocumentState} {eventId : String}
      (found : view.documents document.documentId = some document)
      (idle : document.preparedEventId = none) :
      DocumentStep view (.prepare document.documentId eventId)
        ⟨view.leases, Function.update view.documents document.documentId
          (some { document with preparedEventId := some eventId })⟩
  | commit {document : DocumentState} {preparationId contentHash : String}
      (found : view.documents document.documentId = some document)
      (prepared : document.preparedEventId = some preparationId) :
      DocumentStep view (.commit document.documentId preparationId contentHash)
        ⟨view.leases, Function.update view.documents document.documentId
          (some (document.withContent (document.fileVersion + 1) contentHash none))⟩
  | recover {document : DocumentState} {preparationId : String}
      (found : view.documents document.documentId = some document)
      (prepared : document.preparedEventId = some preparationId) :
      DocumentStep view (.recover document.documentId preparationId)
        ⟨view.leases, Function.update view.documents document.documentId
          (some { document with preparedEventId := none })⟩
  | terminate {lease : LeaseState} (found : view.leases lease.leaseId = some lease) :
      DocumentStep view .idle
        ⟨Function.update view.leases lease.leaseId (some { lease with active := false }),
          view.documents⟩

/-- Leases stay exclusive: a grant refuses what an active lease holds. -/
lemma DocumentStep.exclusive {view view' : DocumentView} {a : EditAction String String String}
    (h : DocumentStep view a view') (hview : view.Exclusive) : view'.Exclusive := by
  cases h with
  | keep => exact hview
  | prepare _ _ => exact hview
  | commit _ _ => exact hview
  | recover _ _ => exact hview
  | @grant lease _ free _ =>
    intro i j l m hl hm hlactive hmactive hsame
    by_cases hi : i = lease.leaseId
    · by_cases hj : j = lease.leaseId
      · exact hi.trans hj.symm
      · obtain rfl : lease = l := by simpa [hi] using hl
        have hfree := free j m (by simpa [hj] using hm) hmactive
        rcases hsame with hsame | hsame
        · exact absurd hsame.symm hfree.1
        · exact absurd hsame.symm hfree.2
    · by_cases hj : j = lease.leaseId
      · obtain rfl : lease = m := by simpa [hj] using hm
        have hfree := free i l (by simpa [hi] using hl) hlactive
        rcases hsame with hsame | hsame
        · exact absurd hsame hfree.1
        · exact absurd hsame hfree.2
      · exact hview i j l m (by simpa [hi] using hl) (by simpa [hj] using hm) hlactive hmactive
          hsame
  | @terminate lease _ =>
    -- a lease that is still active was not the one that ended
    have hold : ∀ i l, Function.update view.leases lease.leaseId
        (some { lease with active := false }) i = some l → l.active = true →
          view.leases i = some l := by
      intro i l hl hactive
      by_cases hi : i = lease.leaseId
      · obtain rfl : _ = l := by simpa [hi] using hl
        simp at hactive
      · simpa [hi] using hl
    intro i j l m hl hm hlactive hmactive hsame
    exact hview i j l m (hold i l hl hlactive) (hold j m hm hmactive) hlactive hmactive hsame

/-! ## What an event writes -/

variable {table' : ProjectionTable}

/-- The record of a lease was written. -/
def LeaseWritten (table table' : ProjectionTable) (lease : LeaseState) : Prop :=
  ∃ row, leaseFromProjection row = .ok lease ∧ ∀ id, findRecord table' .leases id =
    if id = lease.leaseId then some row else findRecord table .leases id

/-- The record of a document was written. -/
def DocumentWritten (table table' : ProjectionTable) (document : DocumentState) : Prop :=
  ∃ row, isDocumentStateProjection row = .ok true ∧ documentFromProjection row = .ok document ∧
    ∀ id, findRecord table' .documents id =
      if id = document.documentId then some row else findRecord table .documents id

/-- The records of a projection are the same. -/
def Kept (table table' : ProjectionTable) (projection : ProjectionName) : Prop :=
  ∀ id, findRecord table' projection id = findRecord table projection id

lemma leases_of_kept (h : Kept table table' .leases) :
    (documentView table').leases = (documentView table).leases := by
  funext id
  simp only [documentView, findLease, h id]

lemma documents_of_kept (h : Kept table table' .documents) :
    (documentView table').documents = (documentView table).documents := by
  funext id
  simp only [documentView, findDocument, h id]

lemma leases_of_written {lease : LeaseState} (h : LeaseWritten table table' lease) :
    (documentView table').leases =
      Function.update (documentView table).leases lease.leaseId (some lease) := by
  obtain ⟨row, hread, hrows⟩ := h
  funext id
  by_cases hid : id = lease.leaseId
  · subst hid
    rw [Function.update_self]
    exact leases_eq_some.2 ⟨row, by rw [hrows, if_pos rfl], hread⟩
  · rw [Function.update_of_ne hid]
    simp only [documentView, findLease, hrows, if_neg hid]

lemma documents_of_written {document : DocumentState} (h : DocumentWritten table table' document) :
    (documentView table').documents =
      Function.update (documentView table).documents document.documentId (some document) := by
  obtain ⟨row, -, hread, hrows⟩ := h
  funext id
  by_cases hid : id = document.documentId
  · subst hid
    rw [Function.update_self]
    exact documents_eq_some.2 ⟨row, by rw [hrows, if_pos rfl], hread⟩
  · rw [Function.update_of_ne hid]
    simp only [documentView, findDocument, hrows, if_neg hid]

/-- Records that can be read stay so when the ones that are written can. -/
lemma DecodesDocuments.write (h : DecodesDocuments table)
    (hleases : Kept table table' .leases ∨ ∃ lease, LeaseWritten table table' lease)
    (hdocuments : Kept table table' .documents ∨
      ∃ document, DocumentWritten table table' document) : DecodesDocuments table' where
  leases id row hrow := by
    rcases hleases with hkept | ⟨lease, written, hread, hrows⟩
    · exact h.leases id row (hkept id ▸ hrow)
    · rw [hrows] at hrow
      split at hrow
      · rename_i hid
        obtain rfl := Option.some.inj hrow
        exact ⟨lease, hread, hid.symm⟩
      · exact h.leases id row hrow
  documents id row hrow := by
    rcases hdocuments with hkept | ⟨document, written, hstate, hread, hrows⟩
    · exact h.documents id row (hkept id ▸ hrow)
    · rw [hrows] at hrow
      split at hrow
      · rename_i hid
        obtain rfl := Option.some.inj hrow
        exact ⟨hstate, document, hread, hid.symm⟩
      · exact h.documents id row hrow

end Aizim.State
