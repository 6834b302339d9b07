import Aizim.State.DocumentView

/-!
# What the document operations do

For each operation of the document service one lemma says which step of the view a successful call
took and what it checked before: `grantDocumentLease_ok`, `prepareDocumentEdit_ok`,
`commitDocumentEdit_ok`, `recoverDocumentEdit_ok` and `terminateLease_ok`.  Events of other kinds
leave the view (`view_of_other`).
-/

namespace Aizim.State

open JsonValue JsonObject Domain TransitionSystem

variable [CharacterDatabase]

/-! ## Events -/

/-- The row of a record. -/
def ProjectionRecord.row (record : ProjectionRecord) : ProjectionRow :=
  ⟨record.version, record.stateJson⟩

section

variable {log log' : EventLog} {event : EventEnvelope} {record : EventRecord}
  (h : applyEventMutation log event log.projections = .ok (log', record))

include h

/-- The table after an event: its reducer's records over the table before. -/
lemma projections_of_apply : ∃ payload, projectionPayload log.projections event = .ok payload ∧
    log'.projections =
      (changes log.projections event payload).foldl upsertRecord log.projections := by
  obtain ⟨-, -, ⟨records, hrecords, hprojections⟩, -⟩ := applyEventMutation_ok h
  simp only [applyEvent, bind_eq_ok, pure_eq_ok] at hrecords
  obtain ⟨payload, hpayload, rfl⟩ := hrecords
  exact ⟨payload, hpayload, hprojections⟩

/-- An event leaves the projections it does not write. -/
lemma kept_of_apply {projection : ProjectionName} (hprojection : projection ≠ event.eventType.projection)
    (hdocuments : projection = .documents → event.eventType ≠ .leaseGranted)
    (hepochs : projection ≠ .epochs) : Kept log.projections log'.projections projection := by
  obtain ⟨payload, -, hprojections⟩ := projections_of_apply h
  intro id
  rw [hprojections]
  refine findRecord_foldl_of_ne _ fun r hr hsame => ?_
  rcases projection_of_mem_changes hr with hr | ⟨hr, htype⟩ | ⟨hr, -⟩
  · exact hprojection (hsame.1.trans hr)
  · exact hdocuments (hsame.1.trans hr) htype
  · exact hepochs (hsame.1.trans hr)

/-- A document event writes the record of its document. -/
lemma findRecord_of_documentEvent (htype : event.eventType.projection = .documents)
    {documentId : String} (hid : event.text? "document_id" = some documentId)
    (hne : documentId ≠ "") :
    ∃ row : ProjectionRow, row.stateJson = .ofObject (eventState event event.payload) ∧
      ∀ id, findRecord log'.projections .documents id =
        if id = documentId then some row else findRecord log.projections .documents id := by
  obtain ⟨payload, hpayload, hprojections⟩ := projections_of_apply h
  have hentity : entityId event = documentId := by
    unfold entityId
    revert htype
    cases event.eventType <;> simp [EventType.projection, EventType.entityField, hid, hne]
  have hown : payload = event.payload := by
    unfold projectionPayload at hpayload
    revert htype hpayload
    cases event.eventType <;>
      simp [EventType.projection, EventType.isOrchestration, pure, Except.pure, eq_comm]
  have hchanges : changes log.projections event payload =
      [makeRecord log.projections .documents documentId (eventState event event.payload)] := by
    unfold changes
    rw [hentity, htype, hown]
    revert htype
    cases event.eventType <;> simp [EventType.projection]
  refine ⟨(makeRecord log.projections .documents documentId
    (eventState event event.payload)).row, rfl, fun id => ?_⟩
  rw [hprojections, hchanges]
  simp [findRecord_upsertRecord, makeRecord, ProjectionRecord.row]

/-- A lease grant writes the record of its lease and that of its document. -/
lemma findRecord_of_leaseGranted (htype : event.eventType = .leaseGranted)
    {leaseId documentId : String} (hlease : event.text? "lease_id" = some leaseId)
    (hne : leaseId ≠ "") (hdocument : event.text? "document_id" = some documentId) :
    (∃ row : ProjectionRow, row.stateJson = .ofObject (eventState event event.payload) ∧
      ∀ id, findRecord log'.projections .leases id =
        if id = leaseId then some row else findRecord log.projections .leases id) ∧
    ∃ row : ProjectionRow, row.stateJson = .ofObject (eventState event event.payload) ∧
      ∀ id, findRecord log'.projections .documents id =
        if id = documentId then some row else findRecord log.projections .documents id := by
  obtain ⟨payload, hpayload, hprojections⟩ := projections_of_apply h
  have hentity : entityId event = leaseId := by
    simp [entityId, htype, EventType.entityField, hlease, hne]
  have hown : payload = event.payload := by
    simpa [projectionPayload, htype, EventType.isOrchestration, pure, Except.pure, eq_comm]
      using hpayload
  have hcomplete : completeDocumentPayload event.payload = some documentId := by
    have hcodec : codec? event.eventType = some ⟨documentFields, [], documentValidators⟩ := by
      rw [htype]
      rfl
    have hall : (documentFields.all fun field => (getEntry field event.payload).isSome) = true := by
      rw [List.all_eq_true]
      intro field hfield
      obtain ⟨v, hv, -⟩ := getEntry_of_validatePayload event.payload_valid hcodec hfield
      simp [hv]
    rw [completeDocumentPayload, if_pos hall]
    exact hdocument
  have hchanges : changes log.projections event payload =
      [makeRecord log.projections .leases leaseId (eventState event event.payload),
       makeRecord log.projections .documents documentId (eventState event event.payload)] := by
    simp [changes, hentity, hown, htype, hcomplete, EventType.projection]
  constructor
  · refine ⟨(makeRecord log.projections .leases leaseId (eventState event event.payload)).row, rfl,
      fun id => ?_⟩
    rw [hprojections, hchanges]
    simp [findRecord_upsertRecord, makeRecord, ProjectionRecord.row]
  · refine ⟨(makeRecord log.projections .documents documentId
      (eventState event event.payload)).row, rfl, fun id => ?_⟩
    rw [hprojections, hchanges]
    simp [findRecord_upsertRecord, makeRecord, ProjectionRecord.row]

/-- The end of a lease writes its record, with the payload before it and the new one. -/
lemma findRecord_of_leaseEnd (htype : isLeaseTerminal event.eventType = true) {leaseId : String}
    (hlease : event.text? "lease_id" = some leaseId) (hne : leaseId ≠ "")
    {row : ProjectionRow} (hrow : findRecord log.projections .leases leaseId = some row)
    {previous : JsonObject}
    (hprevious : (row.state?.bind fun raw => object? (getEntry "payload" raw)) = some previous) :
    ∃ row' : ProjectionRow,
      row'.stateJson = .ofObject (eventState event (update previous event.payload)) ∧
      ∀ id, findRecord log'.projections .leases id =
        if id = leaseId then some row' else findRecord log.projections .leases id := by
  obtain ⟨payload, hpayload, hprojections⟩ := projections_of_apply h
  have hentity : entityId event = leaseId := by
    unfold entityId
    revert htype
    cases event.eventType <;> simp [isLeaseTerminal, EventType.entityField, hlease, hne]
  have hlookup : (do
      let row ← findRecord log.projections .leases (← event.text? "lease_id")
      object? (getEntry "payload" (← row.state?))) = some previous := by
    simpa [hlease, hrow] using hprevious
  have hmerged : payload = update previous event.payload := by
    unfold projectionPayload at hpayload
    rw [hlookup] at hpayload
    revert htype hpayload
    cases event.eventType <;>
      simp [isLeaseTerminal, EventType.isOrchestration, pure, Except.pure, eq_comm]
  have hchanges : changes log.projections event payload =
      [makeRecord log.projections .leases leaseId
        (eventState event (update previous event.payload))] := by
    unfold changes
    rw [hentity, hmerged]
    revert htype
    cases event.eventType <;> simp [isLeaseTerminal, EventType.projection]
  refine ⟨(makeRecord log.projections .leases leaseId
    (eventState event (update previous event.payload))).row, rfl, fun id => ?_⟩
  rw [hprojections, hchanges]
  simp [findRecord_upsertRecord, makeRecord, ProjectionRecord.row]

/-- The document that a document event writes. -/
lemma documentWritten_of_apply (htype : event.eventType.projection = .documents)
    (document : DocumentState) (hrun : event.runId = some document.runId)
    (hprepared : document.preparedEventId =
      if event.eventType = .documentEditPrepared then some event.eventId else none)
    (hvalid : document.lease.Valid) (hfields : document.lease.Fields event.payload) :
    Kept log.projections log'.projections .leases ∧
      DocumentWritten log.projections log'.projections document := by
  have hid : event.text? "document_id" = some document.documentId :=
    Research.str?_eq_some.2 hfields.documentId
  obtain ⟨row, hrow, hrows⟩ := findRecord_of_documentEvent h htype hid hvalid.documentId_ne
  exact ⟨kept_of_apply h (by simp [htype]) (by simp) (by simp), row,
    isDocumentStateProjection_eventState hrow (Or.inr htype),
    documentFromProjection_eventState hrow hrun hprepared hvalid hfields, hrows⟩

/-- The lease and the document that a lease grant writes. -/
lemma leaseWritten_of_grant (htype : event.eventType = .leaseGranted) {lease : LeaseState}
    (hrun : event.runId = some lease.runId) (hactive : lease.active = true)
    (hvalid : lease.Valid) (hfields : lease.Fields event.payload) :
    LeaseWritten log.projections log'.projections lease ∧
      DocumentWritten log.projections log'.projections (lease.document none) := by
  have hid : event.text? "document_id" = some lease.documentId :=
    Research.str?_eq_some.2 hfields.documentId
  have hleaseId : event.text? "lease_id" = some lease.leaseId :=
    Research.str?_eq_some.2 hfields.leaseId
  have hlease : (lease.document none).lease = lease := by
    cases lease
    simp_all [LeaseState.document, DocumentState.lease]
  obtain ⟨⟨row, hrow, hrows⟩, row', hrow', hrows'⟩ :=
    findRecord_of_leaseGranted h htype hleaseId hvalid.leaseId_ne hid
  refine ⟨⟨row, leaseFromProjection_eventState hrow hrun (by simp [hactive, htype]) hvalid hfields,
    hrows⟩, row', isDocumentStateProjection_eventState hrow' (Or.inl htype),
    documentFromProjection_eventState hrow' hrun (by simp [LeaseState.document, htype]) ?_ ?_,
    hrows'⟩
  · rw [hlease]
    exact hvalid
  · rw [hlease]
    exact hfields

/-- The lease that the end of a lease writes. -/
lemma leaseWritten_of_end (htype : isLeaseTerminal event.eventType = true) {lease : LeaseState}
    (hlease : (documentView log.projections).leases lease.leaseId = some lease)
    (hrun : event.runId = some lease.runId)
    (hpayload : ∀ field ∈ documentFields, getEntry field event.payload =
      if field = "lease_id" then some (.str lease.leaseId) else none) :
    LeaseWritten log.projections log'.projections { lease with active := false } ∧
      Kept log.projections log'.projections .documents := by
  have hleaseId : event.text? "lease_id" = some lease.leaseId :=
    Research.str?_eq_some.2 (by simpa using hpayload "lease_id" (by decide))
  obtain ⟨row, hrow, hread⟩ := leases_eq_some.1 hlease
  obtain ⟨hvalid, previous, hfields, hprevious⟩ := leaseFromProjection_ok hread
  obtain ⟨row', hrow', hrows⟩ := findRecord_of_leaseEnd h htype hleaseId hvalid.leaseId_ne hrow
    hprevious
  have hended : ({ lease with active := false } : LeaseState).Fields
      (update previous event.payload) := by
    have hupdate := hfields.update (q := event.payload) fun field hfield => by
      rw [hpayload field hfield]
      split
      · rename_i hid
        subst hid
        exact Or.inr hfields.leaseId.symm
      · exact Or.inl rfl
    exact ⟨hupdate.1, hupdate.2, hupdate.3, hupdate.4, hupdate.5, hupdate.6, hupdate.7, hupdate.8,
      hupdate.9, hupdate.10⟩
  have htypes : event.eventType ≠ .leaseGranted ∧ event.eventType.projection = .leases := by
    generalize event.eventType = eventType at htype
    cases eventType <;> first | decide | simp [isLeaseTerminal] at htype
  refine ⟨⟨row', leaseFromProjection_eventState hrow' hrun (by simp [htypes.1])
    ⟨hvalid.1, hvalid.2, hvalid.3, hvalid.4, hvalid.5⟩ hended, hrows⟩,
    kept_of_apply h (by simp [htypes.2]) (fun _ => htypes.1) (by simp)⟩

end

/-! ## Checks -/

omit [CharacterDatabase] in
/-- A document that may be edited is the one that was asked for, without a prepared edit. -/
lemma accessDocument_ok {table : ProjectionTable} {access : AccessDocument}
    {document : DocumentState} (h : accessDocument table access = .ok document) :
    (documentView table).documents access.documentId = some document ∧
      document.preparedEventId = none := by
  simp only [accessDocument, bind_eq_ok, require_eq_ok, pure_eq_ok, exists_and_left,
    exists_const] at h
  obtain ⟨lease, -, epoch, -, _, -, document', hfind, hidle, -, rfl⟩ := h
  exact ⟨findDocument_eq_ok.1 hfind, hidle⟩

/-- An event that matches a document has the fields of the document at its new version. -/
lemma eventMatches_ok {document : DocumentState} {event : EventEnvelope} {version : ℕ}
    {contentHash : Option String} {u : Unit}
    (h : eventMatches document event version contentHash = .ok u)
    (preparedEventId : Option String) :
    event.runId = some document.runId ∧
      ∃ hash, contentHash.or (event.text? "content_hash") = some hash ∧
        (document.withContent version hash preparedEventId).lease.Fields event.payload := by
  simp only [eventMatches, bind_eq_ok, orThrow_eq_ok, require_eq_ok] at h
  obtain ⟨hash, hhash, hrun, hpayload⟩ := h
  exact ⟨hrun, hash, hhash,
    (document.fields_expectedPayload event.eventType version hash preparedEventId).congr
      hpayload.symm⟩

omit [CharacterDatabase] in
lemma DocumentState.withContent_self (document : DocumentState) (preparedEventId : Option String) :
    document.withContent document.fileVersion document.contentHash preparedEventId =
      { document with preparedEventId := preparedEventId } := rfl

omit [CharacterDatabase] in
/-- A payload has one version and one document. -/
lemma LeaseState.Fields.unique {lease lease' : LeaseState} {payload : JsonObject}
    (h : lease.Fields payload) (h' : lease'.Fields payload) :
    lease.fileVersion = lease'.fileVersion ∧ lease.documentId = lease'.documentId ∧
      lease.contentHash = lease'.contentHash := by
  have hversion := h.version.symm.trans h'.version
  have hdocument := h.documentId.symm.trans h'.documentId
  have hcontent := h.contentHash.symm.trans h'.contentHash
  simp only [Option.some.injEq, JsonValue.int.injEq, JsonValue.str.injEq, Nat.cast_inj] at *
  exact ⟨hversion, hdocument, hcontent⟩

/-! ## Operations -/

variable {t t' : Tables} {stamp : Stamp}

/-- What every successful operation does to the store: it appends one event, and the records of
leases and documents can still be read. -/
structure DocumentCall (t t' : Tables) (event : EventEnvelope)
    (a : EditAction String String String) : Prop where
  appends : Appends t t' [event]
  applied : ∃ record, applyEventMutation t.toEventLog event t.projections =
    .ok (t'.toEventLog, record)
  queue : t'.publicationQueue = t.publicationQueue
  decodes : DecodesDocuments t'.projections
  step : DocumentStep (documentView t.projections) a (documentView t'.projections)

omit [CharacterDatabase] in
lemma documentView_eq {table : ProjectionTable} {leases : String → Option LeaseState}
    {documents : String → Option DocumentState} (hleases : (documentView table).leases = leases)
    (hdocuments : (documentView table).documents = documents) :
    documentView table = ⟨leases, documents⟩ := by
  rw [← hleases, ← hdocuments]

/-- The lease that a grant adds. -/
def grantedLease (lease : FileLease) (path : PosixPath) : LeaseState :=
  ⟨lease.leaseId, lease.workerId, lease.runId, lease.documentId, path,
    lease.virtualDocumentNamespace, lease.epochPair, lease.fileVersion, lease.contentHash,
    lease.expiresAt, true⟩

/-- `grant_document_lease` adds a lease and its document, neither of which was there; no active lease
has the id of the new one, its document or its path. -/
lemma grantDocumentLease_view {lease : FileLease} {path : PosixPath} {record : EventRecord}
    (hdec : DecodesDocuments t.projections)
    (h : grantDocumentLease t stamp lease path = .ok (t', record)) :
    (∀ id l, (documentView t.projections).leases id = some l → l.active = true →
      id ≠ lease.leaseId ∧ l.documentId ≠ lease.documentId ∧ l.relativePath ≠ path) ∧
    (documentView t.projections).documents lease.documentId = none ∧
    documentView t'.projections =
      ⟨Function.update (documentView t.projections).leases lease.leaseId
          (some (grantedLease lease path)),
        Function.update (documentView t.projections).documents lease.documentId
          (some ((grantedLease lease path).document none))⟩ ∧
    ∃ event, DocumentCall t t' event
      (.create lease.documentId lease.fileVersion lease.contentHash) := by
  simp only [grantDocumentLease, grantLease, bind_eq_ok] at h
  obtain ⟨event, hevent, _, hgrant, happend⟩ := h
  obtain ⟨-, htype, -, -, hrun, -, hpayload⟩ := makeEvent_ok hevent
  simp only [validateGrant, bind_eq_ok, require_eq_ok, exists_and_left, exists_const] at hgrant
  obtain ⟨-, -, -, -, -, -, leases, hleases, hids, hdocuments, hpaths, hfresh, -⟩ := hgrant
  obtain ⟨happends, hqueue, record', happly⟩ := appendRevoking_ok happend
  obtain ⟨leases', hleases', hmem, -⟩ := activeLeases_eq_ok hdec
  obtain rfl := Except.ok.inj (hleases.symm.trans hleases')
  have hgranted : event.payload = (grantedLease lease path).payload := by
    rw [hpayload]
    simp [leasePayload, grantedLease]
  have hvalid : (grantedLease lease path).Valid := ⟨lease.names_ne.1, lease.names_ne.2.1,
    lease.names_ne.2.2.2.1, lease.names_ne.2.2.2.2, lease.contentHash_valid⟩
  have hfields : (grantedLease lease path).Fields event.payload :=
    hgranted ▸ (grantedLease lease path).fields_payload
  obtain ⟨hlease, hdocument⟩ :=
    leaseWritten_of_grant happly (EventType.text_injective htype) hrun rfl hvalid hfields
  have hview := documentView_eq (leases_of_written hlease) (documents_of_written hdocument)
  have hfree : ∀ id l, (documentView t.projections).leases id = some l → l.active = true →
      id ≠ lease.leaseId ∧ l.documentId ≠ lease.documentId ∧ l.relativePath ≠ path := by
    intro id l hl hactive
    have hid := hdec.leaseId_eq hl
    have hmember : l ∈ leases := (hmem l).2 ⟨hid ▸ hl, hactive⟩
    exact ⟨hid ▸ hids l hmember, hdocuments l hmember,
      fun hpath => hpaths l hmember (by rw [hpath])⟩
  have hnone := hdec.documents_eq_none.2 hfresh
  refine ⟨hfree, hnone, hview, event, happends, ⟨record', happly⟩, hqueue,
    hdec.write (Or.inr ⟨_, hlease⟩) (Or.inr ⟨_, hdocument⟩), ?_⟩
  rw [hview]
  exact @DocumentStep.grant _ (grantedLease lease path) rfl
    (fun id l hl hactive => (hfree id l hl hactive).2) hnone

/-- `grant_document_lease` adds a lease and its document. -/
lemma grantDocumentLease_ok {lease : FileLease} {path : PosixPath} {record : EventRecord}
    (hdec : DecodesDocuments t.projections)
    (h : grantDocumentLease t stamp lease path = .ok (t', record)) :
    ∃ event, DocumentCall t t' event
      (.create lease.documentId lease.fileVersion lease.contentHash) :=
  (grantDocumentLease_view hdec h).2.2.2

/-- `prepare_document_edit` marks the document it returns. -/
lemma prepareDocumentEdit_ok {access : AccessDocument} {expectedVersion : Int}
    {expectedHash : String} {preparation : DocumentPreparation}
    (hdec : DecodesDocuments t.projections)
    (h : prepareDocumentEdit t stamp access expectedVersion expectedHash =
      .ok (t', preparation)) :
    ∃ event, event.eventId = preparation.preparationId ∧
      (documentView t.projections).documents preparation.document.documentId =
        some preparation.document ∧
      preparation.document.documentId = access.documentId ∧
      preparation.document.preparedEventId = none ∧
      (preparation.document.fileVersion : Int) = expectedVersion ∧
      preparation.document.contentHash = expectedHash ∧
      DocumentCall t t' event
        (.prepare preparation.document.documentId preparation.preparationId) := by
  simp only [prepareDocumentEdit, prepareEdit, bind_eq_ok, pure_eq_ok, Prod.exists,
    Prod.mk.injEq] at h
  obtain ⟨_, _, event, hevent, document, haccess, _, hexpected, _, hmatches, t₁, record, happend,
    rfl, rfl⟩ := h
  obtain ⟨-, htype, -, -, -, -, -⟩ := makeEvent_ok hevent
  replace htype : event.eventType = .documentEditPrepared := EventType.text_injective htype
  obtain ⟨hfound, hidle⟩ := accessDocument_ok haccess
  have hid := hdec.documentId_eq hfound
  simp only [DocumentState.validateExpected, bind_eq_ok, require_eq_ok, exists_and_left,
    exists_const] at hexpected
  obtain ⟨row, -, hread⟩ := documents_eq_some.1 hfound
  have hvalid := documentFromProjection_ok hread
  obtain ⟨hrun, hash, hhash, hfields⟩ := eventMatches_ok hmatches (some event.eventId)
  obtain rfl : document.contentHash = hash := by simpa using hhash
  obtain ⟨happends, hqueue, record', happly⟩ := appendRevoking_ok happend
  obtain ⟨hkept, hwritten⟩ := documentWritten_of_apply happly (by rw [htype]; rfl)
    (document.withContent document.fileVersion document.contentHash (some event.eventId)) hrun (by rw [if_pos htype]; rfl)
    ⟨hvalid.1, hvalid.2, hvalid.3, hvalid.4, hvalid.5⟩ hfields
  refine ⟨event, rfl, hid ▸ hfound, hid, hidle, hexpected.1, hexpected.2, happends,
    ⟨record', happly⟩, hqueue, hdec.write (Or.inl hkept) (Or.inr ⟨_, hwritten⟩), ?_⟩
  rw [documentView_eq (leases_of_kept hkept) (documents_of_written hwritten)]
  exact .prepare (hid ▸ hfound) hidle

/-- `commit_document_edit` settles the prepared edit at the next version, with the replacement. -/
lemma commitDocumentEdit_ok {now : Datetime} {preparation : DocumentPreparation}
    {replacementHash : String} {record : EventRecord} (hdec : DecodesDocuments t.projections)
    (h : commitDocumentEdit t stamp now preparation replacementHash = .ok (t', record)) :
    ∃ event document,
      (documentView t.projections).documents document.documentId = some document ∧
      document.preparedEventId = some preparation.preparationId ∧
      document.documentId = preparation.document.documentId ∧
      document.fileVersion = preparation.document.fileVersion ∧
      (documentView t'.projections).documents document.documentId =
        some (document.withContent (document.fileVersion + 1) replacementHash none) ∧
      DocumentCall t t' event
        (.commit document.documentId preparation.preparationId replacementHash) := by
  simp only [commitDocumentEdit, commitEdit, bind_eq_ok, require_eq_ok, exists_and_left,
    exists_const] at h
  obtain ⟨event, hevent, document, hprepared, -, _, -, _, hmatches, happend⟩ := h
  obtain ⟨-, htype, -, -, -, -, hpayload⟩ := makeEvent_ok hevent
  replace htype : event.eventType = .documentEdited := EventType.text_injective htype
  obtain ⟨⟨id, hfound⟩, hpreparedId⟩ := prepared_ok hprepared
  obtain rfl := hdec.documentId_eq hfound
  obtain ⟨row, -, hread⟩ := documents_eq_some.1 hfound
  have hvalid := documentFromProjection_ok hread
  obtain ⟨hrun, hash, -, hfields⟩ := eventMatches_ok hmatches none
  have hcommand := preparation.document.fields_payloadAt (preparation.document.fileVersion + 1)
    replacementHash none
  replace hpayload : event.payload = preparation.document.payloadAt
    (preparation.document.fileVersion + 1) replacementHash := hpayload
  rw [← hpayload] at hcommand
  obtain ⟨hversion, hid, hcontent⟩ := hfields.unique hcommand
  obtain rfl : hash = replacementHash := hcontent
  have hhash : isSha256 hash = true := by
    have hcodec : codec? event.eventType = some ⟨documentFields, [], documentValidators⟩ := by
      rw [htype]
      rfl
    have hfield : "content_hash" ∈ documentFields := by decide
    obtain ⟨v, hv, haccepts⟩ := getEntry_of_validatePayload event.payload_valid hcodec hfield
    obtain rfl := Option.some.inj (hfields.contentHash.symm.trans hv)
    exact haccepts
  obtain ⟨happends, hqueue, record', happly⟩ := appendRevoking_ok happend
  obtain ⟨hkept, hwritten⟩ := documentWritten_of_apply happly (by rw [htype]; rfl)
    (document.withContent (document.fileVersion + 1) hash none) hrun
    (by rw [htype]; rfl) ⟨hvalid.1, hvalid.2, hvalid.3, hvalid.4, hhash⟩ hfields
  have hview := documentView_eq (leases_of_kept hkept) (documents_of_written hwritten)
  refine ⟨event, document, hfound, hpreparedId, hid, Nat.succ.inj hversion, ?_, happends,
    ⟨record', happly⟩, hqueue, hdec.write (Or.inl hkept) (Or.inr ⟨_, hwritten⟩), ?_⟩
  · rw [hview]
    exact Function.update_self ..
  · rw [hview]
    exact .commit hfound hpreparedId

/-- `recover_document_edit` settles the prepared edit at the version and content of the document. -/
lemma recoverDocumentEdit_ok {preparation : DocumentPreparation} {record : EventRecord}
    (hdec : DecodesDocuments t.projections)
    (h : recoverDocumentEdit t stamp preparation = .ok (t', record)) :
    ∃ event document,
      (documentView t.projections).documents document.documentId = some document ∧
      document.preparedEventId = some preparation.preparationId ∧
      document.documentId = preparation.document.documentId ∧
      (documentView t'.projections).documents document.documentId =
        some { document with preparedEventId := none } ∧
      DocumentCall t t' event (.recover document.documentId preparation.preparationId) := by
  simp only [recoverDocumentEdit, recoverEdit, bind_eq_ok, require_eq_ok, exists_and_left,
    exists_const] at h
  obtain ⟨event, hevent, document, hprepared, -, _, hmatches, happend⟩ := h
  obtain ⟨-, htype, -, -, -, -, hpayload⟩ := makeEvent_ok hevent
  replace htype : event.eventType = .documentEditRecovered := EventType.text_injective htype
  obtain ⟨⟨id, hfound⟩, hpreparedId⟩ := prepared_ok hprepared
  obtain rfl := hdec.documentId_eq hfound
  obtain ⟨row, -, hread⟩ := documents_eq_some.1 hfound
  have hvalid := documentFromProjection_ok hread
  obtain ⟨hrun, hash, hhash, hfields⟩ := eventMatches_ok hmatches none
  obtain rfl : document.contentHash = hash := by simpa using hhash
  have hcommand := preparation.document.lease.fields_payload
  replace hpayload : event.payload = preparation.document.lease.payload := hpayload
  rw [← hpayload] at hcommand
  obtain ⟨-, hid, -⟩ := hfields.unique hcommand
  obtain ⟨happends, hqueue, record', happly⟩ := appendRevoking_ok happend
  obtain ⟨hkept, hwritten⟩ := documentWritten_of_apply happly (by rw [htype]; rfl)
    (document.withContent document.fileVersion document.contentHash none) hrun
    (by rw [htype]; rfl) ⟨hvalid.1, hvalid.2, hvalid.3, hvalid.4, hvalid.5⟩ hfields
  have hview := documentView_eq (leases_of_kept hkept) (documents_of_written hwritten)
  refine ⟨event, document, hfound, hpreparedId, hid, ?_, happends, ⟨record', happly⟩, hqueue,
    hdec.write (Or.inl hkept) (Or.inr ⟨_, hwritten⟩), ?_⟩
  · rw [hview]
    exact Function.update_self ..
  · rw [hview]
    exact .recover hfound hpreparedId

/-- Ending a lease, by its owner or by recovery, makes it inactive and leaves the documents. -/
lemma terminateLease_view {runId leaseId reason : String} {workerId : Option String}
    {event : EventEnvelope} {record : EventRecord} (hdec : DecodesDocuments t.projections)
    (htype : isLeaseTerminal event.eventType = true) (hrun : event.runId = some runId)
    (hpayload : event.payload = [("lease_id", .str leaseId), ("reason_code", .str reason)])
    (h : terminateLease t runId workerId leaseId event = .ok (t', record)) :
    (∃ lease, (documentView t.projections).leases leaseId = some lease ∧
      documentView t'.projections =
        ⟨Function.update (documentView t.projections).leases leaseId
          (some { lease with active := false }), (documentView t.projections).documents⟩) ∧
      DocumentCall t t' event .idle := by
  simp only [terminateLease, bind_eq_ok, require_eq_ok, exists_and_left, exists_const] at h
  obtain ⟨lease, hlease, -, rfl, -, happend⟩ := h
  rw [findLease_eq_ok] at hlease
  obtain rfl := hdec.leaseId_eq hlease
  obtain ⟨happends, hqueue, record', happly⟩ := appendRevoking_ok happend
  obtain ⟨hwritten, hkept⟩ := leaseWritten_of_end happly htype hlease hrun fun field hfield => by
    rw [hpayload]
    have hreason : field ≠ "reason_code" := by
      rintro rfl
      exact absurd hfield (by decide)
    simp [hreason]
  have hview := documentView_eq (leases_of_written hwritten) (documents_of_kept hkept)
  refine ⟨⟨lease, hlease, hview⟩, happends, ⟨record', happly⟩, hqueue,
    hdec.write (Or.inr ⟨_, hwritten⟩) (Or.inl hkept), ?_⟩
  rw [hview]
  exact @DocumentStep.terminate _ lease hlease

/-- Ending a lease, by its owner or by recovery, makes it inactive. -/
lemma terminateLease_ok {runId leaseId reason : String} {workerId : Option String}
    {event : EventEnvelope} {record : EventRecord} (hdec : DecodesDocuments t.projections)
    (htype : isLeaseTerminal event.eventType = true) (hrun : event.runId = some runId)
    (hpayload : event.payload = [("lease_id", .str leaseId), ("reason_code", .str reason)])
    (h : terminateLease t runId workerId leaseId event = .ok (t', record)) :
    DocumentCall t t' event .idle :=
  (terminateLease_view hdec htype hrun hpayload h).2

/-- `release_document_lease` -/
lemma releaseDocumentLease_ok {runId workerId leaseId : String} {record : EventRecord}
    (hdec : DecodesDocuments t.projections)
    (h : releaseDocumentLease t stamp runId workerId leaseId = .ok (t', record)) :
    ∃ event, DocumentCall t t' event .idle := by
  simp only [releaseDocumentLease, bind_eq_ok] at h
  obtain ⟨event, hevent, hterminate⟩ := h
  obtain ⟨-, htype, -, -, hrun, -, hpayload⟩ := makeEvent_ok hevent
  replace htype : event.eventType = .leaseReleased := EventType.text_injective htype
  exact ⟨event, terminateLease_ok hdec (by rw [htype]; rfl) hrun hpayload hterminate⟩

/-- `recover_document_lease` -/
lemma recoverDocumentLease_ok {lease : LeaseState} {record : EventRecord}
    (hdec : DecodesDocuments t.projections)
    (h : recoverDocumentLease t stamp lease = .ok (t', record)) :
    ∃ event, DocumentCall t t' event .idle := by
  simp only [recoverDocumentLease, bind_eq_ok] at h
  obtain ⟨event, hevent, hterminate⟩ := h
  obtain ⟨-, htype, -, -, hrun, -, hpayload⟩ := makeEvent_ok hevent
  replace htype : event.eventType = .leaseRecovered := EventType.text_injective htype
  exact ⟨event, terminateLease_ok hdec (by rw [htype]; rfl) hrun hpayload hterminate⟩

/-- Events that are not about leases or documents leave the view. -/
lemma view_of_run {log log' : EventLog} {events : List EventEnvelope}
    (h : eventLogSystem.Run log events log')
    (htypes : ∀ e ∈ events, e.eventType.projection ≠ .leases ∧ e.eventType.projection ≠ .documents)
    (hdec : DecodesDocuments log.projections) :
    DecodesDocuments log'.projections ∧
      documentView log'.projections = documentView log.projections := by
  induction h with
  | nil => exact ⟨hdec, rfl⟩
  | @snoc mid log' es e _ hstep ih =>
    obtain ⟨hmid, hview⟩ := ih fun e he => htypes e (by simp [he])
    obtain ⟨record, hstep⟩ := hstep
    obtain ⟨hleases, hdocuments⟩ := htypes e (by simp)
    have hgrant : e.eventType ≠ .leaseGranted := by
      intro htype
      rw [htype] at hleases
      exact hleases rfl
    have hkept := kept_of_apply hstep hleases.symm (fun _ => hgrant) (by simp)
    have hkept' := kept_of_apply hstep hdocuments.symm (fun _ => hgrant) (by simp)
    refine ⟨hmid.write (Or.inl hkept) (Or.inl hkept'), ?_⟩
    rw [← hview]
    exact documentView_eq (leases_of_kept hkept) (documents_of_kept hkept')

end Aizim.State
