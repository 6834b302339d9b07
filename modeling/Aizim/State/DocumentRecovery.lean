import Aizim.State.DocumentSpec

/-!
# When edits and leases can be recovered

`recover_document_edit` and `recover_document_lease` are what a broker undoes the work of a dead
process with, so they must not fail for reasons of the store: `exists_recoverDocumentEdit` and
`exists_recoverDocumentLease` say that they do not, for a document with a prepared edit and for an
active lease, if the id of the new event is one and is new.  The other lemmas say which lease a call
ends and which ids it adds to the log.
-/

namespace Aizim.State

open JsonValue JsonObject Domain TransitionSystem

variable [CharacterDatabase] {t t' : Tables} {stamp : Stamp}

/-! ## Leases -/

/-- `release_document_lease` makes the lease inactive. -/
lemma releaseDocumentLease_view {runId workerId leaseId : String} {record : EventRecord}
    (hdec : DecodesDocuments t.projections)
    (h : releaseDocumentLease t stamp runId workerId leaseId = .ok (t', record)) :
    (∃ lease, (documentView t.projections).leases leaseId = some lease ∧
      documentView t'.projections =
        ⟨Function.update (documentView t.projections).leases leaseId
          (some { lease with active := false }), (documentView t.projections).documents⟩) ∧
      ∃ event, DocumentCall t t' event .idle := by
  simp only [releaseDocumentLease, bind_eq_ok] at h
  obtain ⟨event, hevent, hterminate⟩ := h
  obtain ⟨-, htype, -, -, hrun, -, hpayload⟩ := makeEvent_ok hevent
  replace htype : event.eventType = .leaseReleased := EventType.text_injective htype
  obtain ⟨hview, hcall⟩ := terminateLease_view hdec (by rw [htype]; rfl) hrun hpayload hterminate
  exact ⟨hview, event, hcall⟩

/-- `recover_document_lease` makes the lease inactive. -/
lemma recoverDocumentLease_view {lease : LeaseState} {record : EventRecord}
    (hdec : DecodesDocuments t.projections)
    (h : recoverDocumentLease t stamp lease = .ok (t', record)) :
    (∃ l, (documentView t.projections).leases lease.leaseId = some l ∧
      documentView t'.projections =
        ⟨Function.update (documentView t.projections).leases lease.leaseId
          (some { l with active := false }), (documentView t.projections).documents⟩) ∧
      ∃ event, DocumentCall t t' event .idle := by
  simp only [recoverDocumentLease, bind_eq_ok] at h
  obtain ⟨event, hevent, hterminate⟩ := h
  obtain ⟨-, htype, -, -, hrun, -, hpayload⟩ := makeEvent_ok hevent
  replace htype : event.eventType = .leaseRecovered := EventType.text_injective htype
  obtain ⟨hview, hcall⟩ := terminateLease_view hdec (by rw [htype]; rfl) hrun hpayload hterminate
  exact ⟨hview, event, hcall⟩

omit [CharacterDatabase] in
/-- A document may be edited under its own lease, which is active. -/
lemma accessDocument_lease {table : ProjectionTable} {access : AccessDocument}
    {document : DocumentState} (h : accessDocument table access = .ok document) :
    ∃ lease, (documentView table).leases access.leaseId = some lease ∧ lease.active = true ∧
      lease.documentId = access.documentId ∧ document.leaseId = lease.leaseId := by
  simp only [accessDocument, LeaseState.validateAccess, bind_eq_ok, require_eq_ok, pure_eq_ok,
    exists_and_left, exists_const] at h
  obtain ⟨lease, hlease, epoch, -, ⟨hactive, -, -, hid, -⟩, document', -, -, hleaseId, rfl⟩ := h
  exact ⟨lease, findLease_eq_ok.1 hlease, hactive, hid, hleaseId⟩

/-! ## The ids of the log -/

lemma eventIds_appendRevoking {event : EventEnvelope} {record : EventRecord}
    (h : appendRevoking t event = .ok (t', record)) :
    t'.events.map (·.eventId) = t.events.map (·.eventId) ++ [event.eventId] := by
  obtain ⟨-, -, record', happly⟩ := appendRevoking_ok h
  obtain ⟨-, hevents, -⟩ := applyEventMutation_ok happly
  rw [hevents, List.map_append, List.map_singleton]
  rfl

lemma eventIds_grantDocumentLease {lease : FileLease} {path : PosixPath} {record : EventRecord}
    (h : grantDocumentLease t stamp lease path = .ok (t', record)) :
    t'.events.map (·.eventId) = t.events.map (·.eventId) ++ [stamp.eventId] := by
  simp only [grantDocumentLease, grantLease, bind_eq_ok] at h
  obtain ⟨event, hevent, _, -, happend⟩ := h
  rw [eventIds_appendRevoking happend, (makeEvent_ok hevent).1]

lemma eventIds_prepareDocumentEdit {access : AccessDocument} {version : Int} {hash : String}
    {preparation : DocumentPreparation}
    (h : prepareDocumentEdit t stamp access version hash = .ok (t', preparation)) :
    t'.events.map (·.eventId) = t.events.map (·.eventId) ++ [stamp.eventId] := by
  simp only [prepareDocumentEdit, prepareEdit, bind_eq_ok, pure_eq_ok, Prod.exists,
    Prod.mk.injEq] at h
  obtain ⟨_, -, event, hevent, _, -, _, -, _, -, t₁, record, happend, rfl, -⟩ := h
  rw [eventIds_appendRevoking happend, (makeEvent_ok hevent).1]

lemma eventIds_commitDocumentEdit {now : Datetime} {preparation : DocumentPreparation}
    {hash : String} {record : EventRecord}
    (h : commitDocumentEdit t stamp now preparation hash = .ok (t', record)) :
    t'.events.map (·.eventId) = t.events.map (·.eventId) ++ [stamp.eventId] := by
  simp only [commitDocumentEdit, commitEdit, bind_eq_ok] at h
  obtain ⟨event, hevent, _, -, _, -, _, -, _, -, happend⟩ := h
  rw [eventIds_appendRevoking happend, (makeEvent_ok hevent).1]

lemma eventIds_recoverDocumentEdit {preparation : DocumentPreparation} {record : EventRecord}
    (h : recoverDocumentEdit t stamp preparation = .ok (t', record)) :
    t'.events.map (·.eventId) = t.events.map (·.eventId) ++ [stamp.eventId] := by
  simp only [recoverDocumentEdit, recoverEdit, bind_eq_ok] at h
  obtain ⟨event, hevent, _, -, _, -, _, -, happend⟩ := h
  rw [eventIds_appendRevoking happend, (makeEvent_ok hevent).1]

lemma eventIds_terminateLease {event : EventEnvelope} {runId leaseId : String}
    {workerId : Option String} {record : EventRecord}
    (h : terminateLease t runId workerId leaseId event = .ok (t', record)) :
    t'.events.map (·.eventId) = t.events.map (·.eventId) ++ [event.eventId] := by
  simp only [terminateLease, bind_eq_ok] at h
  obtain ⟨_, -, _, -, _, -, _, -, happend⟩ := h
  exact eventIds_appendRevoking happend

lemma eventIds_releaseDocumentLease {runId workerId leaseId : String} {record : EventRecord}
    (h : releaseDocumentLease t stamp runId workerId leaseId = .ok (t', record)) :
    t'.events.map (·.eventId) = t.events.map (·.eventId) ++ [stamp.eventId] := by
  simp only [releaseDocumentLease, bind_eq_ok] at h
  obtain ⟨event, hevent, hterminate⟩ := h
  rw [eventIds_terminateLease hterminate, (makeEvent_ok hevent).1]

lemma eventIds_recoverDocumentLease {lease : LeaseState} {record : EventRecord}
    (h : recoverDocumentLease t stamp lease = .ok (t', record)) :
    t'.events.map (·.eventId) = t.events.map (·.eventId) ++ [stamp.eventId] := by
  simp only [recoverDocumentLease, bind_eq_ok] at h
  obtain ⟨event, hevent, hterminate⟩ := h
  rw [eventIds_terminateLease hterminate, (makeEvent_ok hevent).1]

/-! ## Recovery does not fail -/

/-- An event that no reducer refuses is appended by a document operation when its id is new. -/
lemma exists_appendRevoking {event : EventEnvelope}
    (hnew : event.eventId ∉ t.events.map (·.eventId))
    (horchestration : event.eventType.isOrchestration = false)
    (hlease : isLeaseTerminal event.eventType = true →
      event.runId.isSome ∧ (event.text? "lease_id").isSome) :
    ∃ t' record, appendRevoking t event = .ok (t', record) := by
  have hpayload : ∃ payload, projectionPayload t.projections event = .ok payload := by
    unfold projectionPayload
    rw [if_neg (by simp [horchestration])]
    split
    · dsimp only
      split <;> exact ⟨_, rfl⟩
    · dsimp only
      split <;> exact ⟨_, rfl⟩
    · exact ⟨_, rfl⟩
  obtain ⟨payload, hpayload⟩ := hpayload
  have hlog : ∃ result, applyEventMutation t.toEventLog event t.projections = .ok result := by
    simp only [applyEventMutation, require_of hnew, ok_bind, applyEvent, hpayload]
    exact ⟨_, rfl⟩
  obtain ⟨⟨log, record⟩, hlog⟩ := hlog
  have hrevoke : ∃ t', revokeLeaseCapabilities { t with toEventLog := log } event = .ok t' := by
    unfold revokeLeaseCapabilities
    split
    · exact ⟨_, rfl⟩
    · rename_i hterminal
      obtain ⟨hrun, hid⟩ := hlease (by simpa using hterminal)
      obtain ⟨run, hrun⟩ := Option.isSome_iff_exists.1 hrun
      obtain ⟨lease, hid⟩ := Option.isSome_iff_exists.1 hid
      simp only [hrun, hid, orThrow, ok_bind]
      exact ⟨_, rfl⟩
  obtain ⟨t', hrevoke⟩ := hrevoke
  exact ⟨t', record, by simp only [appendRevoking, hlog, ok_bind, hrevoke]; rfl⟩

/-- The payload of a document passes the checks of the events about it. -/
lemma validatePayload_document {document : DocumentState} (h : document.lease.Valid) :
    validatePayload .documentEditRecovered document.payload = .ok () := by
  refine (PayloadCodec.validate_eq_ok_iff ⟨documentFields, [], documentValidators⟩ _ _ _).2
    ⟨?_, ?_, ?_⟩
  · intro field hfield
    simp only [documentFields, List.mem_cons, List.not_mem_nil, or_false] at hfield
    rcases hfield with rfl | rfl | rfl | rfl | rfl | rfl | rfl | rfl | rfl | rfl <;>
      simp [DocumentState.payload, LeaseState.payload]
  · intro field hfield
    refine .inl ?_
    simpa [DocumentState.payload, LeaseState.payload, keys, documentFields, or_comm, or_assoc,
      or_left_comm] using hfield
  · have htext : ∀ {value : String}, value ≠ "" → FieldCheck.text.accepts (.str value) = true := by
      intro value hvalue
      simpa [FieldCheck.accepts, textPayload] using hvalue
    intro e he
    simp only [DocumentState.payload, LeaseState.payload, List.mem_cons, List.not_mem_nil,
      or_false] at he
    rcases he with rfl | rfl | rfl | rfl | rfl | rfl | rfl | rfl | rfl | rfl
    · exact htext h.leaseId_ne
    · exact htext h.workerId_ne
    · exact htext h.documentId_ne
    · exact htext document.lease.relativePath.asPosix_ne
    · exact htext h.virtualDocumentNamespace_ne
    · exact document.epochPair.baseEpoch_valid
    · have hnonneg : FieldCheck.integer.accepts (.int document.epochPair.knowledgeEpoch) = true := by
        simp [FieldCheck.accepts]
      exact hnonneg
    · have hnonneg : FieldCheck.integer.accepts (.int document.fileVersion) = true := by
        simp [FieldCheck.accepts]
      exact hnonneg
    · exact h.contentHash_valid
    · have htime : FieldCheck.timestamp.accepts (.str document.expiresAt.text) = true := by
        simp [FieldCheck.accepts]
      exact htime

omit [CharacterDatabase] in
/-- The document that holds a prepared edit is found, if no other holds it. -/
lemma exists_prepared {table : ProjectionTable} {document : DocumentState} {preparationId : String}
    (hdec : DecodesDocuments table)
    (hdocument : (documentView table).documents document.documentId = some document)
    (hprepared : document.preparedEventId = some preparationId)
    (honly : ∀ id d, (documentView table).documents id = some d →
      d.preparedEventId = some preparationId → d = document) :
    prepared table preparationId = .ok document := by
  obtain ⟨row, hrow, hread⟩ := documents_eq_some.1 hdocument
  have hmem : row ∈ rowsOf table .documents := mem_rowsOf.2 ⟨_, hrow⟩
  have hrows : ∀ r ∈ rowsOf table .documents, ∃ d, documentState r = .ok (some d) ∧
      documentFromProjection r = .ok d ∧ (d.preparedEventId = some preparationId → d = document) := by
    intro r hr
    obtain ⟨id, hid⟩ := mem_rowsOf.1 hr
    obtain ⟨hisState, d, hd, -⟩ := hdec.documents id r hid
    exact ⟨d, by simp [documentState, hisState, hd], hd,
      honly id d (documents_eq_some.2 ⟨r, hid, hd⟩)⟩
  unfold prepared
  generalize rowsOf table .documents = rows at hmem hrows
  induction rows with
  | nil => simp at hmem
  | cons r rows ih =>
    obtain ⟨d, hstate, hd, hsame⟩ := hrows r List.mem_cons_self
    unfold firstPrepared
    rw [hstate]
    dsimp only
    split
    · rename_i hd'
      rw [hsame hd']
    · rename_i hd'
      rcases List.mem_cons.1 hmem with rfl | hmem
      · rw [hread] at hd
        obtain rfl := Except.ok.inj hd
        exact absurd hprepared hd'
      · exact ih hmem fun r hr => hrows r (List.mem_cons_of_mem _ hr)

/-- A document with a prepared edit that no other document holds can be recovered. -/
lemma exists_recoverDocumentEdit {document : DocumentState} {preparationId : String}
    (hdec : DecodesDocuments t.projections) (hulid : isUlid stamp.eventId = true)
    (hnew : stamp.eventId ∉ t.events.map (·.eventId))
    (hdocument : (documentView t.projections).documents document.documentId = some document)
    (hprepared : document.preparedEventId = some preparationId) (hid : preparationId ≠ "")
    (hrun : document.runId ≠ "")
    (honly : ∀ id d, (documentView t.projections).documents id = some d →
      d.preparedEventId = some preparationId → d = document) (d : DocumentState)
    (hpayload : d.payload = document.payload) (hdrun : d.runId = document.runId) :
    ∃ t' record, recoverDocumentEdit t stamp ⟨preparationId, d⟩ = .ok (t', record) := by
  obtain ⟨row, hrow, hread⟩ := documents_eq_some.1 hdocument
  have hvalid := documentFromProjection_ok hread
  obtain ⟨event, hevent⟩ : ∃ event, makeEvent stamp ⟨"DocumentEditRecovered", "document_broker",
      some d.runId, some preparationId, d.payload⟩ = .ok event := by
    have htype : "DocumentEditRecovered" = EventType.documentEditRecovered.text := rfl
    refine exists_makeEvent hulid (by simp) ?_ ?_ htype ?_
    · simpa [hdrun] using hrun
    · simpa using hid
    · rw [hpayload]
      exact validatePayload_document hvalid
  obtain ⟨heventId, htype, -, -, hrunId, hcause, hpayload'⟩ := makeEvent_ok hevent
  replace htype : event.eventType = .documentEditRecovered := EventType.text_injective htype
  have hmatches : eventMatches document event document.fileVersion (some document.contentHash) =
      .ok ⟨⟩ := by
    have hsame : event.runId = some document.runId ∧ canonicalEntries event.payload =
        canonicalEntries (expectedPayload document event.eventType document.fileVersion
          document.contentHash) := by
      refine ⟨by rw [hrunId, hdrun], canonicalEntries_congr fun k => ?_⟩
      rw [hpayload', hpayload, htype]
      simp only [expectedPayload, reduceCtorEq, if_false, DocumentState.payloadAt, getEntry_set]
      split
      · rename_i hk
        simp [hk, DocumentState.payload, LeaseState.payload, DocumentState.lease]
      · split
        · rename_i hk
          simp [hk, DocumentState.payload, LeaseState.payload, DocumentState.lease]
        · rfl
    simp only [eventMatches, Option.some_or, orThrow, ok_bind, require_of hsame]
  obtain ⟨t', record, happend⟩ := exists_appendRevoking (heventId ▸ hnew)
    (by rw [htype]; decide) (fun hterminal => by rw [htype] at hterminal; cases hterminal)
  refine ⟨t', record, ?_⟩
  simp only [recoverDocumentEdit, hevent, ok_bind, recoverEdit,
    exists_prepared hdec hdocument hprepared honly, require_of hcause, hmatches, happend]

/-- An active lease can be recovered. -/
lemma exists_recoverDocumentLease {lease : LeaseState} (hulid : isUlid stamp.eventId = true)
    (hnew : stamp.eventId ∉ t.events.map (·.eventId))
    (hlease : (documentView t.projections).leases lease.leaseId = some lease)
    (hactive : lease.active = true) (hrun : lease.runId ≠ "") :
    ∃ t' record, recoverDocumentLease t stamp lease = .ok (t', record) := by
  obtain ⟨row, -, hread⟩ := leases_eq_some.1 hlease
  obtain ⟨hvalid, -⟩ := leaseFromProjection_ok hread
  have hpayload : validatePayload .leaseRecovered
      [("lease_id", .str lease.leaseId), ("reason_code", .str "BROKER_RECOVERY")] = .ok () := by
    refine (PayloadCodec.validate_eq_ok_iff ⟨["lease_id"], ["reason_code"], []⟩ _ _ _).2
      ⟨by simp [getEntry], by simp [keys], ?_⟩
    intro e he
    simp only [List.mem_cons, List.not_mem_nil, or_false] at he
    rcases he with rfl | rfl
    · have haccepts : textPayload (.str lease.leaseId) = true := by
        simpa [textPayload] using hvalid.leaseId_ne
      exact haccepts
    · decide
  obtain ⟨event, hevent⟩ : ∃ event, makeEvent stamp ⟨"LeaseRecovered", "document_broker",
      some lease.runId, none, [("lease_id", .str lease.leaseId),
        ("reason_code", .str "BROKER_RECOVERY")]⟩ = .ok event := by
    have htype : "LeaseRecovered" = EventType.leaseRecovered.text := rfl
    exact exists_makeEvent hulid (by simp) (by simpa using hrun) (by simp) htype hpayload
  obtain ⟨heventId, htype, -, -, hrunId, -, hpayload'⟩ := makeEvent_ok hevent
  replace htype : event.eventType = .leaseRecovered := EventType.text_injective htype
  have hid : event.text? "lease_id" = some lease.leaseId := by
    rw [EventEnvelope.text?, hpayload']
    rfl
  obtain ⟨t', record, happend⟩ := exists_appendRevoking (heventId ▸ hnew)
    (by rw [htype]; decide) (fun _ => by simp [hrunId, hid])
  refine ⟨t', record, ?_⟩
  simp only [recoverDocumentLease, hevent, ok_bind, terminateLease, findLease_eq_ok.2 hlease,
    require_of hactive, Option.not_mem_none, false_implies, implies_true, require_of trivial,
    happend]

end Aizim.State
