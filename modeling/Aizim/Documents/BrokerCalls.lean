import Aizim.Documents.BrokerInvariant

/-!
# The calls of the broker on the state service

For each operation of the state service that the broker calls, one lemma says that the operation
keeps the invariant over the files as they are, and which view it leaves.  What the broker has to
have done before is a hypothesis: before a commit the file holds the replacement and the replacement
is a snapshot; before a recovery the file holds the content of the document again; before a grant
there is the file of the new document and its snapshot.
-/

namespace Aizim.Documents

open Domain State Knowledge Stretch

/-! ## Steps of the view -/

section

variable {view view' : DocumentView} {a : EditAction String String String}

lemma view_of_prepare {key token : String} (h : DocumentStep view a view')
    (ha : a = .prepare key token) :
    ∃ document, document.documentId = key ∧ view.documents key = some document ∧
      view' = ⟨view.leases, Function.update view.documents key
        (some { document with preparedEventId := some token })⟩ := by
  cases h with
  | @prepare document eventId found idle =>
    cases ha
    exact ⟨document, rfl, found, rfl⟩
  | _ => cases ha

lemma view_of_commit {key token contentHash : String} (h : DocumentStep view a view')
    (ha : a = .commit key token contentHash) :
    ∃ document, document.documentId = key ∧ view.documents key = some document ∧
      view' = ⟨view.leases, Function.update view.documents key
        (some (document.withContent (document.fileVersion + 1) contentHash none))⟩ := by
  cases h with
  | @commit document preparationId hash found prepared =>
    cases ha
    exact ⟨document, rfl, found, rfl⟩
  | _ => cases ha

lemma view_of_recover {key token : String} (h : DocumentStep view a view')
    (ha : a = .recover key token) :
    ∃ document, document.documentId = key ∧ view.documents key = some document ∧
      view' = ⟨view.leases, Function.update view.documents key
        (some { document with preparedEventId := none })⟩ := by
  cases h with
  | @recover document preparationId found prepared =>
    cases ha
    exact ⟨document, rfl, found, rfl⟩
  | _ => cases ha

end

/-! ## Calls -/

/-- The files of a store with other tables. -/
def ProjectStore.withTables (store : ProjectStore) (tables : Tables) : ProjectStore :=
  ⟨tables, store.files, store.snapshots⟩

/-- A document whose edit was settled. -/
def settled (document : DocumentState) : DocumentState :=
  { document with preparedEventId := none }

variable [CharacterDatabase] {smoke : Bool} {s : ProjectStore} {t : Tables} {stamp : Stamp}

/-- An edit is prepared of a document under its active lease. -/
lemma BrokerInvariant.prepareDocumentEdit (h : BrokerInvariant smoke s) {access : AccessDocument}
    {version : Int} {hash : String} {preparation : DocumentPreparation}
    (hok : State.prepareDocumentEdit s.tables stamp access version hash = .ok (t, preparation)) :
    BrokerInvariant smoke (s.withTables t) ∧
      s.view.documents preparation.document.documentId = some preparation.document ∧
      preparation.document.preparedEventId = none ∧ s.Holds preparation.document ∧
      preparation.document.documentId = access.documentId ∧
      (preparation.document.fileVersion : Int) = version ∧
      preparation.document.contentHash = hash ∧
      (s.withTables t).view = ⟨s.view.leases, Function.update s.view.documents
        preparation.document.documentId
        (some { preparation.document with preparedEventId := some preparation.preparationId })⟩ := by
  obtain ⟨event, hid, hfound, hdocumentId, hidle, hversion, hhash, hcall⟩ :=
    prepareDocumentEdit_ok h.tables.decodes hok
  have htables : DocumentInvariant t := h.tables.of_call hcall fun key token heq => by
    cases heq
    exact hid.symm
  obtain ⟨document, -, hdocument, hview⟩ := view_of_prepare hcall.step rfl
  obtain rfl := Option.some.inj (hfound.symm.trans hdocument)
  have haccess : accessDocument s.tables.projections access = .ok preparation.document := by
    simp only [State.prepareDocumentEdit, prepareEdit, bind_eq_ok, pure_eq_ok, Prod.exists,
      Prod.mk.injEq] at hok
    obtain ⟨_, -, _, -, document, haccess, _, -, _, -, _, _, -, -, rfl⟩ := hok
    exact haccess
  obtain ⟨lease, hlease, hactive, hleaseDocument, hleaseId⟩ := accessDocument_lease haccess
  have hkey := h.tables.decodes.leaseId_eq hlease
  have hstores : s.Stores preparation.document := h.stores _ _ hfound
  have hholds : s.Holds preparation.document := by
    obtain ⟨d, hd, hkept⟩ := h.leased _ lease hlease hactive
    rw [hleaseDocument, ← hdocumentId] at hd
    obtain rfl := Option.some.inj (hfound.symm.trans hd)
    exact hkept.holds hidle
  refine ⟨?_, hfound, hidle, hholds, hdocumentId, hversion, hhash, hview⟩
  have hwritten : (s.withTables t).view = ⟨s.view.leases, Function.update s.view.documents
      preparation.document.documentId (some (preparation.document.withContent
        preparation.document.fileVersion preparation.document.contentHash
        (some preparation.preparationId)))⟩ := hview
  refine h.writeDocument htables rfl rfl hfound hwritten hstores (by simp) fun token htoken => ?_
  obtain rfl := Option.some.inj htoken
  refine ⟨hid ▸ event.eventId_valid, ⟨lease, ?_, hactive, ?_⟩, fun id e he hprepared => ?_⟩
  · rw [hleaseId, hkey]
    exact hlease
  · rw [hleaseDocument, hdocumentId]
  · -- the id of the new event is not that of a prepared edit
    obtain ⟨record, happly⟩ := hcall.applied
    have hspent := h.tables.spent id e.cell preparation.preparationId (cells_eq_some he) hprepared
    exact (applyEventMutation_ok happly).1 (hid ▸ hspent)

/-- An edit is committed whose replacement is in the file and among the snapshots. -/
lemma BrokerInvariant.commitDocumentEdit (h : BrokerInvariant smoke s) {now : Datetime}
    {preparation : DocumentPreparation} {hash : String} {record : EventRecord}
    (hok : State.commitDocumentEdit s.tables stamp now preparation hash = .ok (t, record))
    (hdocument : s.view.documents preparation.document.documentId =
      some { preparation.document with preparedEventId := some preparation.preparationId })
    (hstores : s.Stores (committed preparation.document hash))
    (hholds : s.Holds (committed preparation.document hash)) :
    BrokerInvariant smoke (s.withTables t) ∧
      (s.withTables t).view = ⟨s.view.leases, Function.update s.view.documents
        preparation.document.documentId (some (committed preparation.document hash))⟩ := by
  obtain ⟨event, document, hfound, -, hid, -, -, hcall⟩ := commitDocumentEdit_ok h.tables.decodes hok
  have htables : DocumentInvariant t := h.tables.of_call hcall (by simp)
  rw [hid] at hfound
  obtain ⟨document', -, hdocument', hview⟩ := view_of_commit hcall.step rfl
  rw [hid] at hdocument' hview
  obtain rfl := Option.some.inj (hdocument.symm.trans hdocument')
  refine ⟨?_, hview⟩
  exact h.writeDocument (d := { preparation.document with
    preparedEventId := some preparation.preparationId }) htables rfl rfl hdocument hview hstores
    (fun _ _ => hholds) (by simp)

/-- An edit is recovered whose document's file holds its content again. -/
lemma BrokerInvariant.recoverDocumentEdit (h : BrokerInvariant smoke s)
    {preparation : DocumentPreparation} {document : DocumentState} {record : EventRecord}
    (hok : State.recoverDocumentEdit s.tables stamp preparation = .ok (t, record))
    (hdocument : s.view.documents preparation.document.documentId = some document)
    (hholds : s.Holds document) :
    BrokerInvariant smoke (s.withTables t) ∧
      (s.withTables t).view = ⟨s.view.leases, Function.update s.view.documents
        preparation.document.documentId (some (settled document))⟩ := by
  obtain ⟨event, found, hfound, -, hid, -, hcall⟩ := recoverDocumentEdit_ok h.tables.decodes hok
  have htables : DocumentInvariant t := h.tables.of_call hcall (by simp)
  obtain ⟨document', -, hdocument', hview⟩ := view_of_recover hcall.step rfl
  rw [hid] at hdocument' hview
  obtain rfl := Option.some.inj (hdocument.symm.trans hdocument')
  have hstores : s.Stores document := h.stores _ _ hdocument
  have hkey : document.documentId = preparation.document.documentId :=
    h.tables.decodes.documentId_eq hdocument
  have hwritten : (s.withTables t).view = ⟨s.view.leases, Function.update s.view.documents
      document.documentId
      (some (document.withContent document.fileVersion document.contentHash none))⟩ := hkey ▸ hview
  refine ⟨?_, hview⟩
  exact h.writeDocument htables rfl rfl (hkey ▸ hdocument) hwritten hstores (fun _ _ => hholds)
    (by simp)

/-- A lease is granted for a document whose file and snapshot are there. -/
lemma BrokerInvariant.grantDocumentLease (h : BrokerInvariant smoke s) {lease : FileLease}
    {path : PosixPath} {record : EventRecord}
    (hok : State.grantDocumentLease s.tables stamp lease path = .ok (t, record))
    (hcanonical : Canonical smoke lease.runId lease.workerId path)
    (hstores : s.Stores ((grantedLease lease path).document none))
    (hholds : s.Holds ((grantedLease lease path).document none)) :
    BrokerInvariant smoke (s.withTables t) ∧ (s.withTables t).view =
      ⟨Function.update s.view.leases lease.leaseId (some (grantedLease lease path)),
        Function.update s.view.documents lease.documentId
          (some ((grantedLease lease path).document none))⟩ := by
  obtain ⟨hfree, -, hview, event, hcall⟩ := grantDocumentLease_view h.tables.decodes hok
  have htables : DocumentInvariant t := h.tables.of_call hcall (by simp)
  have hothers : ∀ id l, s.view.leases id = some l → l.active = true →
      id ≠ (grantedLease lease path).leaseId ∧ l.documentId ≠ (grantedLease lease path).documentId :=
    fun id l hl hactive => ⟨(hfree id l hl hactive).1, (hfree id l hl hactive).2.1⟩
  exact ⟨h.writeGrant htables rfl rfl hothers hview hcanonical hstores hholds, hview⟩

/-- A lease ends by its owner, whose document has no prepared edit. -/
lemma BrokerInvariant.releaseDocumentLease (h : BrokerInvariant smoke s)
    {runId workerId leaseId : String} {record : EventRecord}
    (hok : State.releaseDocumentLease s.tables stamp runId workerId leaseId = .ok (t, record))
    (hidle : ∀ id d, s.view.documents id = some d → d.leaseId = leaseId →
      d.preparedEventId = none) :
    BrokerInvariant smoke (s.withTables t) ∧
      (s.withTables t).view.documents = s.view.documents := by
  obtain ⟨⟨lease, -, hview⟩, event, hcall⟩ := releaseDocumentLease_view h.tables.decodes hok
  refine ⟨h.endLease (h.tables.of_call hcall (by simp)) rfl rfl hidle hview, ?_⟩
  change (documentView t.projections).documents = (documentView s.tables.projections).documents
  rw [hview]

/-- A lease ends by recovery, whose document has no prepared edit. -/
lemma BrokerInvariant.recoverDocumentLease (h : BrokerInvariant smoke s) {lease : LeaseState}
    {record : EventRecord}
    (hok : State.recoverDocumentLease s.tables stamp lease = .ok (t, record))
    (hidle : ∀ id d, s.view.documents id = some d → d.leaseId = lease.leaseId →
      d.preparedEventId = none) :
    BrokerInvariant smoke (s.withTables t) ∧ ∃ l, s.view.leases lease.leaseId = some l ∧
      (s.withTables t).view = ⟨Function.update s.view.leases lease.leaseId
        (some { l with active := false }), s.view.documents⟩ := by
  obtain ⟨⟨l, hl, hview⟩, event, hcall⟩ := recoverDocumentLease_view h.tables.decodes hok
  exact ⟨h.endLease (h.tables.of_call hcall (by simp)) rfl rfl hidle hview, l, hl, hview⟩

/-- The other operations of the state service leave the leases and documents. -/
lemma BrokerInvariant.view_operation (h : BrokerInvariant smoke s) {op : StateOp}
    (hother : op.writesDocuments = false) :
    (s.withTables (op.exec s.tables)).view = s.view := by
  change documentView (op.exec s.tables).projections = documentView s.tables.projections
  unfold StateOp.exec
  split
  · rename_i t' hrun
    obtain ⟨heffect, -⟩ := StateOp.run_ok h.tables.ids_nodup hrun
    obtain ⟨events, hevents, htypes⟩ := heffect.exists_run
    refine (view_of_run hevents (fun e he => ?_) h.tables.decodes).2
    simpa using List.any_eq_false.1 hother _ (htypes e he)
  · rfl

lemma BrokerInvariant.operation (h : BrokerInvariant smoke s) {op : StateOp}
    (hother : op.writesDocuments = false) :
    BrokerInvariant smoke (s.withTables (op.exec s.tables)) :=
  h.of_view (h.tables.exec ⟨op, .inr hother⟩).1 rfl rfl (h.view_operation hother)

end Aizim.Documents
