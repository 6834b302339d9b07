import Aizim.State.Service

/-!
# The lease and edit protocol

Clients take leases, prepare edits, commit or recover them and end leases, in any order and over
any documents, while other operations of the service go on.  `DocumentOp` is such an operation.

The documents are versioned cells (`editState`), so the rules of prepared edits apply to them:
every operation is one step of the edit system (`DocumentInvariant.exec`), and the event ids of the
log are the spent tokens.  Leases are exclusive by `DocumentStep.exclusive`.  `document_protocol`
puts both together.
-/

namespace Aizim.State

open JsonValue JsonObject TransitionSystem EditState

/-! ## Documents as cells -/

/-- The cell of a document. -/
def DocumentState.cell (document : DocumentState) : Cell String String :=
  ⟨document.fileVersion, document.contentHash, document.preparedEventId⟩

/-- The documents of a view as cells. -/
def DocumentView.cells (view : DocumentView) (id : String) : Option (Cell String String) :=
  (view.documents id).map DocumentState.cell

/-- The documents of a store, with the ids of its events. -/
def editState (log : EventLog) : EditState String String String where
  cells := (documentView log.projections).cells
  spent := { id | id ∈ log.events.map (·.eventId) }

lemma cells_update (view : DocumentView) (id : String) (document : DocumentState) :
    (⟨view.leases, Function.update view.documents id (some document)⟩ : DocumentView).cells =
      Function.update view.cells id (some document.cell) := by
  funext i
  by_cases hi : i = id
  · subst hi
    simp [DocumentView.cells]
  · simp [DocumentView.cells, hi]

lemma cells_eq_some {view : DocumentView} {document : DocumentState} {id : String}
    (h : view.documents id = some document) : view.cells id = some document.cell := by
  simp [DocumentView.cells, h]

/-- A step of the view is a step of its cells, if the id of a prepared edit is spent by it. -/
lemma DocumentStep.editStep {view view' : DocumentView} {a : EditAction String String String}
    {spent spent' : Set String} (h : DocumentStep view a view') (hgrows : spent ⊆ spent')
    (hprepare : ∀ key token, a = .prepare key token → token ∉ spent ∧ token ∈ spent') :
    EditStep ⟨view.cells, spent⟩ a ⟨view'.cells, spent'⟩ := by
  cases h with
  | keep => exact .idle hgrows
  | @grant lease active _ fresh =>
    have hcells := cells_update
      ⟨Function.update view.leases lease.leaseId (some lease), view.documents⟩
      lease.documentId (lease.document none)
    rw [hcells]
    exact .create (by simp [DocumentView.cells, fresh]) hgrows
  | @prepare document eventId found idle =>
    obtain ⟨hfresh, hspent⟩ := hprepare _ _ rfl
    rw [cells_update]
    exact .prepare (s := ⟨view.cells, spent⟩) (cells_eq_some found) idle hfresh hspent hgrows
  | @commit document preparationId contentHash found prepared =>
    rw [cells_update]
    exact .commit (s := ⟨view.cells, spent⟩) (cells_eq_some found) prepared hgrows
  | @recover document preparationId found prepared =>
    rw [cells_update]
    exact .recover (s := ⟨view.cells, spent⟩) (cells_eq_some found) prepared hgrows
  | terminate _ => exact .idle hgrows

/-! ## Operations -/

variable [CharacterDatabase]

/-- The operations on leases and documents. -/
def StateOp.isDocumentOp : StateOp → Bool
  | grantDocumentLease .. | prepareDocumentEdit .. | commitDocumentEdit .. |
    recoverDocumentEdit .. | releaseDocumentLease .. | recoverDocumentLease .. => true
  | _ => false

/-- An operation that can append events about leases or documents. -/
def StateOp.writesDocuments (op : StateOp) : Bool :=
  op.eventTypes.any fun type => type.projection == .leases || type.projection == .documents

/-- An operation on leases and documents, or one that does not write them. -/
def DocumentOp := { op : StateOp // op.isDocumentOp = true ∨ op.writesDocuments = false }

/-- The tables after a sequence of operations. -/
def runDocumentOps (t : Tables) (ops : List DocumentOp) : Tables :=
  ops.foldl (fun t op => op.1.exec t) t

/-- The invariant of the store. -/
structure DocumentInvariant (t : Tables) : Prop where
  ids_nodup : (ids t.publicationQueue).Nodup
  decodes : DecodesDocuments t.projections
  exclusive : (documentView t.projections).Exclusive
  spent : (editState t.toEventLog).Spent

omit [CharacterDatabase] in
lemma documentInvariant_initial : DocumentInvariant initialTables := by
  have hnone : ∀ p id, p ≠ .epochs → findRecord initialTables.projections p id = none := by
    intro p id hp
    simp [initialTables, initialLog, initialProjections, findRecord, hp]
  have hleases : ∀ id, (documentView initialTables.projections).leases id = none := fun id => by
    simp [documentView, findLease, hnone, orThrow, Except.toOption]
  have hdocuments : ∀ id, (documentView initialTables.projections).documents id = none :=
    fun id => by simp [documentView, findDocument, hnone, orThrow, Except.toOption]
  refine ⟨by simp [initialTables, ids], ⟨fun id row h => ?_, fun id row h => ?_⟩, ?_, ?_⟩
  · simp [hnone] at h
  · simp [hnone] at h
  · intro i j l m hl
    simp [hleases] at hl
  · intro key cell token hcell
    simp [editState, DocumentView.cells, hdocuments] at hcell

/-- The ids of the log after a run. -/
lemma eventIds_of_run {log log' : EventLog} {events : List EventEnvelope}
    (h : eventLogSystem.Run log events log') :
    (editState log').spent = (editState log).spent ∪ { id | id ∈ events.map (·.eventId) } := by
  obtain ⟨rows, hrows, hmap⟩ := events_of_run h
  have hids : rows.map (·.eventId) = events.map (·.eventId) := by
    simpa [Function.comp_def] using congrArg (List.map Prod.fst) hmap
  ext id
  simp [editState, hrows, ← hids]

/-- A successful operation on leases or documents is one step of the edit system. -/
lemma DocumentCall.editStep {t t' : Tables} {event : EventEnvelope}
    {a : EditAction String String String} (h : DocumentCall t t' event a)
    (hprepare : ∀ key token, a = .prepare key token → token = event.eventId) :
    EditStep (editState t.toEventLog) a (editState t'.toEventLog) := by
  obtain ⟨record, happly⟩ := h.applied
  obtain ⟨hfresh, -⟩ := applyEventMutation_ok happly
  have hspent := eventIds_of_run h.appends.run
  refine h.step.editStep ?_ fun key token ha => ?_
  · change (editState t.toEventLog).spent ⊆ (editState t'.toEventLog).spent
    rw [hspent]
    exact Set.subset_union_left
  · obtain rfl := hprepare key token ha
    refine ⟨hfresh, ?_⟩
    have hmem : event.eventId ∈ (editState t'.toEventLog).spent := by
      rw [hspent]
      exact Or.inr (by simp)
    exact hmem

lemma DocumentInvariant.of_call {t t' : Tables} {event : EventEnvelope}
    {a : EditAction String String String} (hinv : DocumentInvariant t)
    (h : DocumentCall t t' event a)
    (hprepare : ∀ key token, a = .prepare key token → token = event.eventId) :
    DocumentInvariant t' :=
  ⟨h.queue ▸ hinv.ids_nodup, h.decodes, h.step.exclusive hinv.exclusive,
    hinv.spent.step (h.editStep hprepare)⟩

/-- One operation: the invariant is kept, the documents take one step of the edit system, and the
step prepares an edit only if the operation does. -/
lemma DocumentInvariant.exec {t : Tables} (hinv : DocumentInvariant t) (op : DocumentOp) :
    DocumentInvariant (op.1.exec t) ∧
      ∃ a, EditStep (editState t.toEventLog) a (editState (op.1.exec t).toEventLog) ∧
        ∀ key token, a = .prepare key token → ∃ stamp access version hash t' preparation,
          op.1 = .prepareDocumentEdit stamp access version hash ∧
          prepareDocumentEdit t stamp access version hash = .ok (t', preparation) ∧
          preparation.preparationId = token ∧ preparation.document.documentId = key := by
  obtain ⟨op, hop⟩ := op
  unfold StateOp.exec
  simp only
  split
  swap
  · exact ⟨hinv, .idle, .idle (le_refl _), fun _ _ h => by cases h⟩
  rename_i t' hrun
  cases hdocument : op.isDocumentOp with
  | false =>
    -- an operation of another kind leaves the view
    have hwrites := hop.resolve_left (by simp [hdocument])
    obtain ⟨heffect, hqueue⟩ := StateOp.run_ok hinv.ids_nodup hrun
    obtain ⟨events, hevents, htypes⟩ := heffect.exists_run
    obtain ⟨hdec, hview⟩ := view_of_run hevents (fun e he => by
      have h := List.any_eq_false.1 hwrites _ (htypes e he)
      simpa using h) hinv.decodes
    have hstep : EditStep (editState t.toEventLog) .idle (editState t'.toEventLog) := by
      have hcells : (editState t'.toEventLog).cells = (editState t.toEventLog).cells := by
        simp only [editState, hview]
      have hgrows : (editState t.toEventLog).spent ⊆ (editState t'.toEventLog).spent := by
        rw [eventIds_of_run hevents]
        exact Set.subset_union_left
      have hidle := EditStep.idle hgrows
      rwa [← hcells] at hidle
    exact ⟨⟨(hqueue.callStep hinv.ids_nodup).ids_nodup hinv.ids_nodup, hdec, hview ▸ hinv.exclusive,
      hinv.spent.step hstep⟩, .idle, hstep, fun _ _ h => by cases h⟩
  | true =>
    cases op with
    | grantDocumentLease stamp lease path =>
      simp only [StateOp.run, map_eq_ok, Prod.exists] at hrun
      obtain ⟨a, record, h, rfl⟩ := hrun
      obtain ⟨event, hcall⟩ := grantDocumentLease_ok hinv.decodes h
      exact ⟨hinv.of_call hcall (by simp), _, hcall.editStep (by simp), by simp⟩
    | prepareDocumentEdit stamp access version hash =>
      simp only [StateOp.run, map_eq_ok, Prod.exists] at hrun
      obtain ⟨a, preparation, h, rfl⟩ := hrun
      obtain ⟨event, hid, -, -, -, -, -, hcall⟩ := prepareDocumentEdit_ok hinv.decodes h
      have htoken : ∀ key token, (EditAction.prepare preparation.document.documentId
          preparation.preparationId : EditAction String String String) = .prepare key token →
            token = event.eventId := by
        rintro key token heq
        cases heq
        exact hid.symm
      refine ⟨hinv.of_call hcall htoken, _, hcall.editStep htoken, ?_⟩
      rintro key token heq
      cases heq
      exact ⟨stamp, access, version, hash, _, preparation, rfl, h, rfl, rfl⟩
    | commitDocumentEdit stamp now preparation hash =>
      simp only [StateOp.run, map_eq_ok, Prod.exists] at hrun
      obtain ⟨a, record, h, rfl⟩ := hrun
      obtain ⟨event, document, -, -, -, -, -, hcall⟩ := commitDocumentEdit_ok hinv.decodes h
      exact ⟨hinv.of_call hcall (by simp), _, hcall.editStep (by simp), by simp⟩
    | recoverDocumentEdit stamp preparation =>
      simp only [StateOp.run, map_eq_ok, Prod.exists] at hrun
      obtain ⟨a, record, h, rfl⟩ := hrun
      obtain ⟨event, document, -, -, -, -, hcall⟩ := recoverDocumentEdit_ok hinv.decodes h
      exact ⟨hinv.of_call hcall (by simp), _, hcall.editStep (by simp), by simp⟩
    | releaseDocumentLease stamp runId workerId leaseId =>
      simp only [StateOp.run, map_eq_ok, Prod.exists] at hrun
      obtain ⟨a, record, h, rfl⟩ := hrun
      obtain ⟨event, hcall⟩ := releaseDocumentLease_ok hinv.decodes h
      exact ⟨hinv.of_call hcall (by simp), _, hcall.editStep (by simp), by simp⟩
    | recoverDocumentLease stamp lease =>
      simp only [StateOp.run, map_eq_ok, Prod.exists] at hrun
      obtain ⟨a, record, h, rfl⟩ := hrun
      obtain ⟨event, hcall⟩ := recoverDocumentLease_ok hinv.decodes h
      exact ⟨hinv.of_call hcall (by simp), _, hcall.editStep (by simp), by simp⟩
    | _ => simp [StateOp.isDocumentOp] at hdocument

/-! ## Runs -/

/-- A sequence of operations is a run of the edit system. -/
lemma runDocumentOps_ok {t : Tables} (hinv : DocumentInvariant t) (ops : List DocumentOp) :
    DocumentInvariant (runDocumentOps t ops) ∧
      ∃ as, (editSystem String String String).Run (editState t.toEventLog) as
        (editState (runDocumentOps t ops).toEventLog) := by
  induction ops using List.reverseRecOn with
  | nil => exact ⟨hinv, [], .nil _⟩
  | append_singleton ops op ih =>
    obtain ⟨hmid, as, has⟩ := ih
    obtain ⟨hlast, a, hstep, -⟩ := hmid.exec op
    have hrun : runDocumentOps t (ops ++ [op]) = op.1.exec (runDocumentOps t ops) := by
      simp [runDocumentOps]
    rw [hrun]
    exact ⟨hlast, as ++ [a], has.snoc hstep⟩

/-- The edit was prepared in the run: a call of `prepare_document_edit` returned it. -/
def PreparedIn (ops : List DocumentOp) (preparation : DocumentPreparation) : Prop :=
  ∃ ops₁ ops₂ op stamp access version hash t', ops = ops₁ ++ op :: ops₂ ∧
    op.1 = .prepareDocumentEdit stamp access version hash ∧
    prepareDocumentEdit (runDocumentOps initialTables ops₁) stamp access version hash =
      .ok (t', preparation) ∧
    findDocument (runDocumentOps initialTables ops₁).projections
      preparation.document.documentId = .ok preparation.document ∧
    preparation.document.preparedEventId = none

lemma PreparedIn.append {ops : List DocumentOp} {preparation : DocumentPreparation}
    (h : PreparedIn ops preparation) (op : DocumentOp) : PreparedIn (ops ++ [op]) preparation := by
  obtain ⟨ops₁, ops₂, op', stamp, access, version, hash, t', rfl, rest⟩ := h
  exact ⟨ops₁, ops₂ ++ [op], op', stamp, access, version, hash, t', by simp, rest⟩

lemma runDocumentOps_append (t : Tables) (ops more : List DocumentOp) :
    runDocumentOps t (ops ++ more) = runDocumentOps (runDocumentOps t ops) more :=
  List.foldl_append

/-- A prepared edit of a reachable store was prepared in the run. -/
lemma exists_preparedIn (ops : List DocumentOp) {key : String} {cell : Cell String String}
    {token : String}
    (hcell : (editState (runDocumentOps initialTables ops).toEventLog).cells key = some cell)
    (htoken : cell.prepared = some token) :
    ∃ preparation, PreparedIn ops preparation ∧ preparation.preparationId = token := by
  induction ops using List.reverseRecOn with
  | nil =>
    exact absurd (documentInvariant_initial.spent key cell token hcell htoken)
      (by simp [editState, initialTables, initialLog])
  | append_singleton ops op ih =>
    obtain ⟨hinv, -⟩ := runDocumentOps_ok documentInvariant_initial ops
    obtain ⟨-, a, hstep, hprepare⟩ := hinv.exec op
    rw [runDocumentOps_append] at hcell
    rcases prepared_of_step hstep hcell htoken with hold | ⟨ha, -⟩
    · obtain ⟨preparation, hpreparation, hid⟩ := ih hold
      exact ⟨preparation, hpreparation.append op, hid⟩
    · obtain ⟨stamp, access, version, hash, t', preparation, hop, hok, hid, -⟩ :=
        hprepare key token ha
      obtain ⟨-, -, hfound, -, hidle, -⟩ := prepareDocumentEdit_ok hinv.decodes hok
      exact ⟨preparation, ⟨ops, [], op, stamp, access, version, hash, t', rfl, hop, hok,
        findDocument_eq_ok.2 hfound, hidle⟩, hid⟩

/-- A document that holds an edit of the run is as it was when the edit was prepared. -/
lemma PreparedIn.preparedAt {ops : List DocumentOp} {preparation : DocumentPreparation}
    (h : PreparedIn ops preparation) :
    (editState (runDocumentOps initialTables ops).toEventLog).PreparedAt
      preparation.preparationId preparation.document.documentId
      { preparation.document.cell with prepared := some preparation.preparationId } := by
  obtain ⟨ops₁, ops₂, op, stamp, access, version, hash, t', rfl, hop, hok, -, -⟩ := h
  obtain ⟨hinv, -⟩ := runDocumentOps_ok documentInvariant_initial ops₁
  obtain ⟨event, hid, hfound, -, -, -, -, hcall⟩ := prepareDocumentEdit_ok hinv.decodes hok
  have htoken : ∀ key token, (EditAction.prepare preparation.document.documentId
      preparation.preparationId : EditAction String String String) = .prepare key token →
        token = event.eventId := by
    rintro key token heq
    cases heq
    exact hid.symm
  have hexec : op.1.exec (runDocumentOps initialTables ops₁) = t' := by
    have hrun : op.1.run (runDocumentOps initialTables ops₁) = .ok t' := by
      rw [hop]
      exact map_eq_ok.2 ⟨_, hok, rfl⟩
    simp [StateOp.exec, hrun]
  obtain ⟨-, as, hrun⟩ := runDocumentOps_ok (hinv.of_call hcall htoken) ops₂
  rw [runDocumentOps_append]
  change EditState.PreparedAt (editState (runDocumentOps (op.1.exec _) ops₂).toEventLog) _ _ _
  rw [hexec]
  exact run_preparedAt hrun (hinv.spent.preparedAt (cells_eq_some hfound) (hcall.editStep htoken))

/-- What settling a prepared edit does: the edit was prepared in the run, and its document goes from
the version and content it had then to the given ones, without a prepared edit. -/
def Settles (ops : List DocumentOp) (t' : Tables) (preparationId : String)
    (version : DocumentState → ℕ) (contentHash : DocumentState → String) : Prop :=
  (∃ preparation, PreparedIn ops preparation ∧ preparation.preparationId = preparationId) ∧
  ∀ preparation, PreparedIn ops preparation → preparation.preparationId = preparationId →
    ∃ before after,
      findDocument (runDocumentOps initialTables ops).projections preparation.document.documentId =
        .ok before ∧
      before.fileVersion = preparation.document.fileVersion ∧
      before.contentHash = preparation.document.contentHash ∧
      findDocument t'.projections preparation.document.documentId = .ok after ∧
      after.fileVersion = version preparation.document ∧
      after.contentHash = contentHash preparation.document ∧ after.preparedEventId = none

/-- An operation that writes the document of a prepared edit settles it. -/
lemma settles_of_written {ops : List DocumentOp} {t' : Tables} {preparationId : String}
    {version : DocumentState → ℕ} {contentHash : DocumentState → String}
    {document after : DocumentState}
    (hfound : (documentView (runDocumentOps initialTables ops).projections).documents
      document.documentId = some document)
    (hprepared : document.preparedEventId = some preparationId)
    (hafter : (documentView t'.projections).documents document.documentId = some after)
    (hversion : ∀ d : DocumentState, d.fileVersion = document.fileVersion →
      after.fileVersion = version d)
    (hcontent : ∀ d : DocumentState, d.contentHash = document.contentHash →
      after.contentHash = contentHash d)
    (hsettled : after.preparedEventId = none) :
    Settles ops t' preparationId version contentHash := by
  refine ⟨exists_preparedIn ops (cells_eq_some hfound) hprepared, ?_⟩
  rintro preparation hin rfl
  obtain ⟨hkey, hcell⟩ := hin.preparedAt.2 _ _ (cells_eq_some hfound) hprepared
  have hversions : document.fileVersion = preparation.document.fileVersion :=
    congrArg Cell.version hcell
  have hcontents : document.contentHash = preparation.document.contentHash :=
    congrArg Cell.content hcell
  rw [← hkey]
  exact ⟨document, after, findDocument_eq_ok.2 hfound, hversions, hcontents,
    findDocument_eq_ok.2 hafter, hversion _ hversions.symm, hcontent _ hcontents.symm, hsettled⟩

/-! ## The protocol -/

/-- **The lease and edit protocol.**  After any sequence of operations on a new store: no document
and no path has two active leases; no document has two prepared edits, and only one without any can
be prepared; a commit takes the document of its prepared edit to the next version and the committed
hash; of two commits on one document the later expects a later version; and a recovery leaves the
version and hash that the document had before the edit was prepared. -/
theorem document_protocol (ops : List DocumentOp) :
    (∃ leases, activeLeases (runDocumentOps initialTables ops).projections = .ok leases ∧
      (leases.map (·.documentId)).Nodup ∧ (leases.map (·.relativePath)).Nodup) ∧
    (∃ documents, preparedDocuments (runDocumentOps initialTables ops).projections =
      .ok documents ∧ (documents.map (·.documentId)).Nodup) ∧
    (∀ stamp access expectedVersion expectedHash t' preparation,
      prepareDocumentEdit (runDocumentOps initialTables ops) stamp access expectedVersion
        expectedHash = .ok (t', preparation) →
      findDocument (runDocumentOps initialTables ops).projections access.documentId =
        .ok preparation.document ∧ preparation.document.preparedEventId = none ∧
        (preparation.document.fileVersion : Int) = expectedVersion ∧
        preparation.document.contentHash = expectedHash) ∧
    (∀ stamp now preparation replacementHash t' record,
      commitDocumentEdit (runDocumentOps initialTables ops) stamp now preparation
        replacementHash = .ok (t', record) →
      Settles ops t' preparation.preparationId (fun d => d.fileVersion + 1)
        (fun _ => replacementHash) ∧
      ∀ more stamp' now' preparation' replacementHash' t'' record',
        commitDocumentEdit (runDocumentOps t' more) stamp' now' preparation' replacementHash' =
          .ok (t'', record') →
        preparation'.document.documentId = preparation.document.documentId →
        preparation.document.fileVersion < preparation'.document.fileVersion) ∧
    (∀ stamp preparation t' record,
      recoverDocumentEdit (runDocumentOps initialTables ops) stamp preparation =
        .ok (t', record) →
      Settles ops t' preparation.preparationId (fun d => d.fileVersion)
        (fun d => d.contentHash)) := by
  obtain ⟨hinv, -⟩ := runDocumentOps_ok documentInvariant_initial ops
  refine ⟨?_, ?_, ?_, ?_, ?_⟩
  · obtain ⟨leases, hleases, hmem, hpairwise⟩ := activeLeases_eq_ok hinv.decodes
    refine ⟨leases, hleases, List.pairwise_map.2 (hpairwise.imp_of_mem ?_),
      List.pairwise_map.2 (hpairwise.imp_of_mem ?_)⟩
    · intro l m hl hm hne hsame
      obtain ⟨hl, hlactive⟩ := (hmem l).1 hl
      obtain ⟨hm, hmactive⟩ := (hmem m).1 hm
      exact hne (hinv.exclusive _ _ l m hl hm hlactive hmactive (Or.inl hsame))
    · intro l m hl hm hne hsame
      obtain ⟨hl, hlactive⟩ := (hmem l).1 hl
      obtain ⟨hm, hmactive⟩ := (hmem m).1 hm
      exact hne (hinv.exclusive _ _ l m hl hm hlactive hmactive (Or.inr hsame))
  · obtain ⟨documents, hdocuments, -, hpairwise⟩ := preparedDocuments_eq_ok hinv.decodes
    exact ⟨documents, hdocuments, List.pairwise_map.2 hpairwise⟩
  · intro stamp access expectedVersion expectedHash t' preparation h
    obtain ⟨event, -, hfound, hid, hidle, hversion, hcontent, -⟩ :=
      prepareDocumentEdit_ok hinv.decodes h
    exact ⟨findDocument_eq_ok.2 (hid ▸ hfound), hidle, hversion, hcontent⟩
  · intro stamp now preparation replacementHash t' record h
    obtain ⟨event, document, hfound, hprepared, hid, hversion, hafter, hcall⟩ :=
      commitDocumentEdit_ok hinv.decodes h
    refine ⟨settles_of_written hfound hprepared hafter (fun d hd => by rw [hd]; rfl)
      (fun d _ => rfl) rfl, ?_⟩
    intro more stamp' now' preparation' replacementHash' t'' record' h' hsame
    obtain ⟨hmid, as, hrun⟩ := runDocumentOps_ok (hinv.of_call hcall (by simp)) more
    obtain ⟨event', document', hfound', -, hid', hversion', -⟩ :=
      commitDocumentEdit_ok hmid.decodes h'
    have hkey : document'.documentId = document.documentId := by rw [hid', hsame, hid]
    rw [hkey] at hfound'
    rw [← hversion, ← hversion']
    exact commit_version_lt (cells_eq_some hfound) (hcall.editStep (by simp)) hrun
      (cells_eq_some hfound')
  · intro stamp preparation t' record h
    obtain ⟨event, document, hfound, hprepared, -, hafter, -⟩ :=
      recoverDocumentEdit_ok hinv.decodes h
    exact settles_of_written hfound hprepared hafter (fun d hd => hd.symm) (fun d hd => hd.symm) rfl

end Aizim.State
