import Aizim.Documents.BrokerSpec

/-!
# The operations of the broker

Every operation keeps the invariant of the store in every state that it saves, whatever the weather:
so the process may die in it anywhere.  Beyond that, an operation of a broker that has recovered
takes effect as a whole or leaves the leases and documents as they were.  The exception is
`compare_and_swap` when the compensation raises: then the edit stays prepared, for the next broker to
recover.

A lease must not end while an edit of its document is prepared.  `release_lease` does not look for
one, so here that is a hypothesis about the store it is called on.
-/

namespace Aizim.Documents

open Domain State Knowledge Stretch

variable {smoke : Bool} {s : BrokerState}

/-! ## What an operation keeps -/

/-- No edit is newly prepared, and none is left prepared when the broker has just recovered. -/
structure Quiet (s u : BrokerState) : Prop where
  edits : NoNewEdits s.store.view u.store.view
  idle : s.memory.recovered = false → u.memory.recovered = true → u.store.Idle

/-- The leases and documents are those from before, if the broker had recovered. -/
structure Unchanged (s u : BrokerState) : Prop extends Quiet s u where
  view : s.memory.recovered = true → u.store.view = s.store.view

section

variable {m u : BrokerState}

/-- Steps after the recovery that prepare no edit. -/
lemma Quiet.of_recovered (hrecovered : if s.memory.recovered then m = s
    else Recovered s.store m.store) (h : NoNewEdits m.store.view u.store.view) : Quiet s u := by
  cases hs : s.memory.recovered with
  | true =>
    rw [if_pos hs] at hrecovered
    exact ⟨hrecovered ▸ h, fun hnot => by simp [hs] at hnot⟩
  | false =>
    rw [if_neg (by simp [hs])] at hrecovered
    have hidle : m.store.Idle := by
      intro id d hd
      rw [hrecovered.documents] at hd
      obtain ⟨d', -, rfl⟩ := Option.map_eq_some_iff.1 hd
      rfl
    refine ⟨fun id d token hd htoken => ?_, fun _ _ => hidle.of_edits h⟩
    rw [hidle.of_edits h id d hd] at htoken
    cases htoken

/-- Steps after the recovery that leave the leases and documents. -/
lemma Unchanged.of_recovered (hrecovered : if s.memory.recovered then m = s
    else Recovered s.store m.store) (h : u.store.view = m.store.view) : Unchanged s u :=
  ⟨.of_recovered hrecovered (.of_documents (by rw [h])), fun hs => by
    rw [if_pos hs] at hrecovered
    rw [h, hrecovered]⟩

/-- A recovery that raises. -/
lemma Unchanged.of_failed (hs : s.memory.recovered = false) (hu : u.memory.recovered = false)
    (h : NoNewEdits s.store.view u.store.view) : Unchanged s u :=
  ⟨⟨h, fun _ hrecovered => by simp [hu] at hrecovered⟩, fun hrecovered => by simp [hs] at hrecovered⟩

end

/-! ## Creating a document -/

/-- What is left at the path of a new document is under no active lease. -/
lemma ensures_discardStale {runId : String} {path : PosixPath} (h : BrokerInvariant smoke s.store) :
    (discardStale runId path).Ensures (Ready False) (fun u => BrokerInvariant smoke u.store)
      (fun _ u => BrokerInvariant smoke u.store ∧ u.store.view = s.store.view)
      (fun _ u => BrokerInvariant smoke u.store ∧ u.store.view = s.store.view) s := by
  refine Ensures.bind (ensures_stateQuery (fun _ leases hleases => ?_) (fun _ _ _ => ⟨h, rfl⟩)
    fun _ => ⟨h, rfl⟩)
  obtain ⟨found, hfound, hmem, -⟩ := activeLeases_eq_ok h.tables.decodes
  obtain rfl := Except.ok.inj (hfound.symm.trans hleases)
  split
  · exact ensures_pure ⟨h, rfl⟩
  · rename_i hnone
    have hfree : ∀ id l, s.store.view.leases id = some l → l.active = true →
        ¬ (l.runId = runId ∧ l.relativePath = path) := by
      intro id l hl hactive heq
      have hkey := h.tables.decodes.leaseId_eq hl
      refine hnone (List.any_eq_true.2 ⟨l, (hmem l).2 ⟨hkey.symm ▸ hl, hactive⟩, ?_⟩)
      simpa using heq
    have hkept : ∀ u : BrokerState, FileStep runId path s.store u.store →
        BrokerInvariant smoke u.store ∧ u.store.view = s.store.view := fun u hu =>
      ⟨h.writeFree hfree hu, by rw [ProjectStore.view, hu.tables, ProjectStore.view]⟩
    exact (ensures_discardDocumentFile fun u hu => (hkept u hu).1).mono (fun _ h => h)
      (fun _ u hu => hkept u hu) fun _ u hu => hkept u hu

/-- The lease of a new document has the owner and the content it is made for. -/
lemma ensures_makeLease {runId workerId : String} {epochPair : EpochPair} {contentHash : String}
    {I : BrokerState → Prop} :
    (makeLease runId workerId epochPair contentHash).Ensures (Ready False) I
      (fun lease u => u = s ∧ lease.runId = runId ∧ lease.workerId = workerId ∧
        lease.epochPair = epochPair ∧ lease.fileVersion = 0 ∧ lease.contentHash = contentHash)
      (fun _ u => u = s) s := by
  refine Ensures.bind (ensures_observe (fun _ _ _ => ?_) (fun _ _ _ => rfl) fun _ _ => rfl)
  refine Ensures.bind (ensures_observe (fun _ _ _ => ?_) (fun _ _ _ => rfl) fun _ _ => rfl)
  refine Ensures.bind (ensures_observe (fun _ _ _ => ?_) (fun _ _ _ => rfl) fun _ _ => rfl)
  refine ensures_check (fun lease hlease => ?_) fun _ _ => rfl
  unfold createFileLease at hlease
  split at hlease
  · obtain rfl := Except.ok.inj hlease
    exact ⟨rfl, rfl, rfl, rfl, rfl, rfl⟩
  · cases hlease

variable [CharacterDatabase]

/-- `create_document` adds a lease with its document and file, or no lease and no document. -/
lemma ensures_createDocument (h : BrokerInvariant smoke s.store) (runId workerId : String)
    (relative : PosixPath) (content : Bytes) (epochPair : EpochPair) :
    (createDocument smoke runId workerId relative content epochPair).Ensures (Ready False)
      (fun u => BrokerInvariant smoke u.store)
      (fun lease u => BrokerInvariant smoke u.store ∧ Quiet s u ∧
        (lease.runId = runId ∧ lease.workerId = workerId ∧ lease.epochPair = epochPair ∧
          lease.fileVersion = 0 ∧ lease.contentHash = sha256Bytes content) ∧
        u.store.file runId relative = some ⟨content, 0o600⟩ ∧
        (s.memory.recovered = true → u.store.view =
          ⟨Function.update s.store.view.leases lease.leaseId (some (grantedLease lease relative)),
            Function.update s.store.view.documents lease.documentId
              (some ((grantedLease lease relative).document none))⟩))
      (fun _ u => BrokerInvariant smoke u.store ∧ Unchanged s u) s := by
  refine Ensures.bind ((ensures_ensureRecovered h (False.elim ·)).mono (fun _ h => h) ?_ ?_)
  swap
  · rintro _ u ⟨hu, hs, hfailed, hedits, -⟩
    exact ⟨hu, .of_failed hs hfailed hedits⟩
  rintro _ u ⟨hu, -, hrecovered⟩
  have hsame : Unchanged s u := .of_recovered hrecovered rfl
  refine Ensures.bind (ensures_check (fun canonical hcanonical => ?_) fun _ _ => ⟨hu, hsame⟩)
  rw [mapError_eq_ok] at hcanonical
  have hpath := canonicalDocument_ok hcanonical
  obtain rfl : relative = canonical := by
    simp only [canonicalDocument, validateRelativePath, bind_eq_ok, require_eq_ok, pure_eq_ok,
      exists_and_left, exists_const] at hcanonical
    obtain ⟨_, -, _, -, _, ⟨-, -, -, rfl⟩, -, rfl⟩ := hcanonical
    rfl
  refine Ensures.bind (ensures_stateQuery (fun _ _ _ => ?_) (fun _ _ _ => ⟨hu, hsame⟩)
    fun _ => ⟨hu, hsame⟩)
  refine Ensures.bind (ensures_check (fun _ _ => ?_) fun _ _ => ⟨hu, hsame⟩)
  refine Ensures.bind (ensures_observe (fun _ _ _ => ?_) (fun _ _ _ => ⟨hu, hsame⟩)
    fun _ _ => ⟨hu, hsame⟩)
  refine Ensures.bind (ensures_check (fun _ _ => ?_) fun _ _ => ⟨hu, hsame⟩)
  refine Ensures.bind ((ensures_discardStale hu).mono (fun _ h => h) ?_ ?_)
  swap
  · rintro _ v ⟨hv, hview⟩
    exact ⟨hv, .of_recovered hrecovered hview⟩
  rintro _ v ⟨hv, hview⟩
  -- a file is written only where there was none, so under no active lease
  have hwrite : ∀ w : BrokerState, FileStep runId relative v.store w.store →
      v.store.file runId relative = none →
      BrokerInvariant smoke w.store ∧ w.store.view = u.store.view := fun w hw hnone =>
    ⟨hv.writeFree (fun _ _ hl hactive => hv.free_of_file hnone hl hactive) hw, by
      rw [← hview, ProjectStore.view, hw.tables, ProjectStore.view]⟩
  have hkept : ∀ w : BrokerState, FileStep runId relative v.store w.store ∧
      (v.store.file runId relative = none ∨ w.store = v.store) →
      BrokerInvariant smoke w.store ∧ Unchanged s w := by
    rintro w ⟨hw, hnone | hstore⟩
    · exact ⟨(hwrite w hw hnone).1, .of_recovered hrecovered (hwrite w hw hnone).2⟩
    · exact ⟨hstore ▸ hv, .of_recovered hrecovered (hstore ▸ hview)⟩
  refine Ensures.bind (Ensures.tryCatch ((ensures_createDocumentFile hpath.runId_valid
    fun w hw hnone => (hkept w ⟨hw, hnone⟩).1).mono (fun _ h => h) ?_ ?_))
  swap
  · rintro fault w hw
    exact ensures_throw (hkept w hw)
  rintro contentHash w ⟨hw, hnone, rfl, hfile, hsnapshot⟩
  obtain ⟨hinv, hwview⟩ := hwrite w hw hnone
  -- the handler of an exception discards the file again
  have hundo : ∀ fault (x : BrokerState), x = w → ∀ {Q : FileLease → BrokerState → Prop}, (do
      discardOrRaise runId relative
      throw (raised "DOCUMENT_CREATION_FAILED" fault) : BrokerM FileLease).Ensures (Ready False)
        (fun u => BrokerInvariant smoke u.store) Q
        (fun _ u => BrokerInvariant smoke u.store ∧ Unchanged s u) x := by
    rintro fault x rfl Q
    refine Ensures.bind (Ensures.tryCatch ((ensures_discardDocumentFile fun y hy =>
      (hwrite y (hw.trans hy) hnone).1).mono (fun _ h => h) ?_ ?_))
    · rintro _ y hy
      exact ensures_throw (hkept y ⟨hw.trans hy, .inl hnone⟩)
    · rintro _ y hy
      exact ensures_throw (hkept y ⟨hw.trans hy, .inl hnone⟩)
  refine Ensures.tryCatch (Ensures.bind (ensures_makeLease.mono (fun _ h => h) ?_
    fun fault x hx => hundo fault x hx))
  rintro lease x ⟨rfl, rfl, rfl, rfl, hversion, hhash⟩
  refine Ensures.bind (ensures_stateCall (fun _ t record hok => ?_) (fun _ _ _ _ => hundo _ _ rfl)
    fun _ => hundo _ _ rfl)
  have hstored : x.store.snapshots lease.runId lease.contentHash = some ⟨content, 0o600⟩ := by
    rw [hhash]
    exact hsnapshot
  obtain ⟨hgranted, hgrantedView⟩ := hinv.grantDocumentLease hok hpath
    ⟨content, hhash.symm, hstored⟩ ⟨_, hfile, hhash.symm⟩
  rw [hwview] at hgrantedView
  refine ⟨hgranted, ensures_pure ⟨hgranted, .of_recovered hrecovered ?_,
    ⟨rfl, rfl, rfl, hversion, hhash⟩, hfile, fun hs => ?_⟩⟩
  · exact (congrArg (NoNewEdits u.store.view) hgrantedView).mpr (.update rfl)
  · rw [← hsame.view hs]
    exact hgrantedView

/-! ## Reading a document -/

omit [CharacterDatabase] in
/-- The document that an access is granted to is canonical and has a file with its content. -/
lemma BrokerInvariant.accessDocument {store : ProjectStore} (h : BrokerInvariant smoke store)
    {access : AccessDocument} {document : DocumentState}
    (hok : State.accessDocument store.tables.projections access = .ok document) :
    store.view.documents access.documentId = some document ∧ store.Holds document ∧
      Canonical smoke document.runId document.workerId document.relativePath := by
  obtain ⟨hfound, hidle⟩ := accessDocument_ok hok
  obtain ⟨lease, hlease, hactive, hid, -⟩ := accessDocument_lease hok
  obtain ⟨d, hd, hkept⟩ := h.leased _ lease hlease hactive
  rw [hid] at hd
  obtain rfl := Option.some.inj (hfound.symm.trans hd)
  exact ⟨hfound, hkept.holds hidle, h.canonical _ _ hfound⟩

/-- `read_document` returns the content of the document at its version, and changes nothing. -/
lemma ensures_readDocument (h : BrokerInvariant smoke s.store)
    (runId workerId leaseId documentId : String) :
    (readDocument smoke runId workerId leaseId documentId).Ensures (Ready False)
      (fun u => BrokerInvariant smoke u.store)
      (fun snapshot u => BrokerInvariant smoke u.store ∧
        (Quiet s u ∧ (s.memory.recovered = true → u.store = s.store)) ∧
        ∃ d file, u.store.view.documents documentId = some d ∧
          u.store.file d.runId d.relativePath = some file ∧ snapshot.content = file.body ∧
          sha256Bytes file.body = d.contentHash ∧ snapshot.fileVersion = d.fileVersion ∧
          snapshot.contentHash = d.contentHash)
      (fun _ u => BrokerInvariant smoke u.store ∧
        Quiet s u ∧ (s.memory.recovered = true → u.store = s.store)) s := by
  refine Ensures.bind ((ensures_ensureRecovered h (False.elim ·)).mono (fun _ h => h) ?_ ?_)
  swap
  · rintro _ u ⟨hu, hs, hfailed, hedits, -⟩
    exact ⟨hu, (Unchanged.of_failed hs hfailed hedits).toQuiet, by simp [hs]⟩
  rintro _ u ⟨hu, -, hrecovered⟩
  have hkept : ∀ v : BrokerState, v.store = u.store →
      Quiet s v ∧ (s.memory.recovered = true → v.store = s.store) := fun v hv =>
    ⟨.of_recovered hrecovered (.of_documents (by rw [hv])), fun hs => by
      rw [if_pos hs] at hrecovered
      rw [hv, hrecovered]⟩
  have hsame := hkept u rfl
  refine Ensures.bind (Ensures.tryCatch (Ensures.bind (ensures_stateQuery (fun _ document hok => ?_)
    (fun _ _ _ => ensures_throw ⟨hu, hsame⟩) fun _ => ensures_throw ⟨hu, hsame⟩)))
  obtain ⟨hfound, -, hcanonical⟩ := hu.accessDocument hok
  refine Ensures.bind ((ensures_readDocumentFile hcanonical (False.elim ·)).mono (fun _ h => h) ?_ ?_)
  swap
  · rintro fault v hv
    exact ensures_throw ⟨hv ▸ hu, hkept v hv⟩
  rintro body v ⟨hv, file, hfile, rfl⟩
  replace hsame := hkept v hv
  rw [← hv] at hu hfound hfile
  refine ensures_pure (Ensures.bind (ensures_check (fun _ hhash => ?_) fun _ _ => ⟨hu, hsame⟩))
  refine ensures_check (fun snapshot hsnapshot => ?_) fun _ _ => ⟨hu, hsame⟩
  simp only [documentSnapshot, bind_eq_ok, require_eq_ok, pure_eq_ok, exists_and_left,
    exists_const] at hsnapshot
  obtain ⟨-, rfl⟩ := hsnapshot
  exact ⟨hu, hsame, document, file, hfound, hfile, rfl, require_eq_ok.1 hhash, rfl, rfl⟩

/-- `_trusted_runtime_document` changes nothing. -/
lemma ensures_trustedRuntimeDocument (h : BrokerInvariant smoke s.store)
    (runId workerId leaseId documentId : String) :
    (trustedRuntimeDocument smoke runId workerId leaseId documentId).Ensures (Ready False)
      (fun u => BrokerInvariant smoke u.store)
      (fun _ u => BrokerInvariant smoke u.store ∧ Unchanged s u)
      (fun _ u => BrokerInvariant smoke u.store ∧ Unchanged s u) s := by
  refine Ensures.bind ((ensures_ensureRecovered h (False.elim ·)).mono (fun _ h => h) ?_ ?_)
  swap
  · rintro _ u ⟨hu, hs, hfailed, hedits, -⟩
    exact ⟨hu, .of_failed hs hfailed hedits⟩
  rintro _ u ⟨hu, -, hrecovered⟩
  have hkept : ∀ v : BrokerState, v.store = u.store →
      BrokerInvariant smoke v.store ∧ Unchanged s v := fun v hv =>
    ⟨hv ▸ hu, .of_recovered hrecovered (by rw [hv])⟩
  refine Ensures.tryCatch (Ensures.bind (ensures_stateQuery (fun _ document hok => ?_)
    (fun _ _ _ => ensures_throw (hkept u rfl)) fun _ => ensures_throw (hkept u rfl)))
  obtain ⟨-, -, hcanonical⟩ := hu.accessDocument hok
  refine Ensures.bind (Ensures.bind ((ensures_openDocument hcanonical (False.elim ·)).mono
    (fun _ h => h) ?_ ?_))
  swap
  · rintro fault v ⟨hv, -⟩
    exact ensures_throw (hkept v hv)
  rintro registered v ⟨hv, -⟩
  replace hu := hkept v hv
  refine Ensures.bind (Ensures.bind (ensures_check (fun _ _ => ?_) fun _ _ => ensures_throw hu))
  refine Ensures.bind (ensures_check (fun _ _ => ?_) fun _ _ => ensures_throw hu)
  exact ensures_observe (fun _ _ _ => ensures_pure (ensures_pure hu))
    (fun _ _ _ => ensures_throw hu) fun _ _ => ensures_throw hu

/-! ## Ending a lease -/

/-- `release_lease` keeps the invariant unless an edit of the lease's document is prepared. -/
lemma ensures_releaseLease {runId workerId leaseId : String} (h : BrokerInvariant smoke s.store)
    (hidle : s.memory.recovered = true → ∀ id d, s.store.view.documents id = some d →
      d.leaseId = leaseId → d.preparedEventId = none) :
    (releaseLease smoke runId workerId leaseId).Ensures (Ready False)
      (fun u => BrokerInvariant smoke u.store)
      (fun _ u => BrokerInvariant smoke u.store ∧ Quiet s u)
      (fun _ u => BrokerInvariant smoke u.store ∧ Quiet s u) s := by
  refine Ensures.bind ((ensures_ensureRecovered h (False.elim ·)).mono (fun _ h => h) ?_ ?_)
  swap
  · rintro _ u ⟨hu, hs, hfailed, hedits, -⟩
    exact ⟨hu, (Unchanged.of_failed hs hfailed hedits).toQuiet⟩
  rintro _ u ⟨hu, -, hrecovered⟩
  have hsame : Quiet s u := .of_recovered hrecovered (.of_documents rfl)
  have hreleased : ∀ id d, u.store.view.documents id = some d → d.leaseId = leaseId →
      d.preparedEventId = none := by
    intro id d hd hid
    cases hs : s.memory.recovered with
    | true =>
      rw [if_pos hs] at hrecovered
      exact hidle hs id d (hrecovered ▸ hd) hid
    | false =>
      -- a recovery has just settled all documents
      rw [if_neg (by simp [hs])] at hrecovered
      rw [hrecovered.documents] at hd
      obtain ⟨d', -, rfl⟩ := Option.map_eq_some_iff.1 hd
      rfl
  refine Ensures.tryCatch (Ensures.bind (ensures_stateCall (fun _ t record hok => ?_)
    (fun _ _ _ _ => ensures_throw ⟨hu, hsame⟩) fun _ => ensures_throw ⟨hu, hsame⟩))
  obtain ⟨hended, hdocuments⟩ := hu.releaseDocumentLease hok hreleased
  exact ⟨hended, ensures_pure ⟨hended, .of_recovered hrecovered (.of_documents hdocuments)⟩⟩

/-! ## Replacing the content -/

/-- An edit is compensated whose file was not changed, or is restored. -/
lemma ensures_compensateOrRaise {preparation : DocumentPreparation} {replaced : Bool}
    (h : BrokerInvariant smoke s.store)
    (hdocument : s.store.view.documents preparation.document.documentId =
      some { preparation.document with preparedEventId := some preparation.preparationId })
    (hcanonical : Canonical smoke preparation.document.runId preparation.document.workerId
      preparation.document.relativePath)
    (hfile : (s.store.file preparation.document.runId preparation.document.relativePath).isSome)
    (hholds : replaced = false → s.store.Holds preparation.document) :
    (compensateOrRaise smoke preparation replaced).Ensures (Ready False)
      (fun u => BrokerInvariant smoke u.store)
      (fun _ u => BrokerInvariant smoke u.store ∧ u.store.view = ⟨s.store.view.leases,
        Function.update s.store.view.documents preparation.document.documentId
          (some (settled preparation.document))⟩)
      (fun e u => BrokerInvariant smoke u.store ∧ e = .broker "DOCUMENT_RECOVERY_FAILED") s := by
  -- the edit is recovered when the file holds the content
  have hrecover : ∀ u : BrokerState, BrokerInvariant smoke u.store →
      u.store.view = s.store.view → u.store.Holds preparation.document →
      (do
        let _ ← stateCall fun draw t => recoverDocumentEdit t (draw.stamp t) preparation
        : BrokerM Unit).Ensures (Ready False) (fun u => BrokerInvariant smoke u.store)
          (fun _ u => BrokerInvariant smoke u.store ∧ u.store.view = ⟨s.store.view.leases,
            Function.update s.store.view.documents preparation.document.documentId
              (some (settled preparation.document))⟩)
          (fun _ u => BrokerInvariant smoke u.store) u := by
    intro u hu hview hcontent
    refine Ensures.bind (ensures_stateCall (fun _ t record hok => ?_) (fun _ _ _ _ => hu)
      fun _ => hu)
    have hprepared : u.store.Holds
        { preparation.document with preparedEventId := some preparation.preparationId } := hcontent
    obtain ⟨hsettled, hviewed⟩ := hu.recoverDocumentEdit hok (hview ▸ hdocument) hprepared
    exact ⟨hsettled, ensures_pure ⟨hsettled, hview ▸ hviewed⟩⟩
  have hwrite : ∀ u : BrokerState, FileStep preparation.document.runId
      preparation.document.relativePath s.store u.store →
      (u.store.file preparation.document.runId preparation.document.relativePath).isSome →
      BrokerInvariant smoke u.store := fun u hu hsome =>
    h.writePrepared (d := { preparation.document with
      preparedEventId := some preparation.preparationId }) hdocument rfl hu hsome
  refine Ensures.tryCatch ?_
  have hcompensated : (compensate smoke preparation replaced).Ensures (Ready False)
      (fun u => BrokerInvariant smoke u.store)
      (fun _ u => BrokerInvariant smoke u.store ∧ u.store.view = ⟨s.store.view.leases,
        Function.update s.store.view.documents preparation.document.documentId
          (some (settled preparation.document))⟩)
      (fun _ u => BrokerInvariant smoke u.store) s := by
    cases replaced with
    | false => exact hrecover s h rfl (hholds rfl)
    | true =>
      refine Ensures.bind ((ensures_restore hcanonical hfile (False.elim ·) hwrite).mono
        (fun _ h => h) ?_ ?_)
      · rintro _ u ⟨hu, ⟨file, -, hbody, hwritten⟩, -⟩
        refine hrecover u (hwrite u hu (by rw [hwritten]; rfl)) ?_ ⟨_, hwritten, hbody⟩
        rw [ProjectStore.view, hu.tables, ProjectStore.view]
      · rintro _ u ⟨hu, hsome, -⟩
        exact hwrite u hu hsome
  exact hcompensated.mono (fun _ h => h) (fun _ _ h => h) fun _ _ hu => ensures_throw ⟨hu, rfl⟩

omit [CharacterDatabase] in
/-- The contents of an edit are stored, and the file holds what the document says. -/
lemma ensures_storeContents {document : DocumentState} {replacement : Bytes}
    {I : BrokerState → Prop}
    (hcanonical : Canonical smoke document.runId document.workerId document.relativePath)
    (hI : ∀ u, SnapshotStep s.store u.store → I u) :
    (storeContents smoke document replacement).Ensures (Ready False) I
      (fun _ u => SnapshotStep s.store u.store ∧
        u.store.snapshots document.runId (sha256Bytes replacement) = some ⟨replacement, 0o600⟩)
      (fun _ u => SnapshotStep s.store u.store) s := by
  refine Ensures.bind ((ensures_readDocumentFile hcanonical (False.elim ·)).mono (fun _ h => h) ?_
    fun _ u hu => hu ▸ .refl _)
  rintro previous u ⟨hu, -⟩
  rw [← hu] at hI ⊢
  refine Ensures.bind (ensures_check (fun _ _ => ?_) fun _ _ => .refl _)
  refine Ensures.bind ((ensures_storeSnapshot hcanonical.runId_valid hI).mono (fun _ h => h) ?_
    fun _ _ h => h.1)
  rintro _ v ⟨hv, -, -⟩
  refine (ensures_storeSnapshot hcanonical.runId_valid fun w hw => hI w (hv.trans hw)).mono
    (fun _ h => h) ?_ fun _ _ h => hv.trans h.1
  rintro _ w ⟨hw, -, hstored⟩
  exact ⟨hv.trans hw, hstored⟩

/-- A prepared edit is carried out, or its file is left to be restored. -/
lemma ensures_replaceAndCommit {preparation : DocumentPreparation} {replacement : Bytes}
    (h : BrokerInvariant smoke s.store)
    (hdocument : s.store.view.documents preparation.document.documentId =
      some { preparation.document with preparedEventId := some preparation.preparationId })
    (hcanonical : Canonical smoke preparation.document.runId preparation.document.workerId
      preparation.document.relativePath)
    (hfile : (s.store.file preparation.document.runId preparation.document.relativePath).isSome)
    (hstored : s.store.snapshots preparation.document.runId (sha256Bytes replacement) =
      some ⟨replacement, 0o600⟩) :
    (replaceAndCommit smoke preparation replacement).Ensures (Ready False)
      (fun u => BrokerInvariant smoke u.store)
      (fun snapshot u => BrokerInvariant smoke u.store ∧ u.store.view = ⟨s.store.view.leases,
          Function.update s.store.view.documents preparation.document.documentId
            (some (committed preparation.document (sha256Bytes replacement)))⟩ ∧
        u.store.file preparation.document.runId preparation.document.relativePath =
          some ⟨replacement, 0o600⟩ ∧
        snapshot.content = replacement ∧
        snapshot.fileVersion = preparation.document.fileVersion + 1)
      (fun _ u => BrokerInvariant smoke u.store ∧ u.store.view = s.store.view ∧
        (u.store.file preparation.document.runId preparation.document.relativePath).isSome) s := by
  have hwrite : ∀ u : BrokerState, FileStep preparation.document.runId
      preparation.document.relativePath s.store u.store →
      (u.store.file preparation.document.runId preparation.document.relativePath).isSome →
      BrokerInvariant smoke u.store ∧ u.store.view = s.store.view := fun u hu hsome =>
    ⟨h.writePrepared (d := { preparation.document with
      preparedEventId := some preparation.preparationId }) hdocument rfl hu hsome,
      by rw [ProjectStore.view, hu.tables, ProjectStore.view]⟩
  refine Ensures.bind ((ensures_replaceDocumentFile hcanonical hfile (False.elim ·)
    fun u hu hsome => (hwrite u hu hsome).1).mono (fun _ h => h) ?_ ?_)
  swap
  · rintro _ u ⟨hu, hsome, -⟩
    exact ⟨(hwrite u hu hsome).1, (hwrite u hu hsome).2, hsome⟩
  rintro _ u ⟨hu, hwritten, -⟩
  have hsome : (u.store.file preparation.document.runId
      preparation.document.relativePath).isSome := by rw [hwritten]; rfl
  obtain ⟨hinv, hview⟩ := hwrite u hu hsome
  refine Ensures.bind (ensures_check (fun snapshot hsnapshot => ?_) fun _ _ => ⟨hinv, hview, hsome⟩)
  simp only [documentSnapshot, bind_eq_ok, require_eq_ok, pure_eq_ok, exists_and_left,
    exists_const] at hsnapshot
  obtain ⟨-, rfl⟩ := hsnapshot
  refine Ensures.bind (ensures_stateCall (fun _ t record hok => ?_)
    (fun _ _ _ _ => ⟨hinv, hview, hsome⟩) fun _ => ⟨hinv, hview, hsome⟩)
  obtain ⟨hcommitted, hviewed⟩ := hinv.commitDocumentEdit hok (hview ▸ hdocument)
    ⟨replacement, rfl, hu.snapshots _ _ _ hstored⟩ ⟨_, hwritten, rfl⟩
  exact ⟨hcommitted, ensures_pure ⟨hcommitted, hview ▸ hviewed, hwritten, rfl, rfl⟩⟩

/-- `compare_and_swap` replaces the content of the document at the expected version, or it raises and
leaves everything as it was, or the compensation raises. -/
lemma ensures_compareAndSwap (h : BrokerInvariant smoke s.store)
    (runId workerId leaseId documentId : String) (expectedVersion : Int) (expectedHash : String)
    (replacement : Bytes) :
    (compareAndSwap smoke runId workerId leaseId documentId expectedVersion expectedHash
      replacement).Ensures (Ready False) (fun u => BrokerInvariant smoke u.store)
      (fun snapshot u => BrokerInvariant smoke u.store ∧ Quiet s u ∧ (s.memory.recovered = true →
        ∃ d, s.store.view.documents documentId = some d ∧ (d.fileVersion : Int) = expectedVersion ∧
          d.contentHash = expectedHash ∧ u.store.view = ⟨s.store.view.leases,
            Function.update s.store.view.documents documentId
              (some (committed d (sha256Bytes replacement)))⟩ ∧
          u.store.file d.runId d.relativePath = some ⟨replacement, 0o600⟩ ∧
          snapshot.content = replacement ∧ snapshot.fileVersion = d.fileVersion + 1))
      (fun e u => BrokerInvariant smoke u.store ∧
        (e ≠ .broker "DOCUMENT_RECOVERY_FAILED" → Unchanged s u)) s := by
  refine Ensures.bind ((ensures_ensureRecovered h (False.elim ·)).mono (fun _ h => h) ?_ ?_)
  swap
  · rintro _ u ⟨hu, hs, hfailed, hedits, -⟩
    exact ⟨hu, fun _ => .of_failed hs hfailed hedits⟩
  rintro _ u ⟨hu, -, hrecovered⟩
  have hsame : Unchanged s u := .of_recovered hrecovered rfl
  refine Ensures.bind (Ensures.tryCatch (ensures_stateCall (fun _ t preparation hok => ?_)
    (fun _ _ _ _ => ensures_throw ⟨hu, fun _ => hsame⟩) fun _ => ensures_throw ⟨hu, fun _ => hsame⟩))
  obtain ⟨hprepared, hfound, hidle, hholds, hid, hversion, hhash, hview⟩ := hu.prepareDocumentEdit hok
  replace hid : preparation.document.documentId = documentId := hid
  refine ⟨hprepared, ?_⟩
  have hcanonical := hu.canonical _ _ hfound
  have hdocument : (u.store.withTables t).view.documents preparation.document.documentId =
      some { preparation.document with preparedEventId := some preparation.preparationId } := by
    rw [hview]
    exact Function.update_self ..
  -- a compensation brings back the view from before the edit
  have hback : ∀ v : ProjectStore, v.view = (u.store.withTables t).view →
      (⟨v.view.leases, Function.update v.view.documents preparation.document.documentId
        (some (settled preparation.document))⟩ : DocumentView) = u.store.view := by
    intro v hv
    have hsettled : settled preparation.document = preparation.document := by
      rw [settled, ← hidle]
    rw [hv, hview, hsettled]
    simp [← hfound]
  have hcompensate : ∀ (replaced : Bool) (fault : BrokerFault) (v : BrokerState),
      BrokerInvariant smoke v.store → v.store.view = (u.store.withTables t).view →
      (v.store.file preparation.document.runId preparation.document.relativePath).isSome →
      (replaced = false → v.store.Holds preparation.document) → ∀ {α : Type}
      {Q : α → BrokerState → Prop},
      (do
        compensateOrRaise smoke preparation replaced
        throw (swapFault fault) : BrokerM α).Ensures (Ready False)
          (fun u => BrokerInvariant smoke u.store) Q
          (fun e w => BrokerInvariant smoke w.store ∧
            (e ≠ .broker "DOCUMENT_RECOVERY_FAILED" → Unchanged s w)) v := by
    intro replaced fault v hv hvview hfile hcontent α Q
    refine Ensures.bind ((ensures_compensateOrRaise hv (hvview ▸ hdocument) hcanonical hfile
      hcontent).mono (fun _ h => h) ?_ ?_)
    · rintro _ w ⟨hw, hwview⟩
      exact ensures_throw ⟨hw, fun _ => .of_recovered hrecovered (hwview.trans (hback _ hvview))⟩
    · rintro e w ⟨hw, rfl⟩
      exact ⟨hw, fun hne => absurd rfl hne⟩
  have hsteps : ∀ v : BrokerState, SnapshotStep (u.store.withTables t) v.store →
      BrokerInvariant smoke v.store ∧ v.store.view = (u.store.withTables t).view ∧
        v.store.Holds preparation.document := fun v hv =>
    ⟨hprepared.snapshotStep hv, by rw [ProjectStore.view, hv.tables, ProjectStore.view],
      hholds.of_files hv.files⟩
  have hsome : ∀ {store : ProjectStore}, store.Holds preparation.document →
      (store.file preparation.document.runId preparation.document.relativePath).isSome := by
    rintro store ⟨_, hfile, -⟩
    exact Option.isSome_of_eq_some hfile
  refine Ensures.bind (Ensures.tryCatch ((ensures_storeContents hcanonical
    fun v hv => (hsteps v hv).1).mono (fun _ h => h) ?_ ?_))
  swap
  · rintro fault v hv
    obtain ⟨hinv, hvview, hcontent⟩ := hsteps v hv
    exact hcompensate false fault v hinv hvview (hsome hcontent) fun _ => hcontent
  rintro _ v ⟨hv, hstored⟩
  obtain ⟨hinv, hvview, hcontent⟩ := hsteps v hv
  refine Ensures.tryCatch ((ensures_replaceAndCommit hinv (hvview ▸ hdocument) hcanonical
    (hsome hcontent) hstored).mono (fun _ h => h) ?_ ?_)
  · rintro snapshot w ⟨hw, hwview, hwfile, hbody, hnext⟩
    have hcommitted : w.store.view = ⟨u.store.view.leases, Function.update u.store.view.documents
        documentId (some (committed preparation.document (sha256Bytes replacement)))⟩ := by
      rw [hwview, hvview, hview, ← hid]
      simp
    refine ⟨hw, .of_recovered hrecovered ?_,
      fun hs => ⟨preparation.document, ?_, hversion, hhash, ?_, hwfile, hbody, hnext⟩⟩
    · exact (congrArg (NoNewEdits u.store.view) hcommitted).mpr (.update rfl)
    · rw [← hsame.view hs, ← hid]
      exact hfound
    · rw [hcommitted, hsame.view hs]
  · rintro fault w ⟨hw, hwview, hwfile⟩
    exact hcompensate true fault w hw (hwview.trans hvview) hwfile (by simp)

end Aizim.Documents
