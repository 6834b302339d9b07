import Aizim.Documents.BrokerSystem

/-!
# The brokers and the document protocol

`brokers_refine`: whatever the brokers do, wherever the process dies and whatever fails, the tables of
the store change by operations of the document protocol of the state service alone.  Every function
of the broker stays within the preorder `Evolves`, by the structure of its code.

So what holds along the runs of the protocol holds of what the brokers return.
`snapshots_advance`: of two snapshots of one document that calls of `read_document` and
`compare_and_swap` return in a run, the later one has a later version, or it was read and has the same
version and the same hash.  There is no condition on the runs: leases may be released while an edit is
prepared, and compensations may raise.
-/

namespace Aizim.Documents

open Domain State Knowledge Stretch TransitionSystem

variable [CharacterDatabase] {smoke : Bool}

/-! ## Operations of the protocol -/

/-- The second tables come from the first by operations of the document protocol. -/
def Evolves (t t' : Tables) : Prop :=
  ∃ ops, t' = runDocumentOps t ops

namespace Evolves

variable {t t' t'' : Tables}

lemma refl (t : Tables) : Evolves t t :=
  ⟨[], rfl⟩

lemma trans (h : Evolves t t') (h' : Evolves t' t'') : Evolves t t'' := by
  obtain ⟨ops, rfl⟩ := h
  obtain ⟨more, rfl⟩ := h'
  exact ⟨ops ++ more, (runDocumentOps_append t ops more).symm⟩

lemma of_exec (t : Tables) (op : DocumentOp) : Evolves t (op.1.exec t) :=
  ⟨[op], rfl⟩

/-- An operation on leases and documents that succeeds. -/
lemma of_run (op : StateOp) (hop : op.isDocumentOp = true) (hrun : op.run t = .ok t') :
    Evolves t t' := by
  have hexec : op.exec t = t' := by simp [StateOp.exec, hrun]
  exact hexec ▸ .of_exec t ⟨op, .inl hop⟩

lemma invariant (h : Evolves t t') (hinv : DocumentInvariant t) : DocumentInvariant t' := by
  obtain ⟨ops, rfl⟩ := h
  exact (runDocumentOps_ok hinv ops).1

/-- A document stays as it is, up to its prepared edit, or goes to a later version. -/
lemma precedes (h : Evolves t t') (hinv : DocumentInvariant t) {id : String} {d : DocumentState}
    (hd : (documentView t.projections).documents id = some d) :
    ∃ d', (documentView t'.projections).documents id = some d' ∧ d.cell.Precedes d'.cell := by
  obtain ⟨ops, rfl⟩ := h
  obtain ⟨-, as, hrun⟩ := runDocumentOps_ok hinv ops
  obtain ⟨cell, hcell, hprecedes⟩ := run_precedes hrun (cells_eq_some hd)
  obtain ⟨d', hd', rfl⟩ := Option.map_eq_some_iff.1 hcell
  exact ⟨d', hd', hprecedes⟩

end Evolves

/-- The tables of a broker's store change by operations of the document protocol. -/
def Forward (s u : BrokerState) : Prop :=
  Evolves s.store.tables u.store.tables

instance : IsPreorder BrokerState Forward where
  refl s := .refl s.store.tables
  trans _ _ _ h h' := Evolves.trans h h'

/-! ## The functions of the broker -/

lemma Forward.of_tables {s u : BrokerState} (h : u.store.tables = s.store.tables) :
    Forward s u := by
  rw [Forward, h]
  exact .refl _

section

variable {α : Type}

lemma within_check (x : Except BrokerFault α) : (check x).Within Forward := within_look _

lemma within_observe (f : BrokerDraw → ProjectStore → Except BrokerFault α) :
    (observe f).Within Forward :=
  within_call fun draw s s' hs' => by
    split at hs' <;> cases hs'

lemma within_effect {f : BrokerDraw → ProjectStore → Except BrokerFault ProjectStore}
    (h : ∀ draw store store', f draw store = .ok store' → store'.tables = store.tables) :
    (effect f).Within Forward := by
  refine within_call fun draw s s' hs' => ?_
  split at hs' <;> cases hs'
  · rename_i store _ hstore
    exact .of_tables (h _ _ _ hstore)
  · rename_i _ store _ hstore
    exact .of_tables (h _ _ _ hstore)

lemma within_stateQuery (f : BrokerDraw → Tables → Except StoreError α) :
    (stateQuery f).Within Forward :=
  within_call fun draw s s' hs' => by
    split at hs' <;> cases hs'

lemma within_stateCall {f : BrokerDraw → Tables → Except StoreError (Tables × α)}
    (h : ∀ draw t t' a, f draw t = .ok (t', a) → Evolves t t') : (stateCall f).Within Forward := by
  refine within_call fun draw s s' hs' => ?_
  split at hs' <;> cases hs'
  rename_i t a _ hok
  exact h _ _ _ _ hok

lemma within_allowedOf (runId : String) : (allowedOf runId).Within Forward := within_look _

lemma within_allow (runId : String) (path : PosixPath) : (allow runId path).Within Forward :=
  within_assign fun _ => .of_tables rfl

lemma within_disallow (runId : String) (path : PosixPath) : (disallow runId path).Within Forward :=
  within_assign fun _ => .of_tables rfl

end

section

variable (runId : String) (path : PosixPath) (document : DocumentState) (body : Bytes)

lemma within_openPolicy (allowed : List PosixPath) : (openPolicy runId allowed).Within Forward :=
  (within_check _).bind fun _ => (within_observe _).bind fun _ => within_check _

lemma within_resolve (registered : List PosixPath) :
    (resolve runId registered path).Within Forward :=
  (within_check _).bind fun _ => (within_check _).bind fun _ => within_observe _

lemma within_replaceRelative : (replaceRelative runId path body).Within Forward :=
  within_effect fun _ store store' h => by
    simp only [Functor.discard, bind_eq_ok, pure_eq_ok] at h
    obtain ⟨-, -, rfl⟩ := h
    rfl

lemma within_unlinkRelative : (unlinkRelative runId path).Within Forward :=
  within_effect fun _ store store' h => by
    simp only [Functor.discard, bind_eq_ok, pure_eq_ok] at h
    obtain ⟨-, -, rfl⟩ := h
    rfl

lemma within_createRelative : (createRelative runId path body).Within Forward := by
  have hwrite : ∀ f : BrokerDraw → Bytes,
      (effect fun draw store => pure (store.write runId path ⟨f draw, 0o600⟩)).Within Forward :=
    fun f => within_effect fun _ store store' h => by
      obtain rfl := pure_eq_ok.1 h
      rfl
  have hcreate : (effect fun _ store => do
      rejectCasefoldCollision store runId path
      require (store.file runId path = none) ioDenied
      pure (store.write runId path ⟨[], 0o600⟩)).Within Forward :=
    within_effect fun _ store store' h => by
      simp only [bind_eq_ok, pure_eq_ok] at h
      obtain ⟨-, -, -, -, rfl⟩ := h
      rfl
  have hremove : (effect fun _ store => pure (store.remove runId path)).Within Forward :=
    within_effect fun _ store store' h => by
      obtain rfl := pure_eq_ok.1 h
      rfl
  refine hcreate.bind fun _ => Within.tryCatch
    ((within_observe _).bind fun _ => (hwrite _).bind fun _ => hwrite _) fun fault => ?_
  split
  · exact Within.bind (hremove.tryCatch fun _ => within_pure ()) fun _ => within_throw _
  · exact within_throw _

lemma within_artifactDescriptor : (artifactDescriptor runId).Within Forward :=
  (within_check _).bind fun _ => within_observe _

lemma within_createContentAddressed (contentHash : String) :
    (createContentAddressed runId contentHash body).Within Forward :=
  within_effect fun _ store store' h => by
    obtain rfl := pure_eq_ok.1 h
    split <;> rfl

lemma within_storeSnapshot (contentHash : String) :
    (storeSnapshot runId contentHash body).Within Forward := by
  refine (within_check _).bind fun _ => (within_artifactDescriptor _).bind fun _ =>
    Within.bind (Within.tryCatch (within_observe _) fun fault => ?_) fun _ =>
      (within_check _).bind fun _ => (within_observe _).bind fun _ => within_check _
  split
  · exact (within_createContentAddressed _ _ _).bind fun _ => within_observe _
  · exact within_throw _

lemma within_register : (register smoke document).Within Forward :=
  (within_check _).bind fun _ => (within_allowedOf _).bind fun _ =>
    (within_check _).bind fun _ => within_allow _ _

lemma within_openDocument : (openDocument smoke document).Within Forward :=
  (within_register _).bind fun _ => (within_allowedOf _).bind fun _ => within_openPolicy _ _

lemma within_readDocumentFile : (readDocumentFile smoke document).Within Forward :=
  (within_openDocument _).bind fun _ => (within_resolve _ _ _).bind fun _ => within_observe _

lemma within_resolvedPath : (resolvedPath smoke document).Within Forward :=
  (within_openDocument _).bind fun _ => (within_resolve _ _ _).bind fun _ => within_pure _

lemma within_replaceDocumentFile : (replaceDocumentFile smoke document body).Within Forward :=
  (within_openDocument _).bind fun _ => within_replaceRelative _ _ _

lemma within_restore : (restore smoke document).Within Forward :=
  (within_check _).bind fun _ => (within_artifactDescriptor _).bind fun _ =>
    (within_observe _).bind fun _ => (within_observe _).bind fun _ =>
      (within_check _).bind fun _ => within_replaceDocumentFile _ _

lemma within_discardDocumentFile : (discardDocumentFile runId path).Within Forward := by
  refine Within.bind (Within.tryCatch
    ((within_openPolicy _ _).bind fun _ => within_unlinkRelative _ _) fun fault => ?_)
    fun _ => within_disallow _ _
  split
  · exact within_pure ()
  · exact within_pure ()
  · exact (within_disallow _ _).bind fun _ => within_throw _

lemma within_createDocumentFile : (createDocumentFile runId path body).Within Forward := by
  refine (within_allowedOf _).bind fun _ => (within_check _).bind fun _ =>
    (within_check _).bind fun _ => (within_allow _ _).bind fun _ => Within.bind
      (Within.tryCatch ((within_openPolicy _ _).bind fun _ => within_createRelative _ _ _)
        fun _ => (within_disallow _ _).bind fun _ => within_throw _) fun _ => ?_
  exact Within.bind (Within.tryCatch (within_storeSnapshot _ _ _)
    fun _ => (within_discardDocumentFile _ _).bind fun _ => within_throw _) fun _ => within_pure _

end

/-! ## The operations of the broker -/

lemma within_recoverDocumentEdit (preparation : DocumentPreparation) :
    (stateCall fun draw t => recoverDocumentEdit t (draw.stamp t) preparation).Within Forward :=
  within_stateCall fun draw t _ _ hok =>
    .of_run (.recoverDocumentEdit (draw.stamp t) preparation) rfl
      (map_eq_ok.2 ⟨_, hok, rfl⟩)

lemma within_ensureRecovered : (ensureRecovered smoke).Within Forward := by
  have hdocument : ∀ document, (recoverDocument smoke document).Within Forward := fun document =>
    (within_register _).bind fun _ => (within_restore _).bind fun _ =>
      (within_recoverDocumentEdit _).bind fun _ => within_pure ()
  have hlease : ∀ lease, (recoverLease lease).Within Forward := fun lease =>
    (within_stateCall fun draw t _ _ hok =>
      .of_run (.recoverDocumentLease (draw.stamp t) lease) rfl
        (map_eq_ok.2 ⟨_, hok, rfl⟩)).bind fun _ => within_pure ()
  have hall : (recoverAll smoke).Within Forward :=
    (within_stateQuery _).bind fun _ => (Within.forEach hdocument _).bind fun _ =>
      (within_stateQuery _).bind fun _ => Within.forEach hlease _
  refine Within.bind (within_look _) fun recovered => ?_
  split
  · exact within_pure ()
  · exact Within.bind (hall.tryCatch fun _ => within_throw _) fun _ =>
      within_assign fun _ => .of_tables rfl

lemma within_createDocument (runId workerId : String) (relative : PosixPath) (content : Bytes)
    (epochPair : EpochPair) :
    (createDocument smoke runId workerId relative content epochPair).Within Forward := by
  have hdiscard : ∀ path, (discardOrRaise runId path).Within Forward := fun path =>
    Within.tryCatch (within_discardDocumentFile _ _) fun _ => within_throw _
  have hstale : ∀ path, (discardStale runId path).Within Forward := by
    refine fun path => (within_stateQuery _).bind fun leases => ?_
    split
    · exact within_pure ()
    · exact within_discardDocumentFile _ _
  have hmake : ∀ bodyHash, (makeLease runId workerId epochPair bodyHash).Within Forward :=
    fun bodyHash => (within_observe _).bind fun _ => (within_observe _).bind fun _ =>
      (within_observe _).bind fun _ => within_check _
  have hgrant : ∀ lease path, (stateCall fun draw t =>
      grantDocumentLease t (draw.stamp t) lease path).Within Forward := fun lease path =>
    within_stateCall fun draw t _ _ hok =>
      .of_run (.grantDocumentLease (draw.stamp t) lease path) rfl (map_eq_ok.2 ⟨_, hok, rfl⟩)
  refine within_ensureRecovered.bind fun _ => (within_check _).bind fun path =>
    (within_stateQuery _).bind fun _ => (within_check _).bind fun _ =>
      (within_observe _).bind fun _ => (within_check _).bind fun _ => (hstale path).bind fun _ => ?_
  refine Within.bind (Within.tryCatch (within_createDocumentFile _ _ _) fun _ => within_throw _)
    fun bodyHash => ?_
  exact Within.tryCatch ((hmake bodyHash).bind fun lease => (hgrant lease path).bind fun _ =>
    within_pure lease) fun _ => (hdiscard path).bind fun _ => within_throw _

lemma within_releaseLease (runId workerId leaseId : String) :
    (releaseLease smoke runId workerId leaseId).Within Forward := by
  have hrelease : (stateCall fun draw t =>
      releaseDocumentLease t (draw.stamp t) runId workerId leaseId).Within Forward :=
    within_stateCall fun draw t _ _ hok =>
      .of_run (.releaseDocumentLease (draw.stamp t) runId workerId leaseId) rfl
        (map_eq_ok.2 ⟨_, hok, rfl⟩)
  exact within_ensureRecovered.bind fun _ =>
    Within.tryCatch (hrelease.bind fun _ => within_pure ()) fun _ => within_throw _

lemma within_trustedRuntimeDocument (runId workerId leaseId documentId : String) :
    (trustedRuntimeDocument smoke runId workerId leaseId documentId).Within Forward :=
  within_ensureRecovered.bind fun _ => Within.tryCatch
    ((within_stateQuery _).bind fun _ => (within_resolvedPath _).bind fun _ => within_pure _)
    fun _ => within_throw _

lemma within_compensateOrRaise (preparation : DocumentPreparation) (replaced : Bool) :
    (compensateOrRaise smoke preparation replaced).Within Forward := by
  refine Within.tryCatch ?_ fun _ => within_throw _
  have hrecover := (within_recoverDocumentEdit preparation).bind fun _ => within_pure ()
  unfold compensate
  split
  · exact (within_restore _).bind fun _ => hrecover
  · exact hrecover

lemma within_storeContents (document : DocumentState) (replacement : Bytes) :
    (storeContents smoke document replacement).Within Forward :=
  (within_readDocumentFile _).bind fun _ => (within_check _).bind fun _ =>
    (within_storeSnapshot _ _ _).bind fun _ => within_storeSnapshot _ _ _

/-! ## What a snapshot says -/

/-- The version and the hash of a snapshot. -/
def DocumentSnapshot.cell (snapshot : DocumentSnapshot) : Cell String String :=
  ⟨snapshot.fileVersion, snapshot.contentHash, none⟩

/-- A call that returned the snapshot began when the document had the version of the snapshot or an
earlier one, an earlier one if it replaced the content, and ended when it had this version or a later
one. -/
structure Spans (replaced : Bool) (t t' : Tables) (snapshot : DocumentSnapshot) : Prop where
  before : ∀ d, (documentView t.projections).documents snapshot.documentId = some d →
    d.cell.Precedes snapshot.cell ∧ (replaced = true → d.fileVersion < snapshot.fileVersion)
  after : ∃ d, (documentView t'.projections).documents snapshot.documentId = some d ∧
    snapshot.cell.Precedes d.cell

/-- What a broker reads of a document is what the document is when it is read. -/
lemma ensures_readDocument_spans {s : BrokerState} (h : DocumentInvariant s.store.tables)
    (runId workerId leaseId documentId : String) :
    (readDocument smoke runId workerId leaseId documentId).Ensures (Ready False) (Forward s)
      (fun snapshot u => Forward s u ∧ Spans false s.store.tables u.store.tables snapshot)
      (fun _ => Forward s) s := by
  have hready : ∀ (s : BrokerState) (draws : ℕ → BrokerDraw), Ready False s draws :=
    fun _ _ => False.elim
  refine Ensures.bind ((within_ensureRecovered.after hready (refl_of Forward s)).mono
    (fun _ h => h) (fun _ u hu => ?_) fun _ _ h => h)
  refine Ensures.bind (Ensures.tryCatch (Ensures.bind (ensures_stateQuery (fun _ document hok => ?_)
    (fun _ _ _ => ensures_throw hu) fun _ => ensures_throw hu)))
  have hinv := Evolves.invariant hu h
  obtain ⟨hfound, -⟩ := accessDocument_ok hok
  obtain rfl := hinv.decodes.documentId_eq hfound
  refine Ensures.bind (((within_readDocumentFile document).after hready (refl_of Forward u)).mono
    (fun _ hv => trans_of Forward hu hv) (fun body v hv => ?_)
    fun _ _ hv => ensures_throw (trans_of Forward hu hv))
  have hsv : Forward s v := trans_of Forward hu hv
  refine ensures_pure (Ensures.bind (ensures_check (fun _ _ => ?_) fun _ _ => hsv))
  refine ensures_check (fun snapshot hsnapshot => ⟨hsv, fun d hd => ⟨?_, by simp⟩, ?_⟩)
    fun _ _ => hsv
  all_goals
    simp only [documentSnapshot, bind_eq_ok, require_eq_ok, pure_eq_ok, exists_and_left,
      exists_const] at hsnapshot
    obtain ⟨-, rfl⟩ := hsnapshot
  · obtain ⟨d', hd', hprecedes⟩ := Evolves.precedes hu h hd
    obtain rfl := Option.some.inj (hfound.symm.trans hd')
    exact hprecedes
  · exact Evolves.precedes hv hinv hfound

/-- What a broker commits is at the version after the one at which the edit was prepared. -/
lemma ensures_replaceAndCommit_spans {s u : BrokerState} (h : DocumentInvariant s.store.tables)
    (hu : Forward s u) (preparation : DocumentPreparation) (replacement : Bytes)
    (hbefore : ∀ d, s.store.view.documents preparation.document.documentId = some d →
      d.fileVersion ≤ preparation.document.fileVersion) :
    (replaceAndCommit smoke preparation replacement).Ensures (Ready False) (Forward s)
      (fun snapshot v => Forward s v ∧ Spans true s.store.tables v.store.tables snapshot)
      (fun _ => Forward s) u := by
  refine Ensures.bind (((within_replaceDocumentFile _ _).after (fun _ _ => False.elim) hu).mono
    (fun _ h => h) (fun _ v hv => ?_) fun _ _ h => h)
  refine Ensures.bind (ensures_check (fun snapshot hsnapshot => ?_) fun _ _ => hv)
  simp only [documentSnapshot, bind_eq_ok, require_eq_ok, pure_eq_ok, exists_and_left,
    exists_const] at hsnapshot
  obtain ⟨-, rfl⟩ := hsnapshot
  refine Ensures.bind (ensures_stateCall (fun draw t record hok => ?_) (fun _ _ _ _ => hv) fun _ => hv)
  have hsv : Forward s ⟨⟨t, v.store.files, v.store.snapshots⟩, v.memory⟩ :=
    Evolves.trans hv (.of_run (.commitDocumentEdit (draw.stamp v.store.tables) draw.now
      preparation (sha256Bytes replacement)) rfl (map_eq_ok.2 ⟨_, hok, rfl⟩))
  obtain ⟨event, document, -, -, hid, hversion, hwritten, -⟩ :=
    commitDocumentEdit_ok (Evolves.invariant hv h).decodes hok
  refine ⟨hsv, ensures_pure ⟨hsv, fun d hd => ?_, ?_⟩⟩
  · have hlt : d.fileVersion < preparation.document.fileVersion + 1 :=
      Nat.lt_succ_of_le (hbefore d hd)
    exact ⟨.inl hlt, fun _ => hlt⟩
  · rw [hid, hversion] at hwritten
    exact ⟨_, hwritten, .inr ⟨rfl, rfl⟩⟩

/-- What a broker replaces has a later version than it had when the call began. -/
lemma ensures_compareAndSwap_spans {s : BrokerState} (h : DocumentInvariant s.store.tables)
    (runId workerId leaseId documentId : String) (expectedVersion : Int) (expectedHash : String)
    (replacement : Bytes) :
    (compareAndSwap smoke runId workerId leaseId documentId expectedVersion expectedHash
      replacement).Ensures (Ready False) (Forward s)
      (fun snapshot u => Forward s u ∧ Spans true s.store.tables u.store.tables snapshot)
      (fun _ => Forward s) s := by
  have hready : ∀ (s : BrokerState) (draws : ℕ → BrokerDraw), Ready False s draws :=
    fun _ _ => False.elim
  -- what is raised after the edit was prepared is raised after a compensation
  have hraise : ∀ (preparation : DocumentPreparation) (replaced : Bool) (fault : BrokerFault)
      {α : Type} {Q : α → BrokerState → Prop} (u : BrokerState), Forward s u →
      (do
        compensateOrRaise smoke preparation replaced
        throw (swapFault fault) : BrokerM α).Ensures (Ready False) (Forward s) Q
          (fun _ => Forward s) u := fun preparation replaced fault _ _ u hu =>
    Ensures.bind (((within_compensateOrRaise _ _).after hready hu).mono (fun _ h => h)
      (fun _ _ hv => ensures_throw hv) fun _ _ h => h)
  refine Ensures.bind ((within_ensureRecovered.after hready (refl_of Forward s)).mono
    (fun _ h => h) (fun _ u hu => ?_) fun _ _ h => h)
  refine Ensures.bind (Ensures.tryCatch (ensures_stateCall (fun draw t preparation hok => ?_)
    (fun _ _ _ _ => ensures_throw hu) fun _ => ensures_throw hu))
  have hsv : Forward s ⟨⟨t, u.store.files, u.store.snapshots⟩, u.memory⟩ :=
    Evolves.trans hu (.of_run (.prepareDocumentEdit (draw.stamp u.store.tables)
      ⟨runId, workerId, leaseId, documentId, draw.now⟩ expectedVersion expectedHash) rfl
      (map_eq_ok.2 ⟨_, hok, rfl⟩))
  obtain ⟨event, -, hfound, -⟩ := prepareDocumentEdit_ok (Evolves.invariant hu h).decodes hok
  have hbefore : ∀ d, s.store.view.documents preparation.document.documentId = some d →
      d.fileVersion ≤ preparation.document.fileVersion := by
    intro d hd
    obtain ⟨d', hd', hprecedes⟩ := Evolves.precedes hu h hd
    obtain rfl := Option.some.inj (hfound.symm.trans hd')
    exact hprecedes.version_le
  refine ⟨hsv, Ensures.bind (Ensures.tryCatch (((within_storeContents _ _).after hready hsv).mono
    (fun _ h => h) (fun _ v hv => ?_) fun _ _ hv => hraise _ _ _ _ hv))⟩
  exact Ensures.tryCatch ((ensures_replaceAndCommit_spans h hv preparation replacement hbefore).mono
    (fun _ h => h) (fun _ _ h => h) fun _ _ hv => hraise _ _ _ _ hv)

/-! ## Runs -/

/-- Every call takes the tables forward, in every state that it saves and in the one it ends in. -/
lemma forward_brokerCall {s : BrokerState} (h : DocumentInvariant s.store.tables)
    (call : BrokerCall) : (call.stretch smoke).Ensures (Ready False) (Forward s)
      (fun _ => Forward s) (fun _ => Forward s) s := by
  have hwithin : ∀ {α : Type} {x : BrokerM α}, x.Within Forward →
      x.Ensures (Ready False) (Forward s) (fun _ => Forward s) (fun _ => Forward s) s :=
    fun hx => hx.after (fun _ _ => False.elim) (refl_of Forward s)
  cases call with
  | recover => exact hwithin within_ensureRecovered
  | createDocument =>
    exact Ensures.bind ((hwithin (within_createDocument _ _ _ _ _)).mono (fun _ h => h)
      (fun _ _ h => ensures_pure h) fun _ _ h => h)
  | readDocument =>
    exact Ensures.bind ((ensures_readDocument_spans h _ _ _ _).mono (fun _ h => h)
      (fun _ _ h => ensures_pure h.1) fun _ _ h => h)
  | compareAndSwap =>
    exact Ensures.bind ((ensures_compareAndSwap_spans h _ _ _ _ _ _ _).mono (fun _ h => h)
      (fun _ _ h => ensures_pure h.1) fun _ _ h => h)
  | releaseLease => exact hwithin (within_releaseLease _ _ _)
  | trustedRuntimeDocument =>
    exact Ensures.bind ((hwithin (within_trustedRuntimeDocument _ _ _ _)).mono (fun _ h => h)
      (fun _ _ h => ensures_pure h) fun _ _ h => h)

/-- One step takes the tables forward. -/
lemma evolves_of_step {w w' : BrokerWorld} {a : BrokerAction} (h : DocumentInvariant w.store.tables)
    (hstep : BrokerStep smoke w a w') : Evolves w.store.tables w'.store.tables := by
  cases hstep with
  | call broker call draws =>
    have hforward : (call.stretch smoke).Ensures _ _ _ _ _ :=
      forward_brokerCall (s := ⟨w.store, w.brokers broker⟩) h call
    cases hresult : (call.stretch smoke ⟨⟨w.store, w.brokers broker⟩, draws⟩).result with
    | ok a => exact hforward.ok (False.elim ·) hresult
    | error e => exact hforward.error (False.elim ·) hresult
  | dieIdle => exact .refl _
  | die broker call draws saved =>
    exact (forward_brokerCall (s := ⟨w.store, w.brokers broker⟩) h call).saved (False.elim ·) saved
  | @operation op other => exact .of_exec w.store.tables ⟨op, .inr other⟩

/-- **Brokers refine the protocol**: however brokers, crashes and other operations interleave, the
tables of the store are those after some operations of the document protocol on a new store. -/
theorem brokers_refine {w : BrokerWorld} (h : (brokerSystem smoke).Reachable w) :
    ∃ ops, w.store.tables = runDocumentOps initialTables ops := by
  refine Reachable.invariant (S := brokerSystem smoke)
    (P := fun v => Evolves initialTables v.store.tables) ?_ ?_ h
  · rintro _ rfl
    exact .refl _
  · exact fun _ _ _ hv hstep =>
      hv.trans (evolves_of_step (hv.invariant documentInvariant_initial) hstep)

omit [CharacterDatabase] in
/-- The tables of a project with a document. -/
theorem brokers_refine_sample : letI := asciiDatabase
    ∃ ops, documentWorld.store.tables = runDocumentOps initialTables ops := by
  let := asciiDatabase
  exact brokers_refine reachable_documentWorld.of_restrict

/-! ## Snapshots of a run -/

/-- A snapshot that a call returned, by `compare_and_swap` or by `read_document`. -/
structure Observation where
  replaced : Bool
  snapshot : DocumentSnapshot

/-- What a broker sees of the documents in a step. -/
def BrokerWorld.observation (smoke : Bool) (w : BrokerWorld) : BrokerAction → Option Observation
  | .call broker (.readDocument runId workerId leaseId documentId) draws =>
    (w.run broker draws (readDocument smoke runId workerId leaseId documentId)).result.toOption.map
      (⟨false, ·⟩)
  | .call broker (.compareAndSwap runId workerId leaseId documentId version hash replacement) draws =>
    (w.run broker draws (compareAndSwap smoke runId workerId leaseId documentId version hash
      replacement)).result.toOption.map (⟨true, ·⟩)
  | _ => none

/-- The brokers of a project, with the snapshots that their calls returned, in order. -/
def observedBrokerSystem (smoke : Bool) :
    TransitionSystem (BrokerWorld × List Observation) BrokerAction where
  initial v := v = (.initial, [])
  step v a v' := BrokerStep smoke v.1 a v'.1 ∧ v'.2 = v.2 ++ (v.1.observation smoke a).toList

/-- A call of the first broker, and what it returned. -/
def observedCall (smoke : Bool) (draws : ℕ → BrokerDraw) (v : BrokerWorld × List Observation)
    (call : BrokerCall) : BrokerWorld × List Observation :=
  (v.1.after smoke 0 call draws, v.2 ++ (v.1.observation smoke (.call 0 call draws)).toList)

lemma reachable_observedCalls {draws : ℕ → BrokerDraw} {v : BrokerWorld × List Observation}
    (h : (observedBrokerSystem smoke).Reachable v) (calls : List BrokerCall) :
    (observedBrokerSystem smoke).Reachable (calls.foldl (observedCall smoke draws) v) := by
  induction calls generalizing v with
  | nil => exact h
  | cons call calls ih => exact ih (h.step ⟨.after v.1 0 call draws, rfl⟩)

/-- The later observation is of a later version, or the same version and hash were read again. -/
def Observation.Before (o o' : Observation) : Prop :=
  o.snapshot.documentId = o'.snapshot.documentId → o.snapshot.cell.Precedes o'.snapshot.cell ∧
    (o'.replaced = true → o.snapshot.fileVersion < o'.snapshot.fileVersion)

/-- The observation of a step is of the document between its two states. -/
lemma spans_of_observation {w w' : BrokerWorld} {a : BrokerAction} {o : Observation}
    (h : DocumentInvariant w.store.tables) (hstep : BrokerStep smoke w a w')
    (ho : w.observation smoke a = some o) :
    Spans o.replaced w.store.tables w'.store.tables o.snapshot := by
  have hdiscard : ∀ {α : Type} (x : BrokerM α) (s : Drawing BrokerState BrokerDraw),
      (discard x s).state = (x s).state := by
    intro α x s
    change (Stretch.bind x (fun _ => pure ()) s).state = _
    unfold Stretch.bind
    cases hresult : (x s).result <;> rfl
  have hspans : ∀ {x : BrokerM DocumentSnapshot} {broker : ℕ} {draws : ℕ → BrokerDraw}
      {replaced : Bool}, x.Ensures (Ready False) (Forward ⟨w.store, w.brokers broker⟩)
        (fun snapshot u => Forward ⟨w.store, w.brokers broker⟩ u ∧
          Spans replaced w.store.tables u.store.tables snapshot)
        (fun _ => Forward ⟨w.store, w.brokers broker⟩) ⟨w.store, w.brokers broker⟩ →
      (w.run broker draws x).result.toOption.map (⟨replaced, ·⟩) = some o →
      Spans o.replaced w.store.tables
        (discard x ⟨⟨w.store, w.brokers broker⟩, draws⟩).state.state.store.tables o.snapshot := by
    intro x broker draws replaced hx ho
    obtain ⟨snapshot, hsnapshot, rfl⟩ := Option.map_eq_some_iff.1 ho
    cases hresult : (w.run broker draws x).result with
    | ok a =>
      rw [hresult] at hsnapshot
      obtain rfl := Option.some.inj hsnapshot
      rw [hdiscard]
      exact (hx.ok (False.elim ·) hresult).2
    | error e =>
      rw [hresult] at hsnapshot
      cases hsnapshot
  cases hstep with
  | call broker call draws =>
    cases call with
    | readDocument => exact hspans (ensures_readDocument_spans h _ _ _ _) ho
    | compareAndSwap => exact hspans (ensures_compareAndSwap_spans h _ _ _ _ _ _ _) ho
    | _ => cases ho
  | _ => cases ho

/-- What brokers have seen of the documents, before the documents as they are now. -/
structure Observed (t : Tables) (observations : List Observation) : Prop where
  tables : DocumentInvariant t
  ordered : observations.Pairwise Observation.Before
  kept : ∀ o ∈ observations, ∃ d,
    (documentView t.projections).documents o.snapshot.documentId = some d ∧
      o.snapshot.cell.Precedes d.cell

/-- One step keeps the order of the observations. -/
lemma Observed.step {w w' : BrokerWorld} {a : BrokerAction} {observations : List Observation}
    (h : Observed w.store.tables observations) (hstep : BrokerStep smoke w a w') :
    Observed w'.store.tables (observations ++ (w.observation smoke a).toList) := by
  have hevolves := evolves_of_step h.tables hstep
  have hspans := fun o => spans_of_observation (o := o) h.tables hstep
  refine ⟨hevolves.invariant h.tables, List.pairwise_append.2 ⟨h.ordered, ?_, ?_⟩, ?_⟩
  · cases w.observation smoke a <;> simp
  · intro o ho o' ho' hsame
    obtain ⟨d, hd, hprecedes⟩ := h.kept o ho
    obtain ⟨hcell, hlt⟩ := (hspans o' (by simpa using ho')).before d (hsame ▸ hd)
    exact ⟨hprecedes.trans hcell, fun hreplaced =>
      hprecedes.version_le.trans_lt (hlt hreplaced)⟩
  · intro o ho
    rcases List.mem_append.1 ho with ho | ho
    · obtain ⟨d, hd, hprecedes⟩ := h.kept o ho
      obtain ⟨d', hd', hlater⟩ := hevolves.precedes h.tables hd
      exact ⟨d', hd', hprecedes.trans hlater⟩
    · exact (hspans o (by simpa using ho)).after

/-- **Versions advance**: of two snapshots of one document that calls returned in a run, the later one
has a later version, or it was read and has the same version and hash; and the document is now at the
version of the last one, with its hash, or at a later one.  So no two calls of `compare_and_swap` that
return make the same version of a document, and the version that one made is not lost. -/
theorem snapshots_advance {v : BrokerWorld × List Observation}
    (h : (observedBrokerSystem smoke).Reachable v) :
    v.2.Pairwise Observation.Before ∧ ∀ o ∈ v.2, ∃ d,
      v.1.store.view.documents o.snapshot.documentId = some d ∧
        o.snapshot.cell.Precedes d.cell := by
  have hobserved := Reachable.invariant (S := observedBrokerSystem smoke)
    (P := fun v => Observed v.1.store.tables v.2) (fun v hv => by
      obtain rfl := hv
      exact ⟨documentInvariant_initial, .nil, by simp⟩)
    (fun v a v' hv hstep => hstep.2 ▸ hv.step hstep.1) h
  exact ⟨hobserved.ordered, hobserved.kept⟩

/-- A broker reads the document of the sample, replaces it, expects its first version again, reads it
and replaces it once more. -/
def sampleCalls : List BrokerCall :=
  [.readDocument "run" "worker" "lease" "document", swapSample, swapSample,
    .readDocument "run" "worker" "lease" "document",
    .compareAndSwap "run" "worker" "lease" "document" 1 (sha256Bytes [97]) [98]]

omit [CharacterDatabase] in
/-- The calls of the sample see the versions 0, 1, 1 and 2. -/
theorem snapshots_advance_sample : letI := asciiDatabase
    let v := sampleCalls.foldl (observedCall false sampleDraws) (documentWorld, [])
    v.2.map (fun o => (o.replaced, o.snapshot.fileVersion)) =
        [(false, 0), (true, 1), (false, 1), (true, 2)] ∧ v.2.Pairwise Observation.Before := by
  let := asciiDatabase
  intro v
  have hreachable : (observedBrokerSystem false).Reachable (documentWorld, []) :=
    ((Reachable.of_initial (S := observedBrokerSystem false) rfl).step
      (t := (recoveredWorld, [])) ⟨.call .initial 0 .recover calmDraws, rfl⟩).step
        (t := (startedWorld, [])) ⟨startedWorld_step, rfl⟩ |>.step ⟨documentWorld_step, rfl⟩
  exact ⟨by decide +kernel, (snapshots_advance (reachable_observedCalls hreachable sampleCalls)).1⟩

end Aizim.Documents
