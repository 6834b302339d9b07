import Aizim.Documents.BrokerCalls

/-!
# What the operations of the broker do

Every operation keeps the invariant of the store in every state that it saves, whatever the weather.
`ensures_ensureRecovered` says what a completed recovery leaves: no prepared edit, no active lease,
and every document that was under an active lease with its content in its file; in calm weather it
completes.  `ensures_compareAndSwap` says that a broker that has recovered replaces the document or
leaves everything as it was, unless the compensation raises.
-/

namespace Aizim.Documents

open Domain State Knowledge Stretch

variable [CharacterDatabase] {calm : Prop} {smoke : Bool} {s : BrokerState}

/-! ## What a broker remembers -/

/-- The stretch does not change whether the broker has recovered. -/
def Steady {α : Type} (x : BrokerM α) : Prop :=
  ∀ s, (x s).state.state.memory.recovered = s.state.memory.recovered

section

omit [CharacterDatabase]

variable {α β : Type}

lemma steady_pure (a : α) : Steady (pure a) := fun _ => rfl

lemma steady_check (x : Except BrokerFault α) : Steady (check x) := fun _ => rfl

lemma steady_allowedOf (runId : String) : Steady (allowedOf runId) := fun _ => rfl

lemma steady_allow (runId : String) (path : PosixPath) : Steady (allow runId path) := fun _ => rfl

/-- A call whose writes leave the memory. -/
lemma steady_call {f : BrokerDraw → BrokerState → Option BrokerState × Except BrokerFault α}
    (h : ∀ draw s, ∀ s' ∈ (f draw s).1, s'.memory = s.memory) : Steady (Stretch.call f) := by
  intro s
  change ((f (s.draws 0) s.state).1.getD s.state).memory.recovered = s.state.memory.recovered
  cases hwritten : (f (s.draws 0) s.state).1 with
  | none => rfl
  | some s' => rw [Option.getD_some, h _ _ s' hwritten]

lemma steady_observe (f : BrokerDraw → ProjectStore → Except BrokerFault α) :
    Steady (observe f) :=
  steady_call fun draw s s' hs' => by
    split at hs' <;> cases hs'

lemma steady_effect (f : BrokerDraw → ProjectStore → Except BrokerFault ProjectStore) :
    Steady (effect f) :=
  steady_call fun draw s s' hs' => by
    split at hs' <;> cases hs' <;> rfl

lemma steady_stateQuery (f : BrokerDraw → Tables → Except StoreError α) :
    Steady (stateQuery f) :=
  steady_call fun draw s s' hs' => by
    split at hs' <;> cases hs'

lemma steady_stateCall (f : BrokerDraw → Tables → Except StoreError (Tables × α)) :
    Steady (stateCall f) :=
  steady_call fun draw s s' hs' => by
    split at hs' <;> cases hs'
    rfl

lemma steady_bind {x : BrokerM α} {f : α → BrokerM β} (hx : Steady x) (hf : ∀ a, Steady (f a)) :
    Steady (x >>= f) := by
  intro s
  change (Stretch.bind x f s).state.state.memory.recovered = _
  unfold Stretch.bind
  cases hresult : (x s).result with
  | ok a => exact (hf a _).trans (hx s)
  | error e => exact hx s

lemma steady_forEach {γ : Type} {f : γ → BrokerM Unit} (hf : ∀ x, Steady (f x)) (xs : List γ) :
    Steady (forEach f xs) := by
  induction xs with
  | nil => exact steady_pure ()
  | cons x xs ih => exact steady_bind (hf x) fun _ => ih

lemma steady_register (smoke : Bool) (document : DocumentState) :
    Steady (register smoke document) :=
  steady_bind (steady_check _) fun _ => steady_bind (steady_allowedOf _) fun _ =>
    steady_bind (steady_check _) fun _ => steady_allow _ _

lemma steady_openPolicy (runId : String) (allowed : List PosixPath) :
    Steady (openPolicy runId allowed) :=
  steady_bind (steady_check _) fun _ => steady_bind (steady_observe _) fun _ => steady_check _

lemma steady_replaceDocumentFile (smoke : Bool) (document : DocumentState) (body : Bytes) :
    Steady (replaceDocumentFile smoke document body) :=
  steady_bind (steady_bind (steady_register _ _) fun _ => steady_bind (steady_allowedOf _) fun _ =>
    steady_openPolicy _ _) fun _ => steady_effect _

lemma steady_restore (smoke : Bool) (document : DocumentState) :
    Steady (restore smoke document) :=
  steady_bind (steady_check _) fun _ =>
    steady_bind (steady_bind (steady_check _) fun _ => steady_observe _) fun _ =>
      steady_bind (steady_observe _) fun _ => steady_bind (steady_observe _) fun _ =>
        steady_bind (steady_check _) fun _ => steady_replaceDocumentFile _ _ _

end

lemma steady_recoverAll (smoke : Bool) : Steady (recoverAll smoke) := by
  have hdocument : ∀ document, Steady (recoverDocument smoke document) := fun document =>
    steady_bind (steady_register _ _) fun _ => steady_bind (steady_restore _ _) fun _ =>
      steady_bind (steady_stateCall _) fun _ => steady_pure ()
  have hlease : ∀ lease, Steady (recoverLease lease) := fun lease =>
    steady_bind (steady_stateCall _) fun _ => steady_pure ()
  exact steady_bind (steady_stateQuery _) fun _ => steady_bind (steady_forEach hdocument _) fun _ =>
    steady_bind (steady_stateQuery _) fun _ => steady_forEach hlease _

omit [CharacterDatabase] in
/-- A specification of a stretch that does not change whether the broker has recovered. -/
lemma Steady.ensures {α : Type} {x : BrokerM α} {I : BrokerState → Prop}
    {Q : α → BrokerState → Prop} {E : BrokerFault → BrokerState → Prop} (hx : Steady x)
    (h : x.Ensures (Ready calm) I Q E s) : x.Ensures (Ready calm) I
      (fun a u => Q a u ∧ u.memory.recovered = s.memory.recovered)
      (fun e u => E e u ∧ u.memory.recovered = s.memory.recovered) s := by
  intro draws hdraws
  obtain ⟨hsaved, hresult⟩ := h draws hdraws
  have hsteady := hx ⟨s, draws⟩
  refine ⟨hsaved, ?_⟩
  cases hx : (x ⟨s, draws⟩).result with
  | ok a =>
    rw [hx] at hresult
    exact ⟨⟨hresult.1, hsteady⟩, hresult.2⟩
  | error e =>
    rw [hx] at hresult
    exact ⟨⟨hresult.1, hsteady⟩, hresult.2⟩

/-! ## Prepared edits -/

/-- No edit is prepared. -/
def ProjectStore.Idle (store : ProjectStore) : Prop :=
  ∀ id d, store.view.documents id = some d → d.preparedEventId = none

/-- Every edit that is prepared now was prepared before. -/
def NoNewEdits (view view' : DocumentView) : Prop :=
  ∀ id d token, view'.documents id = some d → d.preparedEventId = some token →
    ∃ d', view.documents id = some d' ∧ d'.preparedEventId = some token

namespace NoNewEdits

variable {view view' view'' : DocumentView}

omit [CharacterDatabase] in
lemma of_documents (h : view'.documents = view.documents) : NoNewEdits view view' :=
  fun _ d _ hd htoken => ⟨d, h ▸ hd, htoken⟩

omit [CharacterDatabase] in
lemma trans (h : NoNewEdits view view') (h' : NoNewEdits view' view'') : NoNewEdits view view'' := by
  intro id d token hd htoken
  obtain ⟨d', hd', htoken'⟩ := h' id d token hd htoken
  exact h id d' token hd' htoken'

omit [CharacterDatabase] in
/-- A document without a prepared edit is written. -/
lemma update {leases : String → Option LeaseState} {id : String} {d : DocumentState}
    (h : d.preparedEventId = none) :
    NoNewEdits view ⟨leases, Function.update view.documents id (some d)⟩ := by
  intro id' d' token hd' htoken
  by_cases hid : id' = id
  · subst hid
    obtain rfl : d = d' := by simpa using hd'
    rw [h] at htoken
    cases htoken
  · exact ⟨d', by simpa [hid] using hd', htoken⟩

end NoNewEdits

omit [CharacterDatabase] in
lemma ProjectStore.Idle.of_edits {store store' : ProjectStore} (h : store.Idle)
    (hedits : NoNewEdits store.view store'.view) : store'.Idle := by
  intro id d hd
  cases htoken : d.preparedEventId with
  | none => rfl
  | some token =>
    obtain ⟨d', hd', htoken'⟩ := hedits id d token hd htoken
    rw [h id d' hd'] at htoken'
    cases htoken'

/-! ## Recovery -/

/-- The view after the edit of a document was settled. -/
def settleView (view : DocumentView) (document : DocumentState) : DocumentView :=
  ⟨view.leases, Function.update view.documents document.documentId (some (settled document))⟩

/-- One prepared document is recovered. -/
lemma ensures_recoverDocument {document : DocumentState} {token : String}
    (h : BrokerInvariant smoke s.store)
    (hdocument : s.store.view.documents document.documentId = some document)
    (hprepared : document.preparedEventId = some token)
    (hcalm : calm → Tidy smoke s ∧ IdLeft s.store.tables) :
    (recoverDocument smoke document).Ensures (Ready calm) (fun u => BrokerInvariant smoke u.store)
      (fun _ u => BrokerInvariant smoke u.store ∧ (calm → Tidy smoke u) ∧
        u.store.tables.events.length = s.store.tables.events.length + 1 ∧
        u.store.view = settleView s.store.view document)
      (fun _ u => BrokerInvariant smoke u.store ∧ u.store.view = s.store.view ∧ ¬ calm) s := by
  have hcanonical := h.canonical _ document hdocument
  obtain ⟨hulid, l, hl, hactive, hlid⟩ := h.prepared _ document token hdocument hprepared
  have hfile : (s.store.file document.runId document.relativePath).isSome := by
    obtain ⟨d, hd, hlease⟩ := h.leased _ l hl hactive
    rw [hlid, hdocument] at hd
    obtain rfl := Option.some.inj hd
    exact hlease.file
  refine Ensures.bind ((ensures_register hcanonical fun hc => ⟨(hcalm hc).1, hfile⟩).mono
    (fun _ h => h) ?_ ?_)
  swap
  · rintro _ _ ⟨rfl, hc⟩
    exact ⟨h, rfl, hc⟩
  rintro _ u ⟨hstore, htidy⟩
  rw [← hstore] at h hdocument hfile hl hcalm ⊢
  refine Ensures.bind ((ensures_restore hcanonical hfile
    (fun hc => ⟨htidy hc, h.stores _ document hdocument⟩)
    fun v hv hvfile => h.writePrepared hdocument hprepared hv hvfile).mono (fun _ h => h) ?_ ?_)
  swap
  · rintro _ v ⟨hv, hvfile, hc⟩
    exact ⟨h.writePrepared hdocument hprepared hv hvfile,
      by rw [ProjectStore.view, hv.tables, ProjectStore.view], hc⟩
  rintro _ v ⟨hv, ⟨file, -, hbody, hwritten⟩, htidy⟩
  have hinv := h.writePrepared hdocument hprepared hv (by rw [hwritten]; rfl)
  have hview : v.store.view = u.store.view := by
    rw [ProjectStore.view, hv.tables, ProjectStore.view]
  have hholds : v.store.Holds document := ⟨_, hwritten, hbody⟩
  rw [← hview] at hdocument ⊢
  rw [← hv.tables] at hcalm ⊢
  refine Ensures.bind (ensures_stateCall ?_ ?_ ?_)
  · intro draw t record hok
    obtain ⟨hsettled, hviewed⟩ := hinv.recoverDocumentEdit hok hdocument hholds
    have hlength := congrArg List.length (eventIds_recoverDocumentEdit hok)
    refine ⟨hsettled, ensures_pure ⟨hsettled, fun hc => ?_, by simpa using hlength, hviewed⟩⟩
    exact (htidy hc).of_files rfl (htidy hc).folded fun _ _ h => h
  · intro draw e hnew he
    refine ⟨hinv, rfl, fun hc => ?_⟩
    obtain ⟨hvalid, hfresh⟩ := hnew hc (hcalm hc).2
    obtain ⟨t, record, hok⟩ := exists_recoverDocumentEdit hinv.tables.decodes hvalid hfresh
      hdocument hprepared (by rintro rfl; exact absurd hulid (by decide))
      (ne_of_isIdentifier hcanonical.runId_valid)
      (fun id d hd hd' => by
        obtain rfl := hinv.tokens _ d _ document token hd hdocument hd' hprepared
        exact Option.some.inj (hd.symm.trans hdocument)) document rfl rfl
    rw [hprepared] at he
    rw [show recoverDocumentEdit v.store.tables (draw.stamp v.store.tables) ⟨(some token).getD "", document⟩ =
      .ok (t, record) from hok] at he
    cases he
  · exact fun hc => ⟨hinv, rfl, hc⟩

/-- One active lease is recovered whose document has no prepared edit. -/
lemma ensures_recoverLease {lease : LeaseState} (h : BrokerInvariant smoke s.store)
    (hlease : s.store.view.leases lease.leaseId = some lease) (hactive : lease.active = true)
    (hidle : ∀ id d, s.store.view.documents id = some d → d.preparedEventId = none)
    (hcalm : calm → IdLeft s.store.tables) :
    (recoverLease lease).Ensures (Ready calm) (fun u => BrokerInvariant smoke u.store)
      (fun _ u => BrokerInvariant smoke u.store ∧ u.store.files = s.store.files ∧
        u.store.tables.events.length = s.store.tables.events.length + 1 ∧ u.store.view = ⟨Function.update s.store.view.leases lease.leaseId
          (some { lease with active := false }), s.store.view.documents⟩)
      (fun _ u => BrokerInvariant smoke u.store ∧ u.store.view = s.store.view ∧ ¬ calm) s := by
  refine Ensures.bind (ensures_stateCall ?_ ?_ ?_)
  · intro draw t record hok
    obtain ⟨hended, l, hl, hviewed⟩ := h.recoverDocumentLease hok fun id d hd _ => hidle id d hd
    obtain rfl := Option.some.inj (hlease.symm.trans hl)
    have hlength := congrArg List.length (eventIds_recoverDocumentLease hok)
    exact ⟨hended, ensures_pure ⟨hended, rfl, by simpa using hlength, hviewed⟩⟩
  · intro draw e hnew he
    refine ⟨h, rfl, fun hc => ?_⟩
    obtain ⟨hvalid, hfresh⟩ := hnew hc (hcalm hc)
    have hrun : lease.runId ≠ "" := by
      obtain ⟨d, hd, hkept⟩ := h.leased _ lease hlease hactive
      rw [← hkept.runId]
      exact ne_of_isIdentifier (h.canonical _ d hd).runId_valid
    obtain ⟨t, record, hok⟩ := exists_recoverDocumentLease hvalid hfresh hlease hactive hrun
    rw [hok] at he
    cases he
  · exact fun hc => ⟨h, rfl, hc⟩

/-- What a completed recovery does to the store: no edit is prepared any more, no lease is active, and
the documents that were under active leases have their content in their files. -/
structure Recovered (s u : ProjectStore) : Prop where
  documents : ∀ id, u.view.documents id = (s.view.documents id).map settled
  leases : ∀ id, u.view.leases id = (s.view.leases id).map fun l => { l with active := false }
  holds : ∀ id l d, s.view.leases id = some l → l.active = true →
    s.view.documents l.documentId = some d → u.Holds d

/-- The prepared documents are recovered, one after the other. -/
lemma ensures_recoverDocuments {documents : List DocumentState}
    (h : BrokerInvariant smoke s.store)
    (hcalm : calm → Tidy smoke s ∧ s.store.tables.events.length + documents.length ≤ ulidCount)
    (hmem : ∀ d, d ∈ documents ↔ s.store.view.documents d.documentId = some d ∧
      d.preparedEventId.any (· ≠ "") = true)
    (hdistinct : documents.Pairwise fun d e => d.documentId ≠ e.documentId) :
    (forEach (recoverDocument smoke) documents).Ensures (Ready calm)
      (fun u => BrokerInvariant smoke u.store)
      (fun _ u => BrokerInvariant smoke u.store ∧
        u.store.tables.events.length = s.store.tables.events.length + documents.length ∧
        u.store.view = ⟨s.store.view.leases, fun id => (s.store.view.documents id).map settled⟩)
      (fun _ u => BrokerInvariant smoke u.store ∧ NoNewEdits s.store.view u.store.view ∧ ¬ calm)
      s := by
  -- `J` settles the documents that were passed
  refine (ensures_forEach (fun passed u => BrokerInvariant smoke u.store ∧ (calm → Tidy smoke u) ∧
    u.store.tables.events.length = s.store.tables.events.length + passed.length ∧ u.store.view = ⟨s.store.view.leases, fun id => (s.store.view.documents id).map fun d =>
      if d ∈ passed then settled d else d⟩) ?_ ⟨h, fun hc => (hcalm hc).1, rfl, by simp⟩).mono
        (fun _ h => h) ?_ fun _ _ h => h
  · rintro passed document rest rfl u ⟨hu, htidy, hlength, hview⟩
    obtain ⟨hdocument, hprepared⟩ := (hmem document).1 (by simp)
    have hnew : ∀ d ∈ passed, d.documentId ≠ document.documentId := fun d hd =>
      (List.pairwise_append.1 hdistinct).2.2 d hd document List.mem_cons_self
    obtain ⟨token, htoken⟩ : ∃ token, document.preparedEventId = some token := by
      cases hid : document.preparedEventId with
      | none => simp [hid] at hprepared
      | some token => exact ⟨token, rfl⟩
    have hfound : u.store.view.documents document.documentId = some document := by
      have hpassed : document ∉ passed := fun hd => hnew document hd rfl
      simp [hview, hdocument, hpassed]
    have hleft : calm → IdLeft u.store.tables := fun hc => idLeft_of_length <| by
      have hroom := (hcalm hc).2
      rw [List.length_append, List.length_cons] at hroom
      omega
    have hedits : NoNewEdits s.store.view u.store.view := by
      intro id d token hd hdtoken
      rw [hview] at hd
      obtain ⟨d', hd', rfl⟩ := Option.map_eq_some_iff.1 hd
      refine ⟨d', hd', ?_⟩
      split at hdtoken
      · cases hdtoken
      · exact hdtoken
    refine (ensures_recoverDocument hu hfound htoken fun hc => ⟨htidy hc, hleft hc⟩).mono
      (fun _ h => h) ?_ fun _ v hv => ⟨hv.1, hv.2.1 ▸ hedits, hv.2.2⟩
    rintro _ v ⟨hv, htidy', hlength', hview'⟩
    refine ⟨hv, htidy', by rw [hlength', hlength, List.length_append, List.length_singleton]; rfl,
      hview'.trans ?_⟩
    rw [settleView, hview]
    congr 1
    funext id
    by_cases hid : id = document.documentId
    · subst hid
      simp [hdocument]
    · rw [Function.update_of_ne hid]
      refine Option.map_congr fun d hd => ?_
      have hne : d ≠ document := by
        rintro rfl
        exact hid (h.tables.decodes.documentId_eq hd).symm
      simp [hne]
  · rintro _ u ⟨hu, -, hlength, hview⟩
    refine ⟨hu, hlength, hview.trans ?_⟩
    congr 1
    funext id
    refine Option.map_congr fun d hd => ?_
    split
    · rfl
    · rename_i hnot
      have hkey := h.tables.decodes.documentId_eq hd
      cases hprepared : d.preparedEventId with
      | none => simp [settled, ← hprepared]
      | some token =>
        obtain ⟨hulid, -⟩ := h.prepared id d token hd hprepared
        have hne : token ≠ "" := by
          rintro rfl
          exact absurd hulid (by decide)
        exact absurd ((hmem d).2 ⟨hkey.symm ▸ hd, by simp [hprepared, hne]⟩) hnot

/-- The active leases are recovered, one after the other. -/
lemma ensures_recoverLeases {leases : List LeaseState} (h : BrokerInvariant smoke s.store)
    (hidle : ∀ id d, s.store.view.documents id = some d → d.preparedEventId = none)
    (hmem : ∀ l, l ∈ leases ↔ s.store.view.leases l.leaseId = some l ∧ l.active = true)
    (hdistinct : leases.Pairwise fun l m => l.leaseId ≠ m.leaseId)
    (hcalm : calm → s.store.tables.events.length + leases.length ≤ ulidCount) :
    (forEach recoverLease leases).Ensures (Ready calm) (fun u => BrokerInvariant smoke u.store)
      (fun _ u => BrokerInvariant smoke u.store ∧ u.store.files = s.store.files ∧ u.store.view =
        ⟨fun id => (s.store.view.leases id).map fun l => { l with active := false },
          s.store.view.documents⟩)
      (fun _ u => BrokerInvariant smoke u.store ∧
        u.store.view.documents = s.store.view.documents ∧ ¬ calm) s := by
  -- `J` ends the leases that were passed
  refine (ensures_forEach (fun passed u => BrokerInvariant smoke u.store ∧
    u.store.files = s.store.files ∧
    u.store.tables.events.length = s.store.tables.events.length + passed.length ∧
    u.store.view = ⟨fun id => (s.store.view.leases id).map fun l =>
      if l ∈ passed then { l with active := false } else l, s.store.view.documents⟩) ?_
        ⟨h, rfl, rfl, by simp⟩).mono (fun _ h => h) ?_ fun _ _ h => h
  · rintro passed lease rest rfl u ⟨hu, hfiles, hlength, hview⟩
    obtain ⟨hlease, hactive⟩ := (hmem lease).1 (by simp)
    have hnew : ∀ l ∈ passed, l.leaseId ≠ lease.leaseId := fun l hl =>
      (List.pairwise_append.1 hdistinct).2.2 l hl lease List.mem_cons_self
    have hfound : u.store.view.leases lease.leaseId = some lease := by
      have hpassed : lease ∉ passed := fun hl => hnew lease hl rfl
      simp [hview, hlease, hpassed]
    have hleft : calm → IdLeft u.store.tables := fun hc => idLeft_of_length <| by
      have hroom := hcalm hc
      rw [List.length_append, List.length_cons] at hroom
      omega
    refine (ensures_recoverLease hu hfound hactive (by rwa [hview]) hleft).mono (fun _ h => h) ?_
      fun _ v hv => ⟨hv.1, by rw [hv.2.1, hview], hv.2.2⟩
    rintro _ v ⟨hv, hfiles', hlength', hview'⟩
    refine ⟨hv, hfiles'.trans hfiles,
      by rw [hlength', hlength, List.length_append, List.length_singleton]; rfl, hview'.trans ?_⟩
    rw [hview]
    congr 1
    funext id
    by_cases hid : id = lease.leaseId
    · subst hid
      simp [hlease]
    · rw [Function.update_of_ne hid]
      refine Option.map_congr fun l hl => ?_
      have hne : l ≠ lease := by
        rintro rfl
        exact hid (h.tables.decodes.leaseId_eq hl).symm
      simp [hne]
  · rintro _ u ⟨hu, hfiles, -, hview⟩
    refine ⟨hu, hfiles, hview.trans ?_⟩
    congr 1
    funext id
    refine Option.map_congr fun l hl => ?_
    split
    · rfl
    · rename_i hnot
      have hkey := h.tables.decodes.leaseId_eq hl
      have hinactive : l.active = false := by
        by_contra hactive
        exact hnot ((hmem l).2 ⟨hkey.symm ▸ hl, by simpa using hactive⟩)
      cases l
      simp_all

/-- There are ids left for the events of a recovery: one for each prepared document and each active
lease. -/
def RoomToRecover (t : Tables) : Prop :=
  ∀ documents leases, preparedDocuments t.projections = .ok documents →
    activeLeases t.projections = .ok leases →
      t.events.length + documents.length + leases.length ≤ ulidCount

/-- Recovery of the whole store. -/
lemma ensures_recoverAll (h : BrokerInvariant smoke s.store)
    (hcalm : calm → Tidy smoke s ∧ RoomToRecover s.store.tables) :
    (recoverAll smoke).Ensures (Ready calm) (fun u => BrokerInvariant smoke u.store)
      (fun _ u => BrokerInvariant smoke u.store ∧ Recovered s.store u.store)
      (fun _ u => BrokerInvariant smoke u.store ∧ NoNewEdits s.store.view u.store.view ∧ ¬ calm)
      s := by
  obtain ⟨documents, hdocuments, hmem, hdistinct⟩ := preparedDocuments_eq_ok h.tables.decodes
  refine Ensures.bind (ensures_stateQuery (fun _ found hfound => ?_) (fun _ e he => ?_)
    fun hc => ⟨h, .of_documents rfl, hc⟩)
  swap
  · rw [hdocuments] at he
    cases he
  obtain rfl := Except.ok.inj (hdocuments.symm.trans hfound)
  obtain ⟨before, hbefore, hbmem, hbdistinct⟩ := activeLeases_eq_ok h.tables.decodes
  have hroom : calm → s.store.tables.events.length + documents.length + before.length ≤ ulidCount :=
    fun hc => (hcalm hc).2 documents before hdocuments hbefore
  refine Ensures.bind ((ensures_recoverDocuments h (fun hc => ⟨(hcalm hc).1,
    (Nat.le_add_right ..).trans (hroom hc)⟩) hmem hdistinct).mono (fun _ h => h) ?_ fun _ _ h => h)
  rintro _ u ⟨hu, hlength, hview⟩
  obtain ⟨leases, hleases, hlmem, hldistinct⟩ := activeLeases_eq_ok hu.tables.decodes
  -- settling documents leaves the active leases
  have hsame : leases.length = before.length := by
    have hnodup : ∀ {xs : List LeaseState}, (xs.Pairwise fun l m => l.leaseId ≠ m.leaseId) →
        xs.Nodup := fun hxs => hxs.imp fun hne heq => hne (congrArg _ heq)
    refine ((List.perm_ext_iff_of_nodup (hnodup hldistinct) (hnodup hbdistinct)).2
      fun l => (hlmem l).trans ?_).length_eq
    rw [show documentView u.store.tables.projections = u.store.view from rfl, hview]
    exact (hbmem l).symm
  have hedits : NoNewEdits s.store.view u.store.view := by
    intro id d token hd hdtoken
    rw [hview] at hd
    obtain ⟨d', -, rfl⟩ := Option.map_eq_some_iff.1 hd
    cases hdtoken
  refine Ensures.bind (ensures_stateQuery (fun _ found hfound => ?_) (fun _ e he => ?_)
    fun hc => ⟨hu, hedits, hc⟩)
  swap
  · rw [hleases] at he
    cases he
  obtain rfl := Except.ok.inj (hleases.symm.trans hfound)
  have hidle : ∀ id d, u.store.view.documents id = some d → d.preparedEventId = none := by
    intro id d hd
    rw [hview] at hd
    obtain ⟨d', -, rfl⟩ := Option.map_eq_some_iff.1 hd
    rfl
  refine (ensures_recoverLeases hu hidle hlmem hldistinct fun hc => by
    rw [hlength, hsame]; exact hroom hc).mono (fun _ h => h) ?_
      fun _ v hv => ⟨hv.1, hedits.trans (.of_documents hv.2.1), hv.2.2⟩
  rintro _ v ⟨hv, hfiles, hview'⟩
  refine ⟨hv, fun id => by rw [hview', hview], fun id => by rw [hview', hview], ?_⟩
  intro id l d hl hactive hd
  have hsettled : u.store.view.documents l.documentId = some (settled d) := by
    rw [hview]
    simp [hd]
  obtain ⟨d', hd', hkept⟩ := hu.leased id l (by rw [hview]; exact hl) hactive
  obtain rfl := Option.some.inj (hsettled.symm.trans hd')
  have hholds : u.store.Holds d := hkept.holds rfl
  exact hholds.of_files hfiles

/-- `_ensure_recovered` -/
lemma ensures_ensureRecovered (h : BrokerInvariant smoke s.store)
    (hcalm : calm → Tidy smoke s ∧ RoomToRecover s.store.tables) :
    (ensureRecovered smoke).Ensures (Ready calm) (fun u => BrokerInvariant smoke u.store)
      (fun _ u => BrokerInvariant smoke u.store ∧ u.memory.recovered = true ∧
        if s.memory.recovered then u = s else Recovered s.store u.store)
      (fun _ u => BrokerInvariant smoke u.store ∧ s.memory.recovered = false ∧
        u.memory.recovered = false ∧ NoNewEdits s.store.view u.store.view ∧ ¬ calm) s := by
  refine Ensures.bind (ensures_look (fun recovered hrecovered => ?_) (by simp))
  obtain rfl := Except.ok.inj hrecovered
  cases hmemory : s.memory.recovered with
  | true => exact ensures_pure ⟨h, hmemory, by simp⟩
  | false =>
    refine Ensures.bind (Ensures.tryCatch (((steady_recoverAll smoke).ensures
      (ensures_recoverAll h hcalm)).mono (fun _ h => h) ?_ ?_))
    · rintro _ u ⟨⟨hu, hrecovered⟩, -⟩
      exact ensures_assign ⟨hu, rfl, by simpa using hrecovered⟩ fun _ hdraws => hdraws
    · rintro fault u ⟨⟨hu, hedits, hc⟩, hsteady⟩
      exact ensures_throw ⟨hu, rfl, hsteady.trans hmemory, hedits, hc⟩

end Aizim.Documents
