import Aizim.Documents.StorageSpec
import Aizim.State.DocumentRecovery

/-!
# The invariant of the document store

The tables and the files of a project are written one after the other, so they can disagree.
`BrokerInvariant` says how far: the content of a document is stored as a snapshot; a document under an
active lease has a file; and the file holds the document's content, unless an edit of it is prepared.
An edit is prepared only under an active lease.

The lemmas below say which changes of the files and which steps of the tables keep the invariant.
-/

namespace Aizim.Documents

open Domain State Knowledge Stretch

/-- The leases and documents of the store. -/
def ProjectStore.view (store : ProjectStore) : DocumentView :=
  documentView store.tables.projections

/-- The file of a document holds its content. -/
def ProjectStore.Holds (store : ProjectStore) (document : DocumentState) : Prop :=
  ∃ file, store.file document.runId document.relativePath = some file ∧
    sha256Bytes file.body = document.contentHash

/-- The content of a document is stored as a snapshot. -/
def ProjectStore.Stores (store : ProjectStore) (document : DocumentState) : Prop :=
  ∃ body, sha256Bytes body = document.contentHash ∧
    store.snapshots document.runId document.contentHash = some ⟨body, 0o600⟩

/-- What the tables say about a document and its lease fits, and the document has a file, which holds
its content unless an edit is prepared. -/
structure LeaseKept (store : ProjectStore) (lease : LeaseState) (document : DocumentState) :
    Prop where
  leaseId : document.leaseId = lease.leaseId
  runId : document.runId = lease.runId
  path : document.relativePath = lease.relativePath
  file : (store.file document.runId document.relativePath).isSome
  holds : document.preparedEventId = none → store.Holds document

section

variable {s u : ProjectStore} (hfiles : u.files = s.files)

include hfiles

lemma file_of_files (runId : String) (path : PosixPath) : u.file runId path = s.file runId path := by
  rw [ProjectStore.file, hfiles, ProjectStore.file]

lemma ProjectStore.Folded.of_files (h : s.Folded) : u.Folded := by
  intro r p q hp hq
  rw [file_of_files hfiles] at hp hq
  exact h r p q hp hq

lemma ProjectStore.Holds.of_files {document : DocumentState} (h : s.Holds document) :
    u.Holds document :=
  h.imp fun _ hfile => ⟨(file_of_files hfiles ..).trans hfile.1, hfile.2⟩

lemma LeaseKept.of_files {lease : LeaseState} {document : DocumentState}
    (h : LeaseKept s lease document) : LeaseKept u lease document :=
  ⟨h.leaseId, h.runId, h.path, by rw [file_of_files hfiles]; exact h.file,
    fun hidle => (h.holds hidle).of_files hfiles⟩

end

lemma ProjectStore.Stores.of_snapshots {s u : ProjectStore} {document : DocumentState}
    (h : s.Stores document)
    (hsnapshots : ∀ r d file, s.snapshots r d = some file → u.snapshots r d = some file) :
    u.Stores document :=
  h.imp fun _ hbody => ⟨hbody.1, hsnapshots _ _ _ hbody.2⟩

/-- The invariant of the tables and the files of a project. -/
structure BrokerInvariant (smoke : Bool) (store : ProjectStore) : Prop where
  tables : DocumentInvariant store.tables
  folded : store.Folded
  canonical : ∀ id d, store.view.documents id = some d →
    Canonical smoke d.runId d.workerId d.relativePath
  stores : ∀ id d, store.view.documents id = some d → store.Stores d
  leased : ∀ id l, store.view.leases id = some l → l.active = true →
    ∃ d, store.view.documents l.documentId = some d ∧ LeaseKept store l d
  prepared : ∀ id d token, store.view.documents id = some d → d.preparedEventId = some token →
    isUlid token = true ∧
      ∃ l, store.view.leases d.leaseId = some l ∧ l.active = true ∧ l.documentId = id
  tokens : ∀ id d id' d' token, store.view.documents id = some d →
    store.view.documents id' = some d' → d.preparedEventId = some token →
    d'.preparedEventId = some token → id = id'

/-- A new project has no documents and no leases. -/
lemma view_initial (id : String) : BrokerWorld.initial.store.view.documents id = none ∧
    BrokerWorld.initial.store.view.leases id = none := by
  have hnone : ∀ p, p ≠ .epochs → findRecord initialTables.projections p id = none := by
    intro p hp
    simp [initialTables, initialLog, initialProjections, findRecord, hp]
  constructor <;> simp [BrokerWorld.initial, ProjectStore.view, documentView, findDocument,
    findLease, hnone, orThrow, Except.toOption]

lemma brokerInvariant_initial (smoke : Bool) :
    BrokerInvariant smoke BrokerWorld.initial.store := by
  refine ⟨documentInvariant_initial, ?_, ?_, ?_, ?_, ?_, ?_⟩
  · intro runId p q hp
    simp [BrokerWorld.initial, ProjectStore.file] at hp
  all_goals simp [view_initial]

namespace BrokerInvariant

variable {smoke : Bool} {s u : ProjectStore}

/-- The active lease of a document is the only one for its path. -/
lemma lease_unique (h : BrokerInvariant smoke s) {i j : String} {l m : LeaseState}
    (hl : s.view.leases i = some l) (hm : s.view.leases j = some m) (hlactive : l.active = true)
    (hmactive : m.active = true) (hpath : l.relativePath = m.relativePath) : i = j :=
  h.tables.exclusive i j l m hl hm hlactive hmactive (.inr hpath)

/-! ## Changes of the files -/

/-- A change of one file keeps the invariant if the document that has the file under an active lease,
if any, still has one, with its content unless an edit is prepared. -/
lemma fileStep (h : BrokerInvariant smoke s) {runId : String} {path : PosixPath}
    (hstep : FileStep runId path s u)
    (hkept : ∀ id l d, s.view.leases id = some l → l.active = true →
      s.view.documents l.documentId = some d → d.runId = runId → d.relativePath = path →
      (u.file runId path).isSome ∧ (d.preparedEventId = none → u.Holds d)) :
    BrokerInvariant smoke u := by
  have hview : u.view = s.view := by
    rw [ProjectStore.view, hstep.tables, ProjectStore.view]
  refine ⟨hstep.tables ▸ h.tables, hstep.folded h.folded, ?_, ?_, ?_, ?_, ?_⟩
  · rw [hview]
    exact h.canonical
  · rw [hview]
    exact fun id d hd => (h.stores id d hd).of_snapshots hstep.snapshots
  · rw [hview]
    intro id l hl hactive
    obtain ⟨d, hd, hlease⟩ := h.leased id l hl hactive
    refine ⟨d, hd, hlease.leaseId, hlease.runId, hlease.path, ?_, ?_⟩
    · by_cases hfile : d.runId = runId ∧ d.relativePath = path
      · obtain ⟨rfl, rfl⟩ := hfile
        exact (hkept id l d hl hactive hd rfl rfl).1
      · rw [hstep.files _ _ hfile]
        exact hlease.file
    · intro hidle
      by_cases hfile : d.runId = runId ∧ d.relativePath = path
      · exact (hkept id l d hl hactive hd hfile.1 hfile.2).2 hidle
      · obtain ⟨file, hold, hbody⟩ := hlease.holds hidle
        exact ⟨file, (hstep.files _ _ hfile).trans hold, hbody⟩
  · rw [hview]
    exact h.prepared
  · rw [hview]
    exact h.tokens

/-- New snapshots keep the invariant. -/
lemma snapshotStep (h : BrokerInvariant smoke s) (hstep : SnapshotStep s u) :
    BrokerInvariant smoke u := by
  have hview : u.view = s.view := by
    rw [ProjectStore.view, hstep.tables, ProjectStore.view]
  refine ⟨hstep.tables ▸ h.tables, h.folded.of_files hstep.files, hview ▸ h.canonical, ?_, ?_,
    hview ▸ h.prepared, hview ▸ h.tokens⟩
  · rw [hview]
    exact fun id d hd => (h.stores id d hd).of_snapshots hstep.snapshots
  · rw [hview]
    intro id l hl hactive
    obtain ⟨d, hd, hlease⟩ := h.leased id l hl hactive
    exact ⟨d, hd, hlease.of_files hstep.files⟩

/-- Whatever is written to the file of a document with a prepared edit keeps the invariant. -/
lemma writePrepared (h : BrokerInvariant smoke s) {d : DocumentState} {token : String}
    (hd : s.view.documents d.documentId = some d) (hprepared : d.preparedEventId = some token)
    (hstep : FileStep d.runId d.relativePath s u)
    (hfile : (u.file d.runId d.relativePath).isSome) : BrokerInvariant smoke u := by
  refine h.fileStep hstep fun id l e hl hactive he hrun hpath => ⟨hfile, fun hidle => ?_⟩
  -- the lease for this path is that of the document, whose edit is prepared
  obtain ⟨-, m, hm, hmactive, hmdocument⟩ := h.prepared _ d token hd hprepared
  obtain ⟨d', hd', hmlease⟩ := h.leased _ m hm hmactive
  rw [hmdocument, hd] at hd'
  obtain rfl := Option.some.inj hd'
  obtain ⟨e', he', hlease⟩ := h.leased id l hl hactive
  obtain rfl := Option.some.inj (he.symm.trans he')
  have hsame : l.relativePath = m.relativePath := by
    rw [← hlease.path, hpath, hmlease.path]
  obtain rfl := h.lease_unique hl hm hactive hmactive hsame
  obtain rfl := Option.some.inj (hl.symm.trans hm)
  rw [hmdocument, hd] at he
  obtain rfl := Option.some.inj he
  rw [hprepared] at hidle
  cases hidle

/-- Whatever happens to a file that no document has under an active lease keeps the invariant. -/
lemma writeFree (h : BrokerInvariant smoke s) {runId : String} {path : PosixPath}
    (hfree : ∀ id l, s.view.leases id = some l → l.active = true →
      ¬ (l.runId = runId ∧ l.relativePath = path))
    (hstep : FileStep runId path s u) : BrokerInvariant smoke u := by
  refine h.fileStep hstep fun id l d hl hactive hd hrun hpath => ?_
  obtain ⟨d', hd', hlease⟩ := h.leased id l hl hactive
  obtain rfl := Option.some.inj (hd.symm.trans hd')
  exact absurd ⟨hlease.runId ▸ hrun, hlease.path ▸ hpath⟩ (hfree id l hl hactive)

/-- A path without a file is not under an active lease. -/
lemma free_of_file (h : BrokerInvariant smoke s) {runId : String} {path : PosixPath}
    (hnone : s.file runId path = none) {id : String} {l : LeaseState}
    (hl : s.view.leases id = some l) (hactive : l.active = true) :
    ¬ (l.runId = runId ∧ l.relativePath = path) := by
  rintro ⟨rfl, rfl⟩
  obtain ⟨d, -, hlease⟩ := h.leased id l hl hactive
  have hfile := hlease.file
  rw [hlease.runId, hlease.path, hnone] at hfile
  cases hfile

/-! ## Steps of the tables -/

/-- The view after a document was written. -/
lemma writeDocument (h : BrokerInvariant smoke s) {d : DocumentState} {version : ℕ}
    {contentHash : String} {preparedEventId : Option String} (htables : DocumentInvariant u.tables)
    (hfiles : u.files = s.files) (hsnapshots : u.snapshots = s.snapshots)
    (hd : s.view.documents d.documentId = some d)
    (hview : u.view = ⟨s.view.leases, Function.update s.view.documents d.documentId
      (some (d.withContent version contentHash preparedEventId))⟩)
    (hstores : s.Stores (d.withContent version contentHash preparedEventId))
    (hholds : preparedEventId = none → (∃ l, s.view.leases d.leaseId = some l ∧ l.active = true ∧
      l.documentId = d.documentId) → s.Holds (d.withContent version contentHash preparedEventId))
    (hprepared : ∀ token, preparedEventId = some token → isUlid token = true ∧
      (∃ l, s.view.leases d.leaseId = some l ∧ l.active = true ∧ l.documentId = d.documentId) ∧
      ∀ id e, s.view.documents id = some e → e.preparedEventId ≠ some token) :
    BrokerInvariant smoke u := by
  have hdocuments : ∀ id e, u.view.documents id = some e →
      (id = d.documentId ∧ e = d.withContent version contentHash preparedEventId) ∨
        (id ≠ d.documentId ∧ s.view.documents id = some e) := by
    intro id e he
    rw [hview] at he
    by_cases hid : id = d.documentId
    · subst hid
      exact .inl ⟨rfl, by simpa [eq_comm] using he⟩
    · exact .inr ⟨hid, by simpa [hid] using he⟩
  refine ⟨htables, h.folded.of_files hfiles, ?_, ?_, ?_, ?_, ?_⟩
  · intro id e he
    rcases hdocuments id e he with ⟨-, rfl⟩ | ⟨-, he⟩
    · exact h.canonical _ d hd
    · exact h.canonical id e he
  · intro id e he
    rcases hdocuments id e he with ⟨-, rfl⟩ | ⟨-, he⟩
    · exact hstores.of_snapshots (by simp [hsnapshots])
    · exact (h.stores id e he).of_snapshots (by simp [hsnapshots])
  · intro id l hl hactive
    rw [hview] at hl ⊢
    obtain ⟨e, he, hlease⟩ := h.leased id l hl hactive
    by_cases hid : l.documentId = d.documentId
    · rw [hid, hd] at he
      obtain rfl := Option.some.inj he
      refine ⟨d.withContent version contentHash preparedEventId, by simp [hid], hlease.leaseId,
        hlease.runId, hlease.path, ?_, fun hidle => ?_⟩
      · rw [file_of_files hfiles]
        exact hlease.file
      · have hkey := h.tables.decodes.leaseId_eq hl
        exact (hholds hidle ⟨l, by rw [hlease.leaseId, hkey]; exact hl, hactive, hid⟩).of_files
          hfiles
    · exact ⟨e, by simpa [hid] using he, hlease.of_files hfiles⟩
  · intro id e token he htoken
    rcases hdocuments id e he with ⟨rfl, rfl⟩ | ⟨-, he⟩
    · obtain ⟨hulid, hlease, -⟩ := hprepared token htoken
      rw [hview]
      exact ⟨hulid, hlease⟩
    · rw [hview]
      exact h.prepared id e token he htoken
  · intro id e id' e' token he he' htoken htoken'
    rcases hdocuments id e he with ⟨rfl, rfl⟩ | ⟨-, he⟩
    · rcases hdocuments id' e' he' with ⟨rfl, rfl⟩ | ⟨-, he'⟩
      · rfl
      · exact absurd htoken' ((hprepared token htoken).2.2 id' e' he')
    · rcases hdocuments id' e' he' with ⟨rfl, rfl⟩ | ⟨-, he'⟩
      · exact absurd htoken ((hprepared token htoken').2.2 id e he)
      · exact h.tokens id e id' e' token he he' htoken htoken'

/-- The view after a lease was granted for a new document. -/
lemma writeGrant (h : BrokerInvariant smoke s) {lease : LeaseState}
    (htables : DocumentInvariant u.tables) (hfiles : u.files = s.files)
    (hsnapshots : u.snapshots = s.snapshots)
    (hfree : ∀ id l, s.view.leases id = some l → l.active = true →
      id ≠ lease.leaseId ∧ l.documentId ≠ lease.documentId)
    (hview : u.view = ⟨Function.update s.view.leases lease.leaseId (some lease),
      Function.update s.view.documents lease.documentId (some (lease.document none))⟩)
    (hcanonical : Canonical smoke lease.runId lease.workerId lease.relativePath)
    (hstores : s.Stores (lease.document none)) (hholds : s.Holds (lease.document none)) :
    BrokerInvariant smoke u := by
  have hdocuments : ∀ id e, u.view.documents id = some e →
      (id = lease.documentId ∧ e = lease.document none) ∨
        (id ≠ lease.documentId ∧ s.view.documents id = some e) := by
    intro id e he
    rw [hview] at he
    by_cases hid : id = lease.documentId
    · subst hid
      exact .inl ⟨rfl, by simpa [eq_comm] using he⟩
    · exact .inr ⟨hid, by simpa [hid] using he⟩
  refine ⟨htables, h.folded.of_files hfiles, ?_, ?_, ?_, ?_, ?_⟩
  · intro id e he
    rcases hdocuments id e he with ⟨-, rfl⟩ | ⟨-, he⟩
    · exact hcanonical
    · exact h.canonical id e he
  · intro id e he
    rcases hdocuments id e he with ⟨-, rfl⟩ | ⟨-, he⟩
    · exact hstores.of_snapshots (by simp [hsnapshots])
    · exact (h.stores id e he).of_snapshots (by simp [hsnapshots])
  · intro id l hl hactive
    rw [hview] at hl ⊢
    by_cases hid : id = lease.leaseId
    · obtain rfl : lease = l := by simpa [hid] using hl
      obtain ⟨file, hsome, hbody⟩ := hholds.of_files hfiles
      exact ⟨lease.document none, by simp, rfl, rfl, rfl, Option.isSome_of_eq_some hsome,
        fun _ => ⟨file, hsome, hbody⟩⟩
    · replace hl : s.view.leases id = some l := by simpa [hid] using hl
      obtain ⟨e, he, hlease⟩ := h.leased id l hl hactive
      have hne := (hfree id l hl hactive).2
      exact ⟨e, by simpa [hne] using he, hlease.of_files hfiles⟩
  · intro id e token he htoken
    rcases hdocuments id e he with ⟨-, rfl⟩ | ⟨-, he⟩
    · cases htoken
    · obtain ⟨hulid, l, hl, hactive, hid⟩ := h.prepared id e token he htoken
      rw [hview]
      exact ⟨hulid, l, by simpa [(hfree _ l hl hactive).1] using hl, hactive, hid⟩
  · intro id e id' e' token he he' htoken htoken'
    rcases hdocuments id e he with ⟨-, rfl⟩ | ⟨-, he⟩
    · cases htoken
    · rcases hdocuments id' e' he' with ⟨-, rfl⟩ | ⟨-, he'⟩
      · cases htoken'
      · exact h.tokens id e id' e' token he he' htoken htoken'

/-- The view after a lease has ended whose document has no prepared edit. -/
lemma endLease (h : BrokerInvariant smoke s) {leaseId : String} {lease : LeaseState}
    (htables : DocumentInvariant u.tables) (hfiles : u.files = s.files)
    (hsnapshots : u.snapshots = s.snapshots)
    (hidle : ∀ id d, s.view.documents id = some d → d.leaseId = leaseId →
      d.preparedEventId = none)
    (hview : u.view = ⟨Function.update s.view.leases leaseId (some { lease with active := false }),
      s.view.documents⟩) : BrokerInvariant smoke u := by
  refine ⟨htables, h.folded.of_files hfiles, ?_, ?_, ?_, ?_, ?_⟩
  · rw [hview]
    exact h.canonical
  · rw [hview]
    exact fun id e he => (h.stores id e he).of_snapshots (by simp [hsnapshots])
  · rw [hview]
    intro id l hl hactive
    by_cases hid : id = leaseId
    · obtain rfl : _ = l := by simpa [hid] using hl
      cases hactive
    · obtain ⟨e, he, hlease⟩ := h.leased id l (by simpa [hid] using hl) hactive
      exact ⟨e, he, hlease.of_files hfiles⟩
  · rw [hview]
    intro id e token he htoken
    obtain ⟨hulid, l, hl, hactive, hid⟩ := h.prepared id e token he htoken
    refine ⟨hulid, l, ?_, hactive, hid⟩
    have hne : e.leaseId ≠ leaseId := by
      intro heq
      rw [hidle id e he heq] at htoken
      cases htoken
    simpa [hne] using hl
  · rw [hview]
    exact h.tokens

/-- Steps of the tables that leave the leases and documents. -/
lemma of_view (h : BrokerInvariant smoke s) (htables : DocumentInvariant u.tables)
    (hfiles : u.files = s.files) (hsnapshots : u.snapshots = s.snapshots)
    (hview : u.view = s.view) : BrokerInvariant smoke u := by
  refine ⟨htables, h.folded.of_files hfiles, hview ▸ h.canonical, ?_, ?_, hview ▸ h.prepared,
    hview ▸ h.tokens⟩
  · rw [hview]
    exact fun id d hd => (h.stores id d hd).of_snapshots (by simp [hsnapshots])
  · rw [hview]
    intro id l hl hactive
    obtain ⟨d, hd, hlease⟩ := h.leased id l hl hactive
    exact ⟨d, hd, hlease.of_files hfiles⟩

end BrokerInvariant

end Aizim.Documents
