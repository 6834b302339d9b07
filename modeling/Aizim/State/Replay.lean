import Aizim.State.Service

/-!
# Replay equals incremental state

A store reached by any operations of the service is the store that its own log rebuilds.  The log
holds the events in canonical form, so replay appends `event.stored` where the operation appended
`event`; `append_stored` says that this changes the log, the projections and the artifacts in the
same way.  Operations other than `_append` do not register artifacts, and do not carry artifact
events either, so appending their events again registers nothing.

`Replays` is the invariant: the rows of the log can be read, folding the reducers over them gives
the projection table, and appending them to a new database gives the log and the artifacts.
-/

namespace Aizim.State

open JsonValue JsonObject TransitionSystem

variable [CharacterDatabase]

/-! ## Appending a stored event -/

/-- The rows of an event and of its stored form are the same. -/
lemma ofEvent_stored (sequence : ℕ) (event : EventEnvelope) :
    EventRow.ofEvent sequence event.stored = EventRow.ofEvent sequence event := by
  simp [EventRow.ofEvent, EventEnvelope.stored]

lemma applyEventMutation_stored {log log' : EventLog} {event : EventEnvelope}
    {snapshots : ProjectionTable} {record : EventRecord}
    (h : applyEventMutation log event snapshots = .ok (log', record)) :
    applyEventMutation log event.stored snapshots =
      .ok (log', ⟨record.sequence, event.stored⟩) := by
  simp only [applyEventMutation, bind_eq_ok, require_eq_ok, pure_eq_ok, exists_and_left,
    exists_const, Prod.mk.injEq] at h ⊢
  obtain ⟨hid, records, hrecords, rfl, rfl⟩ := h
  exact ⟨hid, records, by rwa [applyEvent_stored], by rw [ofEvent_stored], rfl⟩

omit [CharacterDatabase] in
lemma artifactInteger_canonical (v : Option JsonValue) :
    artifactInteger (v.map canonical) = artifactInteger v := by
  rcases v with _ | v
  · rfl
  · cases v <;> simp [artifactInteger]

/-- Registering the artifact of a stored event depends on the artifacts only. -/
lemma registerArtifact_stored {t t' r : Tables} {event : EventEnvelope}
    (h : registerArtifact t event = .ok t') (hartifacts : r.artifacts = t.artifacts)
    (hassociations : r.artifactAssociations = t.artifactAssociations) :
    registerArtifact r event.stored = .ok { r with
      artifacts := t'.artifacts
      artifactAssociations := t'.artifactAssociations } := by
  unfold registerArtifact at h ⊢
  rw [EventEnvelope.stored_eventType]
  split at h
  · rename_i htype
    obtain rfl := pure_eq_ok.1 h
    rw [if_pos htype, ← hartifacts, ← hassociations]
    rfl
  · rename_i htype
    rw [if_neg htype]
    simp only [EventEnvelope.stored_runId, EventEnvelope.stored_text?,
      EventEnvelope.stored_payload, getEntry_canonicalEntries, artifactInteger_canonical,
      hartifacts, hassociations, bind_eq_ok, require_eq_ok, pure_eq_ok] at h ⊢
    obtain ⟨run, hrun, name, hname, hash, hhash, path, hpath, media, hmedia, length, hlength, u,
      hrow, v, hassociation, rfl⟩ := h
    exact ⟨run, hrun, name, hname, hash, hhash, path, hpath, media, hmedia, length, hlength, u,
      hrow, v, hassociation, rfl⟩

/-- Capabilities can be revoked for an event that names its run and its lease. -/
lemma exists_revokeLeaseCapabilities (t : Tables) {event : EventEnvelope}
    (h : isLeaseTerminal event.eventType = true →
      event.runId.isSome ∧ (event.text? "lease_id").isSome) :
    ∃ rows, revokeLeaseCapabilities t event.stored =
      .ok { t with capabilityTokens := rows } := by
  unfold revokeLeaseCapabilities
  rw [EventEnvelope.stored_eventType]
  split
  · exact ⟨t.capabilityTokens, rfl⟩
  · rename_i hterminal
    obtain ⟨hrun, hlease⟩ := h (by simpa using hterminal)
    obtain ⟨run, hrun⟩ := Option.isSome_iff_exists.1 hrun
    obtain ⟨lease, hlease⟩ := Option.isSome_iff_exists.1 hlease
    simp only [EventEnvelope.stored_runId, EventEnvelope.stored_text?, hrun, hlease, orThrow,
      ok_bind]
    exact ⟨_, rfl⟩

/-- Appending a stored event to a database with the same log and artifacts changes them as the
mutations of the event did. -/
lemma append_stored {t t₁ r : Tables} {log' : EventLog} {event : EventEnvelope}
    {record : EventRecord} (hlog : applyEventMutation r.toEventLog event r.projections =
      .ok (log', record))
    (hartifact : registerArtifact t event = .ok t₁) (hartifacts : r.artifacts = t.artifacts)
    (hassociations : r.artifactAssociations = t.artifactAssociations)
    (hrevoke : isLeaseTerminal event.eventType = true →
      event.runId.isSome ∧ (event.text? "lease_id").isSome) :
    ∃ r' record', append r event.stored = .ok (r', record') ∧ r'.toEventLog = log' ∧
      r'.artifacts = t₁.artifacts ∧ r'.artifactAssociations = t₁.artifactAssociations := by
  have hregister := registerArtifact_stored (r := { r with toEventLog := log' }) hartifact
    hartifacts hassociations
  obtain ⟨rows, hrows⟩ := exists_revokeLeaseCapabilities ({ r with
    toEventLog := log'
    artifacts := t₁.artifacts
    artifactAssociations := t₁.artifactAssociations } : Tables) hrevoke
  refine ⟨{ r with
    toEventLog := log'
    artifacts := t₁.artifacts
    artifactAssociations := t₁.artifactAssociations
    capabilityTokens := rows }, ⟨record.sequence, event.stored⟩, ?_, rfl, rfl, rfl⟩
  simp only [append, mapError_eq_ok, appendMutation, bind_eq_ok, pure_eq_ok, Prod.exists,
    Prod.mk.injEq]
  exact ⟨log', _, applyEventMutation_stored hlog, _, hregister, _, hrows, rfl, rfl⟩

/-! ## The invariant -/

/-- The log rebuilds itself, the projections and the artifacts. -/
def Replays (log : EventLog) (artifacts : List ArtifactRow)
    (associations : List ArtifactAssociation) : Prop :=
  ∃ records replay, queryEvents log none = .ok records ∧
    records.foldlM (fun table record => projectEvent table record.envelope) initialProjections =
      .ok log.projections ∧
    records.foldlM (fun replay record => Prod.fst <$> append replay record.envelope)
      initialTables = .ok replay ∧
    replay.toEventLog = log ∧ replay.artifacts = artifacts ∧
    replay.artifactAssociations = associations

lemma replays_initial : Replays initialLog [] [] :=
  ⟨[], initialTables, rfl, rfl, rfl, rfl, rfl, rfl⟩

/-- One more event is replayed as it was appended. -/
lemma Replays.event {log log' : EventLog} {t t₁ : Tables} {event : EventEnvelope}
    {record : EventRecord} (h : Replays log t.artifacts t.artifactAssociations)
    (hlog : applyEventMutation log event log.projections = .ok (log', record))
    (hartifact : registerArtifact t event = .ok t₁)
    (hrevoke : isLeaseTerminal event.eventType = true →
      event.runId.isSome ∧ (event.text? "lease_id").isSome) :
    Replays log' t₁.artifacts t₁.artifactAssociations := by
  obtain ⟨records, replay, hquery, hproject, hfold, rfl, hartifacts, hassociations⟩ := h
  obtain ⟨replay', record', happend, hlog', hartifacts', hassociations'⟩ :=
    append_stored hlog hartifact hartifacts hassociations hrevoke
  obtain ⟨-, hevents, ⟨changes, hchanges, hprojections⟩, -⟩ := applyEventMutation_ok hlog
  refine ⟨records ++ [⟨nextSequence (replay.events.map (·.sequence)), event.stored⟩], replay', ?_, ?_, ?_, hlog', hartifacts', hassociations'⟩
  · simp only [queryEvents] at hquery ⊢
    rw [hevents, List.mapM_append, hquery]
    simp only [List.mapM_cons, List.mapM_nil, record_ofEvent, ok_bind, pure_bind]
    rfl
  · rw [List.foldlM_append, hproject]
    have hevent : projectEvent replay.projections event.stored = .ok log'.projections := by
      rw [projectEvent_stored, projectEvent, hchanges, hprojections]
      rfl
    simp [hevent]
  · rw [List.foldlM_append, hfold]
    simp [happend]

/-- Events that are not about artifacts are replayed as they were appended. -/
lemma Replays.appends {t t' : Tables} {events : List EventEnvelope}
    (h : Replays t.toEventLog t.artifacts t.artifactAssociations) (happends : Appends t t' events)
    (hfree : ∀ e ∈ events, e.eventType ≠ .artifactRegistered) :
    Replays t'.toEventLog t'.artifacts t'.artifactAssociations := by
  obtain ⟨hrun, hartifacts, hassociations, hrevocable⟩ := happends
  rw [hartifacts, hassociations]
  generalize t'.toEventLog = log' at hrun
  induction hrun with
  | nil => exact h
  | @snoc mid log' es e _ hstep ih =>
    have hmid := ih (fun e he => hfree e (by simp [he])) fun e he => hrevocable e (by simp [he])
    obtain ⟨record, hstep⟩ := hstep
    have hartifact : registerArtifact t e = .ok t := by
      unfold registerArtifact
      rw [if_pos (hfree e (by simp))]
      rfl
    exact hmid.event hstep hartifact (hrevocable e (by simp))

/-- What `_append` did is replayed. -/
lemma Replays.append {t t' : Tables} {event : EventEnvelope} {record : EventRecord}
    (h : Replays t.toEventLog t.artifacts t.artifactAssociations)
    (happend : append t event = .ok (t', record)) :
    Replays t'.toEventLog t'.artifacts t'.artifactAssociations := by
  simp only [State.append, mapError_eq_ok, appendMutation, bind_eq_ok, pure_eq_ok, Prod.mk.injEq,
    Prod.exists] at happend
  obtain ⟨log, record', hlog, t₁, hartifact, t₂, hrevoke, rfl, rfl⟩ := happend
  obtain ⟨hlog₁, -⟩ := registerArtifact_frame hartifact
  have hrevocable := revokeLeaseCapabilities_revocable hrevoke
  obtain ⟨rows, rfl⟩ := revokeLeaseCapabilities_frame hrevoke
  have hreplays := Replays.event (t := { t with toEventLog := log }) h hlog hartifact hrevocable
  obtain rfl : t₁.toEventLog = log := hlog₁
  exact hreplays

/-- The invariant of the store. -/
structure ReplayInvariant (t : Tables) : Prop where
  ids_nodup : (ids t.publicationQueue).Nodup
  replays : Replays t.toEventLog t.artifacts t.artifactAssociations

lemma replayInvariant_initial : ReplayInvariant initialTables :=
  ⟨by simp [initialTables, ids], replays_initial⟩

/-- Every operation, successful or not, keeps the invariant. -/
lemma ReplayInvariant.exec {t : Tables} (h : ReplayInvariant t) (op : StateOp) :
    ReplayInvariant (op.exec t) := by
  unfold StateOp.exec
  split
  · rename_i t' hrun
    obtain ⟨heffect, hqueue⟩ := StateOp.run_ok h.ids_nodup hrun
    refine ⟨(hqueue.callStep h.ids_nodup).ids_nodup h.ids_nodup, ?_⟩
    cases heffect with
    | append appended _ => exact h.replays.append appended
    | appends appends _ artifactFree => exact h.replays.appends appends artifactFree
  · exact h

lemma replayInvariant_runOps {t : Tables} (h : ReplayInvariant t) (ops : List StateOp) :
    ReplayInvariant (runOps t ops) := by
  induction ops generalizing t with
  | nil => exact h
  | cons op ops ih => exact ih (h.exec op)

/-! ## Replay -/

/-- **Replay equals incremental state.**  After any sequence of operations on a new store, the log
can be read back, folding the reducers over it from the projections of a new store gives the
projection table of the store, and `replay_verify` matches, with the same text and digest. -/
theorem replay_eq_incremental (ops : List StateOp) :
    (∃ records, queryEvents (runOps initialTables ops).toEventLog none = .ok records ∧
      records.foldlM (fun table record => projectEvent table record.envelope) initialProjections =
        .ok (runOps initialTables ops).projections) ∧
    replayVerify (runOps initialTables ops) =
      .ok ⟨true, projectionJson (allProjections (runOps initialTables ops).projections),
        logicalDigest (allProjections (runOps initialTables ops).projections)⟩ := by
  obtain ⟨-, records, replay, hquery, hproject, hfold, hlog, -, -⟩ :=
    replayInvariant_runOps replayInvariant_initial ops
  refine ⟨⟨records, hquery, hproject⟩, ?_⟩
  have hprojections : replay.projections = (runOps initialTables ops).projections := by
    rw [hlog]
  simp only [replayVerify, hquery, hfold, ok_bind, hprojections, beq_self_eq_true, Bool.and_self]
  rfl

end Aizim.State
