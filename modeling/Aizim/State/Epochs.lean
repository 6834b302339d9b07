import Aizim.State.AnnouncedPublications

/-!
# The global epochs

The record `global` of the projection `epochs` is written by two types of events, the start of a
project and the publication of a delta, each of which writes the pair in its payload.  Every other
event leaves it.

The queue guards it: while a contribution is active no other one is, so that from the claim of a
contribution to its publication nobody else publishes.  `Overtakes` is that relation between two
states of the store.
-/

namespace Aizim.State

open JsonValue JsonObject TransitionSystem

/-! ## The record -/

/-- The events that write the epochs. -/
def EventType.setsEpochs : EventType → Bool
  | projectInitialized | knowledgeDeltaPublished => true
  | _ => false

/-- The record of the global epochs. -/
def epochRow (log : EventLog) : Option ProjectionRow := findRecord log.projections .epochs "global"

lemma EventType.projection_ne_epochs (type : EventType) : type.projection ≠ .epochs := by
  cases type <;> simp [projection]

variable [CharacterDatabase]

/-- Other events leave the epochs. -/
lemma epochRow_of_append {log log' : EventLog} {event : EventEnvelope} {record : EventRecord}
    (h : applyEventMutation log event log.projections = .ok (log', record))
    (htype : event.eventType.setsEpochs = false) : epochRow log' = epochRow log := by
  obtain ⟨-, -, ⟨records, hrecords, hprojections⟩, -⟩ := applyEventMutation_ok h
  simp only [applyEvent, bind_eq_ok, pure_eq_ok] at hrecords
  obtain ⟨payload, -, rfl⟩ := hrecords
  rw [epochRow, hprojections]
  refine findRecord_foldl_of_ne _ ?_
  rintro r hr ⟨hname, -⟩
  rcases projection_of_mem_changes hr with hr | ⟨hr, -⟩ | ⟨-, hr | hr⟩
  · exact event.eventType.projection_ne_epochs (hr.symm.trans hname.symm)
  · rw [hr] at hname
    simp at hname
  · simp [hr, EventType.setsEpochs] at htype
  · simp [hr, EventType.setsEpochs] at htype

lemma epochRow_of_run {log log' : EventLog} {events : List EventEnvelope}
    (h : eventLogSystem.Run log events log')
    (htypes : ∀ e ∈ events, e.eventType.setsEpochs = false) : epochRow log' = epochRow log := by
  induction h with
  | nil => rfl
  | snoc _ hstep ih =>
    obtain ⟨record, hstep⟩ := hstep
    rw [epochRow_of_append hstep (htypes _ (by simp))]
    exact ih fun e he => htypes e (List.mem_append_left _ he)

/-- A delta writes its pair. -/
lemma epochRow_of_delta {log log' : EventLog} {event : EventEnvelope} {record : EventRecord}
    (h : applyEventMutation log event log.projections = .ok (log', record))
    (htype : event.eventType = .knowledgeDeltaPublished) :
    ∃ version, epochRow log' = some ⟨version, .ofObject (epochState event.payload)⟩ := by
  obtain ⟨-, -, ⟨records, hrecords, hprojections⟩, -⟩ := applyEventMutation_ok h
  simp only [applyEvent, bind_eq_ok, pure_eq_ok] at hrecords
  obtain ⟨payload, hpayload, rfl⟩ := hrecords
  have hsame : payload = event.payload := by
    simp only [projectionPayload, htype, EventType.isOrchestration, Bool.false_eq_true, if_false,
      pure_eq_ok] at hpayload
    exact hpayload.symm
  rw [epochRow, hprojections, hsame]
  simp only [changes, htype, List.nil_append, List.foldl_cons, List.foldl_nil]
  rw [findRecord_upsertRecord, if_pos ⟨rfl, rfl⟩]
  exact ⟨_, rfl⟩

/-- A publication writes the pair of its delta. -/
lemma epochRow_of_publish {log log' : EventLog} {declaration delta change : EventEnvelope}
    (h : eventLogSystem.Run log [declaration, delta, change] log')
    (hdelta : delta.eventType = .knowledgeDeltaPublished)
    (hchange : change.eventType.setsEpochs = false) :
    ∃ version, epochRow log' = some ⟨version, .ofObject (epochState delta.payload)⟩ := by
  have hthree : eventLogSystem.Run log ([declaration, delta] ++ [change]) log' := h
  obtain ⟨log₂, hrun, record, hlast⟩ := hthree.of_concat
  have htwo : eventLogSystem.Run log ([declaration] ++ [delta]) log₂ := hrun
  obtain ⟨log₁, -, record', hmid⟩ := htwo.of_concat
  rw [epochRow_of_append hlast hchange]
  exact epochRow_of_delta hmid hdelta

/-! ## Claimed and active contributions -/

/-- The contribution has been claimed at some time. -/
def IsClaimed (t : Tables) (contributionId : String) : Prop :=
  ∃ row ∈ t.publicationQueue, row.contributionId = contributionId ∧ row.state ≠ .queued

/-- The contribution is being worked on. -/
def IsActive (t : Tables) (contributionId : String) : Prop :=
  ∃ row ∈ t.publicationQueue, row.contributionId = contributionId ∧ row.state.isActive = true

/-- Whatever happened in between, a contribution that had been claimed and is still active has
been active all the time, and the epochs are as they were. -/
def Overtakes (t t' : Tables) : Prop :=
  ∀ id, IsClaimed t id → IsClaimed t' id ∧
    (IsActive t' id → IsActive t id ∧ epochRow t'.toEventLog = epochRow t.toEventLog)

omit [CharacterDatabase] in
lemma Overtakes.refl (t : Tables) : Overtakes t t := fun _ h => ⟨h, fun ha => ⟨ha, rfl⟩⟩

omit [CharacterDatabase] in
lemma Overtakes.trans {t t' t'' : Tables} (h : Overtakes t t') (h' : Overtakes t' t'') :
    Overtakes t t'' := by
  intro id hid
  obtain ⟨hclaimed, hactive⟩ := h id hid
  obtain ⟨hclaimed', hactive'⟩ := h' id hclaimed
  refine ⟨hclaimed', fun ha => ?_⟩
  obtain ⟨hmid, hepochs'⟩ := hactive' ha
  obtain ⟨hfirst, hepochs⟩ := hactive hmid
  exact ⟨hfirst, hepochs'.trans hepochs⟩

omit [CharacterDatabase] in
lemma Moves.target_ne_queued {s s' : PublicationQueueState} (h : Moves s s') : s' ≠ .queued := by
  rintro rfl
  cases h

omit [CharacterDatabase] in
/-- A row that has left the queue does not return to it, and one that is active now was active
before. -/
lemma RowStep.claimed {row row' : PublicationQueueRow} (h : RowStep row row')
    (hrow : row.state ≠ .queued) :
    row'.state ≠ .queued ∧ (row'.state.isActive = true → row.state.isActive = true) := by
  obtain ⟨-, -, rfl | ⟨hterminal, -, hsame | hmoves⟩⟩ := h
  · exact ⟨hrow, id⟩
  · rw [hsame]
    exact ⟨hrow, id⟩
  · refine ⟨hmoves.target_ne_queued, fun _ => ?_⟩
    cases hs : row.state <;> simp [hs, PublicationQueueState.isTerminal] at hterminal hrow ⊢ <;>
        rfl

omit [CharacterDatabase] in
/-- A change of the queue that leaves the epochs. -/
lemma Overtakes.of_callStep {t t' : Tables}
    (h : CallStep t.publicationQueue t'.publicationQueue)
    (hids : (ids t.publicationQueue).Nodup)
    (hepochs : epochRow t'.toEventLog = epochRow t.toEventLog) : Overtakes t t' := by
  rintro id ⟨row, hrow, rfl, hstate⟩
  obtain ⟨row', hrow', hstep⟩ := h.rowStep hids hrow
  obtain ⟨hclaimed, hactive⟩ := hstep.claimed hstate
  refine ⟨⟨row', hrow', hstep.1, hclaimed⟩, ?_⟩
  rintro ⟨other, hother, hid, hact⟩
  obtain rfl := List.inj_on_of_nodup_map (h.ids_nodup hids) hother hrow' (hid.trans hstep.1.symm)
  exact ⟨⟨row, hrow, rfl, hactive hact⟩, hepochs⟩

omit [CharacterDatabase] in
/-- A publication ends the only active contribution, so nothing that was claimed is active after
it. -/
lemma Overtakes.of_publish {t t' : Tables}
    (h : CallStep t.publicationQueue t'.publicationQueue)
    (hqueue : QueueProtocol t.publicationQueue) {row : PublicationQueueRow}
    (hrow : row ∈ t.publicationQueue) (hactive : row.state.isActive = true)
    (hpublished : IsPublished t'.publicationQueue row.contributionId) : Overtakes t t' := by
  rintro id ⟨other, hother, rfl, hstate⟩
  obtain ⟨other', hother', hstep⟩ := h.rowStep hqueue.ids_nodup hother
  obtain ⟨hclaimed, hback⟩ := hstep.claimed hstate
  refine ⟨⟨other', hother', hstep.1, hclaimed⟩, ?_⟩
  rintro ⟨r, hr, hid, hact⟩
  exfalso
  have hids' := h.ids_nodup hqueue.ids_nodup
  obtain rfl := List.inj_on_of_nodup_map hids' hr hother' (hid.trans hstep.1.symm)
  obtain rfl := hqueue.active_unique other hother row hrow (hback hact) hactive
  obtain ⟨p, hp, hpid, hpstate⟩ := hpublished
  obtain rfl := List.inj_on_of_nodup_map hids' hp hr (hpid.trans hstep.1.symm)
  rw [hpstate] at hact
  simp [PublicationQueueState.isActive] at hact

end Aizim.State
