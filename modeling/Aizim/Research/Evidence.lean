import Aizim.Research.Engine
import Aizim.Research.RecordView

/-!
# Evidence of publication

What `verified_for_worker` finds in the log (`verifiedForWorker_ok`), and that a log that grows keeps
it.  `Unrelated` is what everything else that writes to the store does to a research run: it leaves
the research projection and adds rows of other types.
-/

namespace Aizim.Research

open Aizim.JsonValue Aizim.JsonObject State Orchestration TransitionSystem

/-! ## Evidence -/

/-- A contribution of the worker was submitted and its declaration published, by rows of the log
that satisfy a condition. -/
def PublishedBy (admitted : EventRow → Prop) (log : EventLog) (workerId : String) : Prop :=
  ∃ submitted ∈ log.events, ∃ published ∈ log.events, ∃ contributionId : String,
    admitted submitted ∧ admitted published ∧
    submitted.eventType = .contributionSubmitted ∧ published.eventType = .declarationPublished ∧
    submitted.field? "worker_id" = some (.str workerId) ∧
    submitted.field? "contribution_id" = some (.str contributionId) ∧
    published.field? "contribution_id" = some (.str contributionId)

/-- A contribution of the worker was published. -/
def Published (log : EventLog) (workerId : String) : Prop :=
  PublishedBy (fun _ => True) log workerId

/-- A contribution of the worker was published in the run. -/
def PublishedIn (log : EventLog) (runId workerId : String) : Prop :=
  PublishedBy (fun row => row.runId = some runId) log workerId

/-- All the evidence of a log. -/
def evidenceOf (log : EventLog) : (EventRow → Prop) → String → Prop :=
  fun admitted => PublishedBy admitted log

lemma publishedIn_of_evidence {log log' : EventLog} (h : evidenceOf log' = evidenceOf log) :
    PublishedIn log' = PublishedIn log := by
  funext runId
  exact congrFun h fun row => row.runId = some runId

lemma PublishedIn.published {log : EventLog} {runId workerId : String}
    (h : PublishedIn log runId workerId) : Published log workerId := by
  obtain ⟨submitted, hsubmitted, published, hpublished, id, -, -, hrest⟩ := h
  exact ⟨submitted, hsubmitted, published, hpublished, id, trivial, trivial, hrest⟩

lemma PublishedBy.append {admitted : EventRow → Prop} {log log' : EventLog} {workerId : String}
    {rows : List EventRow} (h : PublishedBy admitted log workerId)
    (hrows : log'.events = log.events ++ rows) : PublishedBy admitted log' workerId := by
  obtain ⟨submitted, hsubmitted, published, hpublished, hrest⟩ := h
  refine ⟨submitted, ?_, published, ?_, hrest⟩
  · rw [hrows]
    exact List.mem_append_left _ hsubmitted
  · rw [hrows]
    exact List.mem_append_left _ hpublished

/-- Rows of other types are no evidence. -/
lemma PublishedBy.of_append {admitted : EventRow → Prop} {log log' : EventLog} {workerId : String}
    {rows : List EventRow} (h : PublishedBy admitted log' workerId)
    (hrows : log'.events = log.events ++ rows)
    (htypes : ∀ row ∈ rows, row.eventType ≠ .contributionSubmitted ∧
      row.eventType ≠ .declarationPublished) : PublishedBy admitted log workerId := by
  obtain ⟨submitted, hsubmitted, published, hpublished, id, ha, hb, htype, htype', hrest⟩ := h
  rw [hrows, List.mem_append] at hsubmitted hpublished
  have hsubmitted := hsubmitted.resolve_right fun hmem => (htypes _ hmem).1 htype
  have hpublished := hpublished.resolve_right fun hmem => (htypes _ hmem).2 htype'
  exact ⟨submitted, hsubmitted, published, hpublished, id, ha, hb, htype, htype', hrest⟩

variable [CharacterDatabase] {t t' : Tables}

/-- A submission names its contribution. -/
lemma exists_contributionId {row : EventRow} {event : EventEnvelope} (h : row.Records event)
    (htype : row.eventType = .contributionSubmitted) :
    ∃ id : String, row.field? "contribution_id" = some (.str id) := by
  have hevent : event.eventType = .contributionSubmitted := h.eventType.symm.trans htype
  have hcodec : codec? event.eventType = codec? .contributionSubmitted := by rw [hevent]
  have htext : ∃ id : String, id ≠ "" ∧ event.text? "contribution_id" = some id :=
    text?_of_required hcodec (by decide) (Or.inl (by decide))
  obtain ⟨id, -, hid⟩ := htext
  exact ⟨id, h.field?_eq_str.2 hid⟩

/-- What `verified_for_worker` finds. -/
lemma verifiedForWorker_ok {runId workerId : String} {accepted : List String}
    (hlog : WellFormedLog t.toEventLog) (h : verifiedForWorker t runId workerId = .ok accepted) :
    accepted ≠ [] ↔ PublishedIn t.toEventLog runId workerId := by
  obtain ⟨records, hrecords, hrows⟩ := exists_queryEvents hlog runId
  simp only [verifiedForWorker, hrecords, Except.mapError, ok_bind] at h
  have hlength := (mapM_eq_ok.1 h).length_eq
  rw [← List.length_pos_iff, ← hlength, List.length_pos_iff_exists_mem]
  simp only [List.mem_filter, Bool.and_eq_true, beq_iff_eq, List.contains_iff_mem, List.mem_map]
  constructor
  · rintro ⟨record, hrecord, htype, other, ⟨hother, htype', hworker⟩, hsame⟩
    obtain ⟨published, hpublished, hptype, hpfield⟩ := exists_of_forall₂ hrows hrecord
    obtain ⟨submitted, hsubmitted, hstype, hsfield⟩ := exists_of_forall₂ hrows hother
    rw [List.mem_filter, beq_iff_eq] at hpublished hsubmitted
    obtain ⟨event, hevent⟩ := hlog.written submitted hsubmitted.1
    obtain ⟨id, hid⟩ := exists_contributionId hevent (hstype.symm.trans htype')
    refine ⟨submitted, hsubmitted.1, published, hpublished.1, id, hsubmitted.2, hpublished.2,
      hstype.symm.trans htype', hptype.symm.trans htype, (hsfield _).symm.trans hworker, hid, ?_⟩
    rw [← hpfield, ← hsame, hsfield, hid]
  · rintro ⟨submitted, hsubmitted, published, hpublished, id, hsrun, hprun, hstype, hptype, hworker,
      hsid, hpid⟩
    have hsin : submitted ∈ t.events.filter fun row => row.runId == some runId := by
      simp [hsubmitted, hsrun]
    have hpin : published ∈ t.events.filter fun row => row.runId == some runId := by
      simp [hpublished, hprun]
    obtain ⟨other, hother, hstype', hsfield⟩ := exists_of_forall₂_left hrows hsin
    obtain ⟨record, hrecord, hptype', hpfield⟩ := exists_of_forall₂_left hrows hpin
    exact ⟨record, hrecord, hptype'.trans hptype, other,
      ⟨hother, hstype'.trans hstype, (hsfield _).trans hworker⟩,
      by rw [hsfield, hsid, hpfield, hpid]⟩

/-! ## The rest of the store -/

/-- A change of the store that is not about research records. -/
structure Unrelated (t t' : Tables) : Prop where
  research : ∀ key, findRecord t'.projections .research key =
    findRecord t.projections .research key
  rows : ∃ rows, t'.events = t.events ++ rows ∧
    ∀ row ∈ rows, row.eventType ≠ .researchRecordUpdated
  log : WellFormedLog t'.toEventLog
  queue : (ids t'.publicationQueue).Nodup

/-- The change that a run of appends makes. -/
lemma unrelated_of_run {events : List EventEnvelope} (hlog : WellFormedLog t.toEventLog)
    (h : eventLogSystem.Run t.toEventLog events t'.toEventLog)
    (htypes : ∀ e ∈ events, e.eventType ≠ .researchRecordUpdated)
    (hqueue : (ids t'.publicationQueue).Nodup) : Unrelated t t' := by
  have hprojection : ∀ type : EventType, type ≠ .researchRecordUpdated →
      type.projection ≠ .research := by
    intro type
    cases type <;> decide
  obtain ⟨hlog', rows, hrows, hrecords, -⟩ := rows_of_run hlog h
  refine ⟨findRecord_of_run h (by decide) (by decide) fun e he => hprojection _ (htypes e he),
    ⟨rows, hrows, fun row hrow => ?_⟩, hlog', hqueue⟩
  obtain ⟨event, hevent, hrecord⟩ := exists_of_forall₂_left hrecords hrow
  rw [hrecord.eventType]
  exact htypes event hevent

/-- The change that an operation of the service makes. -/
lemma unrelated_exec (hlog : WellFormedLog t.toEventLog)
    (hqueue : (ids t.publicationQueue).Nodup) {op : StateOp}
    (hop : EventType.researchRecordUpdated ∉ op.eventTypes) : Unrelated t (op.exec t) := by
  obtain ⟨events, hrun, htypes⟩ := StateOp.exists_run_exec hqueue op
  refine unrelated_of_run hlog hrun (fun e he htype => hop (htype ▸ htypes e he)) ?_
  unfold StateOp.exec
  split
  · rename_i hok
    exact ((StateOp.run_ok hqueue hok).2.callStep hqueue).ids_nodup hqueue
  · exact hqueue

namespace Unrelated

variable (h : Unrelated t t')
include h

lemma recordAt_eq : recordAt t' = recordAt t := by
  funext kind identity
  rw [recordAt, h.research, recordAt]

lemma taskAt_eq : taskAt t' = taskAt t := by
  funext identity
  rw [taskAt, h.recordAt_eq, taskAt]

lemma attemptAt_eq : attemptAt t' = attemptAt t := by
  funext identity
  rw [attemptAt, h.recordAt_eq, attemptAt]

lemma researchStored (hs : ResearchStored t) : ResearchStored t' := by
  intro key row hrow
  rw [h.research] at hrow
  exact hs key row hrow

end Unrelated

end Aizim.Research
