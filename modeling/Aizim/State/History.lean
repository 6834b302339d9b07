import Aizim.State.Service

/-!
# The log as a history

The rows of the log, in the order of their sequence, are the events that were appended, and an
operation only adds rows at the end.  `WellFormedLog` is that invariant and `rows_of_run` its step:
what a transaction appends is one row for each of its events, each after every row before it.

Publication is told from the log by three types of events, each filed under the contribution it
names.  `eventsOf` selects the rows of one type and one contribution.
-/

namespace Aizim.State

open JsonValue JsonObject TransitionSystem

/-- A field of a stored payload. -/
def EventRow.field? (row : EventRow) (name : String) : Option JsonValue :=
  row.payloadJson.object?.bind (getEntry name)

/-- A row of this type that names this contribution. -/
def EventRow.isOf (type : EventType) (contributionId : String) (row : EventRow) : Bool :=
  row.eventType == type && row.field? "contribution_id" == some (.str contributionId)

/-- The rows of a type that name a contribution, in the order of the log. -/
def eventsOf (log : EventLog) (type : EventType) (contributionId : String) : List EventRow :=
  log.events.filter (EventRow.isOf type contributionId)

lemma mem_eventsOf {log : EventLog} {type : EventType} {id : String} {row : EventRow} :
    row ∈ eventsOf log type id ↔
      row ∈ log.events ∧ row.eventType = type ∧ row.field? "contribution_id" = some (.str id) := by
  simp [eventsOf, EventRow.isOf]

variable [CharacterDatabase]

/-! ## Rows of events -/

/-- The row was written for the event. -/
def EventRow.Records (row : EventRow) (event : EventEnvelope) : Prop :=
  row = .ofEvent row.sequence event

namespace EventRow.Records

variable {row : EventRow} {event : EventEnvelope}

lemma eventType (h : row.Records event) : row.eventType = event.eventType := by
  rw [h]
  rfl

lemma payloadJson (h : row.Records event) : row.payloadJson = .ofObject event.payload := by
  rw [h]
  rfl

lemma field? (h : row.Records event) (name : String) :
    row.field? name = (getEntry name event.payload).map canonical := by
  rw [EventRow.field?, h.payloadJson]
  simp

/-- The row of an event is read back as the stored event. -/
lemma record (h : row.Records event) : row.record = .ok ⟨row.sequence, event.stored⟩ := by
  have hrow : row = .ofEvent row.sequence event := h
  rw [hrow]
  exact record_ofEvent row.sequence event

lemma field?_eq_str (h : row.Records event) {name s : String} :
    row.field? name = some (.str s) ↔ event.text? name = some s := by
  rw [h.field?, ← beq_iff_eq, Research.map_canonical_eq_str, beq_iff_eq, EventEnvelope.text?,
    Research.str?_eq_some]

lemma isOf_iff (h : row.Records event) {type : EventType} {id : String} :
    row.isOf type id = true ↔
      event.eventType = type ∧ event.text? "contribution_id" = some id := by
  simp [isOf, h.eventType, h.field?_eq_str]

/-- The row of an event is selected for the contribution that the event names, and for no other. -/
lemma filter_isOf (h : row.Records event) {type : EventType} {id : String}
    (htype : event.eventType = type) (hid : event.text? "contribution_id" = some id)
    (id' : String) : [row].filter (EventRow.isOf type id') = if id' = id then [row] else [] := by
  have hiff : row.isOf type id' = true ↔ id' = id := by
    rw [h.isOf_iff, hid, Option.some.injEq, and_iff_right htype]
    exact eq_comm
  by_cases hid' : id' = id
  · rw [if_pos hid', List.filter_cons_of_pos (hiff.2 hid'), List.filter_nil]
  · have hnot : row.isOf type id' = false := by
      rw [← Bool.not_eq_true, hiff]
      exact hid'
    simp [hnot, hid']

/-- The row of an event of another type is not selected. -/
lemma filter_isOf_of_ne (h : row.Records event) {type : EventType} (htype : event.eventType ≠ type)
    (id : String) : [row].filter (EventRow.isOf type id) = [] := by
  have hnot : row.isOf type id = false := by
    rw [← Bool.not_eq_true, h.isOf_iff]
    exact fun hof => htype hof.1
  simp [hnot]

end EventRow.Records

/-- Rows of events are read back as the stored events. -/
lemma exists_records {rows : List EventRow} {events : List EventEnvelope}
    (h : List.Forall₂ EventRow.Records rows events) :
    ∃ records, rows.mapM EventRow.record = .ok records ∧
      records.map (·.envelope) = events.map EventEnvelope.stored := by
  induction h with
  | nil => exact ⟨[], rfl, rfl⟩
  | @cons row event rows events hrow _ ih =>
    obtain ⟨records, hrecords, hmap⟩ := ih
    refine ⟨⟨row.sequence, event.stored⟩ :: records, ?_, by simp [hmap]⟩
    rw [List.mapM_cons, hrow.record, hrecords]
    rfl

/-! ## The invariant of the log -/

/-- Every row was written for an event, and the rows stand in the order of their sequence. -/
structure WellFormedLog (log : EventLog) : Prop where
  written : ∀ row ∈ log.events, ∃ event, row.Records event
  ordered : log.events.Pairwise fun r s => r.sequence < s.sequence

omit [CharacterDatabase] in
/-- The next sequence is after every one that was given out. -/
lemma lt_nextSequence {sequences : List ℕ} {n : ℕ} (h : n ∈ sequences) :
    n < nextSequence sequences := by
  have hmax : n ≤ sequences.foldl max 0 := by
    rw [List.foldl_max_eq_max (List.ne_nil_of_mem h)]
    exact le_max_of_le_right (List.le_max_of_mem h)
  rw [nextSequence]
  omega

lemma wellFormedLog_initial : WellFormedLog initialLog :=
  ⟨by simp [initialLog], by simp [initialLog]⟩

/-- One append adds one row, after all others. -/
lemma rows_of_append {log log' : EventLog} {event : EventEnvelope} {snapshots : ProjectionTable}
    {record : EventRecord} (hlog : WellFormedLog log)
    (h : applyEventMutation log event snapshots = .ok (log', record)) :
    WellFormedLog log' ∧ ∃ row : EventRow, row.Records event ∧
      (∀ r ∈ log.events, r.sequence < row.sequence) ∧ log'.events = log.events ++ [row] := by
  obtain ⟨-, hevents, -⟩ := applyEventMutation_ok h
  have hafter : ∀ r ∈ log.events, r.sequence < nextSequence (log.events.map (·.sequence)) :=
    fun r hr => lt_nextSequence (List.mem_map.2 ⟨r, hr, rfl⟩)
  have hrecords : (EventRow.ofEvent (nextSequence (log.events.map (·.sequence))) event).Records
      event := rfl
  refine ⟨⟨?_, ?_⟩, _, hrecords, hafter, hevents⟩
  · intro row hrow
    rw [hevents, List.mem_append, List.mem_singleton] at hrow
    rcases hrow with hrow | rfl
    · exact hlog.written row hrow
    · exact ⟨event, hrecords⟩
  · rw [hevents, List.pairwise_append]
    refine ⟨hlog.ordered, by simp, fun r hr s hs => ?_⟩
    rw [List.mem_singleton] at hs
    rw [hs]
    exact hafter r hr

/-- A run of appends adds one row for each of its events, after all rows before it. -/
lemma rows_of_run {log log' : EventLog} {events : List EventEnvelope} (hlog : WellFormedLog log)
    (h : eventLogSystem.Run log events log') :
    WellFormedLog log' ∧ ∃ rows : List EventRow, log'.events = log.events ++ rows ∧
      List.Forall₂ EventRow.Records rows events ∧
      ∀ r ∈ log.events, ∀ s ∈ rows, r.sequence < s.sequence := by
  induction h with
  | nil => exact ⟨hlog, [], by simp, .nil, by simp⟩
  | snoc _ hstep ih =>
    obtain ⟨hmid, rows, hrows, hrecords, hafter⟩ := ih
    obtain ⟨record, hstep⟩ := hstep
    obtain ⟨hlog', row, hrow, hlast, hevents⟩ := rows_of_append hmid hstep
    refine ⟨hlog', rows ++ [row], ?_, ?_, ?_⟩
    · rw [hevents, hrows, List.append_assoc]
    · exact List.rel_append hrecords (.cons hrow .nil)
    · intro r hr s hs
      rw [List.mem_append, List.mem_singleton] at hs
      rcases hs with hs | rfl
      · exact hafter r hr s hs
      · apply hlast
        rw [hrows]
        exact List.mem_append_left _ hr

/-- What a query of a run reads: the rows of the run, in order. -/
lemma exists_queryEvents {log : EventLog} (hlog : WellFormedLog log) (runId : String) :
    ∃ records, queryEvents log (some runId) = .ok records ∧
      List.Forall₂ (fun (row : EventRow) (record : EventRecord) =>
        record.envelope.eventType = row.eventType ∧
          ∀ field, getEntry field record.envelope.payload = row.field? field)
        (log.events.filter fun row => row.runId == some runId) records := by
  have hread : ∀ row ∈ log.events.filter (fun row => row.runId == some runId),
      ∃ record, row.record = .ok record := by
    intro row hrow
    obtain ⟨event, hevent⟩ := hlog.written row (List.mem_of_mem_filter hrow)
    exact ⟨_, hevent.record⟩
  obtain ⟨records, hrecords⟩ := exists_mapM_eq_ok hread
  have hwritten : ∀ row ∈ log.events.filter (fun row => row.runId == some runId),
      ∃ event, row.Records event :=
    fun row hrow => hlog.written row (List.mem_of_mem_filter hrow)
  have hrows := List.forall₂_and_left _ _ |>.2 ⟨hwritten, mapM_eq_ok.1 hrecords⟩
  refine ⟨records, hrecords, hrows.imp ?_⟩
  rintro row record ⟨⟨event, hevent⟩, hrecord⟩
  obtain rfl := Except.ok.inj (hevent.record.symm.trans hrecord)
  refine ⟨hevent.eventType.symm, fun field => ?_⟩
  rw [hevent.field?, EventEnvelope.stored_payload, getEntry_canonicalEntries]

/-! ## Selecting rows -/

/-- Rows of other types change no selection. -/
lemma eventsOf_of_run {log log' : EventLog} {events : List EventEnvelope} {type : EventType}
    (hlog : WellFormedLog log) (h : eventLogSystem.Run log events log')
    (htype : ∀ e ∈ events, e.eventType ≠ type) (id : String) :
    eventsOf log' type id = eventsOf log type id := by
  obtain ⟨-, rows, hrows, hrecords, -⟩ := rows_of_run hlog h
  have hnone : rows.filter (EventRow.isOf type id) = [] := by
    rw [List.filter_eq_nil_iff]
    intro row hrow hof
    obtain ⟨event, hevent, hrecord⟩ := exists_of_forall₂_left hrecords hrow
    exact htype event hevent (hrecord.isOf_iff.1 hof).1
  rw [eventsOf, hrows, List.filter_append, hnone, List.append_nil, eventsOf]

omit [CharacterDatabase] in
lemma eventsOf_eq_nil_iff {log : EventLog} {type : EventType} {id : String} :
    eventsOf log type id = [] ↔
      ∀ row ∈ log.events, row.eventType = type → row.field? "contribution_id" ≠ some (.str id) := by
  simp [eventsOf, EventRow.isOf]

end Aizim.State
