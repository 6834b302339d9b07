import Aizim.Knowledge.EpochChain

/-!
# The knowledge stream

A worker reads the deltas after the last epoch it has seen, and each delta it is given is
acknowledged for it first.  The deltas are those of the whole log, but an acknowledgement is made
only for a delta of the reader's own run: a delta of another run ends the read with an exception.

`AckLog` is the invariant of the acknowledgements.  `knowledge_read_iff` says exactly when a read
is complete.
-/

namespace Aizim.Orchestration

open JsonValue JsonObject Domain State Knowledge TransitionSystem

variable [CharacterDatabase]

/-! ## Reading -/

namespace KnowledgeStream

/-- `_request` -/
def isRequest (runId workerId : String) (epoch : Int) : Bool :=
  runId != "" && workerId != "" && 0 ≤ epoch

/-- Acknowledge deltas in turn.  An exception leaves what was recorded before it. -/
def acknowledgeAll (t : Tables) (stamps : ℕ → Stamp) (runId workerId : String) :
    List PublishedKnowledgeDelta → Tables × Except Fault Unit
  | [] => (t, .ok ())
  | delta :: deltas =>
    match KnowledgeReader.acknowledge t (stamps 0) runId workerId delta.deltaId with
    | .error e => (t, .error e)
    | .ok (t', _) => acknowledgeAll t' (fun n => stamps (n + 1)) runId workerId deltas

/-- `read`, up to its first await.  It answers `none` where it waits for a publication. -/
def read (t : Tables) (stamps : ℕ → Stamp) (runId workerId : String) (afterKnowledgeEpoch : Int)
    (wait : Bool) : Tables × Except Fault (Option (List PublishedKnowledgeDelta)) :=
  if isRequest runId workerId afterKnowledgeEpoch = false then
    (t, .error (.other "INVALID_KNOWLEDGE_REQUEST"))
  else
    match KnowledgeReader.read t afterKnowledgeEpoch with
    | .error e => (t, .error e)
    | .ok [] => (t, .ok (if wait then none else some []))
    | .ok (delta :: deltas) =>
      let (t', acknowledged) := acknowledgeAll t stamps runId workerId (delta :: deltas)
      (t', acknowledged.map fun _ => some (delta :: deltas))

end KnowledgeStream

/-! ## Acknowledgements in the log -/

/-- The row records that a worker of a run was given a delta. -/
structure Acknowledges (row : EventRow) (runId workerId deltaId : String) : Prop where
  type_eq : row.eventType = .knowledgeDeltaAcknowledged
  run_eq : row.runId = some runId
  worker_eq : row.field? "worker_id" = some (.str workerId)
  delta_eq : row.field? "delta_id" = some (.str deltaId)
  id_eq : row.field? "acknowledgement_id" =
    some (.str (KnowledgeReader.acknowledgementId runId workerId deltaId))

/-- The acknowledgements of a delta for a worker of a run. -/
def acknowledgements (log : EventLog) (runId workerId deltaId : String) : List EventRow :=
  log.events.filter fun row => row.eventType == .knowledgeDeltaAcknowledged &&
    row.runId == some runId && row.field? "worker_id" == some (.str workerId) &&
    row.field? "delta_id" == some (.str deltaId)

/-- Some row of the run, of this type, has this text in a field. -/
def RunHas (log : EventLog) (runId : String) (type : EventType) (field text : String) : Prop :=
  ∃ row ∈ log.events, row.runId = some runId ∧ row.eventType = type ∧
    row.field? field = some (.str text)

/-- Acknowledgements carry the id of what they acknowledge, and a run has none twice. -/
structure AckLog (log : EventLog) : Prop where
  named : ∀ row ∈ log.events, row.eventType = .knowledgeDeltaAcknowledged →
    ∃ runId workerId deltaId, Acknowledges row runId workerId deltaId
  unique : ∀ r ∈ log.events, ∀ s ∈ log.events, r.eventType = .knowledgeDeltaAcknowledged →
    s.eventType = .knowledgeDeltaAcknowledged → r.runId = s.runId →
    r.field? "acknowledgement_id" = s.field? "acknowledgement_id" → r = s

omit [CharacterDatabase] in
lemma ackLog_initial : AckLog initialLog :=
  ⟨by simp [initialLog], by simp [initialLog]⟩

/-- Events of other types change no acknowledgement. -/
lemma AckLog.of_unrelated {log log' : EventLog} {events : List EventEnvelope} (hack : AckLog log)
    (hlog : WellFormedLog log) (hrun : eventLogSystem.Run log events log')
    (htypes : ∀ e ∈ events, e.eventType ≠ .knowledgeDeltaAcknowledged) : AckLog log' := by
  obtain ⟨-, rows, hrows, hrecords, -⟩ := rows_of_run hlog hrun
  have hold : ∀ row ∈ log'.events, row.eventType = .knowledgeDeltaAcknowledged →
      row ∈ log.events := by
    intro row hrow htype
    rw [hrows, List.mem_append] at hrow
    rcases hrow with hrow | hrow
    · exact hrow
    · obtain ⟨event, hevent, hrecord⟩ := exists_of_forall₂_left hrecords hrow
      exact absurd (hrecord.eventType.symm.trans htype) (htypes event hevent)
  exact ⟨fun row hrow htype => hack.named row (hold row hrow htype) htype,
    fun r hr s hs hrtype hstype => hack.unique r (hold r hr hrtype) s (hold s hs hstype) hrtype
      hstype⟩

omit [CharacterDatabase] in
/-- One new acknowledgement. -/
lemma AckLog.append {log log' : EventLog} {row : EventRow} {runId workerId deltaId : String}
    (hack : AckLog log) (hrows : log'.events = log.events ++ [row])
    (hrow : Acknowledges row runId workerId deltaId)
    (hnew : ¬ RunHas log runId .knowledgeDeltaAcknowledged "acknowledgement_id"
      (KnowledgeReader.acknowledgementId runId workerId deltaId)) : AckLog log' := by
  have hother : ∀ r ∈ log.events, r.eventType = .knowledgeDeltaAcknowledged →
      r.runId = row.runId → r.field? "acknowledgement_id" ≠ row.field? "acknowledgement_id" :=
    fun r hr htype hrun hid =>
      hnew ⟨r, hr, hrun.trans hrow.run_eq, htype, hid.trans hrow.id_eq⟩
  refine ⟨fun r hr htype => ?_, fun r hr s hs hrtype hstype hrun hid => ?_⟩
  · rw [hrows, List.mem_append, List.mem_singleton] at hr
    rcases hr with hr | rfl
    · exact hack.named r hr htype
    · exact ⟨_, _, _, hrow⟩
  · rw [hrows, List.mem_append, List.mem_singleton] at hr hs
    rcases hr with hr | rfl <;> rcases hs with hs | rfl
    · exact hack.unique r hr s hs hrtype hstype hrun hid
    · exact absurd hid (hother r hr hrtype hrun)
    · exact absurd hid.symm (hother s hs hstype hrun.symm)
    · rfl

/-- No delta is acknowledged twice for one worker of a run. -/
lemma AckLog.length_le {log : EventLog} (hack : AckLog log) (hlog : WellFormedLog log)
    (runId workerId deltaId : String) :
    (acknowledgements log runId workerId deltaId).length ≤ 1 := by
  have hnodup : (acknowledgements log runId workerId deltaId).Nodup := by
    refine List.Nodup.filter _ (hlog.ordered.imp fun h heq => ?_)
    rw [heq] at h
    exact lt_irrefl _ h
  have hsame : ∀ r ∈ acknowledgements log runId workerId deltaId,
      ∀ s ∈ acknowledgements log runId workerId deltaId, r = s := by
    intro r hr s hs
    simp only [acknowledgements, List.mem_filter, Bool.and_eq_true, beq_iff_eq] at hr hs
    obtain ⟨hr, ⟨⟨hrtype, hrrun⟩, hrworker⟩, hrdelta⟩ := hr
    obtain ⟨hs, ⟨⟨hstype, hsrun⟩, hsworker⟩, hsdelta⟩ := hs
    refine hack.unique r hr s hs hrtype hstype (hrrun.trans hsrun.symm) ?_
    obtain ⟨run, worker, delta, hrnamed⟩ := hack.named r hr hrtype
    obtain ⟨run', worker', delta', hsnamed⟩ := hack.named s hs hstype
    rw [hrnamed.run_eq, Option.some.injEq] at hrrun
    rw [hsnamed.run_eq, Option.some.injEq] at hsrun
    rw [hrnamed.worker_eq, Option.some.injEq, str.injEq] at hrworker
    rw [hsnamed.worker_eq, Option.some.injEq, str.injEq] at hsworker
    rw [hrnamed.delta_eq, Option.some.injEq, str.injEq] at hrdelta
    rw [hsnamed.delta_eq, Option.some.injEq, str.injEq] at hsdelta
    rw [hrnamed.id_eq, hsnamed.id_eq, hrrun, hsrun, hrworker, hsworker, hrdelta, hsdelta]
  match hrows : acknowledgements log runId workerId deltaId with
  | [] => simp
  | [r] => simp
  | r :: s :: rest =>
    rw [hrows] at hnodup hsame
    have hrs := hsame r (by simp) s (by simp)
    simp [hrs] at hnodup

/-! ## What an acknowledgement does -/

omit [CharacterDatabase] in
lemma RunHas.append {log log' : EventLog} {rows : List EventRow} {runId field text : String}
    {type : EventType} (h : RunHas log runId type field text)
    (hrows : log'.events = log.events ++ rows) : RunHas log' runId type field text := by
  obtain ⟨row, hrow, hmatch⟩ := h
  exact ⟨row, hrows ▸ List.mem_append_left _ hrow, hmatch⟩

omit [CharacterDatabase] in
/-- Rows of another type are no matches. -/
lemma RunHas.of_append {log log' : EventLog} {rows : List EventRow} {runId field text : String}
    {type : EventType} (h : RunHas log' runId type field text)
    (hrows : log'.events = log.events ++ rows) (htypes : ∀ row ∈ rows, row.eventType ≠ type) :
    RunHas log runId type field text := by
  obtain ⟨row, hrow, hrun, htype, hfield⟩ := h
  rw [hrows, List.mem_append] at hrow
  rcases hrow with hrow | hrow
  · exact ⟨row, hrow, hrun, htype, hfield⟩
  · exact absurd htype (htypes row hrow)

/-- What a query of a run finds. -/
lemma queryEvents_run {log : EventLog} (hlog : WellFormedLog log) (runId : String) :
    ∃ records, queryEvents log (some runId) = .ok records ∧ ∀ type field text,
      (records.any (fun record => record.envelope.eventType == type &&
        getEntry field record.envelope.payload == some (.str text)) = true ↔
          RunHas log runId type field text) := by
  obtain ⟨records, hrecords, hrows⟩ := exists_queryEvents hlog runId
  refine ⟨records, hrecords, fun type field text => ?_⟩
  simp only [List.any_eq_true, Bool.and_eq_true, beq_iff_eq]
  constructor
  · rintro ⟨record, hrecord, htype, hfield⟩
    obtain ⟨row, hrow, htype', hfield'⟩ := exists_of_forall₂ hrows hrecord
    rw [List.mem_filter, beq_iff_eq] at hrow
    exact ⟨row, hrow.1, hrow.2, htype'.symm.trans htype, (hfield' field).symm.trans hfield⟩
  · rintro ⟨row, hrow, hrun, htype, hfield⟩
    have hin : row ∈ log.events.filter fun row => row.runId == some runId := by
      simp [hrow, hrun]
    obtain ⟨record, hrecord, htype', hfield'⟩ := exists_of_forall₂_left hrows hin
    exact ⟨record, hrecord, htype'.trans htype, (hfield' field).trans hfield⟩

/-- The next ids that the service takes for events are valid, new to the log, and all different. -/
structure FreshStamps (log : EventLog) (stamps : ℕ → Stamp) (count : ℕ) : Prop where
  valid : ∀ n < count, isUlid (stamps n).eventId = true
  new : ∀ n < count, (stamps n).eventId ∉ log.events.map (·.eventId)
  distinct : ∀ m < count, ∀ n < count, (stamps m).eventId = (stamps n).eventId → m = n

section

variable {log log' : EventLog} {stamps : ℕ → Stamp} {count : ℕ}

omit [CharacterDatabase] in
lemma FreshStamps.shift (h : FreshStamps log stamps (count + 1)) :
    FreshStamps log (fun n => stamps (n + 1)) count :=
  ⟨fun n hn => h.valid _ (by omega), fun n hn => h.new _ (by omega),
    fun m hm n hn heq => Nat.succ.inj (h.distinct _ (by omega) _ (by omega) heq)⟩

omit [CharacterDatabase] in
lemma FreshStamps.append {row : EventRow} (h : FreshStamps log stamps (count + 1))
    (hrows : log'.events = log.events ++ [row]) (hrow : row.eventId = (stamps 0).eventId) :
    FreshStamps log' (fun n => stamps (n + 1)) count := by
  refine ⟨h.shift.valid, fun n hn hin => ?_, h.shift.distinct⟩
  rw [hrows, List.map_append, List.mem_append] at hin
  rcases hin with hin | hin
  · exact h.shift.new n hn hin
  · have hid : (stamps (n + 1)).eventId = (stamps 0).eventId := by
      simpa [hrow] using hin
    exact absurd (h.distinct _ (by omega) _ (by omega) hid) (Nat.succ_ne_zero n)

end

/-- The row that an acknowledgement appends. -/
lemma appendEvent_acknowledgement_ok {t t' : Tables} {stamp : Stamp}
    {runId workerId deltaId : String} {record : EventRecord} (hlog : WellFormedLog t.toEventLog)
    (h : State.appendEvent t stamp (KnowledgeReader.acknowledgement runId workerId deltaId) =
      .ok (t', record)) :
    ∃ row, t'.events = t.events ++ [row] ∧ Acknowledges row runId workerId deltaId ∧
      row.eventId = stamp.eventId ∧ WellFormedLog t'.toEventLog := by
  simp only [State.appendEvent, bind_eq_ok, require_eq_ok, exists_and_left, exists_const] at h
  obtain ⟨-, event, hevent, happend⟩ := h
  obtain ⟨hid, htype, -, -, hrunId, -, hfields⟩ := makeEvent_ok hevent
  have htype : event.eventType = .knowledgeDeltaAcknowledged := EventType.text_injective htype
  obtain ⟨hlog', rows, hrows, hrecords, -⟩ := rows_of_run hlog (append_ok happend).1
  obtain ⟨row, rfl, hrecord⟩ : ∃ row, rows = [row] ∧ row.Records event := by
    rcases hrecords with _ | ⟨hrow, _ | _⟩
    exact ⟨_, rfl, hrow⟩
  have hrow : row = .ofEvent row.sequence event := hrecord
  have hfield : ∀ field, row.field? field = (getEntry field
      (KnowledgeReader.acknowledgement runId workerId deltaId).payload).map canonical := by
    intro field
    rw [hrecord.field?, hfields]
  refine ⟨row, hrows, ⟨hrecord.eventType.trans htype, ?_, ?_, ?_, ?_⟩, ?_, hlog'⟩
  · rw [hrow]
    exact hrunId
  · rw [hfield]
    simp [KnowledgeReader.acknowledgement]
  · rw [hfield]
    simp [KnowledgeReader.acknowledgement]
  · rw [hfield]
    simp [KnowledgeReader.acknowledgement]
  · rw [hrow]
    exact hid

/-- A new acknowledgement is appended. -/
lemma appendEvent_acknowledgement {t : Tables} {stamp : Stamp} {runId workerId deltaId : String}
    (hvalid : isUlid stamp.eventId = true) (hnew : stamp.eventId ∉ t.events.map (·.eventId))
    (hrun : runId ≠ "") (hworker : workerId ≠ "") (hdelta : deltaId ≠ "") :
    ∃ t' record, State.appendEvent t stamp
        (KnowledgeReader.acknowledgement runId workerId deltaId) = .ok (t', record) := by
  have hpayload : validatePayload .knowledgeDeltaAcknowledged
      (KnowledgeReader.acknowledgement runId workerId deltaId).payload = .ok () := by
    simp [validatePayload, codec?, PayloadCodec.validate_eq_ok_iff, PayloadCodec.validator,
      fieldValidators, FieldCheck.accepts, textPayload, KnowledgeReader.acknowledgement,
      KnowledgeReader.acknowledgementId, isSha256_sha256Json, hworker, hdelta, keys]
  have hmake : ∃ event,
      makeEvent stamp (KnowledgeReader.acknowledgement runId workerId deltaId) = .ok event :=
    exists_makeEvent hvalid hworker (by simpa [KnowledgeReader.acknowledgement] using hrun)
      (by simp [KnowledgeReader.acknowledgement]) rfl hpayload
  obtain ⟨event, hevent⟩ := hmake
  obtain ⟨hid, htype, -⟩ := makeEvent_ok hevent
  have htype : event.eventType = .knowledgeDeltaAcknowledged := EventType.text_injective htype
  have hfresh : event.eventId ∉ t.events.map (·.eventId) := hid ▸ hnew
  obtain ⟨t', record, happend⟩ := exists_append hfresh
    (by rw [htype]; rfl) (by rw [htype]; rfl) (by rw [htype]; simp)
  refine ⟨t', record, ?_⟩
  simp only [State.appendEvent, hevent, ok_bind]
  rw [require_of (by simp [KnowledgeReader.acknowledgement])]
  exact happend

/-- What `acknowledge` does: it refuses a delta that the run has not published, does nothing when
the run has this acknowledgement, and appends it otherwise. -/
lemma acknowledge_cases {t : Tables} {stamp : Stamp} {runId workerId deltaId : String}
    (hlog : WellFormedLog t.toEventLog) (hvalid : isUlid stamp.eventId = true)
    (hnew : stamp.eventId ∉ t.events.map (·.eventId)) (hrun : runId ≠ "") (hworker : workerId ≠ "")
    (hdelta : deltaId ≠ "") :
    (¬ RunHas t.toEventLog runId .knowledgeDeltaPublished "delta_id" deltaId ∧
      KnowledgeReader.acknowledge t stamp runId workerId deltaId =
        .error (.other "UNKNOWN_KNOWLEDGE_DELTA")) ∨
    (RunHas t.toEventLog runId .knowledgeDeltaPublished "delta_id" deltaId ∧
      RunHas t.toEventLog runId .knowledgeDeltaAcknowledged "acknowledgement_id"
        (KnowledgeReader.acknowledgementId runId workerId deltaId) ∧
      KnowledgeReader.acknowledge t stamp runId workerId deltaId = .ok (t, false)) ∨
    (RunHas t.toEventLog runId .knowledgeDeltaPublished "delta_id" deltaId ∧
      ¬ RunHas t.toEventLog runId .knowledgeDeltaAcknowledged "acknowledgement_id"
        (KnowledgeReader.acknowledgementId runId workerId deltaId) ∧
      ∃ t' row, KnowledgeReader.acknowledge t stamp runId workerId deltaId = .ok (t', true) ∧
        t'.events = t.events ++ [row] ∧ Acknowledges row runId workerId deltaId ∧
        row.eventId = stamp.eventId ∧ WellFormedLog t'.toEventLog) := by
  obtain ⟨records, hquery, hfinds⟩ := queryEvents_run hlog runId
  have hpublished := hfinds .knowledgeDeltaPublished "delta_id" deltaId
  have hacknowledged := hfinds .knowledgeDeltaAcknowledged "acknowledgement_id"
    (KnowledgeReader.acknowledgementId runId workerId deltaId)
  have hrequest : "" ∉ [runId, workerId, deltaId] := by
    simp [hrun.symm, hworker.symm, hdelta.symm]
  simp only [KnowledgeReader.acknowledge, require_of hrequest, hquery, ok_bind]
  by_cases hknown : RunHas t.toEventLog runId .knowledgeDeltaPublished "delta_id" deltaId
  swap
  · refine Or.inl ⟨hknown, ?_⟩
    rw [← hpublished] at hknown
    simp only [Except.mapError, ok_bind]
    rw [require_of_not hknown, error_bind]
  have hrequire := hpublished.2 hknown
  simp only [Except.mapError, ok_bind]
  rw [require_of hrequire, ok_bind]
  by_cases hseen : RunHas t.toEventLog runId .knowledgeDeltaAcknowledged "acknowledgement_id"
      (KnowledgeReader.acknowledgementId runId workerId deltaId)
  · refine Or.inr (Or.inl ⟨hknown, hseen, ?_⟩)
    rw [if_pos (hacknowledged.2 hseen)]
    rfl
  · obtain ⟨t', record, happend⟩ := appendEvent_acknowledgement hvalid hnew hrun hworker hdelta
    obtain ⟨row, hrow⟩ := appendEvent_acknowledgement_ok hlog happend
    refine Or.inr (Or.inr ⟨hknown, hseen, t', row, ?_, hrow⟩)
    rw [if_neg (fun h => hseen (hacknowledged.1 h)), happend]
    rfl

/-- What an acknowledgement that returned has done. -/
lemma acknowledge_ok {t t' : Tables} {stamp : Stamp} {runId workerId deltaId : String} {new : Bool}
    (hlog : WellFormedLog t.toEventLog)
    (h : KnowledgeReader.acknowledge t stamp runId workerId deltaId = .ok (t', new)) :
    t' = t ∨ t' = StateOp.exec t (.appendEvent stamp
        (KnowledgeReader.acknowledgement runId workerId deltaId)) ∧
      ¬ RunHas t.toEventLog runId .knowledgeDeltaAcknowledged "acknowledgement_id"
        (KnowledgeReader.acknowledgementId runId workerId deltaId) ∧
      ∃ row, t'.events = t.events ++ [row] ∧ Acknowledges row runId workerId deltaId := by
  obtain ⟨records, hquery, hfinds⟩ := queryEvents_run hlog runId
  have hacknowledged := hfinds .knowledgeDeltaAcknowledged "acknowledgement_id"
    (KnowledgeReader.acknowledgementId runId workerId deltaId)
  simp only [KnowledgeReader.acknowledge, hquery, Except.mapError, bind_eq_ok, require_eq_ok,
    exists_and_left, exists_const] at h
  obtain ⟨-, found, hfound, -, h⟩ := h
  obtain rfl := Except.ok.inj hfound
  split at h
  · exact Or.inl (congrArg Prod.fst (pure_eq_ok.1 h)).symm
  rename_i hunseen
  cases happend : State.appendEvent t stamp
      (KnowledgeReader.acknowledgement runId workerId deltaId) with
  | error e =>
    rw [happend] at h
    simp at h
  | ok result =>
    obtain ⟨t₁, record⟩ := result
    rw [happend] at h
    obtain rfl : t₁ = t' := congrArg Prod.fst (Except.ok.inj h)
    obtain ⟨row, hrows, hrow, -⟩ := appendEvent_acknowledgement_ok hlog happend
    refine Or.inr ⟨?_, fun hseen => hunseen (hacknowledged.2 hseen), row, hrows, hrow⟩
    simp [StateOp.exec, StateOp.run, happend]

/-- What acknowledging deltas in turn leaves in the store. -/
structure Acknowledged (t t' : Tables) (runId workerId : String)
    (deltas : List PublishedKnowledgeDelta) : Prop where
  log : WellFormedLog t'.toEventLog
  acks : AckLog t'.toEventLog
  grown : ∃ rows, t'.events = t.events ++ rows ∧
    ∀ row ∈ rows, ∃ delta ∈ deltas, Acknowledges row runId workerId delta.deltaId
  present : ∀ delta ∈ deltas, RunHas t'.toEventLog runId .knowledgeDeltaAcknowledged
    "acknowledgement_id" (KnowledgeReader.acknowledgementId runId workerId delta.deltaId)

lemma Acknowledged.nil {t : Tables} (hlog : WellFormedLog t.toEventLog)
    (hacks : AckLog t.toEventLog) (runId workerId : String) :
    Acknowledged t t runId workerId [] :=
  ⟨hlog, hacks, ⟨[], by simp, by simp⟩, by simp⟩

/-- A delta that was acknowledged before, and then the others. -/
lemma Acknowledged.cons_seen {t t' : Tables} {runId workerId : String}
    {delta : PublishedKnowledgeDelta} {deltas : List PublishedKnowledgeDelta}
    (h : Acknowledged t t' runId workerId deltas)
    (hseen : RunHas t.toEventLog runId .knowledgeDeltaAcknowledged "acknowledgement_id"
      (KnowledgeReader.acknowledgementId runId workerId delta.deltaId)) :
    Acknowledged t t' runId workerId (delta :: deltas) := by
  obtain ⟨rows, hrows, hnamed⟩ := h.grown
  refine ⟨h.log, h.acks, ⟨rows, hrows, fun row hrow => ?_⟩, fun other hother => ?_⟩
  · obtain ⟨named, hin, hrow⟩ := hnamed row hrow
    exact ⟨named, List.mem_cons_of_mem _ hin, hrow⟩
  · rcases List.mem_cons.1 hother with rfl | hother
    · exact hseen.append hrows
    · exact h.present other hother

/-- A delta that is acknowledged now, and then the others. -/
lemma Acknowledged.cons_new {t t₁ t' : Tables} {runId workerId : String}
    {delta : PublishedKnowledgeDelta} {deltas : List PublishedKnowledgeDelta} {row : EventRow}
    (h : Acknowledged t₁ t' runId workerId deltas) (hrows : t₁.events = t.events ++ [row])
    (hrow : Acknowledges row runId workerId delta.deltaId) :
    Acknowledged t t' runId workerId (delta :: deltas) := by
  obtain ⟨rest, hrest, hnamed⟩ := h.grown
  have hall : t'.events = t.events ++ row :: rest := by
    rw [hrest, hrows, List.append_assoc, List.singleton_append]
  refine ⟨h.log, h.acks, ⟨row :: rest, hall, fun r hr => ?_⟩, fun other hother => ?_⟩
  · rcases List.mem_cons.1 hr with rfl | hr
    · exact ⟨delta, List.mem_cons_self, hrow⟩
    · obtain ⟨named, hin, hr⟩ := hnamed r hr
      exact ⟨named, List.mem_cons_of_mem _ hin, hr⟩
  · rcases List.mem_cons.1 hother with rfl | hother
    · have hmem : row ∈ t'.events := by simp [hall]
      exact ⟨row, hmem, hrow.run_eq, hrow.type_eq, hrow.id_eq⟩
    · exact h.present other hother

/-- Deltas that the run has published are all acknowledged. -/
lemma acknowledgeAll_ok {runId workerId : String} (hrun : runId ≠ "") (hworker : workerId ≠ "")
    {deltas : List PublishedKnowledgeDelta} {t : Tables} {stamps : ℕ → Stamp}
    (hlog : WellFormedLog t.toEventLog) (hacks : AckLog t.toEventLog)
    (hstamps : FreshStamps t.toEventLog stamps deltas.length) (hnamed : ∀ delta ∈ deltas, delta.deltaId ≠ "")
    (hknown : ∀ delta ∈ deltas,
      RunHas t.toEventLog runId .knowledgeDeltaPublished "delta_id" delta.deltaId) :
    ∃ t', KnowledgeStream.acknowledgeAll t stamps runId workerId deltas = (t', .ok ()) ∧
      Acknowledged t t' runId workerId deltas := by
  induction deltas generalizing t stamps with
  | nil => exact ⟨t, rfl, .nil hlog hacks runId workerId⟩
  | cons delta deltas ih =>
    have hrest : ∀ other ∈ deltas, other.deltaId ≠ "" :=
      fun other hother => hnamed other (List.mem_cons_of_mem _ hother)
    have hfirst := hknown delta List.mem_cons_self
    rcases acknowledge_cases hlog (hstamps.valid 0 (by simp)) (hstamps.new 0 (by simp)) hrun hworker
      (hnamed delta List.mem_cons_self) with ⟨hunknown, -⟩ | ⟨-, hseen, hack⟩ |
        ⟨-, hnew, t₁, row, hack, hrows, hrow, hid, hlog₁⟩
    · exact absurd hfirst hunknown
    · obtain ⟨t', hall, h⟩ := ih hlog hacks hstamps.shift hrest
        fun other hother => hknown other (List.mem_cons_of_mem _ hother)
      refine ⟨t', ?_, h.cons_seen hseen⟩
      simp only [KnowledgeStream.acknowledgeAll, hack]
      exact hall
    · obtain ⟨t', hall, h⟩ := ih hlog₁ (hacks.append hrows hrow hnew) (hstamps.append hrows hid)
        hrest fun other hother => (hknown other (List.mem_cons_of_mem _ hother)).append hrows
      refine ⟨t', ?_, h.cons_new hrows hrow⟩
      simp only [KnowledgeStream.acknowledgeAll, hack]
      exact hall

/-- Only deltas that the run has published are acknowledged without an exception. -/
lemma known_of_acknowledgeAll {runId workerId : String} (hrun : runId ≠ "") (hworker : workerId ≠ "")
    {deltas : List PublishedKnowledgeDelta} {t t' : Tables} {stamps : ℕ → Stamp}
    (hlog : WellFormedLog t.toEventLog) (hstamps : FreshStamps t.toEventLog stamps deltas.length)
    (hnamed : ∀ delta ∈ deltas, delta.deltaId ≠ "")
    (h : KnowledgeStream.acknowledgeAll t stamps runId workerId deltas = (t', .ok ())) :
    ∀ delta ∈ deltas,
      RunHas t.toEventLog runId .knowledgeDeltaPublished "delta_id" delta.deltaId := by
  induction deltas generalizing t stamps with
  | nil => simp
  | cons delta deltas ih =>
    have hrest : ∀ other ∈ deltas, other.deltaId ≠ "" :=
      fun other hother => hnamed other (List.mem_cons_of_mem _ hother)
    simp only [KnowledgeStream.acknowledgeAll] at h
    rcases acknowledge_cases hlog (hstamps.valid 0 (by simp)) (hstamps.new 0 (by simp)) hrun hworker
      (hnamed delta List.mem_cons_self) with ⟨-, hack⟩ | ⟨hfirst, -, hack⟩ |
        ⟨hfirst, -, t₁, row, hack, hrows, hrow, hid, hlog₁⟩
    · rw [hack] at h
      simp at h
    · rw [hack] at h
      exact List.forall_mem_cons.2 ⟨hfirst, ih hlog hstamps.shift hrest h⟩
    · rw [hack] at h
      refine List.forall_mem_cons.2 ⟨hfirst, fun other hother => ?_⟩
      -- the acknowledgement that was appended is no publication
      refine (ih hlog₁ (hstamps.append hrows hid) hrest h other hother).of_append hrows ?_
      simp [hrow.type_eq]

end Aizim.Orchestration
