import Aizim.State.ClaimTakeover
import Aizim.State.ControlRecords
import Aizim.State.History

/-!
# Submitting a contribution again

A contribution enters the queue together with the event of its submission.  A later submission
under the same id finds its row, and `_same_submission` then looks for the first submission in the
log with the same payload and compares the run.

`idempotentFor_iff` says for any store when this is the comparison with the contribution's own
submission: when the log holds no other submission of the contribution.  `SubmissionLog` is the
invariant that it holds exactly one.  Every operation keeps it (`SubmissionLog.exec`), as a
submission is appended only for a contribution that is not in the queue yet.
-/

namespace Aizim.State

open JsonValue JsonObject TransitionSystem

/-! ## Rows that can be read -/

/-- Every row of the queue is read as an entry. -/
def Readable (queue : List PublicationQueueRow) : Prop :=
  ∀ row ∈ queue, ∃ entry, entryOfRow row = .ok entry

/-- What an operation that enqueues nothing does to the queue. -/
def Rewrites (queue queue' : List PublicationQueueRow) : Prop :=
  queue' = queue ∨ ∃ id owner claimedAt target, owner ≠ "" ∧
    queue' = updateRows queue id owner claimedAt target

lemma entryOfRow_updatedRow {row : PublicationQueueRow} {entry : PublicationQueueEntry}
    {owner : String} (h : entryOfRow row = .ok entry) (howner : owner ≠ "") (claimedAt : Datetime)
    (target : PublicationQueueState) :
    ∃ entry', entryOfRow (updatedRow row owner claimedAt target) = .ok entry' := by
  obtain ⟨hid, hsequence, -⟩ := entryOfRow_ok h
  have hvalid : row.contributionId ≠ "" ∧ 1 ≤ row.enqueueSequence ∧ some owner ≠ some "" := by
    rw [← hid, ← hsequence]
    exact ⟨entry.contributionId_ne, entry.enqueueSequence_pos, by simpa using howner⟩
  exact ⟨⟨row.contributionId, row.enqueueSequence, target, row.stateVersion + 1, some owner,
    some claimedAt, hvalid.1, hvalid.2.1, hvalid.2.2⟩, by
    simp [entryOfRow, updatedRow, claimTime, orThrow, PublicationQueueEntry.create, hvalid.1,
      hvalid.2.1, howner]⟩

lemma entryOfRow_queuedRow (queue : List PublicationQueueRow) {id : String} (hid : id ≠ "") :
    ∃ entry, entryOfRow (queuedRow queue id) = .ok entry := by
  have hsequence : 1 ≤ (queuedRow queue id).enqueueSequence := Nat.le_add_left 1 _
  exact ⟨⟨id, _, .queued, 0, none, none, hid, hsequence, by simp⟩, by
    simp only [queuedRow] at hsequence
    simp [entryOfRow, queuedRow, claimTime, PublicationQueueEntry.create, hid, hsequence]⟩

lemma Rewrites.ids_eq {queue queue' : List PublicationQueueRow} (h : Rewrites queue queue') :
    ids queue' = ids queue := by
  rcases h with rfl | ⟨id, owner, claimedAt, target, -, rfl⟩
  · rfl
  · exact ids_updateRows _ _ _ _ _

lemma Rewrites.readable {queue queue' : List PublicationQueueRow} (h : Rewrites queue queue')
    (hread : Readable queue) : Readable queue' := by
  rcases h with rfl | ⟨id, owner, claimedAt, target, howner, rfl⟩
  · exact hread
  · intro row' hrow'
    obtain ⟨row, hrow, rfl⟩ := mem_updateRows.1 hrow'
    obtain ⟨entry, hentry⟩ := hread row hrow
    split
    · exact entryOfRow_updatedRow hentry howner _ _
    · exact ⟨entry, hentry⟩

variable [CharacterDatabase] {t t' : Tables}

/-! ## Operations that submit nothing -/

/-- Two lists of events that lead to the same log have the same types. -/
lemma eventTypes_of_run {log log' : EventLog} {events events' : List EventEnvelope}
    (h : eventLogSystem.Run log events log') (h' : eventLogSystem.Run log events' log') :
    events.map (·.eventType) = events'.map (·.eventType) := by
  obtain ⟨rows, hrows, hmap⟩ := events_of_run h
  obtain ⟨rows', hrows', hmap'⟩ := events_of_run h'
  have hsame : rows = rows' := List.append_cancel_left (hrows.symm.trans hrows')
  subst hsame
  have htypes := congrArg (List.map fun columns => columns.2.1) (hmap.symm.trans hmap')
  simp only [List.map_map, Function.comp_def] at htypes
  exact htypes

/-- A call that does not append the event of an enqueued contribution enqueues nothing. -/
lemma PublicationCall.rewrites {call : PublicationCall} (hids : (ids t.publicationQueue).Nodup)
    (h : call.run t = .ok t') {events : List EventEnvelope}
    (hevents : eventLogSystem.Run t.toEventLog events t'.toEventLog)
    (hnone : .contributionEnqueued ∉ events.map (·.eventType)) :
    Rewrites t.publicationQueue t'.publicationQueue := by
  have hother : ∀ {es : List EventEnvelope}, Appends t t' es →
      ∀ e ∈ es, e.eventType ≠ .contributionEnqueued := by
    intro es hes e he htype
    rw [eventTypes_of_run hevents hes.run] at hnone
    exact hnone (List.mem_map.2 ⟨e, he, htype⟩)
  have hchange : ∀ {id owner : String} {target : PublicationQueueState} {claimedAt : Datetime},
      owner ≠ "" → t'.publicationQueue = updateRows t.publicationQueue id owner claimedAt target →
      Rewrites t.publicationQueue t'.publicationQueue :=
    fun howner hqueue => Or.inr ⟨_, _, _, _, howner, hqueue⟩
  cases call with
  | enqueue submitted queued =>
    simp only [run, map_eq_ok, Prod.exists] at h
    obtain ⟨a, entry, h, rfl⟩ := h
    rcases enqueue_ok h with rfl | ⟨happends, htype, -⟩
    · exact Or.inl rfl
    · exact absurd htype (hother happends _ (by simp))
  | claimNext owner claimedAt event =>
    simp only [run, map_eq_ok, Prod.exists] at h
    obtain ⟨a, result, h, rfl⟩ := h
    rcases claimNext_ok hids h with ⟨rfl, -⟩ |
      ⟨row, e, entry, -, -, -, -, -, -, -, howner, -, hqueue⟩
    · exact Or.inl rfl
    · exact hchange howner hqueue
  | advance id owner target changedAt event =>
    simp only [run, map_eq_ok, Prod.exists] at h
    obtain ⟨a, entry, h, rfl⟩ := h
    obtain ⟨row, e, -, -, -, h⟩ := advance_ok hids h
    exact hchange h.owner_ne h.queue
  | heartbeat id owner changedAt event =>
    simp only [run, map_eq_ok, Prod.exists] at h
    obtain ⟨a, entry, h, rfl⟩ := h
    obtain ⟨row, e, -, h⟩ := heartbeat_ok hids h
    exact hchange h.owner_ne h.queue
  | prepare id owner prepared =>
    simp only [run, map_eq_ok, Prod.exists] at h
    obtain ⟨a, entry, h, rfl⟩ := h
    exact Or.inl (prepare_ok h).1
  | publishPromotion id owner changedAt declaration delta event =>
    simp only [run, map_eq_ok, Prod.exists] at h
    obtain ⟨a, entry, h, rfl⟩ := h
    obtain ⟨row, e, -, -, -, h⟩ := publishPromotion_ok hids h
    exact hchange h.owner_ne h.queue
  | failPromotion id owner changedAt failure event =>
    simp only [run, map_eq_ok, Prod.exists] at h
    obtain ⟨a, entry, h, rfl⟩ := h
    obtain ⟨row, e, -, -, h⟩ := failPromotion_ok hids h
    exact hchange h.owner_ne h.queue
  | recoverExpiredPromotion owner now staleBefore event =>
    simp only [run, map_eq_ok, Prod.exists] at h
    obtain ⟨a, result, h, rfl⟩ := h
    rcases recoverExpiredPromotion_ok hids h with ⟨rfl, -⟩ |
      ⟨row, e, entry, -, -, -, -, -, -, -, howner, -, hqueue⟩
    · exact Or.inl rfl
    · exact hchange howner hqueue
  | rebase id owner changedAt submitted queued rebased event =>
    simp only [run, map_eq_ok, Prod.exists] at h
    obtain ⟨a, e₁, e₂, h, rfl⟩ := h
    obtain ⟨row, e, newId, -, htype, -, -, -, -, -, -, -, happends, -⟩ := rebase_ok hids h
    exact absurd htype (hother happends _ (by simp))

/-! ## Operations that submit -/

/-- A contribution enters the queue, and the log gains one submission, the row of its own. -/
structure Enqueues (t t' : Tables) (id : String) (row : EventRow) : Prop where
  id_ne : id ≠ ""
  fresh : id ∉ ids t.publicationQueue
  queue : ∃ queue, Rewrites t.publicationQueue queue ∧
    t'.publicationQueue = queue ++ [queuedRow queue id]
  log : WellFormedLog t'.toEventLog
  rows : ∃ rows, t'.events = t.events ++ rows ∧ row ∈ rows
  submissions : ∀ id', eventsOf t'.toEventLog .contributionSubmitted id' =
    eventsOf t.toEventLog .contributionSubmitted id' ++ if id' = id then [row] else []

/-- A valid submission names its contribution with a text that is not empty. -/
lemma contributionId_ne_of_submitted {event : EventEnvelope} {id : String}
    (htype : event.eventType = .contributionSubmitted)
    (hid : event.text? "contribution_id" = some id) : id ≠ "" := by
  have hcodec : codec? event.eventType = codec? .contributionSubmitted := by rw [htype]
  have htext : ∃ id : String, id ≠ "" ∧ event.text? "contribution_id" = some id :=
    text?_of_required hcodec (by decide) (Or.inl (by decide))
  obtain ⟨id', hne, hid'⟩ := htext
  rw [hid] at hid'
  rwa [Option.some.inj hid']

/-- What `enqueue` does when it does not repeat a submission. -/
lemma enqueues_of_enqueue {submitted queued : EventEnvelope} {entry : PublicationQueueEntry}
    (hlog : WellFormedLog t.toEventLog) (htype : submitted.eventType = .contributionSubmitted)
    (h : enqueue t submitted queued = .ok (t', entry)) :
    t' = t ∨ ∃ id row, row.Records submitted ∧ Enqueues t t' id row := by
  rcases enqueue_ok h with rfl | ⟨happends, hqtype, -, id, hid, -, hfresh, hqueue⟩
  · exact Or.inl rfl
  obtain ⟨hlog', rows, hrows, hrecords, -⟩ := rows_of_run hlog happends.run
  obtain ⟨r, q, rfl, hr, hq⟩ : ∃ r q, rows = [r, q] ∧ r.Records submitted ∧ q.Records queued := by
    rcases hrecords with _ | ⟨hr, _ | ⟨hq, _ | _⟩⟩
    exact ⟨_, _, rfl, hr, hq⟩
  refine Or.inr ⟨id, r, hr, contributionId_ne_of_submitted htype hid, hfresh,
    ⟨_, Or.inl rfl, hqueue⟩, hlog', ⟨_, hrows, by simp⟩, fun id' => ?_⟩
  have hsplit : [r, q].filter (EventRow.isOf .contributionSubmitted id') =
      [r].filter (EventRow.isOf .contributionSubmitted id') ++
        [q].filter (EventRow.isOf .contributionSubmitted id') := by
    rw [← List.filter_append]
    rfl
  rw [eventsOf, hrows, List.filter_append, ← eventsOf, hsplit, hr.filter_isOf htype hid,
    hq.filter_isOf_of_ne (by simp [hqtype]), List.append_nil]

/-- What `rebase` does to the submissions. -/
lemma enqueues_of_rebase {id owner : String} {changedAt : Datetime}
    {submitted queued rebased : EventEnvelope} {event : EventFactory}
    {entries : PublicationQueueEntry × PublicationQueueEntry} (hlog : WellFormedLog t.toEventLog)
    (hids : (ids t.publicationQueue).Nodup) (htype : submitted.eventType = .contributionSubmitted)
    (hchange : ∀ e, event.Makes e → e.eventType = .promotionStateChanged)
    (h : rebase t id owner changedAt submitted queued rebased event = .ok (t', entries)) :
    ∃ newId row, row.Records submitted ∧ Enqueues t t' newId row := by
  obtain ⟨-, e, newId, he, hqtype, hbtype, hid, -, -, -, -, howner, happends, hfresh, hqueue⟩ :=
    rebase_ok hids h
  obtain ⟨hlog', rows, hrows, hrecords, -⟩ := rows_of_run hlog happends.run
  obtain ⟨c, r, q, b, rfl, hc, hr, hq, hb⟩ : ∃ c r q b, rows = [c, r, q, b] ∧ c.Records e ∧
      r.Records submitted ∧ q.Records queued ∧ b.Records rebased := by
    rcases hrecords with _ | ⟨hc, _ | ⟨hr, _ | ⟨hq, _ | ⟨hb, _ | _⟩⟩⟩⟩
    exact ⟨_, _, _, _, rfl, hc, hr, hq, hb⟩
  refine ⟨newId, r, hr, contributionId_ne_of_submitted htype hid, hfresh,
    ⟨_, Or.inr ⟨_, _, _, _, howner, rfl⟩, hqueue⟩, hlog', ⟨_, hrows, by simp⟩, fun id' => ?_⟩
  have hsplit : [c, r, q, b].filter (EventRow.isOf .contributionSubmitted id') =
      [c].filter (EventRow.isOf .contributionSubmitted id') ++
        ([r].filter (EventRow.isOf .contributionSubmitted id') ++
          ([q].filter (EventRow.isOf .contributionSubmitted id') ++
            [b].filter (EventRow.isOf .contributionSubmitted id'))) := by
    rw [← List.filter_append, ← List.filter_append, ← List.filter_append]
    rfl
  rw [eventsOf, hrows, List.filter_append, ← eventsOf, hsplit, hr.filter_isOf htype hid,
    hc.filter_isOf_of_ne (by simp [hchange e he]), hq.filter_isOf_of_ne (by simp [hqtype]),
    hb.filter_isOf_of_ne (by simp [hbtype]), List.nil_append, List.append_nil, List.append_nil]

/-! ## The invariant -/

/-- What the callers of the service do: no plain append is a submission. -/
def StateOp.SubmitsByQueue : StateOp → Prop
  | appendEvent _ command => command.eventType ≠ EventType.contributionSubmitted.text
  | _ => True

/-- The event that an operation submits a contribution with. -/
def StateOp.submission? : StateOp → Option EventEnvelope
  | enqueueContribution stamp _ submitted => (makeEvent stamp submitted).toOption
  | rebasePromotion submittedStamp _ _ _ _ _ _ submitted _ =>
    (makeEvent submittedStamp submitted).toOption
  | _ => none

/-- The invariant: every contribution of the queue was submitted once, and no other. -/
structure SubmissionLog (t : Tables) : Prop where
  log : WellFormedLog t.toEventLog
  ids_nodup : (ids t.publicationQueue).Nodup
  readable : Readable t.publicationQueue
  submitted_once : ∀ id ∈ ids t.publicationQueue,
    ∃ row, eventsOf t.toEventLog .contributionSubmitted id = [row]
  unsubmitted : ∀ id ∉ ids t.publicationQueue,
    eventsOf t.toEventLog .contributionSubmitted id = []

/-- A successful operation enqueues its submission, or submits nothing. -/
lemma StateOp.submits {op : StateOp} (hop : op.SubmitsByQueue) (hlog : WellFormedLog t.toEventLog)
    (hids : (ids t.publicationQueue).Nodup) (h : op.run t = .ok t') :
    (∃ event id row, op.submission? = some event ∧ row.Records event ∧ Enqueues t t' id row) ∨
      (Rewrites t.publicationQueue t'.publicationQueue ∧ WellFormedLog t'.toEventLog ∧
        ∀ id, eventsOf t'.toEventLog .contributionSubmitted id =
          eventsOf t.toEventLog .contributionSubmitted id) := by
  obtain ⟨heffect, hqueue⟩ := run_ok hids h
  obtain ⟨events, hrun, htypes⟩ := heffect.exists_run
  have hother : EventType.contributionSubmitted ∉ op.eventTypes →
      WellFormedLog t'.toEventLog ∧ ∀ id, eventsOf t'.toEventLog .contributionSubmitted id =
        eventsOf t.toEventLog .contributionSubmitted id := by
    intro hnone
    refine ⟨(rows_of_run hlog hrun).1, eventsOf_of_run hlog hrun fun e he htype => ?_⟩
    exact hnone (htype ▸ htypes e he)
  have hrewrites : EventType.contributionEnqueued ∉ op.eventTypes →
      Rewrites t.publicationQueue t'.publicationQueue := by
    intro hnone
    rcases hqueue with hqueue | ⟨call, hcall, -⟩
    · exact Or.inl hqueue
    · refine call.rewrites hids hcall hrun fun hmem => ?_
      obtain ⟨e, he, htype⟩ := List.mem_map.1 hmem
      exact hnone (htype ▸ htypes e he)
  cases op with
  | appendEvent stamp command =>
    have hnone : EventType.contributionSubmitted ∉ (appendEvent stamp command).eventTypes := by
      intro hmem
      rw [eventTypes, Option.mem_toList] at hmem
      exact hop (EventType.text_of_ofText? hmem).symm
    simp only [run, State.appendEvent, map_eq_ok, bind_eq_ok, require_eq_ok, exists_and_left,
      exists_const, Prod.exists] at h
    obtain ⟨a, record, ⟨-, event, -, happend⟩, rfl⟩ := h
    exact Or.inr ⟨Or.inl (append_ok happend).2, hother hnone⟩
  | enqueueContribution stamp queuedStamp submitted =>
    simp only [run, map_eq_ok, Prod.exists] at h
    obtain ⟨a, entry, h, rfl⟩ := h
    obtain ⟨event, queued, hevent, htype, -, h⟩ := StateService.enqueueContribution_ok h
    rcases enqueues_of_enqueue hlog htype h with rfl | ⟨id, row, hrow, henqueues⟩
    · exact Or.inr ⟨Or.inl rfl, hlog, fun id => rfl⟩
    · exact Or.inl ⟨event, id, row, by rw [submission?, hevent]; rfl, hrow, henqueues⟩
  | rebasePromotion submittedStamp rebasedStamp queuedStamp stamp now id owner submitted rebased =>
    simp only [run, map_eq_ok, Prod.exists] at h
    obtain ⟨a, e₁, e₂, h, rfl⟩ := h
    obtain ⟨event, queued, rebasedEvent, hevent, -, htype, -, h⟩ :=
      StateService.rebasePromotion_ok h
    obtain ⟨newId, row, hrow, henqueues⟩ := enqueues_of_rebase hlog hids htype
      (fun e he => StateService.promotionEvent_makes he) h
    exact Or.inl ⟨event, newId, row, by rw [submission?, hevent]; rfl, hrow, henqueues⟩
  | _ =>
    exact Or.inr ⟨hrewrites (by simp [eventTypes]), hother (by simp [eventTypes])⟩

/-- The same for an operation that may raise and then changes nothing. -/
lemma StateOp.exec_submits {op : StateOp} (hop : op.SubmitsByQueue)
    (hlog : WellFormedLog t.toEventLog) (hids : (ids t.publicationQueue).Nodup) :
    (ids (op.exec t).publicationQueue = ids t.publicationQueue ∧
      ∀ id, eventsOf (op.exec t).toEventLog .contributionSubmitted id =
        eventsOf t.toEventLog .contributionSubmitted id) ∨
      ∃ event id row, op.submission? = some event ∧ row.Records event ∧
        Enqueues t (op.exec t) id row := by
  unfold StateOp.exec
  split
  swap
  · exact Or.inl ⟨rfl, fun id => rfl⟩
  rename_i t' hrun
  rcases op.submits hop hlog hids hrun with henqueues | ⟨hqueue, -, hsame⟩
  · exact Or.inr henqueues
  · exact Or.inl ⟨hqueue.ids_eq, hsame⟩

lemma submissionLog_initial : SubmissionLog initialTables where
  log := wellFormedLog_initial
  ids_nodup := by simp [initialTables, ids]
  readable := by simp [initialTables, Readable]
  submitted_once := by simp [initialTables, ids]
  unsubmitted := by simp [initialTables, initialLog, eventsOf]

lemma Enqueues.ids_eq {id : String} {row : EventRow} (h : Enqueues t t' id row) :
    ids t'.publicationQueue = ids t.publicationQueue ++ [id] := by
  obtain ⟨queue, hrewrites, hqueue⟩ := h.queue
  rw [hqueue, ids_append, hrewrites.ids_eq]
  rfl

lemma SubmissionLog.enqueues {id : String} {row : EventRow} (hinv : SubmissionLog t)
    (h : Enqueues t t' id row) : SubmissionLog t' := by
  refine ⟨h.log, ?_, ?_, fun id' hid' => ?_, fun id' hid' => ?_⟩
  · rw [h.ids_eq]
    exact List.nodup_append.2 ⟨hinv.ids_nodup, List.nodup_singleton id, by
      rintro a ha b hb rfl
      exact h.fresh (List.mem_singleton.1 hb ▸ ha)⟩
  · obtain ⟨queue, hrewrites, hqueue⟩ := h.queue
    intro row' hrow'
    rw [hqueue, List.mem_append, List.mem_singleton] at hrow'
    rcases hrow' with hrow' | rfl
    · exact hrewrites.readable hinv.readable row' hrow'
    · exact entryOfRow_queuedRow queue h.id_ne
  · rw [h.submissions]
    rw [h.ids_eq, List.mem_append, List.mem_singleton] at hid'
    rcases hid' with hid' | rfl
    · have hne : id' ≠ id := by
        rintro rfl
        exact h.fresh hid'
      rw [if_neg hne, List.append_nil]
      exact hinv.submitted_once id' hid'
    · rw [hinv.unsubmitted id' h.fresh, if_pos rfl]
      exact ⟨row, rfl⟩
  · rw [h.ids_eq, List.mem_append, List.mem_singleton, not_or] at hid'
    rw [h.submissions, if_neg hid'.2, List.append_nil]
    exact hinv.unsubmitted id' hid'.1

/-- Every operation, successful or not, keeps the invariant. -/
lemma SubmissionLog.exec {op : StateOp} (hinv : SubmissionLog t) (hop : op.SubmitsByQueue) :
    SubmissionLog (op.exec t) := by
  unfold StateOp.exec
  split
  swap
  · exact hinv
  rename_i t' hrun
  rcases op.submits hop hinv.log hinv.ids_nodup hrun with ⟨event, id, row, -, -, h⟩ |
    ⟨hqueue, hlog, hsame⟩
  · exact hinv.enqueues h
  · refine ⟨hlog, hqueue.ids_eq ▸ hinv.ids_nodup, hqueue.readable hinv.readable,
      fun id hid => ?_, fun id hid => ?_⟩
    · rw [hqueue.ids_eq] at hid
      rw [hsame]
      exact hinv.submitted_once id hid
    · rw [hqueue.ids_eq] at hid
      rw [hsame]
      exact hinv.unsubmitted id hid

/-! ## Submitting again -/

/-- The command is accepted as a submission of the contribution. -/
def Submits (stamp : Stamp) (command : AppendEventCommand) (id : String) : Prop :=
  ∃ event, makeEvent stamp command = .ok event ∧ event.eventType = .contributionSubmitted ∧
    event.text? "contribution_id" = some id

/-- The command repeats a submission: the same payload under the same run. -/
def Repeats (command : AppendEventCommand) (submitted : EventEnvelope) : Prop :=
  JsonText.ofObject command.payload = .ofObject submitted.payload ∧
    command.runId = submitted.runId

/-- Submitting the contribution again: repeating its submission returns the entry that it has now,
any other submission raises, and neither changes anything. -/
structure IdempotentFor (t : Tables) (id : String) (submitted : EventEnvelope) : Prop where
  repeated : ∀ stamp queuedStamp command, isUlid queuedStamp.eventId = true →
    Submits stamp command id → Repeats command submitted →
    ∃ entry, currentEntry t id = .ok entry ∧
      StateService.enqueueContribution t stamp queuedStamp command = .ok (t, entry)
  other : ∀ stamp queuedStamp command, isUlid queuedStamp.eventId = true →
    Submits stamp command id → ¬ Repeats command submitted →
    StateService.enqueueContribution t stamp queuedStamp command =
      .error (.value "DUPLICATE_CONTRIBUTION_MISMATCH")
  unchanged : ∀ stamp queuedStamp command, isUlid queuedStamp.eventId = true →
    Submits stamp command id → (StateOp.enqueueContribution stamp queuedStamp command).exec t = t

omit [CharacterDatabase] in
/-- Every contribution of a readable queue has an entry. -/
lemma exists_currentEntry {id : String} (hids : (ids t.publicationQueue).Nodup)
    (hread : Readable t.publicationQueue) (hid : id ∈ ids t.publicationQueue) :
    ∃ entry, currentEntry t id = .ok entry := by
  obtain ⟨row, hrow, rfl⟩ := List.mem_map.1 hid
  obtain ⟨entry, hentry⟩ := hread row hrow
  refine ⟨entry, ?_⟩
  rw [currentEntry, findRow_of_mem hids hrow]
  exact hentry

/-- The submissions of the contribution in the log have one payload, and the first its run. -/
def OnlySubmission (log : EventLog) (id : String) (submitted : EventEnvelope) : Prop :=
  (∀ row ∈ eventsOf log .contributionSubmitted id,
    row.payloadJson = .ofObject submitted.payload) ∧
  (eventsOf log .contributionSubmitted id).head?.map (·.runId) = some submitted.runId

/-- The event that accompanies a submission can be made. -/
lemma exists_queuedEvent {stamp : Stamp} {id : String} (submitted : EventEnvelope)
    (hstamp : isUlid stamp.eventId = true) (hid : id ≠ "") :
    ∃ queued, StateService.queuedEvent stamp "contribution_service" id submitted = .ok queued ∧
      queued.text? "contribution_id" = some id := by
  have hpayload : validatePayload .contributionEnqueued
      [("contribution_id", .str id), ("state", .str "queued")] = .ok () := by
    refine (PayloadCodec.validate_eq_ok_iff ⟨["contribution_id"], ["state"], []⟩ _ _ _).2
      ⟨by simp [getEntry], by simp [keys], ?_⟩
    intro e he
    simp only [List.mem_cons, List.not_mem_nil, or_false] at he
    rcases he with rfl | rfl
    · have haccepts : textPayload (.str id) = true := by simpa [textPayload] using hid
      exact haccepts
    · decide
  have hcause : some submitted.eventId ≠ some "" := by
    intro h
    have hulid := submitted.eventId_valid
    rw [Option.some.inj h] at hulid
    exact absurd hulid (by decide)
  have hmade : ∃ queued, StateService.queuedEvent stamp "contribution_service" id submitted =
      .ok queued := by
    apply exists_makeEvent hstamp _ submitted.runId_ne hcause rfl hpayload
    simp
  obtain ⟨queued, hqueued⟩ := hmade
  refine ⟨queued, hqueued, ?_⟩
  obtain ⟨-, -, -, -, -, -, hpayload'⟩ := makeEvent_ok hqueued
  rw [EventEnvelope.text?, hpayload']
  rfl

/-- What the service answers to a submission of a contribution that is in the queue. -/
lemma enqueueContribution_of_queued {stamp queuedStamp : Stamp} {command : AppendEventCommand}
    {id : String} {entry : PublicationQueueEntry} {event : EventEnvelope}
    (hevent : makeEvent stamp command = .ok event)
    (htype : event.eventType = .contributionSubmitted)
    (hid : event.text? "contribution_id" = some id)
    (hstamp : isUlid queuedStamp.eventId = true) (hentry : currentEntry t id = .ok entry) :
    StateService.enqueueContribution t stamp queuedStamp command =
      if sameSubmission t.toEventLog event then .ok (t, entry)
      else .error (.value "DUPLICATE_CONTRIBUTION_MISMATCH") := by
  have hne := contributionId_ne_of_submitted htype hid
  obtain ⟨queued, hqueued, hqid⟩ := exists_queuedEvent event hstamp hne
  have hqtype := StateService.queuedEvent_ok hqueued
  obtain ⟨row, hfound, -, hrow⟩ := currentEntry_ok hentry
  have hread : ∀ {e : EventEnvelope}, e.text? "contribution_id" = some id →
      contributionIdOf e "INVALID_CONTRIBUTION_ENQUEUE" = .ok id := by
    intro e he
    simp only [contributionIdOf, he, orThrow, ok_bind, require, if_pos hne]
    rfl
  simp only [StateService.enqueueContribution, hevent, ok_bind, htype, hid, orThrow, hqueued,
    enqueue, hread hid, hread hqid, hqtype, hfound, hrow, require, if_true]
  cases sameSubmission t.toEventLog event <;> rfl

/-- `_same_submission` looks among the submissions of the contribution. -/
lemma sameSubmission_eq {log : EventLog} {event : EventEnvelope} {id : String}
    (hid : event.text? "contribution_id" = some id) :
    sameSubmission log event = ((eventsOf log .contributionSubmitted id).find? fun row =>
      row.payloadJson == .ofObject event.payload).any fun row => row.runId == event.runId := by
  have hnames : ∀ row : EventRow, row.payloadJson = .ofObject event.payload →
      row.field? "contribution_id" = some (.str id) := by
    intro row hrow
    have hrecords : (EventRow.ofEvent 0 event).Records event := rfl
    rw [EventRow.field?, hrow, ← hrecords.payloadJson, ← EventRow.field?]
    exact hrecords.field?_eq_str.2 hid
  rw [sameSubmission, eventsOf, List.find?_filter]
  congr 2
  funext row
  rw [Bool.eq_iff_iff]
  by_cases hrow : row.payloadJson = .ofObject event.payload
  · simp [EventRow.isOf, hrow, hnames row hrow]
  · simp [hrow]

omit [CharacterDatabase] in
/-- A search that every element satisfies finds the first. -/
lemma find?_eq_head? {α : Type*} {p : α → Bool} {l : List α} (h : ∀ a ∈ l, p a = true) :
    l.find? p = l.head? := by
  cases l with
  | nil => rfl
  | cons a l => rw [List.find?_cons_of_pos (h a List.mem_cons_self), List.head?_cons]

omit [CharacterDatabase] in
/-- Submissions of one payload: the search for it finds the first. -/
lemma find?_payload {rows : List EventRow} {payload : JsonText}
    (h : ∀ row ∈ rows, row.payloadJson = payload) :
    (rows.find? fun row => row.payloadJson == payload) = rows.head? := by
  apply find?_eq_head?
  intro row hrow
  rw [h row hrow, beq_self_eq_true]

/-- An envelope is made again from its own columns. -/
lemma exists_command {event : EventEnvelope} {id : String}
    (htype : event.eventType = .contributionSubmitted)
    (hid : event.text? "contribution_id" = some id) :
    ∃ stamp command, isUlid stamp.eventId = true ∧ makeEvent stamp command = .ok event ∧
      Submits stamp command id ∧ Repeats command event := by
  have hmake : makeEvent ⟨event.eventId, event.occurredAt⟩ ⟨event.eventType.text, event.actor,
      event.runId, event.causationId, event.payload⟩ = .ok event := EventEnvelope.create_self event
  exact ⟨_, _, event.eventId_valid, hmake, ⟨event, hmake, htype, hid⟩, rfl, rfl⟩

/-- Submitting a queued contribution again is idempotent exactly when the log holds no submission
of it but its own. -/
lemma idempotentFor_iff {id : String} {entry : PublicationQueueEntry} {submitted : EventEnvelope}
    (hlog : WellFormedLog t.toEventLog) (hentry : currentEntry t id = .ok entry)
    (htype : submitted.eventType = .contributionSubmitted)
    (hid : submitted.text? "contribution_id" = some id) :
    IdempotentFor t id submitted ↔ OnlySubmission t.toEventLog id submitted := by
  constructor
  · intro h
    have hpayload : ∀ row ∈ eventsOf t.toEventLog .contributionSubmitted id,
        row.payloadJson = .ofObject submitted.payload := by
      intro row hrow
      -- the first row with this payload could be submitted again
      obtain ⟨first, hfirst⟩ := Option.isSome_iff_exists.1 (List.find?_isSome
        (p := fun r : EventRow => r.payloadJson == row.payloadJson).2 ⟨row, hrow, by simp⟩)
      have hmem := List.mem_of_find?_eq_some hfirst
      have hsame : first.payloadJson = row.payloadJson := by simpa using List.find?_some hfirst
      obtain ⟨hin, hftype, hfid⟩ := mem_eventsOf.1 hmem
      obtain ⟨event, hevent⟩ := hlog.written first hin
      have hetype : event.eventType = .contributionSubmitted := hevent.eventType.symm.trans hftype
      have heid := hevent.field?_eq_str.1 hfid
      obtain ⟨stamp, command, hstamp, hmake, hsubmits, hself, -⟩ := exists_command hetype heid
      have haccepted : sameSubmission t.toEventLog event = true := by
        rw [sameSubmission_eq heid, ← hevent.payloadJson, hsame, hfirst]
        have hrun : first.runId = event.runId := by
          rw [hevent]
          rfl
        simp [hrun]
      by_contra hne
      have hraise := h.other stamp stamp command hstamp hsubmits fun hrepeats =>
        hne (by rw [← hsame, hevent.payloadJson, ← hself, hrepeats.1])
      rw [enqueueContribution_of_queued hmake hetype heid hstamp hentry, if_pos haccepted]
        at hraise
      simp at hraise
    refine ⟨hpayload, ?_⟩
    obtain ⟨stamp, command, hstamp, hmake, hsubmits, hself⟩ := exists_command htype hid
    obtain ⟨_, -, hok⟩ := h.repeated stamp stamp command hstamp hsubmits hself
    rw [enqueueContribution_of_queued hmake htype hid hstamp hentry] at hok
    split at hok
    swap
    · simp at hok
    rename_i haccepted
    rw [sameSubmission_eq hid, find?_payload hpayload, Option.any_eq_true] at haccepted
    obtain ⟨first, hfirst, hrun⟩ := haccepted
    rw [hfirst, Option.map_some, beq_iff_eq.1 hrun]
  · rintro ⟨hpayload, hrun⟩
    obtain ⟨first, hfirst, hfrun⟩ := Option.map_eq_some_iff.1 hrun
    have haccepts : ∀ {event : EventEnvelope}, event.text? "contribution_id" = some id →
        (sameSubmission t.toEventLog event = true ↔
          JsonText.ofObject event.payload = .ofObject submitted.payload ∧
            event.runId = submitted.runId) := by
      intro event heid
      rw [sameSubmission_eq heid]
      by_cases hsame : JsonText.ofObject event.payload = .ofObject submitted.payload
      · rw [hsame, find?_payload hpayload, hfirst]
        simp only [Option.any_some, beq_iff_eq, hfrun, true_and]
        exact eq_comm
      · have hnone : (eventsOf t.toEventLog .contributionSubmitted id).find?
            (fun row => row.payloadJson == .ofObject event.payload) = none := by
          rw [List.find?_eq_none]
          intro row hrow heq
          rw [beq_iff_eq, hpayload row hrow] at heq
          exact hsame heq.symm
        simp [hnone, hsame]
    refine ⟨?_, ?_, ?_⟩
    · rintro stamp queuedStamp command hstamp ⟨event, hmake, hetype, heid⟩ ⟨hsame, hrun'⟩
      obtain ⟨-, -, -, -, herun, -, hepayload⟩ := makeEvent_ok hmake
      refine ⟨entry, hentry, ?_⟩
      rw [enqueueContribution_of_queued hmake hetype heid hstamp hentry, if_pos]
      exact (haccepts heid).2 ⟨hepayload ▸ hsame, herun.trans hrun'⟩
    · rintro stamp queuedStamp command hstamp ⟨event, hmake, hetype, heid⟩ hnot
      obtain ⟨-, -, -, -, herun, -, hepayload⟩ := makeEvent_ok hmake
      rw [enqueueContribution_of_queued hmake hetype heid hstamp hentry, if_neg]
      intro haccepted
      obtain ⟨hsame, hrun'⟩ := (haccepts heid).1 haccepted
      exact hnot ⟨hepayload ▸ hsame, herun.symm.trans hrun'⟩
    · rintro stamp queuedStamp command hstamp ⟨event, hmake, hetype, heid⟩
      rw [StateOp.exec, StateOp.run, enqueueContribution_of_queued hmake hetype heid hstamp hentry]
      cases sameSubmission t.toEventLog event <;> rfl

/-! ## Every run -/

/-- The operation of the run with which the contribution entered the queue had this submission. -/
def EnteredWith (ops : List StateOp) (id : String) (submitted : EventEnvelope) : Prop :=
  ∃ before op after, ops = before ++ op :: after ∧
    id ∉ ids (runOps initialTables before).publicationQueue ∧
    id ∈ ids (op.exec (runOps initialTables before)).publicationQueue ∧
    op.submission? = some submitted

lemma EnteredWith.append {ops : List StateOp} {id : String} {submitted : EventEnvelope}
    (h : EnteredWith ops id submitted) (op : StateOp) : EnteredWith (ops ++ [op]) id submitted := by
  obtain ⟨before, first, after, rfl, hrest⟩ := h
  exact ⟨before, first, after ++ [op], by simp, hrest⟩

lemma runOps_snoc (ops : List StateOp) (op : StateOp) :
    runOps initialTables (ops ++ [op]) = op.exec (runOps initialTables ops) := by
  rw [runOps, List.foldl_append, ← runOps]
  rfl

/-- In a run whose plain appends submit nothing, the log holds one submission of each contribution
of the queue, the one it entered with. -/
lemma submitted_of_runOps {ops : List StateOp} (hops : ∀ op ∈ ops, op.SubmitsByQueue) :
    SubmissionLog (runOps initialTables ops) ∧
      ∀ id ∈ ids (runOps initialTables ops).publicationQueue, ∃ submitted row,
        EnteredWith ops id submitted ∧ row.Records submitted ∧
          eventsOf (runOps initialTables ops).toEventLog .contributionSubmitted id = [row] := by
  induction ops using List.reverseRecOn with
  | nil => exact ⟨submissionLog_initial, by simp [runOps, initialTables, ids]⟩
  | append_singleton ops op ih =>
    obtain ⟨hinv, hsubmitted⟩ := ih fun o ho => hops o (List.mem_append_left _ ho)
    have hop : op.SubmitsByQueue := hops op (by simp)
    rw [runOps_snoc]
    refine ⟨hinv.exec hop, fun id hid => ?_⟩
    rcases op.exec_submits hop hinv.log hinv.ids_nodup with ⟨hsame, hkept⟩ |
      ⟨event, newId, new, hevent, hnew, henqueues⟩
    · rw [hsame] at hid
      obtain ⟨submitted, row, hentered, hrow, hone⟩ := hsubmitted id hid
      exact ⟨submitted, row, hentered.append op, hrow, (hkept id).trans hone⟩
    · have hids := hid
      rw [henqueues.ids_eq, List.mem_append, List.mem_singleton] at hids
      rcases hids with hbefore | rfl
      · have hne : id ≠ newId := by
          rintro rfl
          exact henqueues.fresh hbefore
        obtain ⟨submitted, row, hentered, hrow, hone⟩ := hsubmitted id hbefore
        refine ⟨submitted, row, hentered.append op, hrow, ?_⟩
        rw [henqueues.submissions, hone, if_neg hne, List.append_nil]
      · refine ⟨event, new, ⟨ops, op, [], rfl, henqueues.fresh, hid, hevent⟩, hnew, ?_⟩
        rw [henqueues.submissions, hinv.unsubmitted id henqueues.fresh, if_pos rfl,
          List.nil_append]

omit [CharacterDatabase] in
/-- A contribution is submitted, and an owner claims it. -/
def sampleSubmissionOps : letI := asciiDatabase; List StateOp :=
  letI := asciiDatabase
  [.enqueueContribution (sampleStampAt '0') (sampleStampAt '1')
     ⟨"ContributionSubmitted", "worker", some "run", none, [("contribution_id", .str "c")]⟩,
   .claimNextPromotion (sampleStampAt '2') (sampleStampAt '2').occurredAt "first"]

omit [CharacterDatabase] in
lemma publicationQueue_sampleSubmissionOps : letI := asciiDatabase
    (runOps initialTables sampleSubmissionOps).publicationQueue = [sampleClaimedRow] := by
  decide +kernel

end Aizim.State
