import Aizim.State.Publications

/-!
# What the publication operations do

`queueSystem` is the publication queue as a transition system of its own: a contribution enters at
the end, or one row is given an owner, a time and an admissible state.  For each operation of the
store one lemma says what a successful call did: which events it appended (`Appends`), which step
of the queue it took, and what it checked before.  The lemmas ask for one property of the queue,
that its contribution ids are distinct, which `QueueStep.ids_nodup` keeps.

A call that changes nothing is a success too: a repeated submission, a repeated preparation, and
a claim or a recovery that finds no row.
-/

namespace Aizim.State

open JsonValue JsonObject TransitionSystem

/-! ## The queue as a transition system -/

/-- The contribution ids of a queue. -/
def ids (queue : List PublicationQueueRow) : List String := queue.map (·.contributionId)

/-- Write the row of a contribution. -/
def updateRows (queue : List PublicationQueueRow) (contributionId owner : String)
    (claimedAt : Datetime) (target : PublicationQueueState) : List PublicationQueueRow :=
  queue.map fun row =>
    if row.contributionId = contributionId then updatedRow row owner claimedAt target else row

/-- The states that a row may be given. -/
def Admissible (queue : List PublicationQueueRow) (row : PublicationQueueRow)
    (target : PublicationQueueState) : Prop :=
  (row.state = .queued ∧ target = .staged ∧ active queue = false ∧
      ∀ r ∈ queue, r.state = .queued → row.enqueueSequence ≤ r.enqueueSequence) ∨
    (row.state.isActive = true ∧ (target = row.state ∨ row.state.canTransition target = true))

/-- One change of the queue. -/
inductive QueueStep : List PublicationQueueRow → List PublicationQueueRow → Prop
  | enqueue {queue : List PublicationQueueRow} {contributionId : String}
      (fresh : contributionId ∉ ids queue) :
      QueueStep queue (queue ++ [queuedRow queue contributionId])
  | update {queue : List PublicationQueueRow} {row : PublicationQueueRow} {owner : String}
      {target : PublicationQueueState} (claimedAt : Datetime)
      (found : findRow queue row.contributionId = some row) (owner_ne : owner ≠ "")
      (admissible : Admissible queue row target) :
      QueueStep queue (updateRows queue row.contributionId owner claimedAt target)

@[simp] lemma ids_updateRows (queue : List PublicationQueueRow) (id owner : String)
    (claimedAt : Datetime) (target : PublicationQueueState) :
    ids (updateRows queue id owner claimedAt target) = ids queue := by
  simp only [ids, updateRows, List.map_map]
  refine List.map_congr_left fun row _ => ?_
  simp only [Function.comp_apply]
  split <;> rfl

@[simp] lemma ids_append (queue rows : List PublicationQueueRow) :
    ids (queue ++ rows) = ids queue ++ ids rows := by
  simp [ids]

lemma QueueStep.ids_nodup {queue queue' : List PublicationQueueRow} (h : QueueStep queue queue')
    (hids : (ids queue).Nodup) : (ids queue').Nodup := by
  cases h with
  | enqueue fresh =>
    rw [ids_append]
    exact List.Nodup.append hids (by simp [ids]) (by simpa [ids, queuedRow] using fresh)
  | update _ _ _ _ => simpa using hids

lemma findRow_of_mem {queue : List PublicationQueueRow} (hids : (ids queue).Nodup)
    {row : PublicationQueueRow} (hrow : row ∈ queue) :
    findRow queue row.contributionId = some row := by
  cases h : findRow queue row.contributionId with
  | none => exact absurd (List.mem_map.2 ⟨row, hrow, rfl⟩) (findRow_eq_none.1 h)
  | some r =>
    obtain ⟨hr, hid⟩ := findRow_some h
    rw [List.inj_on_of_nodup_map hids hr hrow hid]

/-! ## Appended events -/

variable [CharacterDatabase]

/-- Writing the queue appends nothing. -/
lemma Appends.of_queue (t : Tables) (queue : List PublicationQueueRow) :
    Appends t { t with publicationQueue := queue } [] :=
  ⟨.nil _, rfl, rfl, by simp⟩

/-- The event was made by the factory. -/
def EventFactory.Makes (event : EventFactory) (e : EventEnvelope) : Prop :=
  ∃ id state version run owner, event id state version run owner = .ok e

lemma appendPublication_ok {t t' : Tables} {event : EventEnvelope}
    (h : appendPublication t event = .ok t') :
    Appends t t' [event] ∧ t'.publicationQueue = t.publicationQueue := by
  simp only [appendPublication, map_eq_ok, Prod.exists] at h
  obtain ⟨t₁, record, happend, rfl⟩ := h
  obtain ⟨happends, hqueue, -⟩ := appendRevoking_ok happend
  exact ⟨happends, hqueue⟩

lemma insertQueued_ok {t t' : Tables} {id : String} (h : insertQueued t id = .ok t') :
    Appends t t' [] ∧ id ∉ ids t.publicationQueue ∧
      t'.publicationQueue = t.publicationQueue ++ [queuedRow t.publicationQueue id] := by
  simp only [insertQueued, bind_eq_ok, require_eq_ok, pure_eq_ok, exists_and_left,
    exists_const] at h
  obtain ⟨hid, rfl⟩ := h
  exact ⟨.of_queue _ _, hid, rfl⟩

omit [CharacterDatabase] in
lemma currentEntry_ok {t : Tables} {id : String} {entry : PublicationQueueEntry}
    (h : currentEntry t id = .ok entry) :
    ∃ row, findRow t.publicationQueue id = some row ∧ row.contributionId = id ∧
      entryOfRow row = .ok entry := by
  simp only [currentEntry, bind_eq_ok, orThrow_eq_ok] at h
  obtain ⟨row, hrow, hentry⟩ := h
  exact ⟨row, hrow, (findRow_some hrow).2, hentry⟩

omit [CharacterDatabase] in
/-- `_update` writes the row that its entry was read from, and no other. -/
lemma updateEntry_ok {t t' : Tables} {current entry : PublicationQueueEntry} {owner : String}
    {claimedAt : Datetime} {target : PublicationQueueState} {row : PublicationQueueRow}
    (hids : (ids t.publicationQueue).Nodup)
    (hfound : findRow t.publicationQueue row.contributionId = some row)
    (hcurrent : entryOfRow row = .ok current)
    (h : updateEntry t current owner claimedAt target = .ok (t', entry)) :
    owner ≠ "" ∧
      t' = { t with
        publicationQueue := updateRows t.publicationQueue row.contributionId owner claimedAt
          target } ∧
      entry.contributionId = row.contributionId ∧ entry.enqueueSequence = row.enqueueSequence ∧
      entry.state = target ∧ entry.stateVersion = row.stateVersion + 1 ∧
      entry.claimedBy = some owner ∧ entry.claimedAt = some claimedAt := by
  obtain ⟨hid, hsequence, -, hversion, -⟩ := entryOfRow_ok hcurrent
  simp only [updateEntry, bind_eq_ok, require_eq_ok, pure_eq_ok, exists_and_left, exists_const,
    Prod.mk.injEq] at h
  obtain ⟨-, entry', hentry, rfl, rfl⟩ := h
  obtain ⟨h₁, h₂, h₃, h₄, h₅, h₆⟩ := PublicationQueueEntry.create_ok hentry
  refine ⟨fun howner => entry'.claimedBy_ne (by rw [h₅, howner]), ?_, h₁.trans hid,
    h₂.trans hsequence, h₃, by rw [h₄, hversion], h₅, h₆⟩
  -- among distinct ids the version test adds nothing
  congr 1
  refine List.map_congr_left fun r hr => ?_
  by_cases hrid : r.contributionId = row.contributionId
  · obtain rfl := List.inj_on_of_nodup_map hids hr (findRow_some hfound).1 hrid
    simp [isCurrent, hid, hversion]
  · simp [isCurrent, hid, hrid]

lemma appendChange_ok {t t' : Tables} {entry : PublicationQueueEntry} {formerOwner : Option String}
    {event : EventFactory} (h : appendChange t entry formerOwner event = .ok t') :
    ∃ e, event.Makes e ∧ Appends t t' [e] ∧ t'.publicationQueue = t.publicationQueue := by
  simp only [appendChange, bind_eq_ok] at h
  obtain ⟨run, -, e, he, happend⟩ := h
  exact ⟨e, ⟨_, _, _, _, _, he⟩, appendPublication_ok happend⟩

/-! ## Operations -/

/-- `enqueue` repeats a submission, or appends both events and a queued row. -/
lemma enqueue_ok {t t' : Tables} {submitted queued : EventEnvelope} {entry : PublicationQueueEntry}
    (h : enqueue t submitted queued = .ok (t', entry)) :
    t' = t ∨ (Appends t t' [submitted, queued] ∧ queued.eventType = .contributionEnqueued ∧
      QueueStep t.publicationQueue t'.publicationQueue ∧
      ∃ id, submitted.text? "contribution_id" = some id ∧ queued.text? "contribution_id" = some id ∧
        id ∉ ids t.publicationQueue ∧
        t'.publicationQueue = t.publicationQueue ++ [queuedRow t.publicationQueue id]) := by
  simp only [enqueue, contributionIdOf, bind_eq_ok, require_eq_ok, orThrow_eq_ok, pure_eq_ok,
    exists_and_left, exists_const] at h
  obtain ⟨id, ⟨_, hsubmitted, -, rfl⟩, htype, _, ⟨_, hqueued, -, rfl⟩, rfl, h⟩ := h
  split at h
  · simp only [bind_eq_ok, require_eq_ok, pure_eq_ok, exists_and_left, exists_const,
      Prod.mk.injEq] at h
    obtain ⟨-, -, -, rfl, -⟩ := h
    exact Or.inl rfl
  · simp only [bind_eq_ok, pure_eq_ok, Prod.mk.injEq] at h
    obtain ⟨t₁, ht₁, t₂, ht₂, t₃, ht₃, -, -, rfl, -⟩ := h
    obtain ⟨ha₁, hq₁⟩ := appendPublication_ok ht₁
    obtain ⟨ha₂, hfresh, hq₂⟩ := insertQueued_ok ht₂
    obtain ⟨ha₃, hq₃⟩ := appendPublication_ok ht₃
    rw [hq₁] at hfresh hq₂
    have hq : t₃.publicationQueue = _ := hq₃.trans hq₂
    exact Or.inr ⟨(ha₁.trans ha₂).trans ha₃, htype, hq ▸ .enqueue hfresh, _, hsubmitted, hqueued,
      hfresh, hq⟩

/-- `claim_next` finds no row, or claims the first queued one when none is active. -/
lemma claimNext_ok {t t' : Tables} {owner : String} {claimedAt : Datetime} {event : EventFactory}
    {result : Option PublicationQueueEntry} (hids : (ids t.publicationQueue).Nodup)
    (h : claimNext t owner claimedAt event = .ok (t', result)) :
    (t' = t ∧ result = none) ∨
      ∃ row e entry, result = some entry ∧ entry.contributionId = row.contributionId ∧
        entry.state = .staged ∧ row.state = .queued ∧ event.Makes e ∧ Appends t t' [e] ∧
        findRow t.publicationQueue row.contributionId = some row ∧ owner ≠ "" ∧
        Admissible t.publicationQueue row .staged ∧
        t'.publicationQueue =
          updateRows t.publicationQueue row.contributionId owner claimedAt .staged := by
  unfold claimNext at h
  split at h
  · simp only [pure_eq_ok, Prod.mk.injEq] at h
    exact Or.inl ⟨h.1.symm, h.2.symm⟩
  · rename_i hactive
    split at h
    · simp only [pure_eq_ok, Prod.mk.injEq] at h
      exact Or.inl ⟨h.1.symm, h.2.symm⟩
    · rename_i row hrow
      obtain ⟨hmem, hfirst⟩ := firstBySequence_spec hrow
      simp only [List.mem_filter, beq_iff_eq] at hmem hfirst
      have hfound := findRow_of_mem hids hmem.1
      simp only [bind_eq_ok, pure_eq_ok, Prod.exists, Prod.mk.injEq] at h
      obtain ⟨current, hcurrent, t₁, claimed, hupdate, t₂, hchange, rfl, rfl⟩ := h
      obtain ⟨howner, rfl, hid, -, hstate, -⟩ := updateEntry_ok hids hfound hcurrent hupdate
      obtain ⟨e, he, happends, hqueue⟩ := appendChange_ok hchange
      refine Or.inr ⟨row, e, claimed, rfl, hid, hstate, hmem.2, he,
        (Appends.of_queue t _).trans happends, hfound, howner, ?_, hqueue⟩
      exact Or.inl ⟨hmem.2, rfl, by simpa using hactive, fun r hr hq => hfirst r ⟨hr, hq⟩⟩

/-- What a change of an entry by its owner did: the row of the contribution, claimed by the owner,
is given a state, and the events are appended. -/
structure OwnerChange (t t' : Tables) (contributionId owner : String)
    (target : PublicationQueueState) (row : PublicationQueueRow) (claimedAt : Datetime)
    (events : List EventEnvelope) : Prop where
  appends : Appends t t' events
  found : findRow t.publicationQueue contributionId = some row
  row_id : row.contributionId = contributionId
  claimed : row.claimedBy = some owner
  admissible : row.state.isActive = true ∧
    (target = row.state ∨ row.state.canTransition target = true)
  owner_ne : owner ≠ ""
  queue : t'.publicationQueue = updateRows t.publicationQueue contributionId owner claimedAt target

lemma OwnerChange.queueStep {t t' : Tables} {id owner : String} {target : PublicationQueueState}
    {row : PublicationQueueRow} {claimedAt : Datetime} {events : List EventEnvelope}
    (h : OwnerChange t t' id owner target row claimedAt events) :
    QueueStep t.publicationQueue t'.publicationQueue := by
  have hid := h.row_id
  subst hid
  rw [h.queue]
  exact .update claimedAt h.found h.owner_ne (Or.inr h.admissible)

omit [CharacterDatabase] in
lemma PublicationQueueState.isActive_of_canTransition {s s' : PublicationQueueState}
    (h : s.canTransition s' = true) : s.isActive = true := by
  cases s <;> cases s' <;> first | rfl | simp [canTransition] at h

/-- `advance` -/
lemma advance_ok {t t' : Tables} {id owner : String} {target : PublicationQueueState}
    {changedAt : Datetime} {event : EventFactory} {entry : PublicationQueueEntry}
    (hids : (ids t.publicationQueue).Nodup)
    (h : advance t id owner target changedAt event = .ok (t', entry)) :
    ∃ row e, event.Makes e ∧ target ≠ .published ∧ row.state.canTransition target = true ∧
      OwnerChange t t' id owner target row changedAt [e] := by
  simp only [advance, bind_eq_ok, require_eq_ok, pure_eq_ok, exists_and_left, exists_const,
    Prod.exists, Prod.mk.injEq] at h
  obtain ⟨htarget, current, hcurrent, hclaim, htransition, t₁, changed, hupdate, t₂, hchange, rfl,
    rfl⟩ := h
  obtain ⟨row, hfound, rfl, hentry⟩ := currentEntry_ok hcurrent
  obtain ⟨-, -, hstate, -, hclaimed⟩ := entryOfRow_ok hentry
  obtain ⟨howner, rfl, -⟩ := updateEntry_ok hids hfound hentry hupdate
  obtain ⟨e, he, happends, hqueue⟩ := appendChange_ok hchange
  rw [hstate] at htransition
  exact ⟨row, e, he, htarget, htransition,
    ⟨(Appends.of_queue t _).trans happends, hfound, rfl, hclaimed ▸ hclaim,
      ⟨PublicationQueueState.isActive_of_canTransition htransition, Or.inr htransition⟩, howner,
      hqueue⟩⟩

/-- `advance` returns the entry of its contribution. -/
lemma contributionId_of_advance {t t' : Tables} {id owner : String}
    {target : PublicationQueueState} {changedAt : Datetime} {event : EventFactory}
    {entry : PublicationQueueEntry} (hids : (ids t.publicationQueue).Nodup)
    (h : advance t id owner target changedAt event = .ok (t', entry)) :
    entry.contributionId = id := by
  simp only [advance, bind_eq_ok, require_eq_ok, pure_eq_ok, exists_and_left, exists_const,
    Prod.exists, Prod.mk.injEq] at h
  obtain ⟨-, current, hcurrent, -, -, t₁, changed, hupdate, t₂, -, -, rfl⟩ := h
  obtain ⟨row, hfound, rfl, hentry⟩ := currentEntry_ok hcurrent
  obtain ⟨-, -, hid, -⟩ := updateEntry_ok hids hfound hentry hupdate
  exact hid

/-- `heartbeat` -/
lemma heartbeat_ok {t t' : Tables} {id owner : String} {changedAt : Datetime}
    {event : EventFactory} {entry : PublicationQueueEntry} (hids : (ids t.publicationQueue).Nodup)
    (h : heartbeat t id owner changedAt event = .ok (t', entry)) :
    ∃ row e, event.Makes e ∧ OwnerChange t t' id owner row.state row changedAt [e] := by
  simp only [heartbeat, bind_eq_ok, require_eq_ok, pure_eq_ok, exists_and_left, exists_const,
    Prod.exists, Prod.mk.injEq] at h
  obtain ⟨current, hcurrent, ⟨hclaim, hactive⟩, t₁, changed, hupdate, t₂, hchange, rfl, rfl⟩ := h
  obtain ⟨row, hfound, rfl, hentry⟩ := currentEntry_ok hcurrent
  obtain ⟨-, -, hstate, -, hclaimed⟩ := entryOfRow_ok hentry
  rw [hstate] at hactive hupdate
  obtain ⟨howner, rfl, -⟩ := updateEntry_ok hids hfound hentry hupdate
  obtain ⟨e, he, happends, hqueue⟩ := appendChange_ok hchange
  exact ⟨row, e, he, ⟨(Appends.of_queue t _).trans happends, hfound, rfl, hclaimed ▸ hclaim,
    ⟨hactive, Or.inl rfl⟩, howner, hqueue⟩⟩

/-- `prepare` leaves the queue; it appends its event unless the contribution is already prepared
with the same payload. -/
lemma prepare_ok {t t' : Tables} {id owner : String} {prepared : EventEnvelope}
    {entry : PublicationQueueEntry} (h : prepare t id owner prepared = .ok (t', entry)) :
    t'.publicationQueue = t.publicationQueue ∧
      (∃ row, findRow t.publicationQueue id = some row ∧ row.claimedBy = some owner ∧
        row.state = .materialized) ∧
      prepared.eventType = .promotionPrepared ∧
      prepared.text? "contribution_id" = some id ∧
      ((preparationRow t.toEventLog id = none ∧ Appends t t' [prepared]) ∨
        (t' = t ∧ ∃ row, preparationRow t.toEventLog id = some row ∧
          row.payloadJson = .ofObject prepared.payload)) := by
  simp only [prepare, bind_eq_ok, require_eq_ok, exists_and_left, exists_const] at h
  obtain ⟨current, hcurrent, ⟨hclaim, hmaterialized⟩, ⟨htype, hprepared⟩, h⟩ := h
  obtain ⟨row, hfound, rfl, hentry⟩ := currentEntry_ok hcurrent
  obtain ⟨-, -, hstate, -, hclaimed⟩ := entryOfRow_ok hentry
  have hrow : ∃ r, findRow t.publicationQueue row.contributionId = some r ∧
      r.claimedBy = some owner ∧ r.state = .materialized :=
    ⟨row, hfound, hclaimed ▸ hclaim, hstate ▸ hmaterialized⟩
  split at h
  · rename_i hnone
    simp only [bind_eq_ok, pure_eq_ok, Prod.mk.injEq] at h
    obtain ⟨t₁, happend, rfl, -⟩ := h
    obtain ⟨happends, hqueue⟩ := appendPublication_ok happend
    exact ⟨hqueue, hrow, htype, hprepared, Or.inl ⟨hnone, happends⟩⟩
  · rename_i existing hexisting
    simp only [bind_eq_ok, require_eq_ok, pure_eq_ok, exists_and_left, exists_const,
      Prod.mk.injEq] at h
    obtain ⟨hsame, rfl, -⟩ := h
    exact ⟨rfl, hrow, htype, hprepared, Or.inr ⟨rfl, existing, hexisting, hsame⟩⟩

/-- `publish_promotion` publishes a prepared contribution. -/
lemma publishPromotion_ok {t t' : Tables} {id owner : String} {changedAt : Datetime}
    {declaration delta : EventEnvelope} {event : EventFactory} {entry : PublicationQueueEntry}
    (hids : (ids t.publicationQueue).Nodup)
    (h : publishPromotion t id owner changedAt declaration delta event = .ok (t', entry)) :
    ∃ row e, event.Makes e ∧ row.state.canTransition .published = true ∧
      isPrepared t.toEventLog (expectedPreparation id declaration delta) = true ∧
      OwnerChange t t' id owner .published row changedAt [declaration, delta, e] := by
  simp only [publishPromotion, bind_eq_ok, require_eq_ok, pure_eq_ok, exists_and_left,
    exists_const, Prod.exists, Prod.mk.injEq] at h
  obtain ⟨current, hcurrent, ⟨hclaim, htransition⟩, hprepared, t₁, changed, hupdate, t₂, ht₂, t₃,
    ht₃, e, he, t₄, ht₄, rfl, rfl⟩ := h
  obtain ⟨row, hfound, rfl, hentry⟩ := currentEntry_ok hcurrent
  obtain ⟨-, -, hstate, -, hclaimed⟩ := entryOfRow_ok hentry
  obtain ⟨howner, rfl, -⟩ := updateEntry_ok hids hfound hentry hupdate
  obtain ⟨ha₂, hq₂⟩ := appendPublication_ok ht₂
  obtain ⟨ha₃, hq₃⟩ := appendPublication_ok ht₃
  obtain ⟨ha₄, hq₄⟩ := appendPublication_ok ht₄
  rw [hstate] at htransition
  exact ⟨row, e, ⟨_, _, _, _, _, he⟩, htransition, hprepared,
    ⟨(((Appends.of_queue t _).trans ha₂).trans ha₃).trans ha₄, hfound, rfl, hclaimed ▸ hclaim,
      ⟨PublicationQueueState.isActive_of_canTransition htransition, Or.inr htransition⟩, howner,
      hq₄.trans (hq₃.trans hq₂)⟩⟩

/-- `fail_promotion` -/
lemma failPromotion_ok {t t' : Tables} {id owner : String} {changedAt : Datetime}
    {failure : EventEnvelope} {event : EventFactory} {entry : PublicationQueueEntry}
    (hids : (ids t.publicationQueue).Nodup)
    (h : failPromotion t id owner changedAt failure event = .ok (t', entry)) :
    ∃ row e, event.Makes e ∧ row.state.canTransition .quarantined = true ∧
      OwnerChange t t' id owner .quarantined row changedAt [failure, e] := by
  simp only [failPromotion, bind_eq_ok, require_eq_ok, pure_eq_ok, exists_and_left, exists_const,
    Prod.exists, Prod.mk.injEq] at h
  obtain ⟨current, hcurrent, ⟨hclaim, htransition⟩, t₁, changed, hupdate, t₂, ht₂, e, he, t₃, ht₃,
    rfl, rfl⟩ := h
  obtain ⟨row, hfound, rfl, hentry⟩ := currentEntry_ok hcurrent
  obtain ⟨-, -, hstate, -, hclaimed⟩ := entryOfRow_ok hentry
  obtain ⟨howner, rfl, -⟩ := updateEntry_ok hids hfound hentry hupdate
  obtain ⟨ha₂, hq₂⟩ := appendPublication_ok ht₂
  obtain ⟨ha₃, hq₃⟩ := appendPublication_ok ht₃
  rw [hstate] at htransition
  exact ⟨row, e, ⟨_, _, _, _, _, he⟩, htransition,
    ⟨((Appends.of_queue t _).trans ha₂).trans ha₃, hfound, rfl, hclaimed ▸ hclaim,
      ⟨PublicationQueueState.isActive_of_canTransition htransition, Or.inr htransition⟩, howner,
      hq₃.trans hq₂⟩⟩

/-- `recover_expired_promotion` finds no row, or takes over an expired active one. -/
lemma recoverExpiredPromotion_ok {t t' : Tables} {owner : String} {now staleBefore : Datetime}
    {event : EventFactory} {result : Option PublicationQueueEntry}
    (hids : (ids t.publicationQueue).Nodup)
    (h : recoverExpiredPromotion t owner now staleBefore event = .ok (t', result)) :
    (t' = t ∧ result = none) ∨
      ∃ row e entry, result = some entry ∧ entry.contributionId = row.contributionId ∧
        entry.state = row.state ∧ isExpired staleBefore row = true ∧ event.Makes e ∧
        Appends t t' [e] ∧ findRow t.publicationQueue row.contributionId = some row ∧
        owner ≠ "" ∧ row.state.isActive = true ∧
        t'.publicationQueue =
          updateRows t.publicationQueue row.contributionId owner now row.state := by
  unfold recoverExpiredPromotion at h
  split at h
  · simp only [pure_eq_ok, Prod.mk.injEq] at h
    exact Or.inl ⟨h.1.symm, h.2.symm⟩
  · rename_i row hrow
    have hmem := (firstBySequence_spec hrow).1
    rw [List.mem_filter] at hmem
    have hactive : row.state.isActive = true := by
      have := hmem.2
      simp only [isExpired, Bool.and_eq_true] at this
      exact this.2
    have hfound := findRow_of_mem hids hmem.1
    simp only [bind_eq_ok, pure_eq_ok, Prod.exists, Prod.mk.injEq] at h
    obtain ⟨current, hcurrent, t₁, recovered, hupdate, t₂, hchange, rfl, rfl⟩ := h
    obtain ⟨-, -, hstate, -, -⟩ := entryOfRow_ok hcurrent
    rw [hstate] at hupdate
    obtain ⟨howner, rfl, hid, -, hstate', -⟩ := updateEntry_ok hids hfound hcurrent hupdate
    obtain ⟨e, he, happends, hqueue⟩ := appendChange_ok hchange
    exact Or.inr ⟨row, e, recovered, rfl, hid, hstate', hmem.2, he,
      (Appends.of_queue t _).trans happends, hfound, howner, hactive, hqueue⟩

/-- `rebase` quarantines an entry of the owner and enqueues a new contribution. -/
lemma rebase_ok {t t' : Tables} {id owner : String} {changedAt : Datetime}
    {submitted queued rebased : EventEnvelope} {event : EventFactory}
    {entries : PublicationQueueEntry × PublicationQueueEntry}
    (hids : (ids t.publicationQueue).Nodup)
    (h : rebase t id owner changedAt submitted queued rebased event = .ok (t', entries)) :
    ∃ row e newId, event.Makes e ∧ queued.eventType = .contributionEnqueued ∧
      rebased.eventType = .contributionRebased ∧
      submitted.text? "contribution_id" = some newId ∧
      findRow t.publicationQueue id = some row ∧ row.contributionId = id ∧
      row.claimedBy = some owner ∧ row.state.isActive = true ∧ owner ≠ "" ∧
      Appends t t' [e, submitted, queued, rebased] ∧ newId ∉ ids t.publicationQueue ∧
      t'.publicationQueue = updateRows t.publicationQueue id owner changedAt .quarantined ++
        [queuedRow (updateRows t.publicationQueue id owner changedAt .quarantined) newId] := by
  simp only [rebase, contributionIdOf, bind_eq_ok, require_eq_ok, orThrow_eq_ok, pure_eq_ok,
    exists_and_left, exists_const, Prod.exists, Prod.mk.injEq] at h
  obtain ⟨current, hcurrent, newId, ⟨_, hsubmitted, -, rfl⟩, ⟨hclaim, hactive, hqueued⟩, queuedId,
    -, ⟨-, hrebased, -⟩, hfresh, t₁, quarantined, hupdate, run, -, e, he, t₂, ht₂, t₃, ht₃, t₄, ht₄,
    t₅, ht₅, t₆, ht₆, -, -, rfl, -⟩ := h
  obtain ⟨row, hfound, rfl, hentry⟩ := currentEntry_ok hcurrent
  obtain ⟨-, -, hstate, -, hclaimed⟩ := entryOfRow_ok hentry
  obtain ⟨howner, rfl, -⟩ := updateEntry_ok hids hfound hentry hupdate
  obtain ⟨ha₂, hq₂⟩ := appendPublication_ok ht₂
  obtain ⟨ha₃, hq₃⟩ := appendPublication_ok ht₃
  obtain ⟨ha₄, -, hq₄⟩ := insertQueued_ok ht₄
  obtain ⟨ha₅, hq₅⟩ := appendPublication_ok ht₅
  obtain ⟨ha₆, hq₆⟩ := appendPublication_ok ht₆
  rw [hstate] at hactive
  rw [hq₃.trans hq₂] at hq₄
  exact ⟨row, e, _, ⟨_, _, _, _, _, he⟩, hqueued, hrebased, hsubmitted, hfound, rfl,
    hclaimed ▸ hclaim, hactive, howner,
    (((((Appends.of_queue t _).trans ha₂).trans ha₃).trans ha₄).trans ha₅).trans ha₆,
    findRow_eq_none.1 hfresh, hq₆.trans (hq₅.trans hq₄)⟩

end Aizim.State
