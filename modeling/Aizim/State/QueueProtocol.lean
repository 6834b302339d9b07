import Aizim.State.PublicationSpec

/-!
# The publication queue protocol

The nine operations on the publication queue, called in any order by any owners with any
arguments, keep one protocol: at most one entry is being worked on and it has an owner, entries
move along the states of a publication or out to quarantine, each change raises the version of an
entry by one, and claims are made in the order of submission.

`QueueProtocol` is the invariant of the queue, `RowStep` what one call may do to one entry.  The
work is done on the queue alone: `QueueStep.protocol` and `QueueStep.rowStep` treat the two kinds
of change a queue has, and `PublicationCall.callStep` says that every call is made of those.
-/

namespace Aizim.State

open TransitionSystem

/-! ## The protocol -/

/-- The states that an entry never leaves. -/
def PublicationQueueState.isTerminal : PublicationQueueState → Bool
  | published | quarantined => true
  | _ => false

/-- The moves of an entry: along the states of a publication, or to quarantine. -/
inductive Moves : PublicationQueueState → PublicationQueueState → Prop
  | claim : Moves .queued .staged
  | verify : Moves .staged .verified
  | materialize : Moves .verified .materialized
  | publish : Moves .materialized .published
  | quarantineStaged : Moves .staged .quarantined
  | quarantineVerified : Moves .verified .quarantined
  | quarantineMaterialized : Moves .materialized .quarantined

/-- What one call may do to one entry. -/
def RowStep (row row' : PublicationQueueRow) : Prop :=
  row'.contributionId = row.contributionId ∧ row'.enqueueSequence = row.enqueueSequence ∧
    (row' = row ∨ (row.state.isTerminal = false ∧ row'.stateVersion = row.stateVersion + 1 ∧
      (row'.state = row.state ∨ Moves row.state row'.state)))

/-- The invariant of the queue. -/
structure QueueProtocol (queue : List PublicationQueueRow) : Prop where
  ids_nodup : (ids queue).Nodup
  active_unique : ∀ row₁ ∈ queue, ∀ row₂ ∈ queue, row₁.state.isActive = true →
    row₂.state.isActive = true → row₁ = row₂
  active_claimed : ∀ row ∈ queue, row.state.isActive = true → ∃ owner, row.claimedBy = some owner
  queued_fresh : ∀ row ∈ queue, row.state = .queued → row.claimedBy = none ∧ row.stateVersion = 0

/-! ## Changes of the queue -/

lemma RowStep.refl (row : PublicationQueueRow) : RowStep row row := ⟨rfl, rfl, Or.inl rfl⟩

lemma mem_updateRows {queue : List PublicationQueueRow} {id owner : String} {claimedAt : Datetime}
    {target : PublicationQueueState} {row' : PublicationQueueRow} :
    row' ∈ updateRows queue id owner claimedAt target ↔ ∃ row ∈ queue,
      row' = if row.contributionId = id then updatedRow row owner claimedAt target else row := by
  simp only [updateRows, List.mem_map, eq_comm]

lemma moves_of_canTransition {s s' : PublicationQueueState} (h : s.canTransition s' = true) :
    Moves s s' := by
  cases s <;> cases s' <;> first | constructor | simp [PublicationQueueState.canTransition] at h

lemma Admissible.not_terminal {queue : List PublicationQueueRow} {row : PublicationQueueRow}
    {target : PublicationQueueState} (h : Admissible queue row target) :
    row.state.isTerminal = false ∧ (target = row.state ∨ Moves row.state target) := by
  rcases h with ⟨hqueued, rfl, -⟩ | ⟨hactive, htarget⟩
  · rw [hqueued]
    exact ⟨rfl, Or.inr .claim⟩
  · refine ⟨?_, htarget.imp_right moves_of_canTransition⟩
    cases hs : row.state <;> simp [hs, PublicationQueueState.isActive] at hactive <;> rfl

/-- No admissible state is `queued`. -/
lemma Admissible.target_ne_queued {queue : List PublicationQueueRow} {row : PublicationQueueRow}
    {target : PublicationQueueState} (h : Admissible queue row target) : target ≠ .queued := by
  rintro rfl
  rcases h with ⟨-, htarget, -⟩ | ⟨hactive, htarget | htarget⟩
  · simp at htarget
  · rw [← htarget] at hactive
    simp [PublicationQueueState.isActive] at hactive
  · cases hs : row.state <;> simp [hs, PublicationQueueState.canTransition] at htarget

/-- A step of the queue takes every row to a row of the same contribution. -/
lemma QueueStep.rowStep {queue queue' : List PublicationQueueRow} (h : QueueStep queue queue')
    (hids : (ids queue).Nodup) {row : PublicationQueueRow} (hrow : row ∈ queue) :
    ∃ row' ∈ queue', RowStep row row' := by
  cases h with
  | enqueue _ => exact ⟨row, List.mem_append_left _ hrow, .refl row⟩
  | @update r owner target claimedAt found owner_ne admissible =>
    refine ⟨_, mem_updateRows.2 ⟨row, hrow, rfl⟩, ?_⟩
    split
    · rename_i hid
      obtain rfl := List.inj_on_of_nodup_map hids hrow (findRow_some found).1 hid
      obtain ⟨hterminal, hmove⟩ := admissible.not_terminal
      exact ⟨rfl, rfl, Or.inr ⟨hterminal, rfl, hmove⟩⟩
    · exact .refl row

/-- A step of the queue keeps the protocol. -/
lemma QueueStep.protocol {queue queue' : List PublicationQueueRow} (h : QueueStep queue queue')
    (hinv : QueueProtocol queue) : QueueProtocol queue' := by
  have hids' := h.ids_nodup hinv.ids_nodup
  cases h with
  | @enqueue id _ =>
    have hnew : ∀ row ∈ queue ++ [queuedRow queue id],
        row.state.isActive = true → row ∈ queue := by
      intro row hrow hactive
      rcases List.mem_append.1 hrow with hrow | hrow
      · exact hrow
      · rw [List.mem_singleton.1 hrow] at hactive
        simp [queuedRow, PublicationQueueState.isActive] at hactive
    refine ⟨hids', fun r₁ h₁ r₂ h₂ ha₁ ha₂ => ?_, fun row hrow hactive => ?_, fun row hrow hq => ?_⟩
    · exact hinv.active_unique r₁ (hnew r₁ h₁ ha₁) r₂ (hnew r₂ h₂ ha₂) ha₁ ha₂
    · exact hinv.active_claimed row (hnew row hrow hactive) hactive
    · rcases List.mem_append.1 hrow with hrow | hrow
      · exact hinv.queued_fresh row hrow hq
      · rw [List.mem_singleton.1 hrow]
        exact ⟨rfl, rfl⟩
  | @update row owner target claimedAt found owner_ne admissible =>
    obtain ⟨hrow, -⟩ := findRow_some found
    -- every active row after the step stems from one and the same row before it
    have hsource : ∃ source, ∀ r ∈ queue, ∀ r',
        r' = (if r.contributionId = row.contributionId then updatedRow r owner claimedAt target
          else r) → r'.state.isActive = true → r = source := by
      rcases admissible with ⟨-, -, hidle, -⟩ | ⟨hactive, -⟩
      · refine ⟨row, fun r hr r' hr' hact => ?_⟩
        split at hr'
        · rename_i hid
          exact List.inj_on_of_nodup_map hinv.ids_nodup hr hrow hid
        · subst hr'
          obtain ⟨o, ho⟩ := hinv.active_claimed r' hr hact
          have : active queue = true := List.any_eq_true.2 ⟨r', hr, by simp [ho, hact]⟩
          simp [hidle] at this
      · refine ⟨row, fun r hr r' hr' hact => ?_⟩
        split at hr'
        · rename_i hid
          exact List.inj_on_of_nodup_map hinv.ids_nodup hr hrow hid
        · subst hr'
          exact hinv.active_unique r' hr row hrow hact hactive
    obtain ⟨source, hsource⟩ := hsource
    refine ⟨hids', fun r₁ h₁ r₂ h₂ ha₁ ha₂ => ?_, fun r' hr' hact => ?_, fun r' hr' hq => ?_⟩
    · obtain ⟨s₁, hs₁, heq₁⟩ := mem_updateRows.1 h₁
      obtain ⟨s₂, hs₂, heq₂⟩ := mem_updateRows.1 h₂
      rw [heq₁, heq₂, hsource s₁ hs₁ r₁ heq₁ ha₁, hsource s₂ hs₂ r₂ heq₂ ha₂]
    · obtain ⟨r, hr, rfl⟩ := mem_updateRows.1 hr'
      split at hact
      · rename_i hid
        rw [if_pos hid]
        exact ⟨owner, rfl⟩
      · rename_i hid
        rw [if_neg hid]
        exact hinv.active_claimed r hr hact
    · obtain ⟨r, hr, rfl⟩ := mem_updateRows.1 hr'
      split at hq
      · exact absurd hq admissible.target_ne_queued
      · rename_i hid
        rw [if_neg hid]
        exact hinv.queued_fresh r hr hq

/-- What one call does to the queue: nothing, or one step, or a step and an enqueued contribution
besides. -/
def CallStep (queue queue' : List PublicationQueueRow) : Prop :=
  queue' = queue ∨ QueueStep queue queue' ∨
    ∃ queue₁ id, QueueStep queue queue₁ ∧ id ∉ ids queue₁ ∧
      queue' = queue₁ ++ [queuedRow queue₁ id]

lemma CallStep.protocol {queue queue' : List PublicationQueueRow} (h : CallStep queue queue')
    (hinv : QueueProtocol queue) : QueueProtocol queue' := by
  rcases h with rfl | h | ⟨queue₁, id, h, hid, rfl⟩
  · exact hinv
  · exact h.protocol hinv
  · exact (QueueStep.enqueue hid).protocol (h.protocol hinv)

lemma CallStep.ids_nodup {queue queue' : List PublicationQueueRow} (h : CallStep queue queue')
    (hids : (ids queue).Nodup) : (ids queue').Nodup := by
  rcases h with rfl | h | ⟨queue₁, id, h, hid, rfl⟩
  · exact hids
  · exact h.ids_nodup hids
  · exact (QueueStep.enqueue hid).ids_nodup (h.ids_nodup hids)

lemma CallStep.rowStep {queue queue' : List PublicationQueueRow} (h : CallStep queue queue')
    (hids : (ids queue).Nodup) {row : PublicationQueueRow} (hrow : row ∈ queue) :
    ∃ row' ∈ queue', RowStep row row' := by
  rcases h with rfl | h | ⟨queue₁, id, h, -, rfl⟩
  · exact ⟨row, hrow, .refl row⟩
  · exact h.rowStep hids hrow
  · obtain ⟨row', hrow', hstep⟩ := h.rowStep hids hrow
    exact ⟨row', List.mem_append_left _ hrow', hstep⟩

/-- A call leaves a published or quarantined row where it is. -/
lemma CallStep.mem_of_terminal {queue queue' : List PublicationQueueRow}
    (h : CallStep queue queue') (hids : (ids queue).Nodup) {row : PublicationQueueRow}
    (hrow : row ∈ queue) (hterminal : row.state.isTerminal = true) : row ∈ queue' := by
  obtain ⟨row', hrow', -, -, rfl | ⟨hnot, -⟩⟩ := h.rowStep hids hrow
  · exact hrow'
  · simp [hterminal] at hnot

/-! ## Published contributions -/

/-- The row of the contribution is published. -/
def IsPublished (queue : List PublicationQueueRow) (contributionId : String) : Prop :=
  ∃ row ∈ queue, row.contributionId = contributionId ∧ row.state = .published

lemma isPublished_append_queued {queue : List PublicationQueueRow} {newId id : String} :
    IsPublished (queue ++ [queuedRow queue newId]) id ↔ IsPublished queue id := by
  simp [IsPublished, queuedRow, or_and_right, exists_or]

/-- Writing a row that is not published publishes its contribution, or nothing. -/
lemma isPublished_updateRows {queue : List PublicationQueueRow} (hids : (ids queue).Nodup)
    {row : PublicationQueueRow} (hrow : findRow queue row.contributionId = some row)
    (hactive : row.state ≠ .published) {owner : String} {claimedAt : Datetime}
    {target : PublicationQueueState} {id : String} :
    IsPublished (updateRows queue row.contributionId owner claimedAt target) id ↔
      IsPublished queue id ∨ (id = row.contributionId ∧ target = .published) := by
  obtain ⟨hmem, -⟩ := findRow_some hrow
  constructor
  · rintro ⟨r', hr', hid, hstate⟩
    obtain ⟨r, hr, rfl⟩ := mem_updateRows.1 hr'
    split at hid
    · rename_i hrid
      rw [if_pos hrid] at hstate
      exact Or.inr ⟨hid.symm.trans hrid, hstate⟩
    · rename_i hrid
      rw [if_neg hrid] at hstate
      exact Or.inl ⟨r, hr, hid, hstate⟩
  · rintro (⟨r, hr, hid, hstate⟩ | ⟨rfl, rfl⟩)
    · have hne : r.contributionId ≠ row.contributionId := by
        intro heq
        rw [List.inj_on_of_nodup_map hids hr hmem heq] at hstate
        exact hactive hstate
      exact ⟨r, mem_updateRows.2 ⟨r, hr, by rw [if_neg hne]⟩, hid, hstate⟩
    · exact ⟨_, mem_updateRows.2 ⟨row, hmem, rfl⟩, by simp [updatedRow], by simp [updatedRow]⟩

lemma PublicationQueueState.ne_published_of_isActive {s : PublicationQueueState}
    (h : s.isActive = true) : s ≠ .published := by
  rintro rfl
  simp [isActive] at h

/-! ## Calls -/

variable [CharacterDatabase]

lemma OwnerChange.isPublished {t t' : Tables} {id owner : String} {target : PublicationQueueState}
    {row : PublicationQueueRow} {claimedAt : Datetime} {events : List EventEnvelope}
    (h : OwnerChange t t' id owner target row claimedAt events)
    (hids : (ids t.publicationQueue).Nodup) (id' : String) :
    IsPublished t'.publicationQueue id' ↔
      IsPublished t.publicationQueue id' ∨ (id' = id ∧ target = .published) := by
  have hid := h.row_id
  subst hid
  rw [h.queue]
  exact isPublished_updateRows hids h.found
    (PublicationQueueState.ne_published_of_isActive h.admissible.1)

/-- A call of one of the publication operations, with its arguments. -/
inductive PublicationCall
  | enqueue (submitted queued : EventEnvelope)
  | claimNext (owner : String) (claimedAt : Datetime) (event : EventFactory)
  | advance (contributionId owner : String) (target : PublicationQueueState) (changedAt : Datetime)
      (event : EventFactory)
  | heartbeat (contributionId owner : String) (changedAt : Datetime) (event : EventFactory)
  | prepare (contributionId owner : String) (prepared : EventEnvelope)
  | publishPromotion (contributionId owner : String) (changedAt : Datetime)
      (declaration delta : EventEnvelope) (event : EventFactory)
  | failPromotion (contributionId owner : String) (changedAt : Datetime) (failure : EventEnvelope)
      (event : EventFactory)
  | recoverExpiredPromotion (owner : String) (now staleBefore : Datetime) (event : EventFactory)
  | rebase (contributionId owner : String) (changedAt : Datetime)
      (submitted queued rebased : EventEnvelope) (event : EventFactory)

/-- The tables that a call computes, or the exception it raises. -/
def PublicationCall.run (t : Tables) : PublicationCall → Except StoreError Tables
  | enqueue submitted queued => Prod.fst <$> State.enqueue t submitted queued
  | claimNext owner claimedAt event => Prod.fst <$> State.claimNext t owner claimedAt event
  | advance id owner target changedAt event =>
    Prod.fst <$> State.advance t id owner target changedAt event
  | heartbeat id owner changedAt event => Prod.fst <$> State.heartbeat t id owner changedAt event
  | prepare id owner prepared => Prod.fst <$> State.prepare t id owner prepared
  | publishPromotion id owner changedAt declaration delta event =>
    Prod.fst <$> State.publishPromotion t id owner changedAt declaration delta event
  | failPromotion id owner changedAt failure event =>
    Prod.fst <$> State.failPromotion t id owner changedAt failure event
  | recoverExpiredPromotion owner now staleBefore event =>
    Prod.fst <$> State.recoverExpiredPromotion t owner now staleBefore event
  | rebase id owner changedAt submitted queued rebased event =>
    Prod.fst <$> State.rebase t id owner changedAt submitted queued rebased event

/-- The call that publishes. -/
def PublicationCall.publishes : PublicationCall → Bool
  | publishPromotion .. => true
  | _ => false

/-- The tables after a call; a call that raises changes nothing. -/
def PublicationCall.exec (t : Tables) (call : PublicationCall) : Tables :=
  match call.run t with
  | .ok t' => t'
  | .error _ => t

/-- The tables after a sequence of calls. -/
def runCalls (t : Tables) (calls : List PublicationCall) : Tables :=
  calls.foldl PublicationCall.exec t

/-- A successful call is a call step of the queue. -/
lemma PublicationCall.callStep {t t' : Tables} {call : PublicationCall}
    (hids : (ids t.publicationQueue).Nodup) (h : call.run t = .ok t') :
    CallStep t.publicationQueue t'.publicationQueue := by
  cases call with
  | enqueue submitted queued =>
    simp only [run, map_eq_ok, Prod.exists] at h
    obtain ⟨a, entry, h, rfl⟩ := h
    rcases enqueue_ok h with rfl | ⟨-, -, hstep, -⟩
    · exact Or.inl rfl
    · exact Or.inr (Or.inl hstep)
  | claimNext owner claimedAt event =>
    simp only [run, map_eq_ok, Prod.exists] at h
    obtain ⟨a, result, h, rfl⟩ := h
    rcases claimNext_ok hids h with ⟨rfl, -⟩ |
      ⟨row, e, entry, -, -, -, -, -, -, hfound, howner, hadmissible, hqueue⟩
    · exact Or.inl rfl
    · rw [hqueue]
      exact Or.inr (Or.inl (.update _ hfound howner hadmissible))
  | advance id owner target changedAt event =>
    simp only [run, map_eq_ok, Prod.exists] at h
    obtain ⟨a, entry, h, rfl⟩ := h
    obtain ⟨row, e, -, -, -, hchange⟩ := advance_ok hids h
    exact Or.inr (Or.inl hchange.queueStep)
  | heartbeat id owner changedAt event =>
    simp only [run, map_eq_ok, Prod.exists] at h
    obtain ⟨a, entry, h, rfl⟩ := h
    obtain ⟨row, e, -, hchange⟩ := heartbeat_ok hids h
    exact Or.inr (Or.inl hchange.queueStep)
  | prepare id owner prepared =>
    simp only [run, map_eq_ok, Prod.exists] at h
    obtain ⟨a, entry, h, rfl⟩ := h
    exact Or.inl (prepare_ok h).1
  | publishPromotion id owner changedAt declaration delta event =>
    simp only [run, map_eq_ok, Prod.exists] at h
    obtain ⟨a, entry, h, rfl⟩ := h
    obtain ⟨row, e, -, -, -, hchange⟩ := publishPromotion_ok hids h
    exact Or.inr (Or.inl hchange.queueStep)
  | failPromotion id owner changedAt failure event =>
    simp only [run, map_eq_ok, Prod.exists] at h
    obtain ⟨a, entry, h, rfl⟩ := h
    obtain ⟨row, e, -, -, hchange⟩ := failPromotion_ok hids h
    exact Or.inr (Or.inl hchange.queueStep)
  | recoverExpiredPromotion owner now staleBefore event =>
    simp only [run, map_eq_ok, Prod.exists] at h
    obtain ⟨a, result, h, rfl⟩ := h
    rcases recoverExpiredPromotion_ok hids h with ⟨rfl, -⟩ |
      ⟨row, e, entry, -, -, -, -, -, -, hfound, howner, hactive, hqueue⟩
    · exact Or.inl rfl
    · rw [hqueue]
      exact Or.inr (Or.inl (.update _ hfound howner (Or.inr ⟨hactive, Or.inl rfl⟩)))
  | rebase id owner changedAt submitted queued rebased event =>
    simp only [run, map_eq_ok, Prod.exists] at h
    obtain ⟨a, e₁, e₂, h, rfl⟩ := h
    obtain ⟨row, e, newId, -, -, -, -, hfound, rfl, -, hactive, howner, -, hfresh, hqueue⟩ :=
      rebase_ok hids h
    refine Or.inr (Or.inr ⟨_, newId, .update _ hfound howner (Or.inr ⟨hactive, Or.inr ?_⟩),
      by simpa using hfresh, hqueue⟩)
    cases hs : row.state <;> simp [hs, PublicationQueueState.isActive] at hactive <;> rfl

/-- A call other than `publish_promotion` publishes nothing. -/
lemma PublicationCall.isPublished {t t' : Tables} {call : PublicationCall}
    (hids : (ids t.publicationQueue).Nodup) (h : call.run t = .ok t')
    (hcall : call.publishes = false) (id : String) :
    IsPublished t'.publicationQueue id ↔ IsPublished t.publicationQueue id := by
  cases call with
  | enqueue submitted queued =>
    simp only [run, map_eq_ok, Prod.exists] at h
    obtain ⟨a, entry, h, rfl⟩ := h
    rcases enqueue_ok h with rfl | ⟨-, -, -, newId, -, -, -, hqueue⟩
    · rfl
    · rw [hqueue, isPublished_append_queued]
  | claimNext owner claimedAt event =>
    simp only [run, map_eq_ok, Prod.exists] at h
    obtain ⟨a, result, h, rfl⟩ := h
    rcases claimNext_ok hids h with ⟨rfl, -⟩ |
      ⟨row, e, entry, -, -, -, hqueued, -, -, hfound, -, -, hqueue⟩
    · rfl
    · have hstate : row.state ≠ .published := by simp [hqueued]
      rw [hqueue, isPublished_updateRows hids hfound hstate]
      simp
  | advance contributionId owner target changedAt event =>
    simp only [run, map_eq_ok, Prod.exists] at h
    obtain ⟨a, entry, h, rfl⟩ := h
    obtain ⟨row, e, -, htarget, -, hchange⟩ := advance_ok hids h
    rw [hchange.isPublished hids]
    simp [htarget]
  | heartbeat contributionId owner changedAt event =>
    simp only [run, map_eq_ok, Prod.exists] at h
    obtain ⟨a, entry, h, rfl⟩ := h
    obtain ⟨row, e, -, hchange⟩ := heartbeat_ok hids h
    have hstate := PublicationQueueState.ne_published_of_isActive hchange.admissible.1
    rw [hchange.isPublished hids]
    simp [hstate]
  | prepare contributionId owner prepared =>
    simp only [run, map_eq_ok, Prod.exists] at h
    obtain ⟨a, entry, h, rfl⟩ := h
    rw [(prepare_ok h).1]
  | publishPromotion contributionId owner changedAt declaration delta event =>
    simp [publishes] at hcall
  | failPromotion contributionId owner changedAt failure event =>
    simp only [run, map_eq_ok, Prod.exists] at h
    obtain ⟨a, entry, h, rfl⟩ := h
    obtain ⟨row, e, -, -, hchange⟩ := failPromotion_ok hids h
    rw [hchange.isPublished hids]
    simp
  | recoverExpiredPromotion owner now staleBefore event =>
    simp only [run, map_eq_ok, Prod.exists] at h
    obtain ⟨a, result, h, rfl⟩ := h
    rcases recoverExpiredPromotion_ok hids h with ⟨rfl, -⟩ |
      ⟨row, e, entry, -, -, -, -, -, -, hfound, -, hactive, hqueue⟩
    · rfl
    · have hstate := PublicationQueueState.ne_published_of_isActive hactive
      rw [hqueue, isPublished_updateRows hids hfound hstate]
      simp [hstate]
  | rebase contributionId owner changedAt submitted queued rebased event =>
    simp only [run, map_eq_ok, Prod.exists] at h
    obtain ⟨a, e₁, e₂, h, rfl⟩ := h
    obtain ⟨row, e, newId, -, -, -, -, hfound, rfl, -, hactive, -, -, -, hqueue⟩ :=
      rebase_ok hids h
    have hstate := PublicationQueueState.ne_published_of_isActive hactive
    rw [hqueue, isPublished_append_queued, isPublished_updateRows hids hfound hstate]
    simp

/-- A call, successful or not, is a call step of the queue. -/
lemma PublicationCall.exec_callStep (t : Tables) (call : PublicationCall)
    (hids : (ids t.publicationQueue).Nodup) :
    CallStep t.publicationQueue (call.exec t).publicationQueue := by
  unfold exec
  split
  · rename_i t' h
    exact call.callStep hids h
  · exact Or.inl rfl

/-- The protocol is kept by every sequence of calls. -/
lemma runCalls_protocol {t : Tables} (hinv : QueueProtocol t.publicationQueue)
    (calls : List PublicationCall) : QueueProtocol (runCalls t calls).publicationQueue := by
  induction calls generalizing t with
  | nil => exact hinv
  | cons call calls ih => exact ih ((call.exec_callStep t hinv.ids_nodup).protocol hinv)

/-- A published or quarantined row stays as it is in every sequence of calls. -/
lemma runCalls_mem_of_terminal {t : Tables} (hinv : QueueProtocol t.publicationQueue)
    (calls : List PublicationCall) {row : PublicationQueueRow} (hrow : row ∈ t.publicationQueue)
    (hterminal : row.state.isTerminal = true) :
    row ∈ (runCalls t calls).publicationQueue := by
  induction calls generalizing t with
  | nil => exact hrow
  | cons call calls ih =>
    have hstep := call.exec_callStep t hinv.ids_nodup
    exact ih (hstep.protocol hinv) (hstep.mem_of_terminal hinv.ids_nodup hrow hterminal)

omit [CharacterDatabase] in
lemma queueProtocol_initial : QueueProtocol initialTables.publicationQueue :=
  ⟨by simp [initialTables, ids], by simp [initialTables], by simp [initialTables],
    by simp [initialTables]⟩

/-- **The publication queue protocol.**  After any sequence of calls from an empty store the queue
keeps its invariant; the next call takes every entry one step, which changes its state only along
the moves and its version by exactly one; published and quarantined entries never change again;
and a claim is made on the queued entry of smallest sequence. -/
theorem publication_queue_protocol (calls : List PublicationCall) :
    QueueProtocol (runCalls initialTables calls).publicationQueue ∧
    (∀ (call : PublicationCall), ∀ row ∈ (runCalls initialTables calls).publicationQueue,
      ∃ row' ∈ (runCalls initialTables (calls ++ [call])).publicationQueue, RowStep row row') ∧
    (∀ (more : List PublicationCall), ∀ row ∈ (runCalls initialTables calls).publicationQueue,
      row.state.isTerminal = true →
        row ∈ (runCalls initialTables (calls ++ more)).publicationQueue) ∧
    (∀ (owner : String) (claimedAt : Datetime) (event : EventFactory) (t' : Tables)
      (entry : PublicationQueueEntry),
      claimNext (runCalls initialTables calls) owner claimedAt event = .ok (t', some entry) →
        ∃ row ∈ (runCalls initialTables calls).publicationQueue,
          row.contributionId = entry.contributionId ∧ row.state = .queued ∧
          (∀ r ∈ (runCalls initialTables calls).publicationQueue, r.state = .queued →
            row.enqueueSequence ≤ r.enqueueSequence) ∧
          updatedRow row owner claimedAt .staged ∈ t'.publicationQueue) := by
  have hinv := runCalls_protocol queueProtocol_initial calls
  refine ⟨hinv, fun call row hrow => ?_, fun more row hrow hterminal => ?_,
    fun owner claimedAt event t' entry h => ?_⟩
  · have hstep := call.exec_callStep _ hinv.ids_nodup
    have happend : runCalls initialTables (calls ++ [call]) =
        call.exec (runCalls initialTables calls) := by
      simp [runCalls]
    rw [happend]
    exact hstep.rowStep hinv.ids_nodup hrow
  · have happend : runCalls initialTables (calls ++ more) =
        runCalls (runCalls initialTables calls) more := by
      simp [runCalls]
    rw [happend]
    exact runCalls_mem_of_terminal hinv more hrow hterminal
  · rcases claimNext_ok hinv.ids_nodup h with ⟨-, hnone⟩ |
      ⟨row, e, claimed, hclaimed, hid, -, hqueued, -, -, hfound, -, hadmissible, hqueue⟩
    · simp at hnone
    · obtain rfl := Option.some.inj hclaimed
      obtain ⟨hrow, -⟩ := findRow_some hfound
      have hfirst : ∀ r ∈ (runCalls initialTables calls).publicationQueue, r.state = .queued →
          row.enqueueSequence ≤ r.enqueueSequence := by
        rcases hadmissible with ⟨-, -, -, hfirst⟩ | ⟨hactive, -⟩
        · exact hfirst
        · rw [hqueued] at hactive
          simp [PublicationQueueState.isActive] at hactive
      refine ⟨row, hrow, hid.symm, hqueued, hfirst, ?_⟩
      rw [hqueue]
      exact mem_updateRows.2 ⟨row, hrow, by simp⟩

end Aizim.State
