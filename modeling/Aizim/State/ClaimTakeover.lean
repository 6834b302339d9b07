import Aizim.Framework.DatetimeOrder
import Aizim.State.Service

/-!
# Taking over expired claims

A recovery takes over the claim of an owner that has not been heard of since a given time.  The
database compares the two times as texts, and a whole second is printed without a fraction, so a
claim of the same second as the bound is misjudged when exactly one of the two is whole.

`takeover_respects_time_iff` says that this is all that goes wrong: in every reachable queue a
recovery takes over what it should, an entry claimed before the bound as an instant, and of these
the first, if and only if no claim of the queue is blurred with the bound.
-/

namespace Aizim.State

/-! ## Times of claims -/

/-- Every time of a claim is the text of a datetime. -/
def ClaimTimes (queue : List PublicationQueueRow) : Prop :=
  ∀ row ∈ queue, ∀ text, row.claimedAt = some text → ∃ time : Datetime, text = time.text

lemma QueueStep.claimTimes {queue queue' : List PublicationQueueRow} (h : QueueStep queue queue')
    (hinv : ClaimTimes queue) : ClaimTimes queue' := by
  cases h with
  | enqueue _ =>
    intro row hrow text htext
    rcases List.mem_append.1 hrow with hrow | hrow
    · exact hinv row hrow text htext
    · rw [List.mem_singleton.1 hrow] at htext
      simp [queuedRow] at htext
  | update claimedAt _ _ _ =>
    intro row' hrow' text htext
    obtain ⟨row, hrow, rfl⟩ := mem_updateRows.1 hrow'
    split at htext
    · exact ⟨claimedAt, (Option.some.inj htext).symm⟩
    · exact hinv row hrow text htext

lemma CallStep.claimTimes {queue queue' : List PublicationQueueRow} (h : CallStep queue queue')
    (hinv : ClaimTimes queue) : ClaimTimes queue' := by
  rcases h with rfl | h | ⟨queue₁, id, h, hid, rfl⟩
  · exact hinv
  · exact h.claimTimes hinv
  · exact (QueueStep.enqueue hid).claimTimes (h.claimTimes hinv)

variable [CharacterDatabase]

lemma runCalls_claimTimes {t : Tables} (hinv : QueueProtocol t.publicationQueue)
    (htimes : ClaimTimes t.publicationQueue) (calls : List PublicationCall) :
    ClaimTimes (runCalls t calls).publicationQueue := by
  induction calls generalizing t with
  | nil => exact htimes
  | cons call calls ih =>
    have hstep := call.exec_callStep t hinv.ids_nodup
    exact ih (hstep.protocol hinv) (hstep.claimTimes htimes)

/-! ## Takeovers -/

omit [CharacterDatabase] in
/-- The entry is claimed, and its claim is earlier than the bound as an instant. -/
def ClaimedBefore (staleBefore : Datetime) (row : PublicationQueueRow) : Prop :=
  row.claimedBy ≠ none ∧ row.state.isTerminal = false ∧
    ∃ time : Datetime, row.claimedAt = some time.text ∧ time < staleBefore

omit [CharacterDatabase] in
/-- A recovery takes over the first of the entries that were claimed before the bound, and none
only if there is none. -/
def TakesOverEarlier (queue : List PublicationQueueRow) (staleBefore : Datetime) :
    Option PublicationQueueEntry → Prop
  | none => ∀ row ∈ queue, ¬ ClaimedBefore staleBefore row
  | some entry => ∃ row ∈ queue, row.contributionId = entry.contributionId ∧
      ClaimedBefore staleBefore row ∧
      ∀ r ∈ queue, ClaimedBefore staleBefore r → row.enqueueSequence ≤ r.enqueueSequence

/-- A recovery finds no expired row, or goes for the first one. -/
lemma recoverExpiredPromotion_result {t t' : Tables} {owner : String} {now staleBefore : Datetime}
    {event : EventFactory} {result : Option PublicationQueueEntry}
    (hids : (ids t.publicationQueue).Nodup)
    (h : recoverExpiredPromotion t owner now staleBefore event = .ok (t', result)) :
    (result = none ∧ ∀ row ∈ t.publicationQueue, isExpired staleBefore row = false) ∨
      ∃ row ∈ t.publicationQueue, isExpired staleBefore row = true ∧
        (∀ r ∈ t.publicationQueue, isExpired staleBefore r = true →
          row.enqueueSequence ≤ r.enqueueSequence) ∧
        ∃ entry, result = some entry ∧ entry.contributionId = row.contributionId := by
  unfold recoverExpiredPromotion at h
  split at h
  · rename_i hnone
    simp only [pure_eq_ok, Prod.mk.injEq] at h
    have hempty := firstBySequence_eq_none.1 hnone
    refine Or.inl ⟨h.2.symm, fun row hrow => ?_⟩
    rw [List.filter_eq_nil_iff] at hempty
    exact Bool.eq_false_iff.2 (hempty row hrow)
  · rename_i row hrow
    obtain ⟨hmem, hfirst⟩ := firstBySequence_spec hrow
    rw [List.mem_filter] at hmem
    have hfound := findRow_of_mem hids hmem.1
    simp only [bind_eq_ok, pure_eq_ok, Prod.exists, Prod.mk.injEq] at h
    obtain ⟨current, hcurrent, t₁, recovered, hupdate, t₂, -, -, rfl⟩ := h
    obtain ⟨-, -, hid, -⟩ := updateEntry_ok hids hfound hcurrent hupdate
    refine Or.inr ⟨row, hmem.1, hmem.2, fun r hr hexpired => ?_, recovered, rfl, hid⟩
    exact hfirst r (List.mem_filter.2 ⟨hr, hexpired⟩)

omit [CharacterDatabase] in
lemma PublicationQueueState.isTerminal_of_isActive {s : PublicationQueueState}
    (h : s.isActive = true) : s.isTerminal = false := by
  cases s <;> first | rfl | simp [isActive] at h

omit [CharacterDatabase] in
/-- A claimed entry that is not finished is being worked on. -/
lemma QueueProtocol.isActive {queue : List PublicationQueueRow} (hinv : QueueProtocol queue)
    {row : PublicationQueueRow} (hrow : row ∈ queue) (hclaimed : row.claimedBy ≠ none)
    (hterminal : row.state.isTerminal = false) : row.state.isActive = true := by
  cases hs : row.state with
  | queued => exact absurd (hinv.queued_fresh row hrow hs).1 hclaimed
  | staged => rfl
  | verified => rfl
  | materialized => rfl
  | published => simp [hs, PublicationQueueState.isTerminal] at hterminal
  | quarantined => simp [hs, PublicationQueueState.isTerminal] at hterminal

omit [CharacterDatabase] in
lemma isExpired_iff {staleBefore : Datetime} {row : PublicationQueueRow} :
    isExpired staleBefore row = true ↔ row.claimedBy ≠ none ∧
      (∃ text, row.claimedAt = some text ∧ text < staleBefore.text) ∧ row.state.isActive = true := by
  simp only [isExpired, Bool.and_eq_true, Option.isSome_iff_ne_none, Option.any_eq_true,
    decide_eq_true_eq, and_assoc]

omit [CharacterDatabase] in
/-- Where the claim is not blurred with the bound, the two comparisons agree. -/
lemma isExpired_iff_claimedBefore {queue : List PublicationQueueRow} {staleBefore : Datetime}
    (hinv : QueueProtocol queue) (htimes : ClaimTimes queue) {row : PublicationQueueRow}
    (hrow : row ∈ queue) (hclear : row.claimedBy ≠ none → row.state.isTerminal = false →
      ∀ time : Datetime, row.claimedAt = some time.text → ¬ time.Blurred staleBefore) :
    isExpired staleBefore row = true ↔ ClaimedBefore staleBefore row := by
  rw [isExpired_iff]
  constructor
  · rintro ⟨hclaimed, ⟨text, htext, hlt⟩, hactive⟩
    obtain ⟨time, rfl⟩ := htimes row hrow text htext
    have hterminal := PublicationQueueState.isTerminal_of_isActive hactive
    have hagree := Datetime.text_lt_text_iff_lt.2 (hclear hclaimed hterminal time htext)
    exact ⟨hclaimed, hterminal, time, htext, hagree.1 hlt⟩
  · rintro ⟨hclaimed, hterminal, time, htime, hlt⟩
    have hagree := Datetime.text_lt_text_iff_lt.2 (hclear hclaimed hterminal time htime)
    exact ⟨hclaimed, ⟨_, htime, hagree.2 hlt⟩, hinv.isActive hrow hclaimed hterminal⟩

/-- **Takeovers and time.**  In every reachable queue a recovery takes over the first of the
entries that were claimed before the bound, as an instant, if and only if no claim of the queue is
of the same second as the bound with exactly one of the two whole. -/
theorem takeover_respects_time_iff (calls : List PublicationCall) {t' : Tables} {owner : String}
    {now staleBefore : Datetime} {event : EventFactory} {result : Option PublicationQueueEntry}
    (h : recoverExpiredPromotion (runCalls initialTables calls) owner now staleBefore event =
      .ok (t', result)) :
    TakesOverEarlier (runCalls initialTables calls).publicationQueue staleBefore result ↔
      ∀ row ∈ (runCalls initialTables calls).publicationQueue, row.claimedBy ≠ none →
        row.state.isTerminal = false → ∀ time : Datetime, row.claimedAt = some time.text →
          ¬ time.Blurred staleBefore := by
  have hinv := runCalls_protocol queueProtocol_initial calls
  have htimes : ClaimTimes (runCalls initialTables calls).publicationQueue :=
    runCalls_claimTimes queueProtocol_initial (by simp [ClaimTimes, initialTables]) calls
  have hresult := recoverExpiredPromotion_result hinv.ids_nodup h
  generalize (runCalls initialTables calls).publicationQueue = queue at hinv htimes hresult
  constructor
  · intro htakes row hrow hclaimed hterminal time htime hblurred
    have hactive := hinv.isActive hrow hclaimed hterminal
    -- no other row is active, so the recovery goes for this one or for none
    have hother : ∀ r ∈ queue, isExpired staleBefore r = true → r = row := fun r hr hexpired =>
      hinv.active_unique r hr row hrow (isExpired_iff.1 hexpired).2.2 hactive
    have hdisagree : ¬ (time.text < staleBefore.text ↔ time < staleBefore) := fun hagree =>
      Datetime.text_lt_text_iff_lt.1 hagree hblurred
    rcases hresult with ⟨rfl, hnone⟩ | ⟨found, hfound, hexpired, -, entry, rfl, hid⟩
    · apply hdisagree
      refine iff_of_false ?_ ?_
      · intro hlt
        have hexpired := isExpired_iff.2 ⟨hclaimed, ⟨_, htime, hlt⟩, hactive⟩
        rw [hnone row hrow] at hexpired
        simp at hexpired
      · intro hlt
        exact htakes row hrow ⟨hclaimed, hterminal, time, htime, hlt⟩
    · obtain rfl := hother found hfound hexpired
      obtain ⟨-, ⟨text, htext, hlt⟩, -⟩ := isExpired_iff.1 hexpired
      obtain ⟨taken, htaken, htakenId, ⟨-, -, instant, hinstant, hearlier⟩, -⟩ := htakes
      obtain rfl := List.inj_on_of_nodup_map hinv.ids_nodup htaken hfound (htakenId.trans hid)
      obtain rfl := Option.some.inj (htext.symm.trans htime)
      obtain rfl := Datetime.text_injective (Option.some.inj (hinstant.symm.trans htime))
      exact hdisagree (iff_of_true hlt hearlier)
  · intro hclear
    have hagree : ∀ r ∈ queue, isExpired staleBefore r = true ↔ ClaimedBefore staleBefore r :=
      fun r hr => isExpired_iff_claimedBefore hinv htimes hr (hclear r hr)
    rcases hresult with ⟨rfl, hnone⟩ | ⟨row, hrow, hexpired, hfirst, entry, rfl, hid⟩
    · intro row hrow hbefore
      have hexpired := (hagree row hrow).2 hbefore
      rw [hnone row hrow] at hexpired
      simp at hexpired
    · exact ⟨row, hrow, hid.symm, (hagree row hrow).1 hexpired, fun r hr hbefore =>
        hfirst r hr ((hagree r hr).2 hbefore)⟩

/-! ## A claim of a whole second -/

omit [CharacterDatabase] in
/-- A time of the minute after twelve o'clock. -/
def sampleTimeAt (second microsecond : Fin 60) : Datetime :=
  ⟨2026, 1, 1, 12, 0, second, microsecond, by revert second microsecond; decide⟩

omit [CharacterDatabase] in
/-- The stamp of a sample event, told from others by the last character of its id. -/
def sampleStampAt (c : Char) : Stamp :=
  ⟨"01ARZ3NDEKTSV4RRFFQ69G5FA" ++ String.ofList [c], sampleTimeAt 0 0⟩

omit [CharacterDatabase] in
lemma sampleRunId_ne : some "run" ≠ some "" := by decide

omit [CharacterDatabase] in
/-- The event with which a sample contribution enters the queue. -/
def sampleContribution (c : Char) (type : EventType)
    (hid : isUlid (sampleStampAt c).eventId = true)
    (hpayload : letI := asciiDatabase; validatePayload type [("contribution_id", .str "c")] = .ok ()) :
    letI := asciiDatabase; EventEnvelope :=
  letI := asciiDatabase
  ⟨(sampleStampAt c).eventId, type, sampleTimeAt 0 0, "worker", some "run", none,
    [("contribution_id", .str "c")], hid, by decide, sampleRunId_ne, none_ne_some "", hpayload⟩

omit [CharacterDatabase] in
/-- A contribution is submitted, and an owner claims it at twelve o'clock. -/
def sampleClaimCalls : letI := asciiDatabase; List PublicationCall :=
  letI := asciiDatabase
  [.enqueue (sampleContribution '0' .contributionSubmitted (by decide) (by decide))
     (sampleContribution '1' .contributionEnqueued (by decide) (by decide)),
   .claimNext "first" (sampleTimeAt 0 0) (StateService.promotionEvent (sampleStampAt '2'))]

omit [CharacterDatabase] in
/-- The row of the sample contribution. -/
def sampleClaimedRow : PublicationQueueRow :=
  ⟨1, "c", .staged, 1, some "first", some (sampleTimeAt 0 0).text⟩

omit [CharacterDatabase] in
lemma publicationQueue_sampleClaimCalls : letI := asciiDatabase
    (runCalls initialTables sampleClaimCalls).publicationQueue = [sampleClaimedRow] := by
  decide +kernel

omit [CharacterDatabase] in
/-- A recovery thirty microseconds into the second misses the claim. -/
theorem takeover_misses_whole_second : letI := asciiDatabase
    ∃ t', recoverExpiredPromotion (runCalls initialTables sampleClaimCalls) "second"
        (sampleTimeAt 5 0) (sampleTimeAt 0 30)
        (StateService.promotionEvent (sampleStampAt '3')) = .ok (t', none) ∧
      ¬ TakesOverEarlier (runCalls initialTables sampleClaimCalls).publicationQueue
        (sampleTimeAt 0 30) none := by
  let := asciiDatabase
  have hnone : firstBySequence ([sampleClaimedRow].filter (isExpired (sampleTimeAt 0 30))) =
      none := by
    decide +kernel
  refine ⟨runCalls initialTables sampleClaimCalls, ?_, ?_⟩
  · rw [recoverExpiredPromotion, publicationQueue_sampleClaimCalls, hnone]
    rfl
  · rw [publicationQueue_sampleClaimCalls]
    intro hnever
    apply hnever sampleClaimedRow (List.mem_singleton_self _)
    exact ⟨by decide, rfl, sampleTimeAt 0 0, rfl, by decide⟩

omit [CharacterDatabase] in
/-- A recovery in the next second takes it over. -/
theorem takeover_respects_time_sample : letI := asciiDatabase
    ∃ t' entry, recoverExpiredPromotion (runCalls initialTables sampleClaimCalls) "second"
        (sampleTimeAt 5 0) (sampleTimeAt 1 0)
        (StateService.promotionEvent (sampleStampAt '3')) = .ok (t', some entry) ∧
      TakesOverEarlier (runCalls initialTables sampleClaimCalls).publicationQueue
        (sampleTimeAt 1 0) (some entry) := by
  let := asciiDatabase
  have hrecovers : ((recoverExpiredPromotion (runCalls initialTables sampleClaimCalls) "second"
      (sampleTimeAt 5 0) (sampleTimeAt 1 0)
      (StateService.promotionEvent (sampleStampAt '3'))).toOption.bind Prod.snd).isSome = true := by
    decide +kernel
  obtain ⟨entry, hentry⟩ := Option.isSome_iff_exists.1 hrecovers
  obtain ⟨⟨t', result⟩, hresult, hsome⟩ := Option.bind_eq_some_iff.1 hentry
  obtain rfl : result = some entry := hsome
  have hrecover := toOption_eq_some.1 hresult
  refine ⟨t', entry, hrecover, (takeover_respects_time_iff sampleClaimCalls hrecover).2 ?_⟩
  rw [publicationQueue_sampleClaimCalls]
  intro row hrow _ _ time htime
  obtain rfl := List.mem_singleton.1 hrow
  obtain rfl := Datetime.text_injective (Option.some.inj htime)
  decide

end Aizim.State
