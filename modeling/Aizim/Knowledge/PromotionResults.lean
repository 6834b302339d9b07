import Aizim.Knowledge.EpochChain

/-!
# What a promotion answers

An outcome that says published comes after a publication: the log then has the delta of the epoch
that the outcome names, whatever ran beside the promotion (`promoteNext_ensures`).
-/

namespace Aizim.Knowledge

open JsonValue JsonObject Domain State TransitionSystem

variable [CharacterDatabase]

/-! ## The store -/

/-- What every operation keeps of a store. -/
structure SoundStore (t : Tables) : Prop where
  log : WellFormedLog t.toEventLog
  queue : QueueProtocol t.publicationQueue

lemma soundStore_initial : SoundStore initialTables :=
  ⟨wellFormedLog_initial, queueProtocol_initial⟩

/-- A contribution is in the queue. -/
def IsEnqueued (t : Tables) (contributionId : String) : Prop :=
  contributionId ∈ ids t.publicationQueue

/-- A contribution that nobody has claimed. -/
def IsQueued (t : Tables) (contributionId : String) : Prop :=
  ∃ row ∈ t.publicationQueue, row.contributionId = contributionId ∧ row.state = .queued

/-- What the others do to a sound store: they append events, and entries neither leave the queue nor
are queued again. -/
def Grows (t t' : Tables) : Prop :=
  SoundStore t → SoundStore t' ∧ (∀ id, IsEnqueued t id → IsEnqueued t' id) ∧
    (∀ id, IsClaimed t id → IsClaimed t' id) ∧
    ∃ events, eventLogSystem.Run t.toEventLog events t'.toEventLog

lemma Grows.refl (t : Tables) : Grows t t :=
  fun h => ⟨h, fun _ => id, fun _ => id, [], .nil _⟩

lemma Grows.trans {t t₁ t₂ : Tables} (h : Grows t t₁) (h₁ : Grows t₁ t₂) : Grows t t₂ := by
  intro hsound
  obtain ⟨hsound₁, henqueued, hclaimed, events, hrun⟩ := h hsound
  obtain ⟨hsound₂, henqueued₁, hclaimed₁, events₁, hrun₁⟩ := h₁ hsound₁
  exact ⟨hsound₂, fun id hid => henqueued₁ id (henqueued id hid),
    fun id hid => hclaimed₁ id (hclaimed id hid), _, hrun.append hrun₁⟩

omit [CharacterDatabase] in
lemma isQueued_or_isClaimed {t : Tables} {id : String} (henqueued : IsEnqueued t id) :
    IsQueued t id ∨ IsClaimed t id := by
  obtain ⟨row, hrow, rfl⟩ := List.mem_map.1 henqueued
  by_cases hstate : row.state = .queued
  · exact .inl ⟨row, hrow, rfl, hstate⟩
  · exact .inr ⟨row, hrow, rfl, hstate⟩

/-- A claimed contribution is not queued. -/
lemma SoundStore.not_isQueued {t : Tables} (h : SoundStore t) {id : String}
    (hclaimed : IsClaimed t id) : ¬ IsQueued t id := by
  rintro ⟨row, hrow, rfl, hqueued⟩
  obtain ⟨row', hrow', hid, hstate⟩ := hclaimed
  have hfound := findRow_of_mem h.queue.ids_nodup hrow
  have hfound' := findRow_of_mem h.queue.ids_nodup hrow'
  rw [hid, hfound] at hfound'
  rw [Option.some.inj hfound'] at hqueued
  exact hstate hqueued

/-- Every operation of the service is such a change. -/
lemma grows_exec (t : Tables) (op : StateOp) : Grows t (op.exec t) := by
  intro h
  unfold StateOp.exec
  split
  swap
  · exact Grows.refl t h
  rename_i t' hrun
  obtain ⟨heffect, hqueue⟩ := StateOp.run_ok h.queue.ids_nodup hrun
  have hcall := hqueue.callStep h.queue.ids_nodup
  obtain ⟨events, hevents, -⟩ := heffect.exists_run
  refine ⟨⟨(rows_of_run h.log hevents).1, hcall.protocol h.queue⟩, fun id hid => ?_,
    fun id hid => ?_, events, hevents⟩
  · obtain ⟨row, hrow, rfl⟩ := List.mem_map.1 hid
    obtain ⟨row', hrow', hsame, -⟩ := hcall.rowStep h.queue.ids_nodup hrow
    exact List.mem_map.2 ⟨row', hrow', hsame⟩
  · obtain ⟨row, hrow, rfl, hstate⟩ := hid
    obtain ⟨row', hrow', hstep⟩ := hcall.rowStep h.queue.ids_nodup hrow
    exact ⟨row', hrow', hstep.1, (hstep.claimed hstate).1⟩

/-- So is every step of a promotion. -/
lemma grows_handle {effect : PromotionEffect} {t t' : Tables}
    {r : Option (Except Fault (PromotionAnswer effect))} (h : handlePromotion effect t r t') :
    Grows t t' := by
  rcases exists_op_of_handle h with rfl | ⟨op, -, rfl⟩
  · exact Grows.refl _
  · exact grows_exec t op

/-! ## Published epochs -/

/-- Whoever reads the deltas finds one of the epoch. -/
def HasEpoch (t : Tables) (epoch : ℕ) : Prop :=
  ∀ deltas, KnowledgeReader.publishedDeltas t.toEventLog = .ok deltas →
    ∃ delta ∈ deltas, delta.newEpoch.knowledgeEpoch = epoch

lemma HasEpoch.grows {t t' : Tables} {epoch : ℕ} (h : HasEpoch t epoch) (hsound : SoundStore t)
    (ht : Grows t t') : HasEpoch t' epoch := by
  intro deltas hdeltas
  obtain ⟨-, -, -, events, hrun⟩ := ht hsound
  rw [publishedDeltas_of_run hsound.log hrun] at hdeltas
  simp only [bind_eq_ok, pure_eq_ok] at hdeltas
  obtain ⟨old, hold, new, -, rfl⟩ := hdeltas
  obtain ⟨delta, hdelta, hepoch⟩ := h old hold
  exact ⟨delta, List.mem_append_left _ hdelta, hepoch⟩

/-- A published epoch is read by those who wait for it, or for an earlier one. -/
lemma HasEpoch.read_ne {t : Tables} {epoch : ℕ} (h : HasEpoch t epoch) {after : ℤ}
    (hafter : after < epoch) : KnowledgeReader.read t after ≠ .ok [] := by
  intro hread
  simp only [KnowledgeReader.read, bind_eq_ok, require_eq_ok, pure_eq_ok, exists_and_left,
    exists_const] at hread
  obtain ⟨-, deltas, hdeltas, hfilter⟩ := hread
  obtain ⟨delta, hdelta, hepoch⟩ := h deltas hdeltas
  have hnot := List.filter_eq_nil_iff.1 hfilter delta hdelta
  rw [decide_eq_true_iff, hepoch] at hnot
  exact hnot hafter

/-- A publication that succeeds. -/
lemma hasEpoch_of_publish {t t' : Tables} {declarationStamp deltaStamp stamp : Stamp}
    {now : Datetime} {id owner runId newBaseEpoch : String} {entry : PublicationQueueEntry}
    {r : PublicationRecord} {current : EpochPair} {module : ArtifactReference}
    {publication : PublicationDelta} (hsound : SoundStore t)
    (hp : publicationDelta r runId current newBaseEpoch module = .ok publication)
    (h : StateService.publishPromotion t declarationStamp deltaStamp stamp now id owner
      publication.declaration publication.delta = .ok (t', entry)) :
    HasEpoch t' publication.newEpoch.knowledgeEpoch := by
  obtain ⟨declarationEvent, deltaEvent, -, hdelta, -, htype, -, -, h⟩ :=
    StateService.publishPromotion_ok h
  obtain ⟨row, e, -, -, -, howner⟩ := State.publishPromotion_ok hsound.queue.ids_nodup h
  obtain ⟨delta, hread, -, hepoch, -⟩ := deltaOf_publication hp hdelta
  have hnew : publication.newEpoch.knowledgeEpoch = current.knowledgeEpoch + 1 := by
    simp only [publicationDelta, bind_eq_ok, pure_eq_ok] at hp
    obtain ⟨newEpoch, hpair, rfl⟩ := hp
    have hvalue := (newEpochPair_eq_ok.1 hpair).2
    exact_mod_cast hvalue
  intro deltas hdeltas
  rw [publishedDeltas_of_run hsound.log howner.appends.run] at hdeltas
  simp only [bind_eq_ok, pure_eq_ok] at hdeltas
  obtain ⟨old, -, new, hdeltas, rfl⟩ := hdeltas
  have hmem : deltaEvent ∈ [declarationEvent, deltaEvent, e].filter
        fun e => e.eventType == .knowledgeDeltaPublished :=
    List.mem_filter.2 ⟨List.mem_cons_of_mem _ List.mem_cons_self, beq_iff_eq.2 htype⟩
  obtain ⟨found, hfound, heq⟩ := exists_of_forall₂_left (mapM_eq_ok.1 hdeltas) hmem
  rw [hread] at heq
  cases heq
  exact ⟨delta, List.mem_append_right _ hfound, hepoch.trans hnew.symm⟩

/-! ## Outcomes -/

/-- The store has the epoch of an outcome that says published. -/
def Announced (outcome : PromotionOutcome) (t : Tables) : Prop :=
  outcome.state = .published → ∃ pair, outcome.newEpoch = some pair ∧ HasEpoch t pair.knowledgeEpoch

lemma Announced.grows {outcome : PromotionOutcome} {t t' : Tables} (h : Announced outcome t)
    (hsound : SoundStore t) (ht : Grows t t') : Announced outcome t' := by
  intro hpublished
  obtain ⟨pair, hpair, hepoch⟩ := h hpublished
  exact ⟨pair, hpair, hepoch.grows hsound ht⟩

/-- However a program of the service ends beside others, the store is sound, and a result of it is as
the postcondition says. -/
def EnsuresSound {α : Type} (program : PromotionProgram α) (result : α → Tables → Prop)
    (t : Tables) : Prop :=
  program.Meets handlePromotion Grows (fun _ _ _ _ => True)
    (fun r t => SoundStore t ∧ ∀ a, r = .ok a → result a t) t

section

variable {α β : Type} {program : PromotionProgram α} {result : α → Tables → Prop} {t : Tables}

lemma ensuresSound_pure {a : α} (h : SoundStore t) (hresult : ∀ t', Grows t t' → result a t') :
    EnsuresSound (pure a) result t := by
  refine Program.meets_pure fun t' ht' => ⟨(ht' h).1, fun b hb => ?_⟩
  rw [← Except.ok.inj hb]
  exact hresult t' ht'

lemma ensuresSound_raise {e : Fault} (h : SoundStore t) :
    EnsuresSound (Program.raise e) result t := by
  refine Program.meets_raise fun t' ht' => ⟨(ht' h).1, fun b hb => ?_⟩
  cases hb

/-- After a computation without effects only its result matters. -/
lemma ensuresSound_lift_bind {x : Except Fault β} {next : β → PromotionProgram α} (h : SoundStore t)
    (hnext : ∀ b, x = .ok b → EnsuresSound (next b) result t) :
    EnsuresSound ((MonadLiftT.monadLift x : PromotionProgram β) >>= next) result t := by
  cases x with
  | ok b => exact hnext b rfl
  | error e => exact ensuresSound_raise h

lemma EnsuresSound.bind {next : α → PromotionProgram β} {result' : β → Tables → Prop}
    (h : EnsuresSound program result t)
    (hnext : ∀ a t, SoundStore t → result a t → EnsuresSound (next a) result' t) :
    EnsuresSound (program >>= next) result' t := by
  refine Program.Meets.bind Grows.refl (Program.Meets.mono h ?_)
  rintro r t ⟨hsound, hr⟩
  cases r with
  | ok a => exact hnext a t hsound (hr a rfl)
  | error e => exact ensuresSound_raise hsound

lemma EnsuresSound.tryCatch {handler : Fault → PromotionProgram α}
    (h : EnsuresSound program result t)
    (hresult : ∀ a t t', SoundStore t → Grows t t' → result a t → result a t')
    (hhandler : ∀ e t, SoundStore t → EnsuresSound (handler e) result t) :
    EnsuresSound (tryCatchThe Fault program handler) result t := by
  refine Program.Meets.tryCatch Grows.refl (Program.Meets.mono h ?_)
  rintro r t ⟨hsound, hr⟩
  cases r with
  | ok a =>
    exact fun t' ht' => ⟨(ht' hsound).1, fun b hb => hresult b t t' hsound ht' (hr b hb)⟩
  | error e => exact hhandler e t hsound

/-- Every program keeps the store sound. -/
lemma ensuresSound_any (program : PromotionProgram α) (h : SoundStore t) :
    EnsuresSound program (fun _ _ => True) t := by
  induction program generalizing t with
  | done a => exact ensuresSound_pure h fun _ _ => trivial
  | raise e => exact ensuresSound_raise h
  | perform effect next ih =>
    intro t₁ ht₁ r t₂ hhandle
    refine ⟨trivial, ?_⟩
    cases r with
    | none => trivial
    | some answer => exact ih answer (grows_handle hhandle (ht₁ h).1).1

/-- One step, where the result follows from what the step did. -/
lemma ensuresSound_perform (request : PromotionRequest)
    {result : request.Answer → Tables → Prop} (h : SoundStore t)
    (hresult : ∀ t₁ answer t₂ t₃, SoundStore t₁ → SoundStore t₂ →
      handleRequest request t₁ (.ok answer) t₂ → Grows t₂ t₃ → result answer t₃) :
    EnsuresSound (perform request) result t := by
  refine Program.meets_request fun t₁ ht₁ r t₂ hhandle => ⟨trivial, ?_⟩
  have h₂ := (grows_handle hhandle (ht₁ h).1).1
  intro answer hanswer t₃ ht₃
  refine ⟨(ht₃ h₂).1, fun a ha => ?_⟩
  subst hanswer ha
  rcases hhandle with hhandle | ⟨-, fault, hfault⟩
  · exact hresult t₁ a t₂ t₃ (ht₁ h).1 h₂ hhandle ht₃
  · cases hfault

end

/-- A failed promotion leaves its entry in quarantine. -/
lemma state_of_fail {t t' : Tables} {id owner : String} {changedAt : Datetime}
    {failure : EventEnvelope} {event : EventFactory} {entry : PublicationQueueEntry}
    (hids : (ids t.publicationQueue).Nodup)
    (h : State.failPromotion t id owner changedAt failure event = .ok (t', entry)) :
    entry.state = .quarantined := by
  simp only [State.failPromotion, bind_eq_ok, require_eq_ok, pure_eq_ok, exists_and_left,
    exists_const, Prod.exists, Prod.mk.injEq] at h
  obtain ⟨current, hcurrent, -, t₁, changed, hupdate, t₂, -, e, -, t₃, -, -, rfl⟩ := h
  obtain ⟨row, hfound, rfl, hentry⟩ := currentEntry_ok hcurrent
  obtain ⟨-, -, -, -, hstate, -⟩ := updateEntry_ok hids hfound hentry hupdate
  exact hstate

namespace PromotionService

variable (service : PromotionService) {entry : PublicationQueueEntry} {t : Tables}

lemma failEntry_ensures (h : SoundStore t) (runId : Option String) (reason : String)
    (evidence : Option PromotionEvidence) :
    EnsuresSound (service.failEntry entry runId reason evidence) Announced t := by
  have hquarantine : EnsuresSound (quarantineFailure service.ownerId entry.contributionId runId reason
      ((evidence.map fun e => e.diagnostics ++ e.sourceScanWarnings).getD [])
      ((evidence.map PromotionEvidence.axioms).getD []))
      (fun quarantined _ => quarantined.state = .quarantined) t := by
    unfold quarantineFailure
    refine (ensuresSound_any _ h).bind fun artifact t h _ => ?_
    refine ensuresSound_perform _ h fun t₁ quarantined t₂ t₃ h₁ h₂ hhandle ht₃ => ?_
    obtain ⟨failureStamp, stamp, now, hfail⟩ := hhandle
    obtain ⟨event, -, -, hfail⟩ := StateService.failPromotion_ok hfail.eq_ok
    exact state_of_fail h₁.queue.ids_nodup hfail
  unfold failEntry
  refine hquarantine.bind fun quarantined t h hstate => ?_
  refine ensuresSound_pure h fun t' ht' hpublished => ?_
  rw [hstate] at hpublished
  cases hpublished

lemma rebaseEntry_ensures (h : SoundStore t) (runId : String) (payload : JsonObject)
    (current : EpochPair) :
    EnsuresSound (service.rebaseEntry entry runId payload current) Announced t := by
  unfold rebaseEntry
  refine (ensuresSound_any _ h).bind fun _ t h _ => (ensuresSound_any _ h).bind fun _ t h _ => ?_
  refine ensuresSound_pure h fun t' ht' hpublished => ?_
  cases hpublished

lemma publish_ensuresSound (h : SoundStore t) (runId : String) (payload : JsonObject)
    (current : EpochPair) (module : ArtifactReference) (materialization : PromotionMaterialization)
    (evidence : PromotionEvidence) (name : String) :
    EnsuresSound
      (service.publish entry runId payload current module materialization evidence name)
      Announced t := by
  unfold publish
  refine ensuresSound_lift_bind h fun _ _ => ensuresSound_lift_bind h fun publication hp => ?_
  refine (ensuresSound_any _ h).bind fun _ t h _ => (ensuresSound_any _ h).bind fun _ t h _ => ?_
  have hpublish : EnsuresSound (publishPromotion entry.contributionId service.ownerId
      publication.declaration publication.delta)
      (fun _ t => HasEpoch t publication.newEpoch.knowledgeEpoch) t := by
    refine ensuresSound_perform _ h fun t₁ published t₂ t₃ h₁ h₂ hhandle ht₃ => ?_
    obtain ⟨declarationStamp, deltaStamp, stamp, now, htransacts⟩ := hhandle
    exact (hasEpoch_of_publish h₁ (mapError_eq_ok.1 hp) htransacts.eq_ok).grows h₂ ht₃
  refine hpublish.bind fun published t h hepoch => ?_
  refine ensuresSound_pure h fun t' ht' _ => ?_
  exact ⟨publication.newEpoch, rfl, hepoch.grows h ht'⟩

lemma promoteSource_ensuresSound (h : SoundStore t) (runId : String) (payload : JsonObject)
    (current : EpochPair) :
    EnsuresSound (service.promoteSource entry runId payload current) Announced t := by
  unfold promoteSource
  refine ensuresSound_lift_bind h fun _ _ => (ensuresSound_any _ h).bind fun _ t h _ => ?_
  refine ensuresSound_lift_bind h fun _ _ => ensuresSound_lift_bind h fun _ _ => ?_
  refine ensuresSound_lift_bind h fun _ _ => (ensuresSound_any _ h).bind fun _ t h _ => ?_
  refine (ensuresSound_any _ h).bind fun _ t h _ => ?_
  split
  · exact service.failEntry_ensures h ..
  · refine (ensuresSound_any _ h).bind fun _ t h _ => (ensuresSound_any _ h).bind fun _ t h _ => ?_
    refine (ensuresSound_any _ h).bind fun _ t h _ => (ensuresSound_any _ h).bind fun _ t h _ => ?_
    exact service.publish_ensuresSound h ..

lemma promote_ensuresSound (h : SoundStore t) :
    EnsuresSound (service.promote entry) Announced t := by
  unfold promote attempt
  refine EnsuresSound.tryCatch ?_ (fun _ _ _ hsound ht h => h.grows hsound ht) fun fault t h => ?_
  · refine (ensuresSound_any _ h).bind fun event t h _ => ?_
    refine (ensuresSound_any _ h).bind fun current t h _ => ensuresSound_lift_bind h fun runId _ => ?_
    refine (ensuresSound_any _ h).bind fun stale t h _ => ?_
    split
    · exact service.rebaseEntry_ensures h ..
    · exact service.promoteSource_ensuresSound h ..
  · exact (ensuresSound_any _ h).bind fun runId t h _ => service.failEntry_ensures h ..

/-- **Specification of `promoteNext`.** -/
theorem promoteNext_ensures (h : SoundStore t) :
    EnsuresSound service.promoteNext
      (fun outcome t => ∀ o, outcome = some o → Announced o t) t := by
  unfold promoteNext
  refine (ensuresSound_any _ h).bind fun entry t h _ => ?_
  cases entry with
  | none =>
    refine ensuresSound_pure h fun _ _ o ho => ?_
    cases ho
  | some entry =>
    refine (service.promote_ensuresSound h).bind fun outcome t h ho => ?_
    refine ensuresSound_pure h fun t' ht' o heq => ?_
    rw [← Option.some.inj heq]
    exact ho.grows h ht'

end PromotionService

end Aizim.Knowledge
