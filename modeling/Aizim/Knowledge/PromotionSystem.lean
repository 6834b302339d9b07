import Aizim.Framework.Pool
import Aizim.Knowledge.Promotion
import Aizim.State.AnnouncedPublications

/-!
# Promotions side by side

Any number of promotion services work on one store.  Each runs `promoteNext` or `recoverNext`, and
`promotionSystem` interleaves them: between any two steps of one the others, and all other users
of the store, can do anything they are able to do, and a run can be cut off at any step.  The
awaited calls and the files are answered in any way, and the store itself may refuse a
transaction.

The main result is `exactly_once_publication`: in every reachable state each contribution has been
published at most once, and exactly the published ones have their two events in the log, announced
by one preparation.
-/

namespace Aizim.Knowledge

open JsonValue JsonObject Domain State TransitionSystem

variable [CharacterDatabase]

/-! ## Steps -/

/-- A transaction of the store ended with this answer. -/
def Transacts {α : Type} (t : Tables) (result : Except StoreError (Tables × α))
    (answer : Except Fault α) (t' : Tables) : Prop :=
  match result with
  | .ok (t₁, a) => t' = t₁ ∧ answer = .ok a
  | .error e => t' = t ∧ answer = .error (.store e)

/-- What a step does to the store, where nothing outside fails.  The ids and times of events are
taken when they are made. -/
def handleRequest : (request : PromotionRequest) → Tables → Except Fault request.Answer →
    Tables → Prop
  | .snapshot, t, answer, t' => t' = t ∧ answer = .ok t
  | .claimNext owner, t, answer, t' => ∃ stamp now,
      Transacts t (StateService.claimNextPromotion t stamp now owner) answer t'
  | .recoverExpired owner claimTimeout, t, answer, t' => ∃ stamp now,
      Transacts t (StateService.recoverExpiredPromotion t stamp now owner claimTimeout) answer t'
  | .appendEvent command, t, answer, t' => ∃ stamp,
      Transacts t (State.appendEvent t stamp command) answer t'
  | .advance id owner target, t, answer, t' => ∃ stamp now,
      Transacts t (StateService.advancePromotion t stamp now id owner target) answer t'
  | .prepare id owner prepared, t, answer, t' => ∃ stamp,
      Transacts t (StateService.preparePromotion t stamp id owner prepared) answer t'
  | .publish id owner declaration delta, t, answer, t' => ∃ declarationStamp deltaStamp stamp now,
      Transacts t (StateService.publishPromotion t declarationStamp deltaStamp stamp now id owner
        declaration delta) answer t'
  | .fail id owner failure, t, answer, t' => ∃ failureStamp stamp now,
      Transacts t (StateService.failPromotion t failureStamp stamp now id owner failure) answer t'
  | .rebase id owner submitted rebased, t, answer, t' =>
      ∃ submittedStamp rebasedStamp queuedStamp stamp now,
        Transacts t (StateService.rebasePromotion t submittedStamp rebasedStamp queuedStamp stamp
          now id owner submitted rebased) answer t'
  | .file _, t, _, t' | .verify _ _, t, _, t' | .materialize _ _ _, t, _, t' |
    .activate _, t, _, t' => t' = t

/-- What a step does to the store; any step may also fail and leave the store. -/
def handleStep (request : PromotionRequest) (t : Tables) (answer : Except Fault request.Answer)
    (t' : Tables) : Prop :=
  handleRequest request t answer t' ∨ (t' = t ∧ ∃ fault, answer = .error fault)

/-- What an effect does to the store.  While a step with a heartbeat is pending its claim is
refreshed; a refused heartbeat ends the step with the exception of the heartbeat. -/
def handlePromotion : Program.Handler PromotionEffect PromotionAnswer Fault Tables
  | .step _, _, none, _ => False
  | .step request, t, some answer, t' => handleStep request t answer t'
  | .active id owner _, t, none, t' => ∃ stamp now entry,
      StateService.heartbeatPromotion t stamp now id owner = .ok (t', entry)
  | .active _ _ request, t, some answer, t' => handleStep request t answer t'

/-- The programs of the service: a promotion or a recovery by some owner. -/
def isPromotion (program : PromotionProgram (Option PromotionOutcome)) : Prop :=
  ∃ service : PromotionService, program = service.promoteNext ∨
    ∃ claimTimeout, program = service.recoverNext claimTimeout

/-- What the other users of the store do: any operation of the service, with any arguments, but the
events of a publication are appended by `prepare_promotion` and `publish_promotion` only. -/
def otherUse (t t' : Tables) : Prop := ∃ op : StateOp, op.Regular ∧ t' = op.exec t

/-- A store and the promotions that run on it. -/
abbrev PromotionPool :=
  Pool ℕ Tables PromotionEffect PromotionAnswer Fault (Option PromotionOutcome)

/-- Promotions on a new store. -/
def promotionSystem : TransitionSystem PromotionPool (PoolAction ℕ) :=
  poolSystem handlePromotion isPromotion otherUse (· = initialTables)

/-! ## Steps as operations -/

omit [CharacterDatabase] in
lemma Transacts.eq_or {α : Type} {t t' : Tables} {result : Except StoreError (Tables × α)}
    {answer : Except Fault α} (h : Transacts t result answer t') :
    t' = t ∨ ∃ a, result = .ok (t', a) := by
  unfold Transacts at h
  split at h
  · exact Or.inr ⟨_, by rw [h.1]⟩
  · exact Or.inl h.1

omit [CharacterDatabase] in
lemma Transacts.eq_ok {α : Type} {t t' : Tables} {result : Except StoreError (Tables × α)} {a : α}
    (h : Transacts t result (.ok a) t') : result = .ok (t', a) := by
  unfold Transacts at h
  split at h
  · obtain ⟨rfl, ha⟩ := h
    rw [Except.ok.inj ha]
  · simp at h

/-- A transaction that computed these tables is an operation of the service. -/
lemma eq_exec_of_run {α : Type} {t t' : Tables} {op : StateOp}
    {result : Except StoreError (Tables × α)} (hop : op.run t = Prod.fst <$> result)
    (h : t' = t ∨ ∃ a, result = .ok (t', a)) : t' = t ∨ t' = op.exec t := by
  rcases h with rfl | ⟨a, ha⟩
  · exact Or.inl rfl
  · have hrun : op.run t = .ok t' := by
      rw [hop, ha]
      rfl
    refine Or.inr ?_
    rw [StateOp.exec, hrun]

/-- The operation of the service that a step makes. -/
def PromotionRequest.Makes : PromotionRequest → StateOp → Prop
  | .claimNext owner, op => ∃ stamp now, op = .claimNextPromotion stamp now owner
  | .recoverExpired owner claimTimeout, op =>
    ∃ stamp now, op = .recoverExpiredPromotion stamp now owner claimTimeout
  | .appendEvent command, op => ∃ stamp, op = .appendEvent stamp command
  | .advance id owner target, op => ∃ stamp now, op = .advancePromotion stamp now id owner target
  | .prepare id owner prepared, op => ∃ stamp, op = .preparePromotion stamp id owner prepared
  | .publish id owner declaration delta, op => ∃ declarationStamp deltaStamp stamp now,
      op = .publishPromotion declarationStamp deltaStamp stamp now id owner declaration delta
  | .fail id owner failure, op => ∃ failureStamp stamp now,
      op = .failPromotion failureStamp stamp now id owner failure
  | .rebase id owner submitted rebased, op => ∃ submittedStamp rebasedStamp queuedStamp stamp now,
      op = .rebasePromotion submittedStamp rebasedStamp queuedStamp stamp now id owner submitted
        rebased
  | _, _ => False

/-- The operations that an effect makes: that of its step, or the heartbeat beside it. -/
def PromotionEffect.Makes : PromotionEffect → StateOp → Prop
  | step request, op => request.Makes op
  | active id owner request, op =>
    request.Makes op ∨ ∃ stamp now, op = .heartbeatPromotion stamp now id owner

/-- A step leaves the store or is the operation it makes. -/
lemma exists_op_of_step {request : PromotionRequest} {t t' : Tables}
    {answer : Except Fault request.Answer} (h : handleStep request t answer t') :
    t' = t ∨ ∃ op : StateOp, request.Makes op ∧ t' = op.exec t := by
  have hmakes : ∀ op : StateOp, request.Makes op → t' = t ∨ t' = op.exec t →
      t' = t ∨ ∃ op : StateOp, request.Makes op ∧ t' = op.exec t :=
    fun op hop h => h.imp_right fun h => ⟨op, hop, h⟩
  rcases h with h | ⟨rfl, -⟩
  swap
  · exact Or.inl rfl
  cases request with
  | snapshot => exact Or.inl h.1
  | claimNext owner =>
    obtain ⟨stamp, now, h⟩ := h
    exact hmakes (.claimNextPromotion stamp now owner) ⟨_, _, rfl⟩ (eq_exec_of_run rfl h.eq_or)
  | recoverExpired owner claimTimeout =>
    obtain ⟨stamp, now, h⟩ := h
    exact hmakes (.recoverExpiredPromotion stamp now owner claimTimeout) ⟨_, _, rfl⟩
      (eq_exec_of_run rfl h.eq_or)
  | appendEvent command =>
    obtain ⟨stamp, h⟩ := h
    exact hmakes (.appendEvent stamp command) ⟨_, rfl⟩ (eq_exec_of_run rfl h.eq_or)
  | advance id owner target =>
    obtain ⟨stamp, now, h⟩ := h
    exact hmakes (.advancePromotion stamp now id owner target) ⟨_, _, rfl⟩
      (eq_exec_of_run rfl h.eq_or)
  | prepare id owner prepared =>
    obtain ⟨stamp, h⟩ := h
    exact hmakes (.preparePromotion stamp id owner prepared) ⟨_, rfl⟩ (eq_exec_of_run rfl h.eq_or)
  | publish id owner declaration delta =>
    obtain ⟨declarationStamp, deltaStamp, stamp, now, h⟩ := h
    exact hmakes (.publishPromotion declarationStamp deltaStamp stamp now id owner declaration
      delta) ⟨_, _, _, _, rfl⟩ (eq_exec_of_run rfl h.eq_or)
  | fail id owner failure =>
    obtain ⟨failureStamp, stamp, now, h⟩ := h
    exact hmakes (.failPromotion failureStamp stamp now id owner failure) ⟨_, _, _, rfl⟩
      (eq_exec_of_run rfl h.eq_or)
  | rebase id owner submitted rebased =>
    obtain ⟨submittedStamp, rebasedStamp, queuedStamp, stamp, now, h⟩ := h
    exact hmakes (.rebasePromotion submittedStamp rebasedStamp queuedStamp stamp now id owner
      submitted rebased) ⟨_, _, _, _, _, rfl⟩ (eq_exec_of_run rfl h.eq_or)
  | file _ | verify _ _ | materialize _ _ _ | activate _ => exact Or.inl h

/-- An effect leaves the store or is an operation it makes. -/
lemma exists_op_of_handle {effect : PromotionEffect} {t t' : Tables}
    {r : Option (Except Fault (PromotionAnswer effect))} (h : handlePromotion effect t r t') :
    t' = t ∨ ∃ op : StateOp, effect.Makes op ∧ t' = op.exec t := by
  cases effect with
  | step request =>
    cases r with
    | none => exact h.elim
    | some answer => exact exists_op_of_step h
  | active id owner request =>
    cases r with
    | none =>
      obtain ⟨stamp, now, entry, h⟩ := h
      exact (eq_exec_of_run rfl (Or.inr ⟨entry, h⟩)).imp_right
        fun h => ⟨.heartbeatPromotion stamp now id owner, Or.inr ⟨_, _, rfl⟩, h⟩
    | some answer =>
      exact (exists_op_of_step h).imp_right fun ⟨op, hop, h⟩ => ⟨op, Or.inl hop, h⟩

/-- The steps of a promotion that a regular operation makes. -/
def PromotionRequest.Regular : PromotionRequest → Prop
  | .appendEvent command => ∀ type ∈ publicationTypes, command.eventType ≠ type.text
  | .publish _ _ declaration delta =>
    getEntry "module" delta.payload = getEntry "module" declaration.payload ∧
      getEntry "declaration_id" delta.payload = getEntry "declaration_id" declaration.payload
  | _ => True

/-- The effects of a promotion that regular operations make. -/
def PromotionEffect.Regular : PromotionEffect → Prop
  | step request => request.Regular
  | active _ _ request => request.Regular

omit [CharacterDatabase] in
lemma PromotionRequest.Makes.regular {request : PromotionRequest} {op : StateOp}
    (h : request.Makes op) (hregular : request.Regular) : op.Regular := by
  cases request with
  | claimNext _ | advance _ _ _ | recoverExpired _ _ =>
    obtain ⟨_, _, rfl⟩ := h
    trivial
  | appendEvent command =>
    obtain ⟨_, rfl⟩ := h
    exact hregular
  | prepare _ _ _ =>
    obtain ⟨_, rfl⟩ := h
    trivial
  | publish _ _ _ _ =>
    obtain ⟨_, _, _, _, rfl⟩ := h
    exact hregular
  | fail _ _ _ =>
    obtain ⟨_, _, _, rfl⟩ := h
    trivial
  | rebase _ _ _ _ =>
    obtain ⟨_, _, _, _, _, rfl⟩ := h
    trivial
  | _ => exact h.elim

omit [CharacterDatabase] in
lemma PromotionEffect.Makes.regular {effect : PromotionEffect} {op : StateOp}
    (h : effect.Makes op) (hregular : effect.Regular) : op.Regular := by
  cases effect with
  | step request => exact PromotionRequest.Makes.regular h hregular
  | active id owner request =>
    rcases h with h | ⟨_, _, rfl⟩
    · exact h.regular hregular
    · trivial

/-! ## What the programs perform -/

/-- The requests of a promotion other than to publish. -/
def PromotionRequest.Quiet : PromotionRequest → Prop
  | .publish _ _ _ _ => False
  | .appendEvent command => command.eventType = "PromotionVerificationRecorded"
  | _ => True

/-- The effects of a promotion other than to publish. -/
def PromotionEffect.Quiet : PromotionEffect → Prop
  | step request => request.Quiet
  | active _ _ request => request.Quiet

omit [CharacterDatabase] in
lemma regular_of_quiet (effect : PromotionEffect) (h : effect.Quiet) : effect.Regular := by
  have hrequest : ∀ request : PromotionRequest, request.Quiet → request.Regular := by
    intro request hquiet
    cases request with
    | appendEvent command =>
      intro type htype heq
      have hname : type.text = "PromotionVerificationRecorded" := heq.symm.trans hquiet
      simp only [publicationTypes, List.mem_cons, List.not_mem_nil, or_false] at htype
      rcases htype with rfl | rfl | rfl <;> exact absurd hname (by decide)
    | publish _ _ _ _ => exact hquiet.elim
    | _ => trivial
  cases effect with
  | step request => exact hrequest request h
  | active _ _ request => exact hrequest request h

lemma performs_perform {φ : PromotionEffect → Prop} {request : PromotionRequest}
    (h : φ (.step request)) : (perform request).Performs φ :=
  (Program.performs_request _).2 h

lemma onFiles_quiet {α : Type} (program : FileProgram α) :
    (onFiles program).Performs PromotionEffect.Quiet := by
  have hany : program.Performs fun _ => True := by
    induction program with
    | done a => trivial
    | raise e => trivial
    | perform effect next ih => exact ⟨trivial, ih⟩
  exact hany.mapEffects fun _ _ => trivial

lemma active_quiet {α : Type} {id owner : String} {program : PromotionProgram α}
    (h : program.Performs PromotionEffect.Quiet) :
    (active id owner program).Performs PromotionEffect.Quiet :=
  h.mapEffects fun effect heffect => by cases effect <;> exact heffect

lemma snapshot_quiet : snapshot.Performs PromotionEffect.Quiet :=
  performs_perform trivial

lemma preparePromotion_quiet (id owner : String) (prepared : AppendEventCommand) :
    (preparePromotion id owner prepared).Performs PromotionEffect.Quiet :=
  performs_perform trivial

lemma verify_quiet (source : Bytes) (name : String) :
    (verify source name).Performs PromotionEffect.Quiet :=
  performs_perform trivial

lemma activate_quiet (materialization : PromotionMaterialization) :
    (activate materialization).Performs PromotionEffect.Quiet :=
  performs_perform trivial

lemma findContribution_quiet (id : String) :
    (findContribution id).Performs PromotionEffect.Quiet :=
  snapshot_quiet.bind fun _ => Program.performs_lift _

lemma currentEpoch_quiet : currentEpoch.Performs PromotionEffect.Quiet :=
  snapshot_quiet.bind fun _ => Program.performs_lift _

lemma documentFor_quiet (payload : JsonObject) :
    (documentFor payload).Performs PromotionEffect.Quiet := by
  unfold documentFor
  refine .bind (Program.performs_lift _) fun _ => ?_
  exact snapshot_quiet.bind fun _ => Program.performs_pure _

lemma isStale_quiet (payload : JsonObject) (current : EpochPair) :
    (isStale payload current).Performs PromotionEffect.Quiet := by
  unfold isStale
  refine .bind (Program.performs_lift _) fun _ => .bind (Program.performs_lift _) fun _ => ?_
  split
  · exact Program.performs_pure _
  · refine .bind (Program.performs_lift _) fun _ => ?_
    split
    · exact Program.performs_pure _
    · refine (documentFor_quiet payload).bind fun document => ?_
      cases document with
      | none => exact Program.performs_pure _
      | some document =>
        refine .bind (Program.performs_lift _) fun _ => ?_
        exact .bind (Program.performs_lift _) fun _ => Program.performs_pure _

lemma quarantineFailure_quiet (owner id : String) (runId : Option String) (reason : String)
    (diagnostics axioms : List String) :
    (quarantineFailure owner id runId reason diagnostics axioms).Performs
      PromotionEffect.Quiet := by
  unfold quarantineFailure
  exact (onFiles_quiet _).bind fun _ => performs_perform trivial

lemma recordVerification_quiet (runId id : String) (evidence : PromotionEvidence) :
    (recordVerification runId id evidence).Performs PromotionEffect.Quiet := by
  unfold recordVerification
  exact .bind (performs_perform rfl) fun _ => Program.performs_pure _

lemma rebasePatch_quiet (payload document : JsonObject) (runId : String)
    (allowedImports : List String) :
    (rebasePatch payload document runId allowedImports).Performs PromotionEffect.Quiet := by
  unfold rebasePatch
  refine .bind (Program.performs_lift _) fun _ => .bind (Program.performs_lift _) fun _ => ?_
  refine (onFiles_quiet _).bind fun _ => .bind (Program.performs_lift _) fun _ => ?_
  refine .bind (Program.performs_lift _) fun _ => .bind (Program.performs_lift _) fun _ => ?_
  refine .bind (Program.performs_lift _) fun _ => .bind (Program.performs_lift _) fun _ => ?_
  refine .bind (Program.performs_lift _) fun _ => (onFiles_quiet _).bind fun _ => ?_
  exact Program.performs_pure _

namespace PromotionService

variable (service : PromotionService) (entry : PublicationQueueEntry)

lemma failEntry_quiet (runId : Option String) (reason : String)
    (evidence : Option PromotionEvidence) :
    (service.failEntry entry runId reason evidence).Performs PromotionEffect.Quiet := by
  unfold failEntry
  exact (quarantineFailure_quiet ..).bind fun _ => Program.performs_pure _

lemma rebasedPatch_quiet (runId : String) (payload : JsonObject) :
    (service.rebasedPatch runId payload).Performs PromotionEffect.Quiet := by
  unfold rebasedPatch
  refine .bind (Program.performs_lift _) fun _ => ?_
  split
  · refine (documentFor_quiet payload).bind fun document => ?_
    cases document with
    | none => exact Program.performs_throw _
    | some document => exact (rebasePatch_quiet ..).map
  · exact Program.performs_pure _

lemma rebaseEntry_quiet (runId : String) (payload : JsonObject) (current : EpochPair) :
    (service.rebaseEntry entry runId payload current).Performs PromotionEffect.Quiet := by
  unfold rebaseEntry
  refine (service.rebasedPatch_quiet runId payload).bind fun _ => ?_
  exact .bind (performs_perform trivial) fun _ => Program.performs_pure _

lemma materializeModule_quiet (module : ArtifactReference) (current : EpochPair) (sequence : ℕ) :
    (materializeModule module current sequence).Performs PromotionEffect.Quiet := by
  unfold materializeModule
  refine (onFiles_quiet _).bind fun _ => .bind (performs_perform trivial) fun _ => ?_
  exact .bind (Program.performs_lift _) fun _ => Program.performs_pure _

lemma advanceFrom_quiet (state target : PublicationQueueState) :
    (service.advanceFrom entry state target).Performs PromotionEffect.Quiet := by
  unfold advanceFrom
  by_cases h : entry.state = state
  · rw [if_pos h]
    exact performs_perform trivial
  · rw [if_neg h]
    exact Program.performs_pure _

/-- The events of one publication name one module and one declaration. -/
lemma publish_regular (runId : String) (payload : JsonObject) (current : EpochPair)
    (module : ArtifactReference) (materialization : PromotionMaterialization)
    (evidence : PromotionEvidence) (name : String) :
    (service.publish entry runId payload current module materialization evidence name).Performs
      PromotionEffect.Regular := by
  unfold publish
  refine .bind (Program.performs_lift _) fun _ => Program.performs_lift_bind fun publication h => ?_
  refine .bind (performs_perform trivial) fun _ => ?_
  refine .bind ((active_quiet (activate_quiet _)).mono regular_of_quiet) fun _ => ?_
  refine .bind (performs_perform ?_) fun _ => Program.performs_pure _
  exact publicationDelta_agree (mapError_eq_ok.1 h)

lemma promoteSource_regular (runId : String) (payload : JsonObject) (current : EpochPair) :
    (service.promoteSource entry runId payload current).Performs PromotionEffect.Regular := by
  unfold promoteSource
  refine .bind (Program.performs_lift _) fun _ => ?_
  refine .bind ((onFiles_quiet _).mono regular_of_quiet) fun _ => ?_
  refine .bind (Program.performs_lift _) fun _ => .bind (Program.performs_lift _) fun _ => ?_
  refine .bind (Program.performs_lift _) fun _ => ?_
  refine .bind ((active_quiet (verify_quiet ..)).mono regular_of_quiet) fun _ => ?_
  refine .bind ((recordVerification_quiet ..).mono regular_of_quiet) fun _ => ?_
  split
  · exact (service.failEntry_quiet ..).mono regular_of_quiet
  · refine .bind ((service.advanceFrom_quiet ..).mono regular_of_quiet) fun _ => ?_
    refine .bind ((onFiles_quiet _).mono regular_of_quiet) fun _ => ?_
    refine .bind ((service.advanceFrom_quiet ..).mono regular_of_quiet) fun _ => ?_
    refine .bind ((active_quiet (materializeModule_quiet ..)).mono regular_of_quiet) fun _ => ?_
    exact service.publish_regular ..

lemma promote_regular : (service.promote entry).Performs PromotionEffect.Regular := by
  unfold promote attempt
  refine .tryCatch ?_ fun fault => ?_
  · refine .bind ((findContribution_quiet _).mono regular_of_quiet) fun event => ?_
    refine .bind (currentEpoch_quiet.mono regular_of_quiet) fun current => ?_
    refine .bind (Program.performs_lift _) fun runId => ?_
    refine .bind ((isStale_quiet ..).mono regular_of_quiet) fun stale => ?_
    split
    · exact (service.rebaseEntry_quiet ..).mono regular_of_quiet
    · exact service.promoteSource_regular ..
  · refine .bind ?_ fun _ => (service.failEntry_quiet ..).mono regular_of_quiet
    exact ((findContribution_quiet _).bind fun _ => Program.performs_pure _).mono regular_of_quiet

end PromotionService

/-- Every promotion and every recovery performs regular effects only. -/
lemma isPromotion.regular {program : PromotionProgram (Option PromotionOutcome)}
    (h : isPromotion program) : program.Performs PromotionEffect.Regular := by
  have hentry : ∀ (service : PromotionService) (entry : Option PublicationQueueEntry),
      (service.promoteEntry entry).Performs PromotionEffect.Regular := by
    intro service entry
    cases entry with
    | none => exact Program.performs_pure _
    | some entry => exact (service.promote_regular entry).map
  obtain ⟨service, rfl | ⟨claimTimeout, rfl⟩⟩ := h
  · exact .bind (performs_perform trivial) fun entry => hentry service entry
  · exact .bind (performs_perform trivial) fun entry => hentry service entry

/-! ## Exactly once -/

/-- The publication invariant holds in every reachable state. -/
lemma publicationLog_of_reachable {w : PromotionPool} (h : promotionSystem.Reachable w) :
    PublicationLog w.state := by
  refine (pool_invariant (fun _ _ => True) (fun effect _ _ _ => effect.Regular)
    (fun _ => trivial) (fun _ _ _ _ _ => trivial) ?_ ?_ ?_ ?_ h).1
  · rintro t rfl
    exact publicationLog_initial
  · intro program hprogram t _
    exact hprogram.regular.meets fun _ _ _ _ hregular _ => hregular
  · intro effect t r t' hinv hhandle hregular
    refine ⟨?_, trivial⟩
    rcases exists_op_of_handle hhandle with rfl | ⟨op, hop, rfl⟩
    · exact hinv
    · exact hinv.exec (hop.regular hregular)
  · rintro t t' hinv ⟨op, hop, rfl⟩
    exact ⟨hinv.exec hop, trivial⟩

/-- **Exactly-once publication.**  In every reachable state of any number of interleaved, cut off
and recovered promotions, a contribution has at most one declaration and at most one delta in the
log; it is published in the queue exactly when it has both; and where it has one of them, it has
both, after exactly one preparation that announces them. -/
theorem exactly_once_publication {w : PromotionPool} (h : promotionSystem.Reachable w)
    (id : String) :
    (eventsOf w.state.toEventLog .declarationPublished id).length ≤ 1 ∧
    (eventsOf w.state.toEventLog .knowledgeDeltaPublished id).length ≤ 1 ∧
    (∀ row ∈ w.state.publicationQueue, row.contributionId = id →
      (row.state = .published ↔
        eventsOf w.state.toEventLog .declarationPublished id ≠ [] ∧
          eventsOf w.state.toEventLog .knowledgeDeltaPublished id ≠ [])) ∧
    (eventsOf w.state.toEventLog .declarationPublished id ≠ [] ∨
        eventsOf w.state.toEventLog .knowledgeDeltaPublished id ≠ [] →
      PublishedOnce w.state.toEventLog id) := by
  have hinv := publicationLog_of_reachable h
  by_cases hpublished : IsPublished w.state.publicationQueue id
  · obtain ⟨prepared, declaration, delta, -, hdeclaration, hdelta, -⟩ :=
      hinv.published id hpublished
    rw [hdeclaration, hdelta]
    refine ⟨le_rfl, le_rfl, fun row hrow hid => ?_, fun _ => hinv.published id hpublished⟩
    have hstate : row.state = .published := by
      obtain ⟨other, hother, hotherId, hotherState⟩ := hpublished
      rw [List.inj_on_of_nodup_map hinv.ids_nodup hrow hother (hid.trans hotherId.symm)]
      exact hotherState
    simp [hstate]
  · obtain ⟨hdeclaration, hdelta⟩ := hinv.unpublished id hpublished
    rw [hdeclaration, hdelta]
    refine ⟨Nat.zero_le _, Nat.zero_le _, fun row hrow hid => ?_, by simp⟩
    have hstate : row.state ≠ .published := fun heq => hpublished ⟨row, hrow, hid, heq⟩
    simp [hstate]

/-! ## A publication -/

/-- The time of the sample events. -/
def sampleTime : Datetime := ⟨2026, 1, 1, 12, 0, 0, 0, datetimeValid_noon⟩

/-- The stamp of a sample event, told from others by the last character of its id. -/
def sampleStamp (c : Char) : Stamp :=
  ⟨"01ARZ3NDEKTSV4RRFFQ69G5FA" ++ String.ofList [c], sampleTime⟩

/-- A sample hash. -/
def sampleHash : String := String.ofList (List.replicate 64 '0')

/-- A contribution is submitted and an owner claims it. -/
def sampleClaim : List StateOp :=
  [.enqueueContribution (sampleStamp '0') (sampleStamp '1')
     ⟨"ContributionSubmitted", "worker", some "run", none, [("contribution_id", .str "c")]⟩,
   .claimNextPromotion (sampleStamp '2') sampleTime "owner"]

/-- The owner publishes it. -/
def samplePublication : List StateOp :=
  sampleClaim ++
  [.advancePromotion (sampleStamp '3') sampleTime "c" "owner" .verified,
   .advancePromotion (sampleStamp '4') sampleTime "c" "owner" .materialized,
   .preparePromotion (sampleStamp '5') "c" "owner"
     ⟨"PromotionPrepared", "promotion_service", some "run", none,
      [("contribution_id", .str "c"), ("module", .str "m"), ("content_hash", .str sampleHash),
       ("base_epoch", .str sampleHash), ("knowledge_epoch", .int 1), ("declaration_id", .str "d"),
       ("delta_id", .str "k")]⟩,
   .publishPromotion (sampleStamp '6') (sampleStamp '7') (sampleStamp '8') sampleTime "c" "owner"
     ⟨"DeclarationPublished", "promotion_service", some "run", none,
      [("declaration_id", .str "d"), ("contribution_id", .str "c"), ("module", .str "m"),
       ("content_hash", .str sampleHash)]⟩
     ⟨"KnowledgeDeltaPublished", "promotion_service", some "run", none,
      [("delta_id", .str "k"), ("base_epoch", .str sampleHash), ("knowledge_epoch", .int 1),
       ("declaration_id", .str "d"), ("contribution_id", .str "c"), ("module", .str "m")]⟩]

omit [CharacterDatabase] in
/-- The sample contribution is published once, after one preparation. -/
theorem exactly_once_publication_sample :
    letI := asciiDatabase
    PublishedOnce (runOps initialTables samplePublication).toEventLog "c" := by
  let := asciiDatabase
  have hregular : ∀ op ∈ samplePublication, op.Regular := by
    simp [samplePublication, sampleClaim, StateOp.Regular, getEntry]
  have hpublished : (eventsOf (runOps initialTables samplePublication).toEventLog
      .declarationPublished "c").isEmpty = false := by
    decide +kernel
  have hinitial : promotionSystem.Reachable ⟨initialTables, fun _ => none⟩ :=
    .of_initial ⟨rfl, fun _ => rfl⟩
  have hreachable := reachable_foldl_environment hinitial
    fun op hop t => ⟨op, hregular op hop, rfl⟩
  refine (exactly_once_publication hreachable "c").2.2.2 (Or.inl ?_)
  exact List.isEmpty_eq_false_iff.1 hpublished

end Aizim.Knowledge
