import Aizim.Orchestration.ControllerSystem

/-!
# The protocol of executions

What each step of the controller does to the records of executions and of the runtime, the invariant
of `controllerSystem` that follows, and `controller_executions`.
-/

namespace Aizim.Orchestration

open JsonValue JsonObject Domain State TransitionSystem

variable [CharacterDatabase] {t t' : Tables}

/-! ## Records of a projection -/

omit [CharacterDatabase] in
lemma mem_projectionsOf {table : ProjectionTable} {projection : ProjectionName}
    {record : ProjectionRecord} :
    record ∈ projectionsOf table projection ↔ record.projectionName = projection ∧
      findRecord table projection record.entityId = some ⟨record.version, record.stateJson⟩ := by
  obtain ⟨name, id, version, state⟩ := record
  simp only [projectionsOf, allProjections, List.mem_filter, List.mem_map, beq_iff_eq,
    ProjectionRecord.mk.injEq, Prod.exists]
  constructor
  · rintro ⟨⟨key, row, hmem, rfl, rfl, rfl, rfl⟩, rfl⟩
    exact ⟨rfl, (table.mem_entries_iff).1 hmem⟩
  · rintro ⟨rfl, hrow⟩
    exact ⟨⟨⟨name, id⟩, ⟨version, state⟩, (table.mem_entries_iff).2 hrow, rfl, rfl, rfl, rfl⟩, rfl⟩

omit [CharacterDatabase] in
lemma mem_allProjections {table : ProjectionTable} {record : ProjectionRecord} :
    record ∈ allProjections table ↔
      findRecord table record.projectionName record.entityId =
        some ⟨record.version, record.stateJson⟩ := by
  have h : record ∈ projectionsOf table record.projectionName ↔ _ := mem_projectionsOf
  simpa [projectionsOf] using h

omit [CharacterDatabase] in
/-- The records are of different entities. -/
lemma pairwise_allProjections (table : ProjectionTable) :
    (allProjections table).Pairwise fun r s =>
      ¬ (r.projectionName = s.projectionName ∧ r.entityId = s.entityId) := by
  refine List.pairwise_map.2 (table.sorted.imp fun {a b} hlt hsame => ?_)
  have heq : a.1 = b.1 := by
    obtain ⟨⟨_, _⟩, _⟩ := a
    obtain ⟨⟨_, _⟩, _⟩ := b
    obtain ⟨rfl, rfl⟩ := hsame
    rfl
  rw [heq] at hlt
  exact lt_irrefl _ hlt

omit [CharacterDatabase] in
/-- The records of a projection are of different entities. -/
lemma pairwise_projectionsOf (table : ProjectionTable) (projection : ProjectionName) :
    (projectionsOf table projection).Pairwise fun r s => r.entityId ≠ s.entityId := by
  refine ((pairwise_allProjections table).filter _).imp_of_mem fun {r s} hr hs hne hid =>
    hne ⟨?_, hid⟩
  rw [(mem_projectionsOf.1 hr).1, (mem_projectionsOf.1 hs).1]

/-! ## Claiming -/

/-- What `claim_assignment` found and did. -/
structure Claims (t t' : Tables) (sessionId : String) (version : ℕ) (claim : ClaimedAssignment) :
    Prop where
  runs : SessionRuns t sessionId version
  controllerVersion : claim.controllerVersion = version
  unclaimed : findRecord t.projections .workerExecutions claim.assignmentId = none
  idle : ∀ id, ¬ ActiveExecution t claim.workerId id
  appended : OrchestrationAppended t t' .workerTaskClaimed claim.assignmentId
    (claimPayload sessionId claim)

lemma claimAssignment_ok {stamp : Stamp} {workerId sessionId executionId : String} {version : ℕ}
    {claim : ClaimedAssignment}
    (h : claimAssignment t stamp workerId sessionId version executionId = .ok (t', claim)) :
    Claims t t' sessionId version claim := by
  simp only [claimAssignment, bind_eq_ok, require_eq_ok, orThrow_eq_ok, payloadOf_eq_ok,
    textOf_eq_ok, integerOf_eq_ok, pure_eq_ok, exists_and_left, exists_const, Prod.mk.injEq] at h
  obtain ⟨assignment, -, assignmentPayload, -, taskVersion, -, -, hconfigured, runtime, hruntime,
    runtimePayload, hruntimePayload, hrunning, hsession, hversion, roster, -, rosterPayload, -,
    role, -, assignmentId, -, hunclaimed, active, hactive, rfl, leases, -, -, task, -, t₁, happend,
    rfl, rfl⟩ := h
  have hfield := fieldOf_eq hruntime hruntimePayload
  refine ⟨⟨?_, ?_, ?_, hconfigured⟩, rfl, hunclaimed, ?_, ?_⟩
  · rw [RuntimeRuns, hfield, hrunning]
  · rw [hfield, hsession]
  · rw [hfield, hversion]
  · rintro id ⟨hworker, status, hstatus, hfound⟩
    obtain ⟨row, payload, hrow, hpayload⟩ := exists_payload_of_fieldOf hworker
    have hmem : (⟨.workerExecutions, id, row.version, row.stateJson⟩ : ProjectionRecord) ∈
        projectionsOf t.projections .workerExecutions := mem_projectionsOf.2 ⟨rfl, hrow⟩
    have hnot := anyM_eq_false hactive hmem
    rw [fieldOf_eq hrow hpayload] at hworker hfound
    simp only [activeForWorker, bind_eq_ok, payloadOf_eq_ok, pure_eq_ok] at hnot
    obtain ⟨payload', hpayload', hnot⟩ := hnot
    obtain rfl := Option.some.inj (hpayload.symm.trans hpayload')
    simp [hworker, hfound, hstatus] at hnot
  · exact appendControl_orchestration happend (by decide) rfl

/-- The claim names the execution, and its event is valid. -/
lemma valid_of_claimAssignment {stamp : Stamp} {workerId sessionId executionId : String}
    {version : ℕ} {claim : ClaimedAssignment}
    (h : claimAssignment t stamp workerId sessionId version executionId = .ok (t', claim)) :
    claim.executionId = executionId ∧ isSha256 claim.assignmentId = true ∧ sessionId ≠ "" ∧
      0 < claim.controllerVersion ∧ claim.workerId ≠ "" ∧ 0 < claim.taskVersion ∧
      claim.executionId ≠ "" := by
  simp only [claimAssignment, bind_eq_ok, require_eq_ok, orThrow_eq_ok, payloadOf_eq_ok,
    textOf_eq_ok, integerOf_eq_ok, pure_eq_ok, exists_and_left, exists_const, Prod.mk.injEq] at h
  obtain ⟨_, -, _, -, _, -, -, -, _, -, _, -, -, -, -, _, -, _, -, _, -, _, -, -, _, -, -, _, -, -,
    _, -, t₁, happend, rfl, rfl⟩ := h
  refine ⟨rfl, ?_⟩
  have hvalid := validatePayload_of_appendControl happend
  simpa [validatePayload, codec?, PayloadCodec.validate_eq_ok_iff, PayloadCodec.validator,
    fieldValidators, FieldCheck.accepts, textPayload, claimPayload, keys, controllerId] using hvalid

/-! ## Continuing an execution -/

/-- An event after the claim was appended to an execution. -/
structure Continues (t t' : Tables) (type : EventType) (assignmentId : String) : Prop where
  projection : type.projection = .workerExecutions
  type_ne : type ≠ .workerTaskClaimed
  appended : ∃ payload, OrchestrationAppended t t' type assignmentId payload ∧
    ∀ field ∈ ["worker_id", "controller_session_id", "controller_version"],
      getEntry field payload = none

namespace Continues

variable {type : EventType} {assignmentId : String}

lemma findRecord_ne (h : Continues t t' type assignmentId) {projection : ProjectionName}
    (hprojection : projection ∈ controlProjections) {id : String}
    (hne : projection ≠ .workerExecutions ∨ id ≠ assignmentId) :
    findRecord t'.projections projection id = findRecord t.projections projection id := by
  obtain ⟨payload, happended, -⟩ := h.appended
  exact happended.findRecord_ne hprojection (h.projection ▸ hne)

/-- The fields that a claim wrote stay. -/
lemma fieldOf_kept (h : Continues t t' type assignmentId) {field : String}
    (hfield : field ∈ ["worker_id", "controller_session_id", "controller_version"])
    (id : String) :
    fieldOf t'.projections .workerExecutions id field =
      fieldOf t.projections .workerExecutions id field := by
  by_cases hid : id = assignmentId
  · subst hid
    obtain ⟨payload, happended, hnone⟩ := h.appended
    have hfields := happended.fields field
    rw [h.projection] at hfields
    rw [hfields, if_neg, hnone field hfield]
    · rfl
    · revert hfield
      simp only [List.mem_cons, List.not_mem_nil]
      rintro (rfl | rfl | rfl | h) <;> simp_all
  · rw [fieldOf, h.findRecord_ne (by decide) (Or.inr hid), fieldOf]

/-- The status before the event was not final. -/
lemma nonterminal_before (h : Continues t t' type assignmentId) :
    NonterminalExecution t assignmentId := by
  obtain ⟨payload, happended, -⟩ := h.appended
  have hmem : (fieldOf t.projections .workerExecutions assignmentId "status").getD .null ∈
      nonterminal := by
    have hallowed := happended.allowed
    rw [h.projection] at hallowed
    have hmem := isExecution_iff.2 h.projection
    have hne := h.type_ne
    revert hallowed hmem hne
    cases type <;> simp [allowedPrevious, executionTypes, nonterminal]
    · exact fun h => Or.inl h
    · exact fun h => Or.inr h
  cases hstatus : fieldOf t.projections .workerExecutions assignmentId "status" with
  | none => simp [hstatus, nonterminal] at hmem
  | some status => exact ⟨status, by simpa [hstatus] using hmem, hstatus⟩

lemma nonterminal_of_after (h : Continues t t' type assignmentId) {id : String}
    (hid : NonterminalExecution t' id) : NonterminalExecution t id := by
  by_cases hsame : id = assignmentId
  · rw [hsame]
    exact h.nonterminal_before
  · obtain ⟨status, hstatus, hfound⟩ := hid
    rw [fieldOf, h.findRecord_ne (by decide) (Or.inr hsame)] at hfound
    exact ⟨status, hstatus, hfound⟩

lemma active_of_after (h : Continues t t' type assignmentId) {workerId id : String}
    (hid : ActiveExecution t' workerId id) : ActiveExecution t workerId id := by
  obtain ⟨hworker, hnonterminal⟩ := hid
  rw [h.fieldOf_kept (by decide)] at hworker
  exact ⟨hworker, h.nonterminal_of_after hnonterminal⟩

/-- An execution that was interrupted is finished. -/
lemma not_nonterminal (h : Continues t t' .workerTaskInterrupted assignmentId) :
    ¬ NonterminalExecution t' assignmentId := by
  rintro ⟨status, hstatus, hfound⟩
  obtain ⟨payload, happended, -⟩ := h.appended
  have hfields := happended.fields "status"
  rw [h.projection, if_pos rfl, hfound, Option.some.injEq] at hfields
  subst hfields
  revert hstatus
  decide

end Continues

/-- What a step of an execution checked and did. -/
lemma ExecutionStep.run_ok {step : ExecutionStep} {stamp : Stamp} {claim : ClaimedAssignment}
    (h : step.run t stamp claim = .ok t') :
    (∃ allowed, ClaimCurrent t claim allowed) ∧
      ∃ type, Continues t t' type claim.assignmentId := by
  have happendClaimed : ∀ {type : EventType} {allowed : List JsonValue} {fields : JsonObject},
      appendClaimed t stamp claim type allowed fields = .ok t' →
      type ∈ executionTypes.erase .workerTaskClaimed →
      (∀ field ∈ ["worker_id", "controller_session_id", "controller_version"],
        getEntry field fields = none) →
      (∃ allowed, ClaimCurrent t claim allowed) ∧
        ∃ type, Continues t t' type claim.assignmentId := by
    intro type allowed fields h htype hfields
    simp only [appendClaimed, bind_eq_ok] at h
    obtain ⟨⟨⟩, hvalid, happend⟩ := h
    have hexecution : type.projection = .workerExecutions ∧ type ≠ .workerTaskClaimed ∧
        type.isOrchestration = true ∧ type.entityField = some "assignment_id" := by
      revert htype
      cases type <;> decide
    obtain ⟨hprojection, hne, horchestration, hentity⟩ := hexecution
    refine ⟨⟨allowed, validateClaim_eq_ok.1 hvalid⟩, type, hprojection, hne, _,
      appendControl_orchestration happend horchestration (by rw [hentity]; rfl),
      fun field hfield => ?_⟩
    have hnone := hfields field hfield
    revert hfield hnone
    simp only [List.mem_cons, List.not_mem_nil]
    rintro (rfl | rfl | rfl | h) hnone <;> simp_all [getEntry]
  cases step with
  | plan directiveId artifactHash instructionHash budget timeout =>
    exact happendClaimed h (by decide) (by simp [getEntry])
  | complete resultHash => exact happendClaimed h (by decide) (by simp [getEntry])
  | fail reasonCode => exact happendClaimed h (by decide) (by simp [getEntry])
  | interrupt reasonCode => exact happendClaimed h (by decide) (by simp [getEntry])

/-- A round of the recovery leaves the execution of its record finished, and the others as they
were. -/
lemma interruptRecord_ok {stamp : Stamp} {record : ProjectionRecord}
    (h : interruptRecord t stamp record = .ok t')
    (hrecord : findRecord t.projections .workerExecutions record.entityId =
      some ⟨record.version, record.stateJson⟩)
    (hnamed : fieldOf t.projections .workerExecutions record.entityId "assignment_id" =
      some (.str record.entityId)) :
    (t' = t ∧ ¬ NonterminalExecution t record.entityId) ∨
      Continues t t' .workerTaskInterrupted record.entityId := by
  simp only [interruptRecord, bind_eq_ok, payloadOf_eq_ok] at h
  obtain ⟨payload, hpayload, h⟩ := h
  have hfield := fieldOf_eq hrecord hpayload
  split at h
  · right
    simp only [bind_eq_ok, textOf_eq_ok] at h
    obtain ⟨id, ⟨-, hid⟩, executionId, -, happend⟩ := h
    rw [hfield, hid, Option.some.injEq, JsonValue.str.injEq] at hnamed
    subst hnamed
    exact ⟨by decide, by decide, _, appendControl_orchestration happend (by decide) rfl,
      by simp [getEntry]⟩
  · rename_i hnot
    left
    refine ⟨(pure_eq_ok.1 h).symm, ?_⟩
    rintro ⟨status, hstatus, hfound⟩
    rw [hfield] at hfound
    simp [hfound, hstatus] at hnot

/-! ## The runtime -/

/-- An event of the controller was appended to the record of its runtime. -/
lemma appendControl_runtime {stamp : Stamp} {type : EventType} {actor : String}
    {payload : JsonObject} (h : appendControl t stamp type actor payload = .ok t')
    (htype : type.projection = .controllerRuntime)
    (hid : getEntry "controller_id" payload = some (.str controllerId)) :
    OrchestrationAppended t t' type controllerId payload := by
  have hentity : type.isOrchestration = true ∧ type.entityField = some "controller_id" := by
    revert htype
    cases type <;> decide
  exact appendControl_orchestration h hentity.1 (by rw [hentity.2]; exact hid)

/-- The executions are as they were, and the queue has no contribution twice. -/
structure KeepsExecutions (t t' : Tables) : Prop where
  records : ∀ id, findRecord t'.projections .workerExecutions id =
    findRecord t.projections .workerExecutions id
  rows : ∀ id, executionRows t'.toEventLog id = executionRows t.toEventLog id
  recorded : ∀ id, ExecutionRecorded t.toEventLog id → ExecutionRecorded t'.toEventLog id
  ids_nodup : (ids t.publicationQueue).Nodup → (ids t'.publicationQueue).Nodup

namespace KeepsExecutions

omit [CharacterDatabase] in
lemma refl (t : Tables) : KeepsExecutions t t :=
  ⟨fun _ => rfl, fun _ => rfl, fun _ h => h, fun h => h⟩

lemma of_runtime {type : EventType} {id : String} {payload : JsonObject}
    (h : OrchestrationAppended t t' type id payload) (htype : type.projection = .controllerRuntime) :
    KeepsExecutions t t' where
  records _ := h.findRecord_ne (by decide) (Or.inl (by rw [htype]; decide))
  rows _ := h.executionRows_ne (Or.inl (by rw [isExecution_iff, htype]; decide))
  recorded _ := h.recorded
  ids_nodup := by
    rw [h.queue]
    exact fun hids => hids

omit [CharacterDatabase] in
lemma fieldOf_eq (h : KeepsExecutions t t') (id field : String) :
    fieldOf t'.projections .workerExecutions id field =
      fieldOf t.projections .workerExecutions id field := by
  rw [fieldOf, h.records, fieldOf]

omit [CharacterDatabase] in
lemma nonterminal_iff (h : KeepsExecutions t t') (id : String) :
    NonterminalExecution t' id ↔ NonterminalExecution t id := by
  simp only [NonterminalExecution, h.fieldOf_eq]

omit [CharacterDatabase] in
lemma active_iff (h : KeepsExecutions t t') (workerId id : String) :
    ActiveExecution t' workerId id ↔ ActiveExecution t workerId id := by
  simp only [ActiveExecution, h.fieldOf_eq, h.nonterminal_iff]

end KeepsExecutions

/-- What `start_controller` did. -/
lemma startController_ok {stamp : Stamp} {sessionId : String} {version : ℕ}
    {provider : ControllerProviderId} {backendVersion executableHash : String}
    (h : startController t stamp sessionId version provider backendVersion executableHash =
      .ok t') :
    KeepsExecutions t t' ∧
      fieldOf t'.projections .controllerRuntime controllerId "controller_session_id" =
        some (.str sessionId) := by
  simp only [startController, bind_eq_ok, require_eq_ok, orThrow_eq_ok, exists_and_left,
    exists_const] at h
  obtain ⟨_, -, _, -, -, -, _, -, -, happend⟩ := h
  have happended := appendControl_runtime happend rfl rfl
  refine ⟨.of_runtime happended rfl, ?_⟩
  have hfields := happended.fields "controller_session_id"
  exact hfields

/-- After `recover_unclean_controller` no session runs. -/
lemma recoverUncleanController_ok {stamp : Stamp} {crashed : Option String}
    (h : recoverUncleanController t stamp = .ok (t', crashed)) :
    KeepsExecutions t t' ∧ ¬ RuntimeRuns t' := by
  unfold recoverUncleanController at h
  split at h
  · rename_i hnone
    obtain ⟨rfl, rfl⟩ := Prod.mk.inj (pure_eq_ok.1 h)
    refine ⟨.refl t, fun hruns => ?_⟩
    obtain ⟨row, hrow⟩ := exists_findRecord_of_fieldOf hruns
    rw [hnone] at hrow
    cases hrow
  · rename_i runtime hruntime
    simp only [bind_eq_ok, readPayload_eq_ok] at h
    obtain ⟨payload, hpayload, h⟩ := h
    split at h
    · rename_i hnot
      obtain ⟨rfl, rfl⟩ := Prod.mk.inj (pure_eq_ok.1 h)
      refine ⟨.refl t, fun hruns => hnot ?_⟩
      rw [← fieldOf_eq hruntime hpayload]
      exact hruns
    · simp only [bind_eq_ok, pure_eq_ok, Prod.mk.injEq] at h
      obtain ⟨sessionId, -, t₁, happend, rfl, rfl⟩ := h
      have happended := appendControl_runtime happend rfl rfl
      refine ⟨.of_runtime happended rfl, fun hruns => ?_⟩
      have hstatus := happended.fields "status"
      rw [if_pos rfl] at hstatus
      have hsame := hruns.symm.trans hstatus
      revert hsame
      decide

/-! ## The invariant -/

/-- The execution is the one of the claim, and of the session that claimed it. -/
structure HoldsClaim (t : Tables) (sessionId : String) (claim : ClaimedAssignment) : Prop where
  execution : fieldOf t.projections .workerExecutions claim.assignmentId "execution_id" =
    some (.str claim.executionId)
  owns : OwnsExecution t sessionId claim.controllerVersion claim.assignmentId

/-- What is left of earlier sessions, by how far the session is with its start. -/
structure SessionInvariant (t : Tables) (s : Session) : Prop where
  held : ∀ claim ∈ s.claims, HoldsClaim t s.sessionId claim
  claimed : ∀ claim ∈ s.claims, s.phase = .started
  recovering : ∀ pending, s.phase = .recovering pending → ¬ RuntimeRuns t ∧
    pending.Pairwise (fun r r' => r.entityId ≠ r'.entityId) ∧
    (∀ r ∈ pending, findRecord t.projections .workerExecutions r.entityId =
      some ⟨r.version, r.stateJson⟩) ∧
    ∀ id, NonterminalExecution t id → ∃ r ∈ pending, r.entityId = id
  recovered : s.phase = .recovered → ¬ RuntimeRuns t ∧
    (s.supervises = true → ∀ id, ¬ NonterminalExecution t id)
  started : s.phase = .started →
    (RuntimeRuns t → fieldOf t.projections .controllerRuntime controllerId
      "controller_session_id" = some (.str s.sessionId)) ∧
    (s.supervises = true → ∀ id, NonterminalExecution t id →
      ∃ claim ∈ s.claims, claim.assignmentId = id)

/-- The invariant of the controller. -/
structure ControllerInvariant (w : ControllerWorld) : Prop where
  ids_nodup : (ids w.tables.publicationQueue).Nodup
  recorded : ∀ id, ExecutionRecorded w.tables.toEventLog id
  oneActive : ∀ workerId id id', ActiveExecution w.tables workerId id →
    ActiveExecution w.tables workerId id' → id = id'
  session : ∀ s, w.session = some s → SessionInvariant w.tables s

omit [CharacterDatabase] in
lemma controllerInvariant_initial : ControllerInvariant ⟨initialTables, none⟩ := by
  refine ⟨by simp [initialTables, ids], executionRecorded_initial, fun workerId id id' h => ?_,
    fun s hs => by cases hs⟩
  obtain ⟨row, hrow⟩ := exists_findRecord_of_fieldOf h.1
  simp [findRecord, initialTables, initialLog, initialProjections] at hrow

omit [CharacterDatabase] in
/-- What does not depend on the session is kept with the executions. -/
lemma ControllerInvariant.keeps {s : Option Session} (hinv : ControllerInvariant ⟨t, s⟩)
    (h : KeepsExecutions t t') {s' : Option Session}
    (hsession : ∀ s, s' = some s → SessionInvariant t' s) : ControllerInvariant ⟨t', s'⟩ where
  ids_nodup := h.ids_nodup hinv.ids_nodup
  recorded id := h.recorded id (hinv.recorded id)
  oneActive workerId id id' hid hid' :=
    hinv.oneActive workerId id id' ((h.active_iff workerId id).1 hid)
      ((h.active_iff workerId id').1 hid')
  session := hsession

omit [CharacterDatabase] in
lemma HoldsClaim.keeps {sessionId : String} {claim : ClaimedAssignment}
    (hclaim : HoldsClaim t sessionId claim) (h : KeepsExecutions t t') :
    HoldsClaim t' sessionId claim := by
  refine ⟨?_, ?_⟩
  · rw [h.fieldOf_eq]
    exact hclaim.execution
  · rw [OwnsExecution, h.fieldOf_eq, h.fieldOf_eq]
    exact hclaim.owns

omit [CharacterDatabase] in
/-- Nothing about the session changes if the runtime stays too. -/
lemma SessionInvariant.keeps {s : Session} (hs : SessionInvariant t s)
    (h : KeepsExecutions t t')
    (hruntime : ∀ id, findRecord t'.projections .controllerRuntime id =
      findRecord t.projections .controllerRuntime id) : SessionInvariant t' s := by
  have hfield : ∀ field, fieldOf t'.projections .controllerRuntime controllerId field =
      fieldOf t.projections .controllerRuntime controllerId field := by
    intro field
    rw [fieldOf, hruntime, fieldOf]
  have hruns : RuntimeRuns t' ↔ RuntimeRuns t := by
    rw [RuntimeRuns, hfield, RuntimeRuns]
  refine ⟨fun claim hclaim => (hs.held claim hclaim).keeps h, hs.claimed, ?_, ?_, ?_⟩
  · simpa only [hruns, h.records, h.nonterminal_iff] using hs.recovering
  · simpa only [hruns, h.nonterminal_iff] using hs.recovered
  · simpa only [hruns, hfield, h.nonterminal_iff] using hs.started

/-! ## Steps -/

/-- What is appended about other things keeps the executions and the runtime. -/
lemma keeps_of_run {events : List EventEnvelope}
    (h : eventLogSystem.Run t.toEventLog events t'.toEventLog)
    (hne : ∀ e ∈ events, e.eventType.projection ≠ .workerExecutions ∧
      e.eventType.projection ≠ .controllerRuntime)
    (hids : (ids t.publicationQueue).Nodup → (ids t'.publicationQueue).Nodup) :
    KeepsExecutions t t' ∧ ∀ id, findRecord t'.projections .controllerRuntime id =
      findRecord t.projections .controllerRuntime id := by
  refine ⟨⟨?_, ?_, fun id hid => hid.of_run h, hids⟩, ?_⟩
  · exact findRecord_of_run h (by decide) (by decide) fun e he => (hne e he).1
  · exact executionRows_of_run h fun e he htype => (hne e he).1 (isExecution_iff.1 htype)
  · exact findRecord_of_run h (by decide) (by decide) fun e he => (hne e he).2

lemma keeps_of_operator {op : ControlOperation} {stamp : Stamp} {version : ℕ}
    (h : op.run t stamp = .ok (t', version)) :
    KeepsExecutions t t' ∧ ∀ id, findRecord t'.projections .controllerRuntime id =
      findRecord t.projections .controllerRuntime id := by
  obtain ⟨event, record, htype, -, -, -, hlog, hqueue⟩ := ControlOperation.run_ok h
  refine keeps_of_run (.single ⟨record, hlog⟩) (fun e he => ?_) (by rw [hqueue]; exact fun h => h)
  obtain rfl := List.mem_singleton.1 he
  rw [htype]
  cases op <;> exact ⟨ProjectionName.noConfusion, ProjectionName.noConfusion⟩

lemma keeps_of_service {op : StateOp} (hop : leavesControl op)
    (hids : (ids t.publicationQueue).Nodup) :
    KeepsExecutions t (op.exec t) ∧ ∀ id, findRecord (op.exec t).projections .controllerRuntime id =
      findRecord t.projections .controllerRuntime id := by
  obtain ⟨events, hrun, htypes⟩ := StateOp.exists_run_exec hids op
  refine keeps_of_run hrun (fun e he => ?_) fun _ => ?_
  · have hleaves := hop _ (htypes e he)
    refine ⟨fun htype => hleaves ?_, fun htype => hleaves ?_⟩
    · rw [htype]
      decide
    · rw [htype]
      decide
  · unfold StateOp.exec
    split
    · rename_i t' hop
      exact ((StateOp.run_ok hids hop).2.callStep hids).ids_nodup hids
    · exact hids

/-- Recovering the runtime leaves the executions to look at. -/
lemma SessionInvariant.recover {s : Session} {stamp : Stamp} {crashed : Option String}
    (hs : SessionInvariant t s) (hphase : s.phase = .opened)
    (h : recoverUncleanController t stamp = .ok (t', crashed)) :
    SessionInvariant t' { s with phase := s.recoveredPhase t' } := by
  obtain ⟨hkeeps, hnot⟩ := recoverUncleanController_ok h
  refine ⟨fun claim hclaim => (hs.held claim hclaim).keeps hkeeps, fun claim hclaim => ?_, ?_, ?_,
    ?_⟩
  · exact absurd (hphase.symm.trans (hs.claimed claim hclaim)) (by simp)
  · intro pending hphase
    simp only [Session.recoveredPhase] at hphase
    split at hphase
    · obtain rfl := SessionPhase.recovering.inj hphase
      refine ⟨hnot, pairwise_projectionsOf _ _, fun r hr => (mem_projectionsOf.1 hr).2, ?_⟩
      rintro id ⟨status, -, hstatus⟩
      obtain ⟨row, hrow⟩ := exists_findRecord_of_fieldOf hstatus
      exact ⟨⟨.workerExecutions, id, row.version, row.stateJson⟩,
        mem_projectionsOf.2 ⟨rfl, hrow⟩, rfl⟩
    · cases hphase
  · intro hphase
    refine ⟨hnot, fun hsupervises => ?_⟩
    have htrue : s.supervises = true := hsupervises
    simp [Session.recoveredPhase, htrue] at hphase
  · intro hphase
    simp only [Session.recoveredPhase] at hphase
    split at hphase <;> cases hphase

/-- Starting makes the session the one that runs. -/
lemma SessionInvariant.start {s : Session} {stamp : Stamp} {version : ℕ}
    {provider : ControllerProviderId} {backendVersion executableHash : String}
    (hs : SessionInvariant t s) (hphase : s.phase = .recovered)
    (h : startController t stamp s.sessionId version provider backendVersion executableHash =
      .ok t') :
    SessionInvariant t' { s with phase := .started, version := version } := by
  obtain ⟨hkeeps, hsession⟩ := startController_ok h
  obtain ⟨-, hnone⟩ := hs.recovered hphase
  refine ⟨fun claim hclaim => (hs.held claim hclaim).keeps hkeeps, fun _ _ => rfl,
    by simp, by simp,
    fun _ => ⟨fun _ => hsession, fun hsupervises id hid => ?_⟩⟩
  exact absurd ((hkeeps.nonterminal_iff id).1 hid) (hnone hsupervises id)

/-- A claim is held by the session that claimed. -/
lemma SessionInvariant.claim {s : Session} {claim : ClaimedAssignment}
    (hs : SessionInvariant t s) (hphase : s.phase = .started)
    (h : Claims t t' s.sessionId s.version claim) :
    SessionInvariant t' { s with claims := claim :: s.claims } := by
  have hother : ∀ id ≠ claim.assignmentId, ∀ field,
      fieldOf t'.projections .workerExecutions id field =
        fieldOf t.projections .workerExecutions id field := by
    intro id hid field
    rw [fieldOf, h.appended.findRecord_ne (by decide) (Or.inr hid), fieldOf]
  have hruntime : ∀ field, fieldOf t'.projections .controllerRuntime controllerId field =
      fieldOf t.projections .controllerRuntime controllerId field := by
    intro field
    rw [fieldOf, h.appended.findRecord_ne (by decide) (Or.inl (by decide)), fieldOf]
  refine ⟨fun claim' hclaim' => ?_, fun _ _ => hphase, fun _ h => ?_, fun h => ?_,
    fun _ => ⟨fun hruns => ?_, ?_⟩⟩
  · rcases List.mem_cons.1 hclaim' with rfl | hclaim'
    · exact ⟨h.appended.fields "execution_id", h.appended.fields "controller_session_id",
        h.appended.fields "controller_version"⟩
    · have hheld := hs.held claim' hclaim'
      have hne : claim'.assignmentId ≠ claim.assignmentId := by
        intro hsame
        obtain ⟨row, hrow⟩ := exists_findRecord_of_fieldOf hheld.execution
        rw [hsame, h.unclaimed] at hrow
        cases hrow
      refine ⟨?_, ?_⟩
      · rw [hother _ hne]
        exact hheld.execution
      · rw [OwnsExecution, hother _ hne, hother _ hne]
        exact hheld.owns
  · exact absurd (hphase.symm.trans h) (by simp)
  · exact absurd (hphase.symm.trans h) (by simp)
  · rw [hruntime]
    rw [RuntimeRuns, hruntime] at hruns
    exact (hs.started hphase).1 hruns
  · intro hsupervises id hid
    by_cases hsame : id = claim.assignmentId
    · exact ⟨claim, List.mem_cons_self, hsame.symm⟩
    · rw [NonterminalExecution, hother id hsame] at hid
      obtain ⟨claim', hclaim', hid'⟩ := (hs.started hphase).2 hsupervises id hid
      exact ⟨claim', List.mem_cons_of_mem _ hclaim', hid'⟩

namespace Continues

variable {type : EventType} {assignmentId : String}

/-- A claim is held on: an event that continues an execution names the execution. -/
lemma holdsClaim (h : Continues t t' type assignmentId) {sessionId : String}
    {claim : ClaimedAssignment} (hclaim : HoldsClaim t sessionId claim) :
    HoldsClaim t' sessionId claim := by
  refine ⟨?_, ?_⟩
  · by_cases hid : claim.assignmentId = assignmentId
    · obtain ⟨payload, happended, -⟩ := h.appended
      have hexecution := isExecution_iff.2 h.projection
      have hfield : executionField type = "execution_id" := by
        revert hexecution
        cases type <;> decide
      obtain ⟨row, hrow⟩ := exists_findRecord_of_fieldOf hclaim.execution
      have hsame := happended.same row (by rw [h.projection, ← hid]; exact hrow)
      have hfields := happended.fields "execution_id"
      rw [h.projection, ← hid, hfield, hclaim.execution] at hsame
      rw [h.projection, ← hid, if_neg (by decide), ← hsame] at hfields
      exact hfields
    · rw [fieldOf, h.findRecord_ne (by decide) (Or.inr hid), ← fieldOf]
      exact hclaim.execution
  · rw [OwnsExecution, h.fieldOf_kept (by decide), h.fieldOf_kept (by decide)]
    exact hclaim.owns

lemma runtimeRuns_iff (h : Continues t t' type assignmentId) : RuntimeRuns t' ↔ RuntimeRuns t := by
  rw [RuntimeRuns, fieldOf, h.findRecord_ne (by decide) (Or.inl (by decide)), ← fieldOf, RuntimeRuns]

/-- What does not depend on the session is kept by an event that continues an execution. -/
lemma controllerInvariant (h : Continues t t' type assignmentId) {s : Option Session}
    (hinv : ControllerInvariant ⟨t, s⟩) {s' : Option Session}
    (hsession : ∀ s, s' = some s → SessionInvariant t' s) : ControllerInvariant ⟨t', s'⟩ := by
  obtain ⟨payload, happended, -⟩ := h.appended
  refine ⟨?_, fun id => happended.recorded (hinv.recorded id), fun workerId id id' hid hid' => ?_,
    hsession⟩
  · rw [happended.queue]
    exact hinv.ids_nodup
  · exact hinv.oneActive workerId id id' (h.active_of_after hid) (h.active_of_after hid')

end Continues

/-- A step of an execution keeps what the session knows. -/
lemma SessionInvariant.execute {s : Session} {type : EventType} {claim : ClaimedAssignment}
    (hs : SessionInvariant t s) (hphase : s.phase = .started)
    (h : Continues t t' type claim.assignmentId) : SessionInvariant t' s := by
  refine ⟨fun claim' hclaim' => h.holdsClaim (hs.held claim' hclaim'), fun _ _ => hphase,
    fun pending hpending => ?_, fun hrecovered => ?_,
    fun _ => ⟨fun hruns => ?_, fun hsupervises id hid => ?_⟩⟩
  · exact absurd (hphase.symm.trans hpending) (by simp)
  · exact absurd (hphase.symm.trans hrecovered) (by simp)
  · rw [fieldOf, h.findRecord_ne (by decide) (Or.inl (by decide)), ← fieldOf]
    exact (hs.started hphase).1 (h.runtimeRuns_iff.1 hruns)
  · exact (hs.started hphase).2 hsupervises id (h.nonterminal_of_after hid)

/-- A round of the recovery. -/
lemma SessionInvariant.interrupt {s : Session} {record : ProjectionRecord}
    {pending : List ProjectionRecord} (hs : SessionInvariant t s)
    (hphase : s.phase = .recovering (record :: pending))
    (h : Continues t t' .workerTaskInterrupted record.entityId) :
    SessionInvariant t' { s with phase := .recovering pending } := by
  obtain ⟨hnot, hpairwise, hrecords, hcovered⟩ := hs.recovering _ hphase
  obtain ⟨hhead, htail⟩ := List.pairwise_cons.1 hpairwise
  refine ⟨fun claim hclaim => h.holdsClaim (hs.held claim hclaim), fun claim hclaim => ?_, ?_,
    by simp, by simp⟩
  · exact absurd (hphase.symm.trans (hs.claimed claim hclaim)) (by simp)
  intro pending' hpending'
  obtain rfl := SessionPhase.recovering.inj hpending'
  refine ⟨fun hruns => hnot (h.runtimeRuns_iff.1 hruns), htail, fun r hr => ?_, fun id hid => ?_⟩
  · rw [h.findRecord_ne (by decide) (Or.inr (hhead r hr).symm)]
    exact hrecords r (List.mem_cons_of_mem _ hr)
  · obtain ⟨r, hr, rfl⟩ := hcovered id (h.nonterminal_of_after hid)
    rcases List.mem_cons.1 hr with rfl | hr
    · exact absurd hid h.not_nonterminal
    · exact ⟨r, hr, rfl⟩

/-- A claim makes no second execution of its worker. -/
lemma ControllerInvariant.claim {s : Session} {claim : ClaimedAssignment}
    (hinv : ControllerInvariant ⟨t, some s⟩) (hphase : s.phase = .started)
    (h : Claims t t' s.sessionId s.version claim) :
    ControllerInvariant ⟨t', some { s with claims := claim :: s.claims }⟩ := by
  have hother : ∀ id ≠ claim.assignmentId, ∀ workerId, ActiveExecution t' workerId id →
      ActiveExecution t workerId id := by
    intro id hid workerId hactive
    have hfield : ∀ field, fieldOf t'.projections .workerExecutions id field =
        fieldOf t.projections .workerExecutions id field := by
      intro field
      rw [fieldOf, h.appended.findRecord_ne (by decide) (Or.inr hid), fieldOf]
    rwa [ActiveExecution, NonterminalExecution, hfield, hfield] at hactive
  have hworker : ∀ workerId, ActiveExecution t' workerId claim.assignmentId →
      workerId = claim.workerId := by
    intro workerId hactive
    have hfield := h.appended.fields "worker_id"
    exact JsonValue.str.inj (Option.some.inj (hactive.1.symm.trans hfield))
  refine ⟨?_, fun id => h.appended.recorded (hinv.recorded id), fun workerId id id' hid hid' => ?_,
    fun s' hs' => ?_⟩
  · rw [h.appended.queue]
    exact hinv.ids_nodup
  · by_cases hsame : id = claim.assignmentId
    · by_cases hsame' : id' = claim.assignmentId
      · rw [hsame, hsame']
      · subst hsame
        have hactive := hother id' hsame' workerId hid'
        rw [hworker workerId hid] at hactive
        exact absurd hactive (h.idle id')
    · by_cases hsame' : id' = claim.assignmentId
      · subst hsame'
        have hactive := hother id hsame workerId hid
        rw [hworker workerId hid'] at hactive
        exact absurd hactive (h.idle id)
      · exact hinv.oneActive workerId id id' (hother id hsame workerId hid)
          (hother id' hsame' workerId hid')
  · obtain rfl := Option.some.inj hs'
    exact (hinv.session s rfl).claim hphase h

/-- Every step keeps the invariant. -/
lemma ControllerInvariant.step {w w' : ControllerWorld} {a : ControllerAction}
    (hinv : ControllerInvariant w) (h : ControllerStep w a w') : ControllerInvariant w' := by
  cases h with
  | operator h =>
    obtain ⟨hkeeps, hruntime⟩ := keeps_of_operator h
    exact hinv.keeps hkeeps fun s hs => (hinv.session s hs).keeps hkeeps hruntime
  | service h =>
    obtain ⟨hkeeps, hruntime⟩ := keeps_of_service h hinv.ids_nodup
    exact hinv.keeps hkeeps fun s hs => (hinv.session s hs).keeps hkeeps hruntime
  | openSession sessionId supervises =>
    refine hinv.keeps (.refl _) fun s hs => ?_
    obtain rfl := Option.some.inj hs
    exact ⟨by simp, by simp, by simp, by simp, by simp⟩
  | recover hphase h =>
    refine hinv.keeps (recoverUncleanController_ok h).1 fun s hs => ?_
    obtain rfl := Option.some.inj hs
    exact (hinv.session _ rfl).recover hphase h
  | interruptNext hphase h =>
    rename_i t t' s stamp record pending
    have hs := hinv.session s rfl
    obtain ⟨hnot, hpairwise, hrecords, hcovered⟩ := hs.recovering _ hphase
    have hrecord := hrecords record List.mem_cons_self
    obtain ⟨hnamed, -⟩ := (hinv.recorded record.entityId).named _ hrecord
    rcases interruptRecord_ok h hrecord hnamed with ⟨rfl, hfinished⟩ | hcontinues
    · refine hinv.keeps (.refl _) fun s' hs' => ?_
      obtain rfl := Option.some.inj hs'
      refine ⟨hs.held, fun claim hclaim => ?_, fun pending' hpending' => ?_, by simp, by simp⟩
      · exact absurd (hphase.symm.trans (hs.claimed claim hclaim)) (by simp)
      · obtain rfl := SessionPhase.recovering.inj hpending'
        refine ⟨hnot, hpairwise.of_cons, fun r hr => hrecords r (List.mem_cons_of_mem _ hr), ?_⟩
        intro id hid
        obtain ⟨r, hr, rfl⟩ := hcovered id hid
        rcases List.mem_cons.1 hr with rfl | hr
        · exact absurd hid hfinished
        · exact ⟨r, hr, rfl⟩
    · refine hcontinues.controllerInvariant hinv fun s' hs' => ?_
      obtain rfl := Option.some.inj hs'
      exact hs.interrupt hphase hcontinues
  | finishRecovery hphase =>
    rename_i t s
    have hs := hinv.session s rfl
    obtain ⟨hnot, -, -, hcovered⟩ := hs.recovering _ hphase
    refine hinv.keeps (.refl _) fun s' hs' => ?_
    obtain rfl := Option.some.inj hs'
    refine ⟨hs.held, fun claim hclaim => ?_, by simp, fun _ => ⟨hnot, fun _ id hid => ?_⟩, by simp⟩
    · exact absurd (hphase.symm.trans (hs.claimed claim hclaim)) (by simp)
    · obtain ⟨r, hr, -⟩ := hcovered id hid
      simp at hr
  | start hphase h =>
    refine hinv.keeps (startController_ok h).1 fun s hs => ?_
    obtain rfl := Option.some.inj hs
    exact (hinv.session _ rfl).start hphase h
  | claim hsupervises hphase h => exact hinv.claim hphase (claimAssignment_ok h)
  | execute hclaim h =>
    obtain ⟨-, type, hcontinues⟩ := ExecutionStep.run_ok h
    refine hcontinues.controllerInvariant hinv fun s' hs' => ?_
    obtain rfl := Option.some.inj hs'
    have hs := hinv.session _ rfl
    exact hs.execute (hs.claimed _ hclaim) hcontinues
  | stop hphase h =>
    exact hinv.keeps (.of_runtime (appendControl_runtime h rfl rfl) rfl) (by simp)
  | crash => exact hinv.keeps (.refl _) (by simp)

lemma controllerInvariant_of_reachable {w : ControllerWorld} (h : controllerSystem.Reachable w) :
    ControllerInvariant w := by
  refine h.invariant ?_ fun w a w' hinv hstep => hinv.step hstep
  rintro w rfl
  exact controllerInvariant_initial

/-! ## Who writes -/

/-- An execution is written by the session that owns it, or by the recovery of a supervisor. -/
lemma ControllerInvariant.writtenByOwner {w w' : ControllerWorld} {a : ControllerAction}
    (hinv : ControllerInvariant w) (h : ControllerStep w a w') {id : String}
    (hrows : executionRows w'.tables.toEventLog id ≠ executionRows w.tables.toEventLog id) :
    (∃ stamp, a = .interruptNext stamp) ∨
      ∃ s version, w.session = some s ∧
        WrittenByOwner w.tables w'.tables s.sessionId id version := by
  cases h with
  | operator h => exact absurd ((keeps_of_operator h).1.rows id) hrows
  | service h => exact absurd ((keeps_of_service h hinv.ids_nodup).1.rows id) hrows
  | openSession | finishRecovery | crash => exact absurd rfl hrows
  | recover _ h => exact absurd ((recoverUncleanController_ok h).1.rows id) hrows
  | interruptNext => exact Or.inl ⟨_, rfl⟩
  | start _ h => exact absurd ((startController_ok h).1.rows id) hrows
  | stop _ h =>
    exact absurd ((KeepsExecutions.of_runtime (appendControl_runtime h rfl rfl) rfl).rows id) hrows
  | claim hsupervises hphase h =>
    rename_i t t' s stamp workerId executionId claim
    have hclaims := claimAssignment_ok h
    by_cases hid : id = claim.assignmentId
    · subst hid
      refine Or.inr ⟨s, s.version, rfl, ?_⟩
      refine ⟨hclaims.runs, ⟨hclaims.appended.fields "controller_session_id", ?_⟩,
        Or.inl hclaims.unclaimed⟩
      rw [← hclaims.controllerVersion]
      exact hclaims.appended.fields "controller_version"
    · exact absurd (hclaims.appended.executionRows_ne (Or.inr hid)) hrows
  | execute hclaim h =>
    rename_i t t' s stamp claim step
    obtain ⟨⟨allowed, hcurrent⟩, type, hcontinues⟩ := ExecutionStep.run_ok h
    have hheld := (hinv.session _ rfl).held _ hclaim
    by_cases hid : id = claim.assignmentId
    · subst hid
      refine Or.inr ⟨s, claim.controllerVersion, rfl, ?_⟩
      obtain ⟨sessionId, -, hexecution, hruntime⟩ := hcurrent.session
      obtain rfl : _ = sessionId :=
        JsonValue.str.inj (Option.some.inj (hheld.owns.1.symm.trans hexecution))
      refine ⟨⟨hcurrent.running, hruntime, hcurrent.runtimeVersion, hcurrent.configured⟩, ?_,
        Or.inr hheld.owns⟩
      exact (hcontinues.holdsClaim hheld).owns
    · obtain ⟨payload, happended, -⟩ := hcontinues.appended
      exact absurd (happended.executionRows_ne (Or.inr hid)) hrows

/-! ## At most once -/

/-- **Executions happen at most once.**  In every state that requests of the operator, sessions and
their crashes lead to: the events of an assignment come in one of the orders of one execution; a
worker has at most one execution that is not finished; a step that writes an execution is of the
recovery of a supervisor, or of the session that owns the execution, which runs under the configured
version; and once a supervisor has recovered, no session runs but itself, and every execution that
is not finished is its own. -/
theorem controller_executions {w : ControllerWorld} (h : controllerSystem.Reachable w) :
    (∀ assignmentId, ExecutedOnce w.tables.toEventLog assignmentId) ∧
    (∀ workerId id id', ActiveExecution w.tables workerId id →
      ActiveExecution w.tables workerId id' → id = id') ∧
    (∀ a w', controllerSystem.step w a w' → ∀ id,
      executionRows w'.tables.toEventLog id ≠ executionRows w.tables.toEventLog id →
      (∃ stamp, a = .interruptNext stamp) ∨
        ∃ s version, w.session = some s ∧
          WrittenByOwner w.tables w'.tables s.sessionId id version) ∧
    (∀ s, w.session = some s → s.supervises = true →
      (s.phase = .recovered →
        ¬ RuntimeRuns w.tables ∧ ∀ id, ¬ NonterminalExecution w.tables id) ∧
      (s.phase = .started →
        (RuntimeRuns w.tables → fieldOf w.tables.projections .controllerRuntime controllerId
          "controller_session_id" = some (.str s.sessionId)) ∧
        ∀ id, NonterminalExecution w.tables id →
          ∃ version, OwnsExecution w.tables s.sessionId version id)) := by
  have hinv := controllerInvariant_of_reachable h
  refine ⟨fun id => (hinv.recorded id).executedOnce, hinv.oneActive,
    fun a w' hstep id hrows => hinv.writtenByOwner hstep hrows, fun s hs hsupervises => ?_⟩
  have hsession := hinv.session s hs
  refine ⟨fun hphase => ?_, fun hphase => ?_⟩
  · obtain ⟨hnot, hnone⟩ := hsession.recovered hphase
    exact ⟨hnot, hnone hsupervises⟩
  · obtain ⟨hruns, hclaimed⟩ := hsession.started hphase
    refine ⟨hruns, fun id hid => ?_⟩
    obtain ⟨claim, hclaim, rfl⟩ := hclaimed hsupervises id hid
    exact ⟨_, (hsession.held claim hclaim).owns⟩

/-! ## An execution -/

/-- The time of the sample control events. -/
def controlTime : Datetime := ⟨2026, 1, 1, 0, 0, 0, 0, by decide⟩

/-- The stamp of a sample control event, told from others by the last character of its id. -/
def controlStamp (c : Char) : Stamp :=
  ⟨"01ARZ3NDEKTSV4RRFFQ69G5FC" ++ String.ofList [c], controlTime⟩

/-- A sample hash. -/
def controlHash : String := String.ofList (List.replicate 64 'a')

/-- The provider of the sample configuration. -/
def controlProvider : ControllerProviderId := ⟨"codex", by decide⟩

/-- A controller is configured, a worker registered and given a task, and a session started. -/
def sampleSession (task : String) : Except ControlError Tables := do
  let (t, _) ← configureController initialTables (controlStamp '1') "codex" none
  let (t, _) ← registerWorker t (controlStamp '2') "w" .proofExplorer
  let (t, _) ← assignTask t (controlStamp '3') "w" task
  let (t, _) ← recoverUncleanController t (controlStamp '4')
  startController t (controlStamp '4') "s" 1 controlProvider "1" controlHash

/-- The sample session claims the task and plans its dispatch. -/
def sampleExecution : Except ControlError (Tables × ClaimedAssignment) := do
  let t ← sampleSession "prove True"
  let (t, claim) ← claimAssignment t (controlStamp '5') "w" "s" 1 "e"
  let t ← recordDispatchPlanned t (controlStamp '6') claim "d" controlHash controlHash 1 1
  pure (t, claim)

omit [CharacterDatabase] in
lemma planned_sampleExecution :
    letI := asciiDatabase
    sampleExecution.toOption.any (fun r => fieldOf r.1.projections .workerExecutions
      r.2.assignmentId "status" == some (.str "planned")) = true := by
  decide +kernel

lemma reachable_operator {admitted : ControllerWorld → ControllerAction → Prop}
    {session : Option Session} {op : ControlOperation} {stamp : Stamp} {version : ℕ}
    (h : (controllerSystem.restrict admitted).Reachable ⟨t, session⟩)
    (hrun : op.run t stamp = .ok (t', version)) (hadmitted : admitted ⟨t, session⟩ (.operator stamp op)) :
    (controllerSystem.restrict admitted).Reachable ⟨t', session⟩ :=
  h.step ⟨.operator hrun, hadmitted⟩

/-- As long as there are no executions, a supervisor recovers and starts. -/
lemma reachable_started {admitted : ControllerWorld → ControllerAction → Prop} {t t₁ t₂ : Tables}
    {stamp stamp' : Stamp} {sessionId : String} {version : ℕ} {provider : ControllerProviderId}
    {backendVersion executableHash : String} {crashed : Option String}
    (h : (controllerSystem.restrict admitted).Reachable ⟨t, none⟩)
    (hnone : ∀ id, findRecord t.projections .workerExecutions id = none)
    (hrecover : recoverUncleanController t stamp = .ok (t₁, crashed))
    (hstart : startController t₁ stamp' sessionId version provider backendVersion executableHash =
      .ok t₂)
    (hopening : admitted ⟨t, none⟩ (.openSession sessionId true))
    (hrecovering : admitted ⟨t, some ⟨sessionId, true, 0, .opened, []⟩⟩ (.recover stamp))
    (hfinishing : admitted ⟨t₁, some ⟨sessionId, true, 0, .recovering [], []⟩⟩ .finishRecovery)
    (hstarting : admitted ⟨t₁, some ⟨sessionId, true, 0, .recovered, []⟩⟩
      (.start stamp' version provider backendVersion executableHash)) :
    (controllerSystem.restrict admitted).Reachable
      ⟨t₂, some ⟨sessionId, true, version, .started, []⟩⟩ := by
  have hrecovered : ControllerStep ⟨t, some ⟨sessionId, true, 0, .opened, []⟩⟩
      (.recover stamp) ⟨t₁, some ⟨sessionId, true, 0, .recovering [], []⟩⟩ := by
    have hempty : projectionsOf t₁.projections .workerExecutions = [] := by
      refine List.eq_nil_iff_forall_not_mem.2 fun r hr => ?_
      have hrow := (mem_projectionsOf.1 hr).2
      rw [(recoverUncleanController_ok hrecover).1.records, hnone] at hrow
      cases hrow
    have hstep := ControllerStep.recover (s := ⟨sessionId, true, 0, .opened, []⟩) rfl hrecover
    simp only [Session.recoveredPhase, if_true, hempty] at hstep
    exact hstep
  have hopened := h.step ⟨.openSession sessionId true, hopening⟩
  have hfinished := (hopened.step ⟨hrecovered, hrecovering⟩).step ⟨.finishRecovery rfl, hfinishing⟩
  exact hfinished.step ⟨.start rfl hstart, hstarting⟩

/-- The sample session is a run of the controller. -/
lemma reachable_sampleSession {task : String} (h : sampleSession task = .ok t) :
    controllerSystem.Reachable ⟨t, some ⟨"s", true, 1, .started, []⟩⟩ := by
  simp only [sampleSession, bind_eq_ok, Prod.exists] at h
  obtain ⟨t₁, _, hconfigure, t₂, _, hregister, t₃, _, hassign, t₄, _, hrecover, hstart⟩ := h
  have hconfigured : ControlOperation.run initialTables (controlStamp '1')
      (.configureController "codex" none) = .ok (t₁, _) := hconfigure
  have hregistered : ControlOperation.run t₁ (controlStamp '2')
      (.registerWorker "w" .proofExplorer) = .ok (t₂, _) := hregister
  have hassigned : ControlOperation.run t₂ (controlStamp '3') (.assignTask "w" task) =
      .ok (t₃, _) := hassign
  have hreachable : (controllerSystem.restrict fun _ _ => True).Reachable ⟨t₃, none⟩ :=
    reachable_operator (reachable_operator (reachable_operator (.of_initial rfl) hconfigured trivial)
      hregistered trivial) hassigned trivial
  have hnone : ∀ id, findRecord t₃.projections .workerExecutions id = none := by
    intro id
    rw [(keeps_of_operator hassigned).1.records, (keeps_of_operator hregistered).1.records,
      (keeps_of_operator hconfigured).1.records]
    simp [findRecord, initialTables, initialLog, initialProjections]
  have hstarted := reachable_started hreachable hnone hrecover hstart trivial trivial trivial trivial
  exact hstarted.of_restrict

/-- The sample execution is a run of the controller. -/
lemma reachable_sampleExecution {claim : ClaimedAssignment}
    (h : sampleExecution = .ok (t, claim)) :
    controllerSystem.Reachable ⟨t, some ⟨"s", true, 1, .started, [claim]⟩⟩ := by
  simp only [sampleExecution, bind_eq_ok, pure_eq_ok, Prod.exists, Prod.mk.injEq] at h
  obtain ⟨t₅, hsession, t₆, c, hclaim, t₇, hplan, rfl, rfl⟩ := h
  have hclaimed := (reachable_sampleSession hsession).step (.claim rfl rfl hclaim)
  have hplanned : ControllerStep ⟨t₆, some ⟨"s", true, 1, .started, [c]⟩⟩
      (.execute (controlStamp '6') c (.plan "d" controlHash controlHash 1 1))
      ⟨t₇, some ⟨"s", true, 1, .started, [c]⟩⟩ :=
    .execute List.mem_cons_self hplan
  exact hclaimed.step hplanned

omit [CharacterDatabase] in
/-- The supervisor of the sample execution crashes and leaves the execution unfinished. -/
theorem controller_executions_sample :
    letI := asciiDatabase
    ∃ t claim, sampleExecution = .ok (t, claim) ∧
      (∀ assignmentId, ExecutedOnce t.toEventLog assignmentId) ∧
      NonterminalExecution t claim.assignmentId := by
  let := asciiDatabase
  obtain ⟨⟨t, claim⟩, h, hplanned⟩ := (Option.any_eq_true _ _).1 planned_sampleExecution
  rw [toOption_eq_some] at h
  have hreachable := (reachable_sampleExecution h).step .crash
  obtain ⟨honce, -⟩ := controller_executions hreachable
  exact ⟨t, claim, h, honce, .str "planned", by decide, by simpa using hplanned⟩

end Aizim.Orchestration
