import Aizim.Orchestration.ControllerDispatcher
import Aizim.Orchestration.ControllerProtocol

/-!
# How a dispatch ends

Whether `planAndExecute` leaves the execution that it claimed in a final state, and without raising
out of the loop of the controller.

While it runs, its claim is either current, or a request of the operator has replaced the assignment
or the configuration since (`Standing`, kept by `Standing.wait`).  Every write of the dispatcher
succeeds in the one case and raises in the other (`Standing.ends_write_iff`).  It also raises when
it cannot make a directive.  So `planAndExecute_ends_iff` says which requests and which tasks leave
an execution behind.
-/

namespace Aizim.Orchestration

open JsonValue JsonObject Domain State TransitionSystem Knowledge Research

/-! ## The environment -/

/-- The request replaces the assignment of the worker, or the configuration of the controller. -/
def replacesClaimOf (workerId : String) : ControlOperation → Bool
  | op@(.configureController ..) => op.isValid
  | .registerWorker .. => false
  | op@(.assignTask worker _) => worker == workerId && op.isValid

/-- The step replaces the assignment of the worker, or the configuration of the controller. -/
def EnvironmentStep.disturbs (workerId : String) : EnvironmentStep → Bool
  | .operator _ op => replacesClaimOf workerId op
  | .service _ => false

/-- None of the steps replaces the assignment of the worker or the configuration. -/
def Undisturbed (workerId : String) (steps : List EnvironmentStep) : Prop :=
  ∀ step ∈ steps, step.disturbs workerId = false

/-- The ids that the service takes for the events of requests. -/
def operatorIds (steps : List EnvironmentStep) : List String :=
  steps.filterMap fun
    | .operator stamp _ => some stamp.eventId
    | .service _ => none

variable [CharacterDatabase] {t t' : Tables} {claim : ClaimedAssignment}

/-- The ids are valid, all different and new to the log. -/
structure NewEventIds (t : Tables) (ids : List String) : Prop where
  valid : ∀ id ∈ ids, isUlid id = true
  nodup : ids.Nodup
  new : ∀ id ∈ ids, id ∉ t.events.map (·.eventId)

/-- The other operations of the service write none of the records of the control plane and take
none of these ids. -/
def ServiceAdmitted (steps : List EnvironmentStep) (ids : List String) : Prop :=
  ∀ op, .service op ∈ steps → leavesControl op ∧
    ∀ t : Tables, ∀ id ∈ ids, id ∈ (op.exec t).events.map (·.eventId) →
      id ∈ t.events.map (·.eventId)

/-! ## One step of the environment -/

/-- A step of the environment keeps what the session knows of executions and of the runtime. -/
lemma keeps_of_environment {step : EnvironmentStep} (hids : (ids t.publicationQueue).Nodup)
    (hstep : ∀ op, step = .service op → leavesControl op) :
    KeepsExecutions t (step.exec t) ∧ ∀ id, findRecord (step.exec t).projections .controllerRuntime
      id = findRecord t.projections .controllerRuntime id := by
  cases step with
  | operator stamp op =>
    rw [EnvironmentStep.exec]
    cases h : op.run t stamp with
    | ok r => exact keeps_of_operator h
    | error e => exact ⟨.refl t, fun _ => rfl⟩
  | service op => exact keeps_of_service (hstep op rfl) hids

/-- A record is as it was, or has a later version. -/
def LaterRecord (t t' : Tables) (projection : ProjectionName) (id : String) : Prop :=
  findRecord t'.projections projection id = findRecord t.projections projection id ∨
    ∃ row', findRecord t'.projections projection id = some row' ∧
      ∀ row, findRecord t.projections projection id = some row → row.version < row'.version

lemma laterRecord_of_environment {step : EnvironmentStep}
    (hids : (ids t.publicationQueue).Nodup)
    (hstep : ∀ op, step = .service op → leavesControl op) {projection : ProjectionName}
    (hprojection : projection ∈ controlProjections) (id : String) :
    LaterRecord t (step.exec t) projection id := by
  have hother : projection ≠ .documents ∧ projection ≠ .epochs := by
    revert hprojection
    cases projection <;> decide
  cases step with
  | operator stamp op =>
    rw [EnvironmentStep.exec]
    cases h : op.run t stamp with
    | error e => exact Or.inl rfl
    | ok r =>
      obtain ⟨state, hrecord⟩ := ControlOperation.findRecord_run h hother.1 hother.2 id
      rw [settle_ok]
      split at hrecord
      · refine Or.inr ⟨_, hrecord, fun row hrow => ?_⟩
        simp [hrow]
      · exact Or.inl hrecord
  | service op =>
    obtain ⟨events, hrun, htypes⟩ := StateOp.exists_run_exec hids op
    refine Or.inl (findRecord_of_run hrun hother.1 hother.2 (fun e he hsame => ?_) id)
    exact hstep op rfl _ (htypes e he) (hsame ▸ hprojection)

omit [CharacterDatabase] in
/-- A request that does not replace is refused or about something else. -/
lemma entity_of_not_replacesClaimOf [CharacterDatabase] {op : ControlOperation} {stamp : Stamp}
    {version : ℕ} (hop : replacesClaimOf claim.workerId op = false)
    (h : op.run t stamp = .ok (t', version)) :
    ¬ (op.eventType.projection = .controller ∨
      (op.eventType.projection = .workerAssignments ∧ op.entity = claim.workerId)) := by
  have hvalid := ControlOperation.isValid_of_run h
  cases op with
  | configureController provider model => simp [replacesClaimOf, hvalid] at hop
  | registerWorker workerId role =>
    simp [ControlOperation.eventType, EventType.projection]
  | assignTask workerId task =>
    simp only [replacesClaimOf, hvalid, Bool.and_true, beq_eq_false_iff_ne] at hop
    simp [ControlOperation.eventType, EventType.projection, ControlOperation.entity, hop]

/-- The records that a claim is compared with are as they were. -/
structure KeepsClaim (t t' : Tables) (claim : ClaimedAssignment) : Prop where
  assignment : findRecord t'.projections .workerAssignments claim.workerId =
    findRecord t.projections .workerAssignments claim.workerId
  execution : findRecord t'.projections .workerExecutions claim.assignmentId =
    findRecord t.projections .workerExecutions claim.assignmentId
  configured : findRecord t'.projections .controller controllerId =
    findRecord t.projections .controller controllerId
  runtime : findRecord t'.projections .controllerRuntime controllerId =
    findRecord t.projections .controllerRuntime controllerId

omit [CharacterDatabase] in
lemma ClaimCurrent.keeps {allowed : List JsonValue} (hclaim : ClaimCurrent t claim allowed)
    (h : KeepsClaim t t' claim) : ClaimCurrent t' claim allowed := by
  obtain ⟨hassignment, hexecution, hconfigured, hruntime⟩ := h
  constructor
  · rw [hassignment]
    exact hclaim.assignmentVersion
  · rw [fieldOf, hassignment]
    exact hclaim.taskVersion
  · rw [fieldOf, hassignment]
    exact hclaim.assignment
  · rw [fieldOf, hexecution]
    exact hclaim.execution
  · rw [hconfigured]
    exact hclaim.configured
  · rw [fieldOf, hruntime]
    exact hclaim.running
  · rw [fieldOf, fieldOf, hexecution, hruntime]
    exact hclaim.session
  · exact hclaim.positive
  · rw [fieldOf, hexecution]
    exact hclaim.executionVersion
  · rw [fieldOf, hruntime]
    exact hclaim.runtimeVersion
  · rw [fieldOf, hexecution]
    exact hclaim.status

/-- A step that does not replace the assignment or the configuration keeps the claim current. -/
lemma keepsClaim_of_environment {step : EnvironmentStep} (hids : (ids t.publicationQueue).Nodup)
    (hstep : ∀ op, step = .service op → leavesControl op)
    (hundisturbed : step.disturbs claim.workerId = false) : KeepsClaim t (step.exec t) claim := by
  obtain ⟨hkeeps, hruntime⟩ := keeps_of_environment hids hstep
  have hsame : ∀ projection id, (projection = .controller ∨
      (projection = .workerAssignments ∧ id = claim.workerId)) →
      findRecord (step.exec t).projections projection id =
        findRecord t.projections projection id := by
    intro projection id hwhich
    have hother : projection ∈ controlProjections ∧ projection ≠ .documents ∧
        projection ≠ .epochs := by
      rcases hwhich with rfl | ⟨rfl, -⟩ <;> decide
    cases step with
    | operator stamp op =>
      rw [EnvironmentStep.exec]
      cases h : op.run t stamp with
      | error e => rfl
      | ok r =>
        have hentity := entity_of_not_replacesClaimOf hundisturbed h
        obtain ⟨state, hrecord⟩ := ControlOperation.findRecord_run h hother.2.1 hother.2.2 id
        rw [settle_ok, hrecord, if_neg]
        rintro ⟨rfl, rfl⟩
        exact hentity hwhich
    | service op =>
      obtain ⟨events, hrun, htypes⟩ := StateOp.exists_run_exec hids op
      refine findRecord_of_run hrun hother.2.1 hother.2.2 (fun e he hname => ?_) id
      exact hstep op rfl _ (htypes e he) (hname ▸ hother.1)
  exact ⟨hsame _ _ (Or.inr ⟨rfl, rfl⟩), hkeeps.records _, hsame _ _ (Or.inl rfl), hruntime _⟩

/-! ## Claims while the dispatcher awaits -/

/-- The assignment or the configuration has a later version than the claim. -/
def Superseded (t : Tables) (claim : ClaimedAssignment) : Prop :=
  (∃ row, findRecord t.projections .workerAssignments claim.workerId = some row ∧
    claim.taskVersion < row.version) ∨
  ∃ row, findRecord t.projections .controller controllerId = some row ∧
    claim.controllerVersion < row.version

omit [CharacterDatabase] in
lemma Superseded.later (h : Superseded t claim)
    (hassignment : LaterRecord t t' .workerAssignments claim.workerId)
    (hconfigured : LaterRecord t t' .controller controllerId) : Superseded t' claim := by
  rcases h with ⟨row, hrow, hlt⟩ | ⟨row, hrow, hlt⟩
  · rcases hassignment with hsame | ⟨row', hrow', hlater⟩
    · exact Or.inl ⟨row, hsame.trans hrow, hlt⟩
    · exact Or.inl ⟨row', hrow', hlt.trans (hlater row hrow)⟩
  · rcases hconfigured with hsame | ⟨row', hrow', hlater⟩
    · exact Or.inr ⟨row, hsame.trans hrow, hlt⟩
    · exact Or.inr ⟨row', hrow', hlt.trans (hlater row hrow)⟩

omit [CharacterDatabase] in
/-- A superseded claim is refused. -/
lemma Superseded.not_current (h : Superseded t claim) (allowed : List JsonValue) :
    ¬ ClaimCurrent t claim allowed := by
  intro hcurrent
  rcases h with ⟨row, hrow, hlt⟩ | ⟨row, hrow, hlt⟩
  · have hversion := hcurrent.assignmentVersion
    rw [hrow, Option.map_some, Option.some.injEq] at hversion
    omega
  · have hversion := hcurrent.configured
    rw [hrow, Option.map_some, Option.some.injEq] at hversion
    omega

/-- What the dispatcher knows of its claim: its execution has a status that is not final, and the
claim is current as long as it is left alone, and superseded afterwards. -/
structure Standing (t : Tables) (claim : ClaimedAssignment) (status : String) (alone : Prop) :
    Prop where
  ids_nodup : (ids t.publicationQueue).Nodup
  registered : findRecord t.projections .workerRoster claim.workerId ≠ none
  configured : findRecord t.projections .controller controllerId ≠ none
  unfinished : JsonValue.str status ∈ nonterminal
  statusOf : fieldOf t.projections .workerExecutions claim.assignmentId "status" =
    some (.str status)
  named : isSha256 claim.assignmentId = true ∧ claim.executionId ≠ ""
  current : alone → ClaimCurrent t claim [.str status]
  superseded : ¬ alone → Superseded t claim

/-- A request with valid arguments and a new id that replaces the assignment or the configuration
supersedes a current claim. -/
lemma superseded_of_replaces {op : ControlOperation} {stamp : Stamp} {allowed : List JsonValue}
    (hop : replacesClaimOf claim.workerId op = true) (hvalid : isUlid stamp.eventId = true)
    (hnew : stamp.eventId ∉ t.events.map (·.eventId)) (hclaim : ClaimCurrent t claim allowed)
    (hregistered : findRecord t.projections .workerRoster claim.workerId ≠ none)
    (hconfigured : findRecord t.projections .controller controllerId ≠ none) :
    Superseded (settle t (op.run t stamp)) claim := by
  cases op with
  | configureController provider model =>
    obtain ⟨t', version, hrun⟩ := ControlOperation.exists_configureController hvalid hnew hop
    have hother : ProjectionName.controller ≠ .documents ∧ ProjectionName.controller ≠ .epochs := by
      decide
    obtain ⟨state, hrecord⟩ := ControlOperation.findRecord_run hrun hother.1 hother.2 controllerId
    rw [hrun, settle_ok]
    refine Or.inr ⟨_, hrecord.trans (if_pos ⟨rfl, rfl⟩), ?_⟩
    have hversion := hclaim.configured
    cases hrow : findRecord t.projections .controller controllerId with
    | none => exact absurd hrow hconfigured
    | some row =>
      rw [hrow, Option.map_some, Option.some.injEq] at hversion
      simp only [Option.map_some, Option.getD_some]
      omega
  | registerWorker workerId role => simp [replacesClaimOf] at hop
  | assignTask workerId task =>
    simp only [replacesClaimOf, Bool.and_eq_true, beq_iff_eq] at hop
    obtain ⟨rfl, hop⟩ := hop
    obtain ⟨t', version, hrun⟩ := ControlOperation.exists_assignTask hvalid hnew hop hconfigured
      hregistered
    have hother : ProjectionName.workerAssignments ≠ .documents ∧
        ProjectionName.workerAssignments ≠ .epochs := by
      decide
    obtain ⟨state, hrecord⟩ :=
      ControlOperation.findRecord_run hrun hother.1 hother.2 claim.workerId
    rw [hrun, settle_ok]
    refine Or.inl ⟨_, hrecord.trans (if_pos ⟨rfl, rfl⟩), ?_⟩
    have hversion := hclaim.assignmentVersion
    cases hrow : findRecord t.projections .workerAssignments claim.workerId with
    | none =>
      rw [hrow] at hversion
      cases hversion
    | some row =>
      rw [hrow, Option.map_some, Option.some.injEq] at hversion
      simp only [Option.map_some, Option.getD_some]
      omega

/-- One step of the environment. -/
lemma Standing.step {status : String} {alone : Prop} {step : EnvironmentStep} {rest : List String}
    (h : Standing t claim status alone) (hids : NewEventIds t (operatorIds [step] ++ rest))
    (hservice : ∀ op, step = .service op → leavesControl op) :
    Standing (step.exec t) claim status (alone ∧ step.disturbs claim.workerId = false) := by
  obtain ⟨hkeeps, -⟩ := keeps_of_environment h.ids_nodup hservice
  have hlater : ∀ projection ∈ controlProjections, ∀ id,
      LaterRecord t (step.exec t) projection id := fun projection hprojection id =>
    laterRecord_of_environment h.ids_nodup hservice hprojection id
  have hfound : ∀ projection ∈ controlProjections, ∀ id,
      findRecord t.projections projection id ≠ none →
        findRecord (step.exec t).projections projection id ≠ none := by
    intro projection hprojection id hsome
    rcases hlater projection hprojection id with hsame | ⟨row, hrow, -⟩
    · rw [hsame]
      exact hsome
    · rw [hrow]
      exact Option.some_ne_none row
  refine ⟨hkeeps.ids_nodup h.ids_nodup, hfound _ (by decide) _ h.registered,
    hfound _ (by decide) _ h.configured, h.unfinished, ?_, h.named, ?_, fun hnot => ?_⟩
  · rw [hkeeps.fieldOf_eq]
    exact h.statusOf
  · rintro ⟨halone, hundisturbed⟩
    exact (h.current halone).keeps (keepsClaim_of_environment h.ids_nodup hservice hundisturbed)
  · by_cases halone : alone
    · have hdisturbs : step.disturbs claim.workerId = true := by
        simpa [halone] using hnot
      cases step with
      | service op => simp [EnvironmentStep.disturbs] at hdisturbs
      | operator stamp op =>
        have hstamp : stamp.eventId ∈ operatorIds [.operator stamp op] ++ rest := by
          simp [operatorIds]
        exact superseded_of_replaces hdisturbs (hids.valid _ hstamp) (hids.new _ hstamp)
          (h.current halone) h.registered h.configured
    · exact (h.superseded halone).later (hlater _ (by decide) _) (hlater _ (by decide) _)

/-- The ids that a step of the environment does not use stay new. -/
lemma NewEventIds.step {step : EnvironmentStep} {rest : List String}
    (hids : NewEventIds t (operatorIds [step] ++ rest))
    (hservice : ServiceAdmitted [step] rest) : NewEventIds (step.exec t) rest := by
  obtain ⟨hvalid, hdistinct, hnew⟩ := hids
  refine ⟨fun id hid => hvalid id (List.mem_append_right _ hid),
    (List.nodup_append.1 hdistinct).2.1, fun id hid => ?_⟩
  have hbefore := hnew id (List.mem_append_right _ hid)
  cases step with
  | service op =>
    intro hafter
    exact hbefore ((hservice op List.mem_cons_self).2 t id hid hafter)
  | operator stamp op =>
    rw [EnvironmentStep.exec]
    cases h : op.run t stamp with
    | error e => exact hbefore
    | ok r =>
      rw [settle_ok, ControlOperation.eventIds_run h]
      intro hafter
      rcases List.mem_append.1 hafter with hold | hstamp
      · exact hbefore hold
      · have hne := (List.nodup_append.1 hdistinct).2.2 stamp.eventId (by simp [operatorIds]) id hid
        exact hne (List.mem_singleton.1 hstamp).symm

omit [CharacterDatabase] in
lemma operatorIds_cons (step : EnvironmentStep) (steps : List EnvironmentStep) :
    operatorIds (step :: steps) = operatorIds [step] ++ operatorIds steps := by
  rw [operatorIds, ← List.singleton_append, List.filterMap_append, ← operatorIds, ← operatorIds]

/-- While the dispatcher awaits, it learns whether its claim was left alone. -/
lemma Standing.wait {status : String} {steps : List EnvironmentStep} {rest : List String}
    {alone : Prop} (h : Standing t claim status alone)
    (hids : NewEventIds t (operatorIds steps ++ rest))
    (hservice : ServiceAdmitted steps (operatorIds steps ++ rest)) :
    Standing (steps.foldl EnvironmentStep.exec t) claim status
        (alone ∧ Undisturbed claim.workerId steps) ∧
      NewEventIds (steps.foldl EnvironmentStep.exec t) rest := by
  induction steps generalizing t alone with
  | nil =>
    have hnone : (alone ∧ Undisturbed claim.workerId []) = alone := by
      simp [Undisturbed]
    rw [hnone]
    exact ⟨h, hids⟩
  | cons step steps ih =>
    rw [operatorIds_cons, List.append_assoc] at hids hservice
    have hstep := h.step hids fun op hop => (hservice op (hop ▸ List.mem_cons_self)).1
    have hnew : NewEventIds (step.exec t) (operatorIds steps ++ rest) := by
      refine hids.step fun op hop => ?_
      obtain rfl := List.mem_singleton.1 hop
      obtain ⟨hleaves, hadds⟩ := hservice op List.mem_cons_self
      exact ⟨hleaves, fun t id hid => hadds t id (List.mem_append_right _ hid)⟩
    have hrest : ServiceAdmitted steps (operatorIds steps ++ rest) := by
      intro op hop
      obtain ⟨hleaves, hadds⟩ := hservice op (List.mem_cons_of_mem _ hop)
      exact ⟨hleaves, fun t id hid => hadds t id (List.mem_append_right _ hid)⟩
    have halone : (alone ∧ Undisturbed claim.workerId (step :: steps)) =
        ((alone ∧ step.disturbs claim.workerId = false) ∧
          Undisturbed claim.workerId steps) := by
      rw [Undisturbed, List.forall_mem_cons, and_assoc, ← Undisturbed]
    rw [List.foldl_cons, halone]
    exact ih hstep hnew hrest

/-! ## Writes -/

/-- The statuses of an execution that ended. -/
def terminalStatuses : List String := ["completed", "failed", "interrupted"]

/-- The dispatch ended: the execution is in a final state, and nothing was raised out of the loop
of the controller. -/
def Ends (outcome : Tables × DispatchResult) (claim : ClaimedAssignment) : Prop :=
  (∃ status ∈ terminalStatuses, fieldOf outcome.1.projections .workerExecutions claim.assignmentId
    "status" = some (.str status)) ∧ outcome.2 ≠ .raised

omit [CharacterDatabase] in
lemma not_ends_raised (t : Tables) (claim : ClaimedAssignment) : ¬ Ends (t, .raised) claim :=
  fun h => h.2 rfl

/-- An event of the claim that the execution may have now. -/
structure Writes (claim : ClaimedAssignment) (status : String) (type : EventType)
    (allowed : List JsonValue) (fields : JsonObject) : Prop where
  type_mem : type ∈ executionTypes.erase .workerTaskClaimed
  allowed_mem : JsonValue.str status ∈ allowed
  previous_mem : JsonValue.str status ∈ allowedPrevious type
  unchanged : ∀ field ∈ ["controller_session_id", "controller_version"],
    getEntry field fields = none
  payload : validatePayload type ([("assignment_id", .str claim.assignmentId),
    ("execution_id", .str claim.executionId)] ++ fields) = .ok ()

/-- What is written about a current claim is appended. -/
lemma Standing.exists_appendClaimed {status : String} {alone : Prop} {type : EventType}
    {allowed : List JsonValue} {fields : JsonObject} {stamp : Stamp} {rest : List String}
    (h : Standing t claim status alone) (halone : alone)
    (hids : NewEventIds t (stamp.eventId :: rest))
    (hwrites : Writes claim status type allowed fields) :
    ∃ t', appendClaimed t stamp claim type allowed fields = .ok t' ∧
      OrchestrationAppended t t' type claim.assignmentId
        ([("assignment_id", .str claim.assignmentId), ("execution_id", .str claim.executionId)] ++
          fields) ∧
      type.projection = .workerExecutions ∧ NewEventIds t' rest := by
  have hcurrent := h.current halone
  have hexecution : type.isOrchestration = true ∧ type.entityField = some "assignment_id" ∧
      type.projection = .workerExecutions ∧ executionField type = "execution_id" := by
    have hmem := hwrites.type_mem
    revert hmem
    cases type <;> decide
  obtain ⟨horchestration, hentity, hprojection, hfield⟩ := hexecution
  have hnamed : getEntry (type.entityField.getD "") ([("assignment_id", .str claim.assignmentId),
      ("execution_id", .str claim.executionId)] ++ fields) = some (.str claim.assignmentId) := by
    rw [hentity]
    rfl
  obtain ⟨t', happend⟩ := exists_appendControl_orchestration
    (hids.valid _ List.mem_cons_self) (hids.new _ List.mem_cons_self)
    (show controllerId ≠ "" by decide) horchestration hwrites.payload hnamed
    ⟨.str status, hwrites.previous_mem, by rw [hprojection]; exact h.statusOf⟩
    (by
      rw [hprojection, hfield, hcurrent.execution]
      rfl)
  refine ⟨t', ?_, appendControl_orchestration happend horchestration hnamed, hprojection, ?_⟩
  · have hallowed : ClaimCurrent t claim allowed :=
      { hcurrent with status := ⟨_, hwrites.allowed_mem, h.statusOf⟩ }
    rw [appendClaimed, validateClaim_eq_ok.2 hallowed, ok_bind]
    exact happend
  · obtain ⟨hvalid, hdistinct, hnew⟩ := hids
    obtain ⟨hother, hdistinct⟩ := List.nodup_cons.1 hdistinct
    refine ⟨fun id hid => hvalid id (List.mem_cons_of_mem _ hid), hdistinct, fun id hid => ?_⟩
    rw [eventIds_appendControl happend]
    intro hafter
    rcases List.mem_append.1 hafter with hold | hstamp
    · exact hnew id (List.mem_cons_of_mem _ hid) hold
    · exact hother (List.mem_singleton.1 hstamp ▸ hid)

/-- What is written about a superseded claim raises. -/
lemma Standing.appendClaimed_error {status : String} {alone : Prop} {type : EventType}
    {allowed : List JsonValue} {fields : JsonObject} {stamp : Stamp}
    (h : Standing t claim status alone) (halone : ¬ alone) :
    ∃ e, appendClaimed t stamp claim type allowed fields = .error e := by
  cases hvalid : validateClaim t claim allowed with
  | error e => exact ⟨e, by rw [appendClaimed, hvalid, error_bind]⟩
  | ok r => exact absurd (validateClaim_eq_ok.1 hvalid) ((h.superseded halone).not_current allowed)

/-- The last write of the dispatcher ends the execution exactly if the claim was left alone. -/
lemma Standing.ends_write_iff {status : String} {alone : Prop} {type : EventType}
    {allowed : List JsonValue} {fields : JsonObject} {stamp : Stamp} {rest : List String}
    (h : Standing t claim status alone) (hids : NewEventIds t (stamp.eventId :: rest))
    (hwrites : Writes claim status type allowed fields)
    (hterminal : targetStatus type ∈ terminalStatuses) :
    Ends (write t (appendClaimed t stamp claim type allowed fields)) claim ↔ alone := by
  by_cases halone : alone
  · obtain ⟨t', happend, happended, hprojection, -⟩ := h.exists_appendClaimed halone hids hwrites
    have hstatus := happended.fields "status"
    rw [hprojection, if_pos rfl] at hstatus
    rw [happend]
    exact iff_of_true ⟨⟨_, hterminal, hstatus⟩, by simp [write]⟩ halone
  · obtain ⟨e, happend⟩ := h.appendClaimed_error halone
    rw [happend]
    exact iff_of_false (not_ends_raised t claim) halone


/-! ## The writes of the dispatcher -/

/-- The reasons for which the dispatcher fails an execution. -/
def failureReasons : List String :=
  ["CONTROLLER_BLOCKED", "CONTROLLER_REJECTED", "CONTROLLER_DECISION_INVALID",
   "CONTROLLER_TIMEOUT", "WORKER_FAILED", "WORKER_ROLE_UNSUPPORTED", "FORMAL_TARGET_REQUIRED"]

lemma Standing.writes_fail {status reason : String} {alone : Prop}
    (h : Standing t claim status alone) (hreason : reason ∈ failureReasons) :
    Writes claim status .workerTaskFailed nonterminal [("reason_code", .str reason)] := by
  obtain ⟨hassignment, hexecution⟩ := h.named
  refine ⟨by decide, h.unfinished, h.unfinished, by simp [getEntry], ?_⟩
  have hne : reason ≠ "" := by
    rintro rfl
    exact absurd hreason (by decide)
  simp [validatePayload, codec?, PayloadCodec.validate_eq_ok_iff, PayloadCodec.validator,
    fieldValidators, FieldCheck.accepts, textPayload, keys, hassignment, hexecution]
  simpa [failureReasons] using hreason

lemma Standing.writes_interrupt {status : String} {alone : Prop}
    (h : Standing t claim status alone) :
    Writes claim status .workerTaskInterrupted nonterminal
      [("reason_code", .str "OPERATOR_SIGNAL")] := by
  obtain ⟨hassignment, hexecution⟩ := h.named
  refine ⟨by decide, h.unfinished, h.unfinished, by simp [getEntry], ?_⟩
  simp [validatePayload, codec?, PayloadCodec.validate_eq_ok_iff, PayloadCodec.validator,
    fieldValidators, FieldCheck.accepts, textPayload, keys, hassignment, hexecution]

lemma Standing.writes_complete {alone : Prop} (h : Standing t claim "planned" alone)
    (cursor : JsonValue) :
    Writes claim "planned" .workerTaskCompleted [.str "planned"]
      [("result_hash", .str (sha256Json cursor))] := by
  obtain ⟨hassignment, hexecution⟩ := h.named
  refine ⟨by decide, by decide, by decide, by simp [getEntry], ?_⟩
  simp [validatePayload, codec?, PayloadCodec.validate_eq_ok_iff, PayloadCodec.validator,
    fieldValidators, FieldCheck.accepts, textPayload, keys, isSha256_sha256Json, hassignment,
    hexecution]


/-- The write of a planned dispatch: the execution is planned, and the claim is still current. -/
lemma Standing.exists_planned {alone : Prop} {directiveId artifactHash instructionHash : String}
    {budget timeout : ℕ} {stamp : Stamp} {rest : List String} (h : Standing t claim "claimed" alone)
    (halone : alone) (hids : NewEventIds t (stamp.eventId :: rest)) (hdirective : directiveId ≠ "")
    (hhashes : isSha256 artifactHash = true ∧ isSha256 instructionHash = true)
    (hpositive : 0 < budget ∧ 0 < timeout) :
    ∃ t', recordDispatchPlanned t stamp claim directiveId artifactHash instructionHash budget
        timeout = .ok t' ∧ Standing t' claim "planned" True ∧ NewEventIds t' rest := by
  obtain ⟨hassignment, hexecution⟩ := h.named
  have hwrites : Writes claim "claimed" .workerTaskDispatchPlanned [.str "claimed"]
      [("directive_id", .str directiveId), ("directive_artifact_hash", .str artifactHash),
       ("instruction_hash", .str instructionHash), ("budget", .int budget),
       ("timeout_milliseconds", .int timeout)] := by
    refine ⟨by decide, by decide, by decide, by simp [getEntry], ?_⟩
    simp [validatePayload, codec?, PayloadCodec.validate_eq_ok_iff, PayloadCodec.validator,
      fieldValidators, FieldCheck.accepts, textPayload, keys, hassignment, hexecution, hdirective,
      hhashes, hpositive]
  obtain ⟨t', happend, happended, hprojection, hrest⟩ := h.exists_appendClaimed halone hids hwrites
  have hcurrent := h.current halone
  have hother : ∀ projection ∈ controlProjections, projection ≠ .workerExecutions → ∀ id,
      findRecord t'.projections projection id = findRecord t.projections projection id :=
    fun projection hprojection hne id =>
      happended.findRecord_ne hprojection (Or.inl (by exact hne))
  have hfields : ∀ field ∈ ["controller_session_id", "controller_version"],
      fieldOf t'.projections .workerExecutions claim.assignmentId field =
        fieldOf t.projections .workerExecutions claim.assignmentId field := by
    intro field hfield
    have hfields := happended.fields field
    have hnone := hwrites.unchanged field hfield
    revert hfield
    simp only [List.mem_cons, List.not_mem_nil]
    rintro (rfl | rfl | hfalse)
    · exact hfields
    · exact hfields
    · exact hfalse.elim
  refine ⟨t', happend, ⟨?_, ?_, ?_, by decide, happended.fields "status", h.named, fun _ => ?_,
    fun hnot => absurd trivial hnot⟩, hrest⟩
  · rw [happended.queue]
    exact h.ids_nodup
  · rw [hother _ (by decide) (by decide)]
    exact h.registered
  · rw [hother _ (by decide) (by decide)]
    exact h.configured
  constructor
  · rw [hother _ (by decide) (by decide)]
    exact hcurrent.assignmentVersion
  · rw [fieldOf, hother _ (by decide) (by decide)]
    exact hcurrent.taskVersion
  · rw [fieldOf, hother _ (by decide) (by decide)]
    exact hcurrent.assignment
  · exact happended.fields "execution_id"
  · rw [hother _ (by decide) (by decide)]
    exact hcurrent.configured
  · rw [fieldOf, hother _ (by decide) (by decide)]
    exact hcurrent.running
  · rw [hfields _ (by decide), fieldOf, fieldOf, hother .controllerRuntime (by decide) (by decide)]
    exact hcurrent.session
  · exact hcurrent.positive
  · rw [hfields _ (by decide)]
    exact hcurrent.executionVersion
  · rw [fieldOf, hother _ (by decide) (by decide)]
    exact hcurrent.runtimeVersion
  · exact ⟨_, List.mem_singleton_self _, happended.fields "status"⟩


/-! ## Preparing -/

/-- A claim that was just made stands. -/
lemma standing_of_claimAssignment {stamp : Stamp} {workerId sessionId executionId : String}
    {version : ℕ} (hids : (ids t.publicationQueue).Nodup)
    (h : claimAssignment t stamp workerId sessionId version executionId = .ok (t', claim)) :
    Standing t' claim "claimed" True := by
  obtain ⟨hruns, -, -, -, happended⟩ := claimAssignment_ok h
  obtain ⟨-, hsha, hsession, hpositive, -, -, hexecution⟩ := valid_of_claimAssignment h
  simp only [claimAssignment, bind_eq_ok, require_eq_ok, orThrow_eq_ok, payloadOf_eq_ok,
    textOf_eq_ok, integerOf_eq_ok, pure_eq_ok, exists_and_left, exists_const, Prod.mk.injEq] at h
  obtain ⟨assignment, hassignment, assignmentPayload, hpayload, taskVersion, ⟨-, htaskVersion⟩,
    hversion, -, -, -, -, -, -, -, -, roster, hroster, -, -, role, -, assignmentId,
    ⟨-, hassignmentId⟩, -, -, -, -, -, -, -, task, -, t₁, happend, rfl, rfl⟩ := h
  have hother : ∀ projection ∈ controlProjections, projection ≠ .workerExecutions → ∀ id,
      findRecord t₁.projections projection id = findRecord t.projections projection id :=
    fun projection hprojection hne id =>
      happended.findRecord_ne hprojection (Or.inl (by exact hne))
  have hfield := fieldOf_eq hassignment hpayload
  refine ⟨?_, ?_, ?_, by decide, happended.fields "status", ⟨hsha, hexecution⟩, fun _ => ?_,
    fun hnot => absurd trivial hnot⟩
  · rw [happended.queue]
    exact hids
  · rw [hother _ (by decide) (by decide), hroster]
    exact Option.some_ne_none roster
  · rw [hother _ (by decide) (by decide)]
    intro hnone
    have hconfigured := hruns.configured
    rw [hnone] at hconfigured
    cases hconfigured
  constructor
  · rw [hother _ (by decide) (by decide), hassignment, Option.map_some, hversion]
  · rw [fieldOf, hother _ (by decide) (by decide), ← fieldOf, hfield]
    exact htaskVersion
  · rw [fieldOf, hother _ (by decide) (by decide), ← fieldOf, hfield]
    exact hassignmentId
  · exact happended.fields "execution_id"
  · rw [hother _ (by decide) (by decide)]
    exact hruns.configured
  · rw [fieldOf, hother _ (by decide) (by decide), ← fieldOf]
    exact hruns.running
  · refine ⟨sessionId, hsession, happended.fields "controller_session_id", ?_⟩
    rw [fieldOf, hother _ (by decide) (by decide), ← fieldOf]
    exact hruns.session
  · exact hpositive
  · exact happended.fields "controller_version"
  · rw [fieldOf, hother _ (by decide) (by decide), ← fieldOf]
    exact hruns.runtimeVersion
  · exact ⟨_, List.mem_singleton_self _, happended.fields "status"⟩

/-- What is prepared is a claim that was just made. -/
lemma standing_of_prepareNext {stamp : Stamp} {run : ControllerRun} {executionId directiveId : String}
    {prepared : PreparedDispatch} (hids : (ids t.publicationQueue).Nodup)
    (h : prepareNext t stamp run executionId directiveId = .ok (some (t', prepared))) :
    Standing t' prepared.claim "claimed" True ∧ prepared.directiveId = directiveId := by
  simp only [prepareNext, bind_eq_ok, require_eq_ok, exists_and_left, exists_const] at h
  obtain ⟨-, h⟩ := h
  generalize projectionsOf t.projections .workerRoster = workers at h
  induction workers with
  | nil => simp [prepareFirst] at h
  | cons worker workers ih =>
    rw [prepareFirst] at h
    split at h
    · exact ih h
    · rename_i assignment hassignment
      simp only [bind_eq_ok] at h
      obtain ⟨payload, -, assignmentId, -, h⟩ := h
      split at h
      · exact ih h
      · simp only [bind_eq_ok, pure_eq_ok, Prod.exists, Option.some.injEq, Prod.mk.injEq] at h
        obtain ⟨t₁, claim, hclaim, rfl, rfl⟩ := h
        exact ⟨standing_of_claimAssignment hids hclaim, rfl⟩

/-! ## Conditions -/

/-- What happens to the store while the dispatcher awaits. -/
def DispatchEnvironment.steps (env : DispatchEnvironment) : List EnvironmentStep :=
  env.plan.meanwhile ++ (env.opening.meanwhile ++ (env.running.meanwhile ++ env.closing.meanwhile))

/-- The ids of the events, in the order in which they may be taken. -/
def DispatchEnvironment.eventIds (env : DispatchEnvironment) : List String :=
  operatorIds env.plan.meanwhile ++ (env.plannedStamp.eventId ::
    (operatorIds env.opening.meanwhile ++ (operatorIds env.running.meanwhile ++
      (operatorIds env.closing.meanwhile ++ [env.terminalStamp.eventId]))))

/-- No request disturbs the claim while the host is opened, runs and is closed. -/
def HostUndisturbed (workerId : String) (env : DispatchEnvironment) : Prop :=
  Undisturbed workerId env.opening.meanwhile ∧
    (env.opening.outcome = .returned () → Undisturbed workerId env.running.meanwhile ∧
      Undisturbed workerId env.closing.meanwhile)

/-- If the decision leads to a statement to prove, it has no `:=`, the directive is stored, and the
host is left undisturbed. -/
def DispatchUnhindered (prepared : PreparedDispatch) (env : DispatchEnvironment)
    (decision : DispatchDecision) : Prop :=
  validDispatch decision prepared.context = true → controllerWorkerTools prepared.claim.role ≠ [] →
    ∀ statement, formalTarget? prepared.claim.task = some statement →
      hasInfix ":=".toList statement.toList = false ∧ env.artifact ≠ none ∧
        HostUndisturbed prepared.claim.workerId env

/-- The backend raises nothing that is not caught, no request disturbs the claim meanwhile, and
nothing hinders the dispatch it decides on. -/
def Unhindered (prepared : PreparedDispatch) (env : DispatchEnvironment) : Prop :=
  env.plan.outcome ≠ .raised ∧ Undisturbed prepared.claim.workerId env.plan.meanwhile ∧
    ∀ decision, env.plan.outcome = .decided (.dispatch decision) →
      DispatchUnhindered prepared env decision

omit [CharacterDatabase] in
lemma NewEventIds.sublist {ids ids' : List String} (h : NewEventIds t ids)
    (hsub : ids'.Sublist ids) : NewEventIds t ids' :=
  ⟨fun id hid => h.valid id (hsub.subset hid), h.nodup.sublist hsub,
    fun id hid => h.new id (hsub.subset hid)⟩

lemma ServiceAdmitted.mono {steps steps' : List EnvironmentStep} {ids ids' : List String}
    (h : ServiceAdmitted steps ids) (hsteps : steps' ⊆ steps) (hids : ids' ⊆ ids) :
    ServiceAdmitted steps' ids' := by
  intro op hop
  obtain ⟨hleaves, hadds⟩ := h op (hsteps hop)
  exact ⟨hleaves, fun t id hid => hadds t id (hids hid)⟩


/-! ## How a dispatch ends -/

section

variable {prepared : PreparedDispatch} {env : DispatchEnvironment} {status : String} {alone : Prop}

/-- The dispatcher stands as before when the host is done, if nothing disturbed its claim. -/
lemma Standing.runHost {rest : List String} (h : Standing t claim status alone)
    (hids : NewEventIds t (operatorIds env.opening.meanwhile ++
      (operatorIds env.running.meanwhile ++ (operatorIds env.closing.meanwhile ++ rest))))
    (hservice : ServiceAdmitted (env.opening.meanwhile ++ (env.running.meanwhile ++
      env.closing.meanwhile)) (operatorIds env.opening.meanwhile ++
      (operatorIds env.running.meanwhile ++ (operatorIds env.closing.meanwhile ++ rest)))) :
    Standing (Orchestration.runHost t env).1 claim status
        (alone ∧ HostUndisturbed claim.workerId env) ∧
      NewEventIds (Orchestration.runHost t env).1 rest := by
  obtain ⟨hopened, hopenedIds⟩ := h.wait hids
    (hservice.mono (List.subset_append_left _ _) (List.Subset.refl _))
  have hunreached : env.opening.outcome ≠ .returned () →
      (alone ∧ HostUndisturbed claim.workerId env) =
        (alone ∧ Undisturbed claim.workerId env.opening.meanwhile) := by
    intro hne
    simp [HostUndisturbed, hne]
  have hrest : NewEventIds (env.opening.wait t) rest :=
    hopenedIds.sublist ((List.sublist_append_right _ _).trans (List.sublist_append_right _ _))
  unfold Orchestration.runHost
  split
  · rename_i houtcome
    rw [hunreached (by rw [houtcome]; simp)]
    exact ⟨hopened, hrest⟩
  · rename_i houtcome
    rw [hunreached (by rw [houtcome]; simp)]
    exact ⟨hopened, hrest⟩
  · rename_i houtcome
    obtain ⟨hran, hranIds⟩ := hopened.wait hopenedIds
      (hservice.mono (List.Subset.trans (List.subset_append_left _ _)
        (List.subset_append_right _ _)) (List.subset_append_right _ _))
    obtain ⟨hclosed, hclosedIds⟩ := hran.wait hranIds
      (hservice.mono (List.Subset.trans (List.subset_append_right _ _)
        (List.subset_append_right _ _)) (List.Subset.trans (List.subset_append_right _ _)
        (List.subset_append_right _ _)))
    have hhost : (alone ∧ HostUndisturbed claim.workerId env) =
        (((alone ∧ Undisturbed claim.workerId env.opening.meanwhile) ∧
          Undisturbed claim.workerId env.running.meanwhile) ∧
          Undisturbed claim.workerId env.closing.meanwhile) := by
      simp [HostUndisturbed, houtcome, and_assoc]
    rw [hhost]
    split <;> exact ⟨hclosed, hclosedIds⟩

lemma handle_write (t : Tables) (r : Except ControlError Tables) :
    handle prepared env (write t r) = write t r := by
  cases r <;> rfl

/-- A failure is recorded exactly if the claim was left alone. -/
lemma Standing.ends_fail_iff {reason : String} (h : Standing t prepared.claim status alone)
    (hids : NewEventIds t [env.terminalStamp.eventId]) (hreason : reason ∈ failureReasons) :
    Ends (handle prepared env (failWith t env.terminalStamp prepared.claim reason))
      prepared.claim ↔ alone := by
  rw [failWith, handle_write]
  exact h.ends_write_iff hids (h.writes_fail hreason) (by decide)

/-- So is an interruption. -/
lemma Standing.ends_cancelled_iff (h : Standing t prepared.claim status alone)
    (hids : NewEventIds t [env.terminalStamp.eventId]) :
    Ends (handle prepared env (t, .cancelled)) prepared.claim ↔ alone := by
  have hends := h.ends_write_iff hids h.writes_interrupt (by decide)
  rw [← hends]
  simp only [handle, interruptAssignment]
  cases appendClaimed t env.terminalStamp prepared.claim .workerTaskInterrupted nonterminal
    [("reason_code", .str "OPERATOR_SIGNAL")] with
  | ok t' => simp [Ends, write]
  | error e => rfl

/-- A dispatch that was planned ends with what became of the host. -/
lemma Standing.ends_host_iff (h : Standing t prepared.claim "planned" alone)
    (hids : NewEventIds t (operatorIds env.opening.meanwhile ++
      (operatorIds env.running.meanwhile ++ (operatorIds env.closing.meanwhile ++
        [env.terminalStamp.eventId]))))
    (hservice : ServiceAdmitted (env.opening.meanwhile ++ (env.running.meanwhile ++
      env.closing.meanwhile)) (operatorIds env.opening.meanwhile ++
      (operatorIds env.running.meanwhile ++ (operatorIds env.closing.meanwhile ++
        [env.terminalStamp.eventId])))) :
    Ends (handle prepared env (runPlanned t prepared.claim env)) prepared.claim ↔
      alone ∧ HostUndisturbed prepared.claim.workerId env := by
  obtain ⟨hstands, hnew⟩ := h.runHost hids hservice
  unfold runPlanned
  cases hrun : Orchestration.runHost t env with
  | mk t' outcome =>
    rw [hrun] at hstands hnew
    cases outcome with
    | cancelled => exact hstands.ends_cancelled_iff hnew
    | raised => exact hstands.ends_fail_iff hnew (by decide)
    | returned cursor =>
      rw [handle_write]
      exact hstands.ends_write_iff hnew (hstands.writes_complete cursor) (by decide)

/-- A dispatch ends exactly if the claim was left alone and nothing hindered it. -/
lemma Standing.ends_dispatch_iff {decision : DispatchDecision}
    (h : Standing t prepared.claim "claimed" alone) (hdirective : prepared.directiveId ≠ "")
    (hids : NewEventIds t (env.plannedStamp.eventId :: (operatorIds env.opening.meanwhile ++
      (operatorIds env.running.meanwhile ++ (operatorIds env.closing.meanwhile ++
        [env.terminalStamp.eventId])))))
    (hservice : ServiceAdmitted (env.opening.meanwhile ++ (env.running.meanwhile ++
      env.closing.meanwhile)) (operatorIds env.opening.meanwhile ++
      (operatorIds env.running.meanwhile ++ (operatorIds env.closing.meanwhile ++
        [env.terminalStamp.eventId])))) :
    Ends (handle prepared env (dispatch t prepared decision env)) prepared.claim ↔
      alone ∧ DispatchUnhindered prepared env decision := by
  have hterminal : NewEventIds t [env.terminalStamp.eventId] := by
    refine hids.sublist (.cons _ ?_)
    exact ((List.sublist_append_right _ _).trans (List.sublist_append_right _ _)).trans
      (List.sublist_append_right _ _)
  have hfails : ∀ reason ∈ failureReasons,
      (Ends (handle prepared env (failWith t env.terminalStamp prepared.claim reason))
        prepared.claim ↔ alone) :=
    fun reason hreason => h.ends_fail_iff hterminal hreason
  have hraised : ∀ {c : Prop}, ¬ c →
      (Ends (handle prepared env (t, .raised)) prepared.claim ↔ alone ∧ c) :=
    fun hc => iff_of_false (not_ends_raised t prepared.claim) fun h => hc h.2
  unfold dispatch DispatchUnhindered
  by_cases hdecision : validDispatch decision prepared.context = false
  · simp only [hdecision, if_true]
    simpa using hfails "CONTROLLER_DECISION_INVALID" (by decide)
  rw [Bool.not_eq_false] at hdecision
  by_cases htools : controllerWorkerTools prepared.claim.role = []
  · simp only [hdecision, htools, Bool.true_eq_false, if_false, if_true]
    simpa using hfails "WORKER_ROLE_UNSUPPORTED" (by decide)
  cases htarget : formalTarget? prepared.claim.task with
  | none =>
    simp only [hdecision, htools, htarget, Bool.true_eq_false, if_false]
    simpa using hfails "FORMAL_TARGET_REQUIRED" (by decide)
  | some statement =>
    simp only [hdecision, htools, htarget, Bool.true_eq_false, if_false, ne_eq, not_false_eq_true,
      forall_const, Option.some.injEq, forall_eq']
    by_cases hproof : hasInfix ":=".toList statement.toList = true
    · have herror : ∃ e, directiveOf prepared decision statement = .error e := by
        simp only [directiveOf, statementSource, hproof, if_true, error_bind]
        exact ⟨_, rfl⟩
      obtain ⟨e, herror⟩ := herror
      rw [herror]
      exact hraised fun h => absurd (hproof.symm.trans h.1) (by decide)
    rw [Bool.not_eq_true] at hproof
    have hok : ∃ directive, directiveOf prepared decision statement = .ok directive ∧
        directive.directiveId = prepared.directiveId ∧ directive.budget = decision.budget := by
      simp only [directiveOf, statementSource, hproof, Bool.false_eq_true, if_false, ok_bind]
      exact ⟨_, rfl, rfl, rfl⟩
    obtain ⟨directive, hok, hname, hbudget⟩ := hok
    rw [hok]
    cases hartifact : env.artifact with
    | none => exact hraised (by simp)
    | some artifact =>
      have hpositive : 0 < directive.budget.toNat ∧ 0 < (max 1 decision.milliseconds).toNat := by
        simp only [validDispatch, Bool.and_eq_true, decide_eq_true_eq] at hdecision
        omega
      have hinstruction : isSha256 (sha256Text decision.instruction) = true :=
        isSha256_hexdigest _
      by_cases halone : alone
      · obtain ⟨t', hplanned, hstands, hrest⟩ := h.exists_planned halone hids
          (hname ▸ hdirective) ⟨artifact.contentHash_valid, hinstruction⟩ hpositive
        simp only [hplanned]
        rw [hstands.ends_host_iff hrest hservice]
        exact ⟨fun h => ⟨halone, hproof, Option.some_ne_none _, h.2⟩,
          fun h => ⟨trivial, h.2.2.2⟩⟩
      · have herror : ∃ e, recordDispatchPlanned t env.plannedStamp prepared.claim
            directive.directiveId artifact.contentHash (sha256Text decision.instruction)
            directive.budget.toNat (max 1 decision.milliseconds).toNat = .error e :=
          h.appendClaimed_error halone
        obtain ⟨e, herror⟩ := herror
        simp only [herror]
        exact iff_of_false (not_ends_raised t prepared.claim) fun h => halone h.1

/-- How the work on a claim that stands ends. -/
lemma Standing.ends_iff (h : Standing t prepared.claim "claimed" True)
    (hdirective : prepared.directiveId ≠ "") (hids : NewEventIds t env.eventIds)
    (hservice : ServiceAdmitted env.steps env.eventIds) :
    Ends (planAndExecute t prepared env) prepared.claim ↔ Unhindered prepared env := by
  have hwait : Standing (env.plan.wait t) prepared.claim "claimed"
      (True ∧ Undisturbed prepared.claim.workerId env.plan.meanwhile) ∧ NewEventIds _ _ :=
    h.wait hids (hservice.mono (List.subset_append_left _ _) (List.Subset.refl _))
  rw [true_and] at hwait
  obtain ⟨hstands, hnew⟩ := hwait
  have hterminal : NewEventIds (env.plan.wait t) [env.terminalStamp.eventId] := by
    refine hnew.sublist (.cons _ ?_)
    exact ((List.sublist_append_right _ _).trans (List.sublist_append_right _ _)).trans
      (List.sublist_append_right _ _)
  have hfails : ∀ reason ∈ failureReasons,
      (Ends (handle prepared env (failWith (env.plan.wait t) env.terminalStamp prepared.claim reason))
        prepared.claim ↔ Undisturbed prepared.claim.workerId env.plan.meanwhile) :=
    fun reason hreason => hstands.ends_fail_iff hterminal hreason
  unfold planAndExecute Unhindered
  cases houtcome : env.plan.outcome with
  | raised => exact iff_of_false (not_ends_raised _ _) fun h => h.1 rfl
  | timeout =>
    have hends := hfails "CONTROLLER_TIMEOUT" (by decide)
    rw [failWith, handle_write] at hends
    simpa [handle, failWith] using hends
  | backendError =>
    have hends := hfails "CONTROLLER_DECISION_INVALID" (by decide)
    rw [failWith, handle_write] at hends
    simpa [handle, failWith] using hends
  | cancelled => simpa using hstands.ends_cancelled_iff hterminal
  | decided decision =>
    cases decision with
    | blocked => simpa using hfails "CONTROLLER_BLOCKED" (by decide)
    | reject => simpa using hfails "CONTROLLER_REJECTED" (by decide)
    | dispatch decision =>
      have hrest : ServiceAdmitted (env.opening.meanwhile ++ (env.running.meanwhile ++
          env.closing.meanwhile)) (operatorIds env.opening.meanwhile ++
          (operatorIds env.running.meanwhile ++ (operatorIds env.closing.meanwhile ++
            [env.terminalStamp.eventId]))) :=
        hservice.mono (List.subset_append_right _ _)
          (List.Subset.trans (List.subset_cons_self _ _) (List.subset_append_right _ _))
      have hends : Ends (handle prepared env (dispatch (env.plan.wait t) prepared decision env))
          prepared.claim ↔ _ := hstands.ends_dispatch_iff hdirective hnew hrest
      simpa using hends

end

/-- The sample session prepares the dispatch of a task whose statement has a proof. -/
def sampleDispatch : Except ControlError (Tables × Tables × PreparedDispatch) := do
  let t ← sampleSession "prove 1 = 1 := rfl"
  let prepared ← prepareNext t (controlStamp '5') ⟨1, "s", "p", "b", 0⟩ "e" "d"
  let (t', prepared) ← orThrow prepared executionStateInvalid
  pure (t, t', prepared)

/-- The decision to dispatch the sample task. -/
def sampleDecision : DispatchDecision := ⟨"w", "Prove it.", 1, some 1, 1000⟩

/-- What the backend answers, and what the operator requests meanwhile. -/
def sampleEnvironment (steps : List EnvironmentStep) (decision : ControllerDecision) :
    DispatchEnvironment where
  plan := ⟨steps, .decided decision⟩
  artifact := none
  opening := ⟨[], .returned ()⟩
  running := ⟨[], .returned .null⟩
  closing := ⟨[], .returned ()⟩
  plannedStamp := controlStamp '7'
  terminalStamp := controlStamp '8'

/-- The operator configures the controller again. -/
def sampleReconfiguration : EnvironmentStep :=
  .operator (controlStamp '6') (.configureController "codex" none)

omit [CharacterDatabase] in
lemma prepared_sampleDispatch :
    letI := asciiDatabase
    sampleDispatch.toOption.any (fun r =>
      validDispatch sampleDecision r.2.2.context &&
      !(controllerWorkerTools r.2.2.claim.role).isEmpty &&
      formalTarget? r.2.2.claim.task == some "1 = 1 := rfl" &&
      ['6', '7', '8'].all fun c =>
        !(r.2.1.events.map (·.eventId)).contains (controlStamp c).eventId) = true := by
  decide +kernel


omit [CharacterDatabase] in
/-- What the sample dispatch is, and that the ids of its environments are new. -/
lemma exists_sampleDispatch :
    letI := asciiDatabase
    ∃ t t' prepared, sampleDispatch = .ok (t, t', prepared) ∧
      controllerSystem.Reachable ⟨t, some ⟨"s", true, 1, .started, []⟩⟩ ∧
      prepareNext t (controlStamp '5') ⟨1, "s", "p", "b", 0⟩ "e" "d" =
        .ok (some (t', prepared)) ∧
      (∀ env : DispatchEnvironment, env.eventIds.Sublist
        [(controlStamp '6').eventId, (controlStamp '7').eventId, (controlStamp '8').eventId] →
        NewEventIds t' env.eventIds) ∧
      ∀ env, ¬ DispatchUnhindered prepared env sampleDecision := by
  let := asciiDatabase
  obtain ⟨⟨t, t', prepared⟩, h, hchecks⟩ := (Option.any_eq_true _ _).1 prepared_sampleDispatch
  rw [toOption_eq_some] at h
  simp only [Bool.and_eq_true, beq_iff_eq, Bool.not_eq_true', List.isEmpty_eq_false_iff,
    List.all_cons, List.all_nil, List.contains_eq_mem, decide_eq_false_iff_not, and_true]
    at hchecks
  obtain ⟨⟨⟨hdecision, htools⟩, htarget⟩, hfirst, hsecond, hthird⟩ := hchecks
  have hparts := h
  simp only [sampleDispatch, bind_eq_ok, pure_eq_ok, orThrow_eq_ok, Prod.exists, Prod.mk.injEq]
    at hparts
  obtain ⟨t₀, hsession, _, hprepare, t₁, prepared₁, rfl, rfl, rfl, rfl⟩ := hparts
  refine ⟨_, _, _, h, reachable_sampleSession hsession, hprepare, fun env hsub => ?_,
    fun env hdispatch => ?_⟩
  · have hnew : NewEventIds t₁ [(controlStamp '6').eventId, (controlStamp '7').eventId,
        (controlStamp '8').eventId] := by
      refine ⟨by decide, by decide, ?_⟩
      simp only [List.mem_cons, List.not_mem_nil, or_false]
      rintro id (rfl | rfl | rfl)
      · exact hfirst
      · exact hsecond
      · exact hthird
    exact hnew.sublist hsub
  · obtain ⟨hproof, -⟩ := hdispatch hdecision htools _ htarget
    revert hproof
    decide

end Aizim.Orchestration
