import Aizim.Cli.ControlDisplay

/-!
# The documents of the control plane

In a state whose records pass the checks (`DisplayInvariant`), the documents are made and show the
statuses of the records.  With `worldShown_of_reachable` this is `documents_displayed`, for every
run of displayable steps.
-/

namespace Aizim.Cli

open JsonValue JsonObject Domain State TransitionSystem Orchestration

variable {t : Tables}

/-! ## What is shown -/

/-- The value at a path of keys. -/
def at? (path : List String) (v : JsonValue) : Option JsonValue :=
  path.foldlM (fun v key => (object? (some v)).bind (getEntry key)) v

/-- The status of the execution of a worker's assignment. -/
def executionStatusOf (t : Tables) (workerId : String) : Option JsonValue :=
  (Research.str? (fieldOf t.projections .workerAssignments workerId "assignment_id")).bind fun id =>
    fieldOf t.projections .workerExecutions id "status"

/-- A worker is shown with its status and that of its execution. -/
structure ShowsWorker (t : Tables) (workerId : String) (worker : JsonValue) : Prop where
  named : at? ["worker_id"] worker = some (.str workerId)
  status : at? ["status"] worker = fieldOf t.projections .workerRoster workerId "status"
  execution : at? ["assignment", "execution", "status"] worker = executionStatusOf t workerId

/-- The documents are made, and show the statuses of the records. -/
def Displayed (t : Tables) : Prop :=
  ∃ records controller workers, loadProjections t = .ok records ∧
    controllerDocument records = .ok controller ∧
    at? ["runtime", "status"] controller =
      fieldOf t.projections .controllerRuntime controllerId "status" ∧
    workerDocument records = .ok (.dict [("controller", controller), ("workers", .list workers)]) ∧
    ∀ workerId, findRecord t.projections .workerRoster workerId ≠ none →
      ∃ worker ∈ workers, ShowsWorker t workerId worker

/-- The document is one of the records. -/
def IsRecord (t : Tables) (doc : ProjectionDocument) : Prop :=
  ∃ row, findRecord t.projections doc.projectionName doc.entityId = some row ∧
    row.state? = some doc.state ∧ row.version = doc.version

/-- The documents are the records, each once. -/
structure Loaded (t : Tables) (records : List ProjectionDocument) : Prop where
  isRecord : ∀ doc ∈ records, IsRecord t doc
  all : ∀ projection id row, findRecord t.projections projection id = some row →
    ∃ doc ∈ records, doc.projectionName = projection ∧ doc.entityId = id
  distinct : records.Pairwise fun a b =>
    ¬ (a.projectionName = b.projectionName ∧ a.entityId = b.entityId)

lemma exists_loaded (h : StateObjects t.projections) :
    ∃ records, loadProjections t = .ok records ∧ Loaded t records := by
  have hdocument : ∀ record ∈ allProjections t.projections, ∃ doc,
      recordDocument record = .ok doc := by
    intro record hrecord
    obtain ⟨state, hstate⟩ := h _ _ _ (mem_allProjections.1 hrecord)
    have hstate : record.stateJson.object? = some state := hstate
    refine ⟨⟨record.entityId, record.projectionName, state, record.version⟩, ?_⟩
    rw [recordDocument, hstate]
    rfl
  obtain ⟨records, hrecords⟩ := exists_mapM_eq_ok hdocument
  have hall := mapM_eq_ok.1 hrecords
  have hof : ∀ record doc, recordDocument record = .ok doc → doc.projectionName =
      record.projectionName ∧ doc.entityId = record.entityId ∧
      record.stateJson.object? = some doc.state ∧ doc.version = record.version := by
    intro record doc hdoc
    simp only [recordDocument, bind_eq_ok, orThrow_eq_ok, pure_eq_ok] at hdoc
    obtain ⟨state, hstate, rfl⟩ := hdoc
    exact ⟨rfl, rfl, hstate, rfl⟩
  refine ⟨records, hrecords, fun doc hdoc => ?_, fun projection id row hrow => ?_, ?_⟩
  · obtain ⟨record, hrecord, hdoc⟩ := exists_of_forall₂ hall hdoc
    obtain ⟨hname, hid, hstate, hversion⟩ := hof record doc hdoc
    refine ⟨⟨record.version, record.stateJson⟩, ?_, hstate, hversion.symm⟩
    rw [hname, hid]
    exact mem_allProjections.1 hrecord
  · have hrecord : (⟨projection, id, row.version, row.stateJson⟩ : ProjectionRecord) ∈
        allProjections t.projections := mem_allProjections.2 hrow
    obtain ⟨doc, hdoc, hmade⟩ := exists_of_forall₂_left hall hrecord
    obtain ⟨hname, hid, -⟩ := hof _ _ hmade
    exact ⟨doc, hdoc, hname, hid⟩
  · refine pairwise_of_forall₂ (fun record record' doc doc' hdoc hdoc' hne hsame => hne ?_) hall
      (pairwise_allProjections t.projections)
    obtain ⟨hname, hid, -⟩ := hof _ _ hdoc
    obtain ⟨hname', hid', -⟩ := hof _ _ hdoc'
    rw [← hname, ← hname', ← hid, ← hid']
    exact hsame


/-! ## Reading a record -/

section

variable {doc : ProjectionDocument}

/-- The payload of a record that has a field. -/
lemma IsRecord.exists_payload (h : IsRecord t doc) {field : String} {v : JsonValue}
    (hfield : fieldOf t.projections doc.projectionName doc.entityId field = some v) :
    ∃ payload, payloadOf doc = .ok payload ∧ ∀ field,
      getEntry field payload =
        fieldOf t.projections doc.projectionName doc.entityId field := by
  obtain ⟨row, hrow, hstate, -⟩ := h
  obtain ⟨row', payload, hrow', hpayload⟩ := exists_payload_of_fieldOf hfield
  obtain rfl := Option.some.inj (hrow.symm.trans hrow')
  refine ⟨payload, ?_, fun field => (fieldOf_eq hrow hpayload field).symm⟩
  rw [ProjectionRow.payload?, hstate, Option.bind_some] at hpayload
  rw [payloadOf, hpayload]
  rfl

lemma textField_eq_ok {payload : JsonObject} {field s : String} {fault : ClientFault} :
    textField payload field fault = .ok s ↔ getEntry field payload = some (.str s) := by
  unfold textField
  split
  · rename_i s' hs
    rw [hs]
    simp
  · rename_i hne
    simp only [reduceCtorEq, false_iff]
    exact hne s

lemma positiveField_of {payload : JsonObject} {field : String} {n : ℕ} {fault : ClientFault}
    (hn : 0 < n) (h : getEntry field payload = some (.int n)) :
    positiveField payload field fault = .ok n := by
  rw [positiveField, h]
  simp [hn]

lemma runtimeStatus_text (status : RuntimeStatus) :
    runtimeStatus (some (.str status.text)) = .ok status := by
  cases status <;> rfl

lemma executionStatus_text (status : ExecutionStatus) :
    executionStatus (some (.str status.text)) = .ok status := by
  cases status <;> rfl

end

/-! ## The controller -/

/-- Records of one entity are one record. -/
lemma Loaded.recordsOf_eq {records : List ProjectionDocument} (h : Loaded t records)
    {projection : ProjectionName} {id : String} {row : ProjectionRow}
    (hrow : findRecord t.projections projection id = some row)
    (honly : ∀ id' row', findRecord t.projections projection id' = some row' → id' = id) :
    ∃ doc, recordsOf records projection = [doc] ∧ IsRecord t doc ∧
      doc.projectionName = projection ∧ doc.entityId = id := by
  obtain ⟨doc, hdoc, hname, hid⟩ := h.all projection id row hrow
  have hmem : ∀ d ∈ recordsOf records projection, IsRecord t d ∧ d.projectionName = projection ∧
      d.entityId = id := by
    intro d hd
    obtain ⟨hd, hprojection⟩ := List.mem_filter.1 hd
    have hprojection : d.projectionName = projection := by simpa using hprojection
    have hrecord := h.isRecord d hd
    obtain ⟨row', hrow', -⟩ := hrecord
    exact ⟨h.isRecord d hd, hprojection, honly _ row' (hprojection ▸ hrow')⟩
  have hdistinct := h.distinct.filter fun record => record.projectionName == projection
  have hfilter : doc ∈ recordsOf records projection := List.mem_filter.2 ⟨hdoc, by simp [hname]⟩
  change (recordsOf records projection).Pairwise _ at hdistinct
  cases hlist : recordsOf records projection with
  | nil =>
    rw [hlist] at hfilter
    simp at hfilter
  | cons d ds =>
    rw [hlist] at hmem hdistinct
    obtain ⟨hrecord, hprojection, hentity⟩ := hmem d List.mem_cons_self
    cases ds with
    | nil => exact ⟨d, rfl, hrecord, hprojection, hentity⟩
    | cons d' ds =>
      obtain ⟨-, hprojection', hentity'⟩ :=
        hmem d' (List.mem_cons_of_mem _ List.mem_cons_self)
      refine absurd ?_ ((List.pairwise_cons.1 hdistinct).1 d' List.mem_cons_self)
      exact ⟨hprojection.trans hprojection'.symm, hentity.trans hentity'.symm⟩

lemma Loaded.recordsOf_eq_nil {records : List ProjectionDocument} (h : Loaded t records)
    {projection : ProjectionName}
    (hnone : ∀ id, findRecord t.projections projection id = none) :
    recordsOf records projection = [] := by
  refine List.filter_eq_nil_iff.2 fun doc hdoc hname => ?_
  obtain ⟨row, hrow, -⟩ := h.isRecord doc hdoc
  have hname : doc.projectionName = projection := by simpa using hname
  rw [hname, hnone] at hrow
  cases hrow

/-- The runtime is shown with its status. -/
lemma exists_controllerRuntime {records : List ProjectionDocument} {provider : String}
    {configured : ProjectionRow} (ht : DisplayInvariant t) (h : Loaded t records)
    (hconfigured : findRecord t.projections .controller controllerId = some configured)
    (hprovider : fieldOf t.projections .controller controllerId "provider" = some (.str provider)) :
    ∃ runtime, controllerRuntime records configured.version provider = .ok runtime ∧
      at? ["status"] runtime =
        fieldOf t.projections .controllerRuntime controllerId "status" := by
  cases hrow : findRecord t.projections .controllerRuntime controllerId with
  | none =>
    have hnil : recordsOf records .controllerRuntime = [] := by
      refine h.recordsOf_eq_nil fun id => ?_
      by_contra hsome
      obtain ⟨row, hfound⟩ := Option.ne_none_iff_exists'.1 hsome
      rw [ht.primary id row hfound, hrow] at hfound
      cases hfound
    refine ⟨.null, by rw [controllerRuntime, hnil]; rfl, ?_⟩
    rw [fieldOf, hrow]
    rfl
  | some row =>
    obtain ⟨doc, hlist, hrecord, hname, hid⟩ := h.recordsOf_eq hrow ht.primary
    obtain ⟨configured', provider', hconfigured', hprovider', hshown⟩ := ht.runtime row hrow
    obtain rfl := Option.some.inj (hconfigured.symm.trans hconfigured')
    obtain rfl := JsonValue.str.inj (Option.some.inj (hprovider.symm.trans hprovider'))
    obtain ⟨hcontroller, hsame, ⟨s, hsession, htrusted⟩, hversion, hpositive, ⟨b, hne, hbackend⟩,
      status, reason, hstatus, hreason⟩ := hshown
    obtain ⟨payload, hpayload, hfields⟩ := hrecord.exists_payload (by rw [hname, hid]; exact hstatus)
    rw [hname, hid] at hfields
    refine ⟨.dict ([("backend_version", .str b), ("controller_session_id", .str s),
      ("controller_version", .int configured.version), ("status", .str status.text)] ++
      reason.toList.map fun reason => ("reason_code", .str reason)), ?_, ?_⟩
    · simp only [← hfields] at hcontroller hsame hsession hversion hbackend hstatus hreason
      have hread : runtimeStatus (getEntry "status" payload) = .ok status := by
        rw [hstatus, runtimeStatus_text]
      simp only [controllerRuntime, hlist, bind_eq_ok, require_eq_ok, textField_eq_ok, pure_eq_ok,
        exists_and_left, exists_const]
      exact ⟨payload, hpayload, status, hread, hid, hcontroller, hsame, s, hsession, htrusted, _,
        positiveField_of hpositive hversion, rfl, b, hbackend, hne, reason, hreason, rfl⟩
    · rw [hstatus]
      rfl

/-- The controller is shown with the status of its runtime. -/
lemma exists_controllerDocument {records : List ProjectionDocument} (ht : DisplayInvariant t)
    (h : Loaded t records) :
    ∃ controller, controllerDocument records = .ok controller ∧
      at? ["runtime", "status"] controller =
        fieldOf t.projections .controllerRuntime controllerId "status" := by
  cases hfind : records.find? fun record =>
      record.projectionName == .controller && record.entityId == controllerId with
  | none =>
    refine ⟨.null, by rw [controllerDocument, hfind]; rfl, ?_⟩
    cases hrow : findRecord t.projections .controllerRuntime controllerId with
    | none =>
      rw [fieldOf, hrow]
      rfl
    | some row =>
      obtain ⟨configured, _, hconfigured, -⟩ := ht.runtime row hrow
      obtain ⟨doc, hdoc, hname, hid⟩ := h.all _ _ configured hconfigured
      have hnot := List.find?_eq_none.1 hfind doc hdoc
      simp [hname, hid] at hnot
  | some doc =>
    have hmatch := List.find?_some hfind
    simp only [Bool.and_eq_true, beq_iff_eq] at hmatch
    obtain ⟨hname, hid⟩ := hmatch
    have hrecord := h.isRecord doc (List.mem_of_find?_eq_some hfind)
    obtain ⟨row, hrow, -, hversion⟩ := hrecord
    rw [hname, hid] at hrow
    obtain ⟨provider, hprovider, hvalid, hmodel⟩ := ht.controller row hrow
    obtain ⟨runtime, hruntime, hstatus⟩ := exists_controllerRuntime ht h hrow hprovider
    obtain ⟨payload, hpayload, hfields⟩ :=
      (h.isRecord doc (List.mem_of_find?_eq_some hfind)).exists_payload
        (by rw [hname, hid]; exact hprovider)
    rw [hname, hid] at hfields
    simp only [← hfields] at hprovider hmodel
    have hmodel : isNone (getEntry "model" payload) = true ∨
        (textOrNone (getEntry "model" payload)).isSome = true := by
      rcases hmodel with hnone | ⟨s, hs⟩
      · rw [hnone]
        exact Or.inl rfl
      · rw [hs]
        exact Or.inr rfl
    rw [hversion] at hruntime
    refine ⟨.dict [("controller_id", .str controllerId),
      ("model", textOrNull (textOrNone (getEntry "model" payload))), ("provider", .str provider),
      ("runtime", runtime), ("version", .int doc.version)], ?_, hstatus⟩
    simp only [controllerDocument, hfind, bind_eq_ok, require_eq_ok, textField_eq_ok, pure_eq_ok,
      exists_and_left, exists_const]
    exact ⟨payload, hpayload, provider, hprovider, hvalid, hmodel, runtime, hruntime, rfl⟩


/-! ## The workers -/

/-- What is parsed of an execution. -/
structure Parsed (t : Tables) (id : String) (execution : ExecutionProjection) : Prop where
  named : execution.assignmentId = id
  status : fieldOf t.projections .workerExecutions id "status" =
    some (.str execution.status.text)
  worker : fieldOf t.projections .workerExecutions id "worker_id" = some (.str execution.workerId)
  task : fieldOf t.projections .workerExecutions id "task_version" =
    some (.int execution.taskVersion)

lemma exists_executionProjection {records : List ProjectionDocument} {doc : ProjectionDocument}
    (ht : DisplayInvariant t) (h : Loaded t records)
    (hdoc : doc ∈ recordsOf records .workerExecutions) :
    ∃ execution, executionProjection doc = .ok execution ∧ Parsed t doc.entityId execution := by
  obtain ⟨hdoc, hname⟩ := List.mem_filter.1 hdoc
  have hname : doc.projectionName = .workerExecutions := by simpa using hname
  have hrecord := h.isRecord doc hdoc
  obtain ⟨row, hrow, -⟩ := hrecord
  rw [hname] at hrow
  obtain ⟨hassignment, hsha, hcontroller, ⟨s, hsession, htrusted⟩, ⟨v, hv, hversion⟩,
    ⟨w, hne, hworker⟩, ⟨n, hn, htask⟩, ⟨e, hexecution, htrusted'⟩, status, reason, hstatus,
    hreason⟩ := ht.execution _ row hrow
  obtain ⟨payload, hpayload, hfields⟩ :=
    (h.isRecord doc hdoc).exists_payload (by rw [hname]; exact hstatus)
  rw [hname] at hfields
  refine ⟨⟨doc.entityId, e, reason, status, n, w⟩, ?_, rfl, hstatus, hworker, htask⟩
  simp only [← hfields] at hassignment hcontroller hsession hversion hworker htask
  simp only [← hfields] at hexecution hstatus hreason
  have hread : executionStatus (getEntry "status" payload) = .ok status := by
    rw [hstatus, executionStatus_text]
  simp only [executionProjection, bind_eq_ok, require_eq_ok, textField_eq_ok, pure_eq_ok,
    exists_and_left, exists_const]
  exact ⟨payload, hpayload, status, hread, doc.entityId, hassignment, hsha, rfl, hcontroller, s,
    hsession, htrusted, v, positiveField_of hv hversion, w, hworker, hne, n,
    positiveField_of hn htask, e, hexecution, htrusted', reason, hreason, rfl⟩

/-- The executions by their assignments. -/
structure ParsedExecutions (t : Tables) (executions : List (String × ExecutionProjection)) :
    Prop where
  found : ∀ id execution, lookup executions id = some execution → Parsed t id execution
  missing : ∀ id, lookup executions id = none →
    findRecord t.projections .workerExecutions id = none

lemma exists_parsedExecutions {records : List ProjectionDocument} (ht : DisplayInvariant t)
    (h : Loaded t records) :
    ∃ parsed, (recordsOf records .workerExecutions).mapM executionProjection = .ok parsed ∧
      ParsedExecutions t (parsed.map fun execution => (execution.assignmentId, execution)) := by
  have hall : ∀ doc ∈ recordsOf records .workerExecutions, ∃ execution,
      executionProjection doc = .ok execution := by
    intro doc hdoc
    obtain ⟨execution, hexecution, -⟩ := exists_executionProjection ht h hdoc
    exact ⟨execution, hexecution⟩
  obtain ⟨parsed, hparsed⟩ := exists_mapM_eq_ok hall
  have hforall := mapM_eq_ok.1 hparsed
  refine ⟨parsed, hparsed, fun id execution hfound => ?_, fun id hmissing => ?_⟩
  · have hmem := List.mem_reverse.1 (mem_of_getEntry hfound)
    obtain ⟨execution', hexecution', heq⟩ := List.mem_map.1 hmem
    obtain ⟨rfl, rfl⟩ := Prod.mk.inj heq
    obtain ⟨doc, hdoc, hmade⟩ := exists_of_forall₂ hforall hexecution'
    obtain ⟨execution'', hmade', hof⟩ := exists_executionProjection ht h hdoc
    obtain rfl := Except.ok.inj (hmade.symm.trans hmade')
    rw [hof.named]
    exact hof
  · by_contra hsome
    obtain ⟨row, hrow⟩ := Option.ne_none_iff_exists'.1 hsome
    obtain ⟨doc, hdoc, hname, hid⟩ := h.all _ _ row hrow
    have hfilter : doc ∈ recordsOf records .workerExecutions :=
      List.mem_filter.2 ⟨hdoc, by simp [hname]⟩
    obtain ⟨execution, hexecution, hmade⟩ := exists_of_forall₂_left hforall hfilter
    obtain ⟨execution', hmade', hof⟩ := exists_executionProjection ht h hfilter
    obtain rfl := Except.ok.inj (hmade.symm.trans hmade')
    rw [lookup, getEntry_eq_none_iff] at hmissing
    refine hmissing ?_
    simp only [List.map_reverse, List.mem_reverse, List.map_map, List.mem_map]
    exact ⟨execution, hexecution, hof.named.trans hid⟩

/-- The assignment of a worker is shown with the status of its execution. -/
lemma exists_assignmentDocument {executions : List (String × ExecutionProjection)}
    {doc : ProjectionDocument} {workerId : String} (ht : DisplayInvariant t)
    (hexecutions : ParsedExecutions t executions) (hrecord : IsRecord t doc)
    (hname : doc.projectionName = .workerAssignments) (hid : doc.entityId = workerId) :
    ∃ assignment, assignmentDocument doc executions workerId = .ok assignment ∧
      at? ["execution", "status"] assignment = executionStatusOf t workerId := by
  obtain ⟨row, hrow, -⟩ := id hrecord
  rw [hname, hid] at hrow
  obtain ⟨⟨a, hassignment⟩, hcontroller, ⟨s, htask⟩, ⟨k, hhash⟩, n, hn, hversion⟩ :=
    ht.assignment _ row hrow
  obtain ⟨payload, hpayload, hfields⟩ :=
    hrecord.exists_payload (by rw [hname, hid]; exact hassignment)
  rw [hname, hid] at hfields
  have hstatusOf : executionStatusOf t workerId =
      fieldOf t.projections .workerExecutions a "status" := by
    rw [executionStatusOf, hassignment]
    rfl
  have hmatches : ∀ e ∈ lookup executions a, e.assignmentId = a ∧ e.workerId = workerId ∧
      e.taskVersion = n := by
    intro e he
    obtain ⟨hnamed, hstatus, hworker, htaskVersion⟩ := hexecutions.found a e he
    obtain ⟨row', hrow'⟩ := exists_findRecord_of_fieldOf hstatus
    obtain ⟨hclaimed, hsame⟩ := ht.claimed workerId a row' hassignment hrow'
    rw [hworker, Option.some.injEq, JsonValue.str.injEq] at hclaimed
    rw [htaskVersion, hversion, Option.some.injEq, JsonValue.int.injEq] at hsame
    exact ⟨hnamed, hclaimed, by exact_mod_cast hsame⟩
  refine ⟨.dict [("assignment_id", .str a), ("controller_id", .str controllerId),
    ("execution", ((lookup executions a).map executionDocument).getD .null), ("task", .str s),
    ("task_hash", .str k), ("task_version", .int n)], ?_, ?_⟩
  · simp only [← hfields] at hassignment hcontroller htask hhash hversion
    simp only [assignmentDocument, bind_eq_ok, require_eq_ok, textField_eq_ok, pure_eq_ok,
      exists_and_left, exists_const]
    exact ⟨payload, hpayload, a, hassignment, hcontroller, s, htask, k, hhash, n,
      positiveField_of hn hversion, hmatches, rfl⟩
  · rw [hstatusOf]
    cases hexecution : lookup executions a with
    | none =>
      rw [fieldOf, hexecutions.missing a hexecution]
      rfl
    | some e =>
      rw [(hexecutions.found a e hexecution).status]
      rfl

/-- A worker is shown. -/
lemma exists_rosterDocument {records : List ProjectionDocument}
    {executions : List (String × ExecutionProjection)} {doc : ProjectionDocument}
    (ht : DisplayInvariant t) (h : Loaded t records) (hexecutions : ParsedExecutions t executions)
    (hrecord : IsRecord t doc) (hname : doc.projectionName = .workerRoster) :
    ∃ worker, rosterDocument ((recordsOf records .workerAssignments).map fun record =>
        (record.entityId, record)) executions doc = .ok worker ∧
      ShowsWorker t doc.entityId worker := by
  obtain ⟨row, hrow, -⟩ := id hrecord
  rw [hname] at hrow
  obtain ⟨⟨role, hrole⟩, ⟨status, hstatus⟩⟩ := ht.worker _ row hrow
  obtain ⟨payload, hpayload, hfields⟩ := hrecord.exists_payload (by rw [hname]; exact hrole)
  rw [hname] at hfields
  generalize hassignments : (recordsOf records .workerAssignments).map (fun record =>
    (record.entityId, record)) = assignments
  have hassigned : ∃ assignment,
      assignedDocument assignments executions doc.entityId = .ok assignment ∧
        at? ["execution", "status"] assignment = executionStatusOf t doc.entityId := by
    unfold assignedDocument
    cases hlookup : lookup assignments doc.entityId with
    | none =>
      refine ⟨.null, rfl, ?_⟩
      have hnone : findRecord t.projections .workerAssignments doc.entityId = none := by
        by_contra hsome
        obtain ⟨row', hrow'⟩ := Option.ne_none_iff_exists'.1 hsome
        obtain ⟨found, hfound, hassignment, hid⟩ := h.all _ _ row' hrow'
        rw [lookup, getEntry_eq_none_iff, ← hassignments] at hlookup
        refine hlookup ?_
        simp only [List.map_reverse, List.mem_reverse, List.map_map, List.mem_map]
        exact ⟨found, List.mem_filter.2 ⟨hfound, by simp [hassignment]⟩, hid⟩
      rw [executionStatusOf, fieldOf, hnone]
      rfl
    | some found =>
      have hmem := List.mem_reverse.1 (mem_of_getEntry hlookup)
      rw [← hassignments] at hmem
      obtain ⟨found', hfound, heq⟩ := List.mem_map.1 hmem
      obtain ⟨hid, rfl⟩ := Prod.mk.inj heq
      obtain ⟨hfound, hassignment⟩ := List.mem_filter.1 hfound
      exact exists_assignmentDocument ht hexecutions (h.isRecord _ hfound)
        (by simpa using hassignment) hid
  obtain ⟨assignment, hassignment, hexecution⟩ := hassigned
  refine ⟨.dict [("assignment", assignment), ("role", .str role), ("status", .str status),
    ("version", .int doc.version), ("worker_id", .str doc.entityId)], ?_, rfl, ?_, hexecution⟩
  · simp only [← hfields] at hrole hstatus
    simp only [rosterDocument, bind_eq_ok, textField_eq_ok, pure_eq_ok]
    exact ⟨payload, hpayload, role, hrole, status, hstatus, assignment, hassignment, rfl⟩
  · rw [hstatus]
    rfl

/-- In a state whose records pass, the documents are made. -/
lemma DisplayInvariant.displayed (ht : DisplayInvariant t) : Displayed t := by
  obtain ⟨records, hrecords, h⟩ := exists_loaded ht.objects
  obtain ⟨controller, hcontroller, hstatus⟩ := exists_controllerDocument ht h
  obtain ⟨parsed, hparsed, hexecutions⟩ := exists_parsedExecutions ht h
  generalize hroster : (recordsOf records .workerRoster).mergeSort (fun a b =>
    decide (a.entityId ≤ b.entityId)) = roster
  have hmem : ∀ doc, doc ∈ roster ↔ doc ∈ records ∧ doc.projectionName = .workerRoster := by
    intro doc
    rw [← hroster, List.mem_mergeSort, recordsOf, List.mem_filter]
    simp
  have hall : ∀ doc ∈ roster, ∃ worker,
      rosterDocument ((recordsOf records .workerAssignments).map fun record =>
        (record.entityId, record))
        (parsed.map fun execution => (execution.assignmentId, execution)) doc = .ok worker ∧
      ShowsWorker t doc.entityId worker := by
    intro doc hdoc
    obtain ⟨hdoc, hname⟩ := (hmem doc).1 hdoc
    exact exists_rosterDocument ht h hexecutions (h.isRecord doc hdoc) hname
  obtain ⟨workers, hworkers⟩ := exists_mapM_eq_ok fun doc hdoc => (hall doc hdoc).imp fun _ hw => hw.1
  refine ⟨records, controller, workers, hrecords, hcontroller, hstatus, ?_, fun workerId hsome => ?_⟩
  · simp only [workerDocument, bind_eq_ok, pure_eq_ok]
    exact ⟨parsed, hparsed, workers, by rw [hroster]; exact hworkers, controller, hcontroller, rfl⟩
  · obtain ⟨row, hrow⟩ := Option.ne_none_iff_exists'.1 hsome
    obtain ⟨doc, hdoc, hname, rfl⟩ := h.all _ _ row hrow
    have hinRoster := (hmem doc).2 ⟨hdoc, hname⟩
    obtain ⟨worker, hworker, hmade⟩ := exists_of_forall₂_left (mapM_eq_ok.1 hworkers) hinRoster
    obtain ⟨worker', hmade', hshows⟩ := hall doc hinRoster
    obtain rfl := Except.ok.inj (hmade.symm.trans hmade')
    exact ⟨worker, hworker, hshows⟩

/-! ## Every run of displayable steps -/

variable [CharacterDatabase]

/-- **What is shown.**  In every state that the controller reaches in a run all of whose steps are
displayable, the documents of the controller and of the workers are made and show the statuses of
the records. -/
theorem documents_displayed {w : ControllerWorld} (h : displayableSystem.Reachable w) :
    Displayed w.tables :=
  (worldShown_of_reachable h).shown.displayed


/-! ## What is refused -/

/-- The id of the sample supervisor. -/
def sampleSupervisor : String := "controller-" ++ String.ofList (List.replicate 32 '0')

omit [CharacterDatabase] in
lemma trusted_sampleSupervisor : isTrustedId "controller" sampleSupervisor = true := by
  decide

/-- The id of the sample research run. -/
def sampleResearcher : String := "research-01arz3ndektsv4rrffq69g5fc1"

/-- The controller is configured, and a session started. -/
def sampleStarted (sessionId : String) : Except ControlError Tables := do
  let (t, _) ← configureController initialTables (controlStamp '1') "codex" none
  let (t, _) ← recoverUncleanController t (controlStamp '2')
  startController t (controlStamp '2') sessionId 1 controlProvider "1" controlHash

/-- The session stops, and another starts. -/
def sampleRestarted : Except ControlError Tables := do
  let t ← sampleStarted sampleSupervisor
  let t ← recordControllerStop t (controlStamp '3') sampleSupervisor "OPERATOR_SIGNAL"
  let (t, _) ← recoverUncleanController t (controlStamp '4')
  startController t (controlStamp '4') sampleSupervisor 1 controlProvider "1" controlHash

/-- The controller is configured again while the session runs. -/
def sampleReconfigured : Except ControlError (Tables × ℕ) := do
  let t ← sampleStarted sampleSupervisor
  configureController t (controlStamp '3') "codex" none

/-- The document of the controller is refused. -/
def refused (t : Tables) : Bool :=
  !((loadProjections t).bind controllerDocument).toOption.isSome

omit [CharacterDatabase] in
lemma not_displayed_of_refused (h : refused t = true) : ¬ Displayed t := by
  rintro ⟨records, controller, workers, hrecords, hcontroller, -⟩
  rw [refused, hrecords] at h
  have hbind : (Except.ok records : Except ClientFault _).bind controllerDocument = .ok controller :=
    hcontroller
  rw [hbind] at h
  simp [Except.toOption] at h

omit [CharacterDatabase] in
lemma refused_samples :
    letI := asciiDatabase
    sampleRestarted.toOption.any refused = true ∧
      sampleReconfigured.toOption.any (fun r => refused r.1) = true ∧
      (sampleStarted sampleResearcher).toOption.any refused = true ∧
      (sampleStarted sampleSupervisor).toOption.isSome = true := by
  decide +kernel

/-- What is started without executions can be issued. -/
lemma reachable_sampleStarted {admitted : ControllerWorld → ControllerAction → Prop} {t : Tables}
    (h : sampleStarted sampleSupervisor = .ok t)
    (hconfigure : ∀ w provider model, w.tables = initialTables →
      admitted w (.operator (controlStamp '1') (.configureController provider model)))
    (hstart : ∀ w stamp version provider backendVersion executableHash, w.session.any
      (·.supervises) = true → findRecord w.tables.projections .controllerRuntime controllerId = none →
      admitted w (.start stamp version provider backendVersion executableHash))
    (hother : ∀ w, admitted w (.openSession sampleSupervisor true) ∧
      (∀ stamp, admitted w (.recover stamp)) ∧ admitted w .finishRecovery) :
    (controllerSystem.restrict admitted).Reachable
      ⟨t, some ⟨sampleSupervisor, true, 1, .started, []⟩⟩ := by
  simp only [sampleStarted, bind_eq_ok, Prod.exists] at h
  obtain ⟨t₁, _, hconfigured, t₂, crashed, hrecover, hstarted⟩ := h
  have hrun : ControlOperation.run initialTables (controlStamp '1')
      (.configureController "codex" none) = .ok (t₁, _) := hconfigured
  have hempty : ∀ projection ≠ .epochs, ∀ id,
      findRecord initialTables.projections projection id = none := by
    intro projection hne id
    simp [findRecord, initialTables, initialLog, initialProjections, hne]
  obtain ⟨hkeeps, hruntime⟩ := keeps_of_operator hrun
  have hnone : ∀ id, findRecord t₁.projections .workerExecutions id = none := by
    intro id
    rw [hkeeps.records, hempty _ (by decide)]
  have hidle : findRecord t₁.projections .controllerRuntime controllerId = none := by
    rw [hruntime, hempty _ (by decide)]
  have hsame : t₂ = t₁ := by
    rw [recoverUncleanController, hidle] at hrecover
    exact (Prod.mk.inj (pure_eq_ok.1 hrecover)).1.symm
  subst hsame
  exact reachable_started (reachable_operator (.of_initial rfl) hrun (hconfigure _ _ _ rfl)) hnone
    hrecover hstarted (hother _).1 ((hother _).2.1 _) (hother _).2.2 (hstart _ _ _ _ _ _ rfl hidle)


/-- Nothing has been executed when the sample session has started. -/
lemma executions_sampleStarted {t : Tables} {sessionId : String}
    (h : sampleStarted sessionId = .ok t) (id : String) :
    findRecord t.projections .workerExecutions id = none := by
  simp only [sampleStarted, bind_eq_ok, Prod.exists] at h
  obtain ⟨t₁, _, hconfigured, t₂, crashed, hrecover, hstarted⟩ := h
  have hrun : ControlOperation.run initialTables (controlStamp '1')
      (.configureController "codex" none) = .ok (t₁, _) := hconfigured
  rw [(startController_ok hstarted).1.records, (recoverUncleanController_ok hrecover).1.records,
    (keeps_of_operator hrun).1.records]
  simp [findRecord, initialTables, initialLog, initialProjections]

omit [CharacterDatabase] in
/-- Three runs after which the controller is not shown: a session that starts after another has
stopped, a configuration while a session runs, and a session of the research runner. -/
theorem documents_not_displayed :
    letI := asciiDatabase
    (∃ w, issuedSystem.Reachable w ∧ sampleRestarted = .ok w.tables ∧ ¬ Displayed w.tables) ∧
    (∃ w version, issuedSystem.Reachable w ∧ sampleReconfigured = .ok (w.tables, version) ∧
      ¬ Displayed w.tables) ∧
    ∃ w, issuedSystem.Reachable w ∧ sampleStarted sampleResearcher = .ok w.tables ∧
      ¬ Displayed w.tables := by
  let := asciiDatabase
  obtain ⟨hrestarted, hreconfigured, hresearch, -⟩ := refused_samples
  refine ⟨?_, ?_, ?_⟩
  · obtain ⟨t, h, hrefused⟩ := (Option.any_eq_true _ _).1 hrestarted
    rw [toOption_eq_some] at h
    have hparts := h
    simp only [sampleRestarted, bind_eq_ok, Prod.exists] at hparts
    obtain ⟨t₁, hstarted, t₂, hstopped, t₃, crashed, hrecover, hagain⟩ := hparts
    have hreachable : issuedSystem.Reachable
        ⟨t₁, some ⟨sampleSupervisor, true, 1, .started, []⟩⟩ :=
      reachable_sampleStarted hstarted (fun _ _ _ _ => trivial)
        (fun _ _ _ _ _ _ _ _ => trivial) fun _ => ⟨trusted_sampleSupervisor, fun _ => trivial, trivial⟩
    have hstop : issuedSystem.Reachable ⟨t₂, none⟩ :=
      hreachable.step ⟨.stop rfl hstopped, trivial⟩
    have hnone : ∀ id, findRecord t₂.projections .workerExecutions id = none := by
      intro id
      rw [(KeepsExecutions.of_runtime (appendControl_runtime hstopped rfl rfl) rfl).records]
      exact executions_sampleStarted hstarted id
    have hrestarted : issuedSystem.Reachable
        ⟨t, some ⟨sampleSupervisor, true, 1, .started, []⟩⟩ :=
      reachable_started hstop hnone hrecover hagain trusted_sampleSupervisor trivial trivial trivial
    exact ⟨_, hrestarted, h, not_displayed_of_refused hrefused⟩
  · obtain ⟨⟨t, version⟩, h, hrefused⟩ := (Option.any_eq_true _ _).1 hreconfigured
    rw [toOption_eq_some] at h
    have hparts := h
    simp only [sampleReconfigured, bind_eq_ok] at hparts
    obtain ⟨t₁, hstarted, hagain⟩ := hparts
    have hreachable : issuedSystem.Reachable
        ⟨t₁, some ⟨sampleSupervisor, true, 1, .started, []⟩⟩ :=
      reachable_sampleStarted hstarted (fun _ _ _ _ => trivial)
        (fun _ _ _ _ _ _ _ _ => trivial) fun _ => ⟨trusted_sampleSupervisor, fun _ => trivial, trivial⟩
    have hrun : ControlOperation.run t₁ (controlStamp '3') (.configureController "codex" none) =
        .ok (t, version) := hagain
    exact ⟨⟨t, _⟩, version, reachable_operator hreachable hrun trivial, h,
      not_displayed_of_refused hrefused⟩
  · obtain ⟨t, h, hrefused⟩ := (Option.any_eq_true _ _).1 hresearch
    rw [toOption_eq_some] at h
    have hparts := h
    simp only [sampleStarted, bind_eq_ok, Prod.exists] at hparts
    obtain ⟨t₁, _, hconfigured, t₂, crashed, hrecover, hstarted⟩ := hparts
    have hrun : ControlOperation.run initialTables (controlStamp '1')
        (.configureController "codex" none) = .ok (t₁, _) := hconfigured
    have hopened : issuedSystem.Reachable ⟨t₁, some ⟨sampleResearcher, false, 0, .opened, []⟩⟩ :=
      (reachable_operator (.of_initial rfl) hrun trivial).step ⟨.openSession _ false,
        "01ARZ3NDEKTSV4RRFFQ69G5FC1", by decide, by decide⟩
    exact ⟨⟨t, _⟩, (hopened.step ⟨.recover rfl hrecover, trivial⟩).step
      ⟨.start rfl hstarted, trivial⟩, h, not_displayed_of_refused hrefused⟩

omit [CharacterDatabase] in
/-- The first session that a supervisor starts is shown. -/
theorem documents_displayed_started :
    letI := asciiDatabase
    ∃ t, sampleStarted sampleSupervisor = .ok t ∧ Displayed t := by
  let := asciiDatabase
  obtain ⟨t, h⟩ := Option.isSome_iff_exists.1 refused_samples.2.2.2
  rw [toOption_eq_some] at h
  have hreachable : displayableSystem.Reachable
      ⟨t, some ⟨sampleSupervisor, true, 1, .started, []⟩⟩ := by
    refine reachable_sampleStarted h (fun w provider model hw => ⟨trivial, ?_⟩)
      (fun w stamp version provider backendVersion executableHash hsession hidle =>
        ⟨trivial, hidle, fun s hs => ?_⟩) fun _ =>
        ⟨⟨trusted_sampleSupervisor, trivial⟩, fun _ => ⟨trivial, trivial⟩, ⟨trivial, trivial⟩⟩
    · rw [Displayable, KeepsOrder, hw]
      simp [findRecord, initialTables, initialLog, initialProjections]
    · rw [hs] at hsession
      exact hsession
  exact ⟨t, h, documents_displayed hreachable⟩

end Aizim.Cli
