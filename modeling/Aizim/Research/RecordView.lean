import Aizim.Orchestration.ControllerProtocol
import Aizim.Research.Records

/-!
# What a save does to the records

`taskAt` and `attemptAt` read one record, and `ResearchStored` says that every record of the research
projection is a valid record under its own key: under it the functions that read succeed, and read
what `taskAt` and `attemptAt` say.

`Saved` is what a successful `save` does, `save_ok`: one record changes, to the data that were saved
with their times, and the log grows by one event.
-/

namespace Aizim.Research

open Aizim.JsonValue Aizim.JsonObject State Orchestration

/-! ## Keys -/

/-- Kinds and identities are read back from a record's key. -/
lemma recordId_injective {kind kind' identity identity' : String} (hkind : kind ∈ kinds)
    (hkind' : kind' ∈ kinds) (h : recordId kind identity = recordId kind' identity') :
    kind = kind' ∧ identity = identity' := by
  have hcolon : ∀ k ∈ kinds, ':' ∉ k.toList := by decide
  have hlist := congrArg String.toList h
  simp only [recordId, String.toList_append] at hlist
  have hsplit : kind.toList ++ ':' :: identity.toList = kind'.toList ++ ':' :: identity'.toList := by
    simpa using hlist
  have htake : ∀ k ∈ kinds, ∀ cs, (k.toList ++ ':' :: cs).takeWhile (· ≠ ':') = k.toList := by
    intro k hk cs
    rw [List.takeWhile_append_of_pos fun c hc => by
      simpa using fun heq : c = ':' => hcolon k hk (heq ▸ hc)]
    simp
  have hleft := htake kind hkind identity.toList
  rw [hsplit, htake kind' hkind'] at hleft
  rw [hleft, List.append_cancel_left_eq, List.cons.injEq] at hsplit
  exact ⟨String.toList_inj.1 hleft.symm, String.toList_inj.1 hsplit.2⟩

lemma checkText_ok {limit : ℕ} {empty : Bool} {value : Option JsonValue} {s : String}
    (h : checkText limit empty value = .ok s) :
    value = some (.str s) ∧ text limit empty value = true := by
  simp only [checkText, bind_eq_ok, require_eq_ok, orThrow_eq_ok, exists_and_left,
    exists_const, str?_eq_some] at h
  exact ⟨h.2, h.1⟩

lemma checkIdentifier_ok {value : Option JsonValue} {s : String}
    (h : checkIdentifier value = .ok s) : value = some (.str s) ∧ identifier value = true := by
  simp only [checkIdentifier, bind_eq_ok, require_eq_ok, pure_eq_ok, exists_and_left,
    exists_const] at h
  obtain ⟨result, htext, hidentifier, rfl⟩ := h
  exact ⟨(checkText_ok htext).1, hidentifier⟩

lemma checkIdentifier_of {s : String} (h : identifier (some (.str s)) = true) :
    checkIdentifier (some (.str s)) = .ok s := by
  have htext : text 48 false (some (.str s)) = true := by
    rw [identifier, Bool.and_eq_true] at h
    exact h.1
  simp [checkIdentifier, checkText, htext, h, require, str?, orThrow]

lemma recordKey_ok {kind identity key : String} (h : recordKey kind identity = .ok key) :
    kind ∈ kinds ∧ identifier (some (.str identity)) = true ∧ key = recordId kind identity := by
  simp only [recordKey, bind_eq_ok, require_eq_ok, pure_eq_ok, exists_and_left, exists_const] at h
  obtain ⟨hkind, identity', hidentity, rfl⟩ := h
  obtain ⟨hvalue, hidentifier⟩ := checkIdentifier_ok hidentity
  obtain rfl : identity = identity' := by simpa using hvalue
  exact ⟨hkind, hidentifier, rfl⟩

lemma recordKey_of {kind identity : String} (hkind : kind ∈ kinds)
    (hidentity : identifier (some (.str identity)) = true) :
    recordKey kind identity = .ok (recordId kind identity) := by
  simp [recordKey, require_of hkind, checkIdentifier_of hidentity]


/-! ## Valid records -/

variable [CharacterDatabase] {t t' : Tables} {kind identity key : String} {data : JsonObject}

/-- The field that names a record of a kind. -/
def identityField (kind : String) : String := if kind = "task" then "task_id" else "id"

/-- What a valid record says of its key. -/
lemma of_validRecord (h : validRecord (recordPayload key kind data) = true) :
    kind ∈ kinds ∧ validData kind (withoutTimes data) = true ∧
      ∃ identity, getEntry (identityField kind) data = some (.str identity) ∧
        identifier (some (.str identity)) = true ∧ key = recordId kind identity := by
  have hread : getEntry (if kind == "task" then "task_id" else "id") (withoutTimes data) =
      getEntry (identityField kind) data := by
    rw [getEntry_withoutTimes]
    unfold identityField
    by_cases hkind : kind = "task" <;> simp [hkind]
  simp only [validRecord, recordPayload, getEntry_cons, if_true, hread,
    Bool.and_eq_true, show ("data" = "record_id") = False by simp,
    show ("data" = "kind") = False by simp, show ("kind" = "record_id") = False by simp,
    if_false] at h
  obtain ⟨-, ⟨⟨⟨⟨-, hidentifier⟩, hkind⟩, hkey⟩, -⟩, hdata⟩ := h
  refine ⟨by simpa using hkind, hdata, ?_⟩
  cases hvalue : str? (getEntry (identityField kind) data) with
  | none => simp [identifier, hvalue] at hidentifier
  | some identity =>
    rw [str?_eq_some] at hvalue
    rw [hvalue] at hidentifier hkey
    refine ⟨identity, hvalue, hidentifier, ?_⟩
    simpa [str?] using hkey

/-! ## The typed view -/

omit [CharacterDatabase] in
/-- The data of a row of the research projection. -/
def rowData (row : ProjectionRow) : Option JsonObject :=
  row.payload?.bind fun payload => object? (getEntry "data" payload)

/-- The data of a record. -/
def recordAt (t : Tables) (kind identity : String) : Option JsonObject :=
  (findRecord t.projections .research (recordId kind identity)).bind rowData

/-- A task of the store. -/
def taskAt (t : Tables) (identity : String) : Option Task :=
  (recordAt t "task" identity).map Task.ofData

/-- An attempt of the store. -/
def attemptAt (t : Tables) (identity : String) : Option Attempt :=
  (recordAt t "attempt" identity).map Attempt.ofData

/-- A row is a valid record under its own key. -/
def StoredRecord (key : String) (row : ProjectionRow) : Prop :=
  ∃ kind data, rowData row = some data ∧ validRecord (recordPayload key kind data) = true

/-- Every row of the research projection is a valid record. -/
def ResearchStored (t : Tables) : Prop :=
  ∀ key row, findRecord t.projections .research key = some row → StoredRecord key row

omit [CharacterDatabase] in
lemma unpack_eq_ok {row : ProjectionRow} : unpack row = .ok data ↔ rowData row = some data := by
  simp only [unpack, checkObject, bind_eq_ok, orThrow_eq_ok, rowData, ProjectionRow.payload?,
    Option.bind_eq_some_iff]
  constructor
  · rintro ⟨state, hstate, payload, hpayload, hdata⟩
    exact ⟨payload, ⟨state, hstate, hpayload⟩, hdata⟩
  · rintro ⟨payload, ⟨state, hstate, hpayload⟩, hdata⟩
    exact ⟨state, hstate, payload, hpayload, hdata⟩

/-- The record at a key of a kind. -/
lemma ResearchStored.valid (hs : ResearchStored t) (hkind : kind ∈ kinds)
    (h : recordAt t kind identity = some data) :
    validRecord (recordPayload (recordId kind identity) kind data) = true ∧
      validData kind (withoutTimes data) = true ∧
      getEntry (identityField kind) data = some (.str identity) ∧
      recordKey kind identity = .ok (recordId kind identity) := by
  obtain ⟨row, hrow, hdata⟩ := Option.bind_eq_some_iff.1 h
  obtain ⟨kind', data', hdata', hvalid⟩ := hs _ row hrow
  obtain rfl : data = data' := Option.some.inj (hdata.symm.trans hdata')
  obtain ⟨hkind', hfields, identity', hidentity, hidentifier, hkey⟩ := of_validRecord hvalid
  obtain ⟨rfl, rfl⟩ := recordId_injective hkind hkind' hkey
  exact ⟨hvalid, hfields, hidentity, recordKey_of hkind hidentifier⟩

omit [CharacterDatabase] in
/-- What `get` found. -/
lemma get_ok {found : Option JsonObject} (h : get t kind identity = .ok found) :
    recordKey kind identity = .ok (recordId kind identity) ∧ recordAt t kind identity = found := by
  simp only [get, bind_eq_ok] at h
  obtain ⟨key, hkey, h⟩ := h
  obtain ⟨-, -, rfl⟩ := recordKey_ok hkey
  refine ⟨hkey, ?_⟩
  unfold recordAt
  cases hrow : findRecord t.projections .research (recordId kind identity) with
  | none =>
    rw [hrow] at h
    simpa using h
  | some row =>
    rw [hrow] at h
    simp only [Option.mapM_some, map_eq_ok, unpack_eq_ok] at h
    obtain ⟨data, hdata, rfl⟩ := h
    simpa using hdata

/-- `get` succeeds for an identifier. -/
lemma ResearchStored.get_eq (hs : ResearchStored t)
    (hkey : recordKey kind identity = .ok (recordId kind identity)) :
    get t kind identity = .ok (recordAt t kind identity) := by
  unfold get recordAt
  rw [hkey, ok_bind]
  cases hrow : findRecord t.projections .research (recordId kind identity) with
  | none => rfl
  | some row =>
    obtain ⟨kind', data, hdata, -⟩ := hs _ row hrow
    rw [Option.mapM_some, unpack_eq_ok.2 hdata]
    simp [hdata]

omit [CharacterDatabase] in
lemma taskAt_eq_some {task : Task} :
    taskAt t identity = some task ↔ ∃ data, recordAt t "task" identity = some data ∧
      Task.ofData data = task := by
  simp [taskAt]

omit [CharacterDatabase] in
lemma attemptAt_eq_some {attempt : Attempt} :
    attemptAt t identity = some attempt ↔ ∃ data, recordAt t "attempt" identity = some data ∧
      Attempt.ofData data = attempt := by
  simp [attemptAt]

lemma requireTask_ok {task : Task} (h : requireTask t identity = .ok task) :
    taskAt t identity = some task := by
  simp only [requireTask, bind_eq_ok, orThrow_eq_ok, readTask, require_eq_ok, pure_eq_ok,
    exists_and_left, exists_const] at h
  obtain ⟨found, hget, data, rfl, -, rfl⟩ := h
  exact taskAt_eq_some.2 ⟨data, (get_ok hget).2, rfl⟩

lemma ResearchStored.requireTask_eq (hs : ResearchStored t) {task : Task}
    (h : taskAt t identity = some task) : requireTask t identity = .ok task := by
  obtain ⟨data, hdata, rfl⟩ := taskAt_eq_some.1 h
  obtain ⟨-, hvalid, -, hkey⟩ := hs.valid (by decide) hdata
  have hread : validTask (withoutTimes data) = true := hvalid
  simp [requireTask, hs.get_eq hkey, hdata, orThrow, readTask, require_of hread]

lemma ResearchStored.taskId_eq (hs : ResearchStored t) {task : Task}
    (h : taskAt t identity = some task) : task.taskId = identity := by
  obtain ⟨data, hdata, rfl⟩ := taskAt_eq_some.1 h
  obtain ⟨-, -, hidentity, -⟩ := hs.valid (by decide) hdata
  have hfield : getEntry "task_id" data = some (.str identity) := hidentity
  simp [Task.ofData, strOf, hfield, str?]

lemma ResearchStored.attemptId_eq (hs : ResearchStored t) {attempt : Attempt}
    (h : attemptAt t identity = some attempt) : attempt.id = identity := by
  obtain ⟨data, hdata, rfl⟩ := attemptAt_eq_some.1 h
  obtain ⟨-, -, hidentity, -⟩ := hs.valid (by decide) hdata
  have hfield : getEntry "id" data = some (.str identity) := hidentity
  simp [Attempt.ofData, strOf, hfield, str?]


/-! ## Lists of records -/

/-- The records of a kind, each under an identity of its own. -/
lemma ResearchStored.exists_records (hs : ResearchStored t) (hkind : kind ∈ kinds) :
    ∃ ids datas, records t kind = .ok datas ∧ ids.Nodup ∧
      List.Forall₂ (fun id data => recordAt t kind id = some data) ids datas ∧
      ∀ id, (recordAt t kind id).isSome → id ∈ ids := by
  let items := (projectionsOf t.projections .research).filter fun item =>
    (kind ++ ":").toList.isPrefixOf item.entityId.toList
  have hitem : ∀ item ∈ items, ∃ id data, item.entityId = recordId kind id ∧
      unpack ⟨item.version, item.stateJson⟩ = .ok data ∧ recordAt t kind id = some data := by
    intro item hitem
    obtain ⟨hmem, hpart⟩ := List.mem_filter.1 hitem
    obtain ⟨-, hrow⟩ := mem_projectionsOf.1 hmem
    obtain ⟨kind', data, hdata, hvalid⟩ := hs _ _ hrow
    obtain ⟨hkind', -, id, -, -, hkey⟩ := of_validRecord hvalid
    obtain ⟨rest, hrest⟩ := List.isPrefixOf_iff_prefix.1 hpart
    have hentity : recordId kind' id = recordId kind (String.ofList rest) := by
      rw [← hkey]
      apply String.toList_inj.1
      rw [← hrest]
      simp [recordId]
    obtain ⟨rfl, -⟩ := recordId_injective hkind' hkind hentity
    refine ⟨id, data, hkey, unpack_eq_ok.2 hdata, ?_⟩
    rw [recordAt, ← hkey, hrow]
    exact hdata
  have hdistinct : items.Pairwise fun r s => r.entityId ≠ s.entityId :=
    (pairwise_projectionsOf t.projections .research).filter _
  have hall : ∀ item, item ∈ projectionsOf t.projections .research →
      ∀ id, item.entityId = recordId kind id → item ∈ items := by
    intro item hmem id hid
    refine List.mem_filter.2 ⟨hmem, List.isPrefixOf_iff_prefix.2 ⟨id.toList, ?_⟩⟩
    rw [hid]
    simp [recordId]
  have hchoose : ∀ (l : List ProjectionRecord), (∀ item ∈ l, item ∈ items) →
      l.Pairwise (fun r s => r.entityId ≠ s.entityId) →
      ∃ ids datas, (l.mapM fun item => unpack ⟨item.version, item.stateJson⟩) = .ok datas ∧
        ids.Nodup ∧ l.map (·.entityId) = ids.map (recordId kind) ∧
        List.Forall₂ (fun id data => recordAt t kind id = some data) ids datas := by
    intro l
    induction l with
    | nil => exact fun _ _ => ⟨[], [], rfl, List.nodup_nil, rfl, .nil⟩
    | cons item l ih =>
      intro hl hpairwise
      obtain ⟨hfirst, hpairwise⟩ := List.pairwise_cons.1 hpairwise
      obtain ⟨id, data, hid, hunpack, hdata⟩ := hitem item (hl item List.mem_cons_self)
      obtain ⟨ids, datas, hmap, hnodup, hids, hforall⟩ :=
        ih (fun i hi => hl i (List.mem_cons_of_mem _ hi)) hpairwise
      refine ⟨id :: ids, data :: datas, ?_, List.nodup_cons.2 ⟨fun hmem => ?_, hnodup⟩,
        by simp [hid, hids], .cons hdata hforall⟩
      · simp [List.mapM_cons, hunpack, hmap, pure, Except.pure]
      · have hin : recordId kind id ∈ l.map (·.entityId) := by
          rw [hids]
          exact List.mem_map_of_mem hmem
        obtain ⟨other, hother, heq⟩ := List.mem_map.1 hin
        exact hfirst other hother (hid.trans heq.symm)
  obtain ⟨ids, datas, hmap, hnodup, hids, hforall⟩ := hchoose items (fun _ h => h) hdistinct
  refine ⟨ids, datas, hmap, hnodup, hforall, fun id hid => ?_⟩
  obtain ⟨data, hdata⟩ := Option.isSome_iff_exists.1 hid
  obtain ⟨row, hrow, -⟩ := Option.bind_eq_some_iff.1 hdata
  have hmem : (⟨.research, recordId kind id, row.version, row.stateJson⟩ : ProjectionRecord) ∈
      items :=
    hall _ (mem_projectionsOf.2 ⟨rfl, hrow⟩) id rfl
  have hin : recordId kind id ∈ ids.map (recordId kind) := by
    rw [← hids]
    exact List.mem_map.2 ⟨_, hmem, rfl⟩
  obtain ⟨other, hother, heq⟩ := List.mem_map.1 hin
  obtain ⟨-, rfl⟩ := recordId_injective hkind hkind heq
  exact hother

/-- The typed records of a kind are listed, each once. -/
lemma ResearchStored.exists_typedRecords {α : Type} (hs : ResearchStored t) (hkind : kind ∈ kinds)
    {read : JsonObject → Except ResearchFailure α} {ofData : JsonObject → α} {name : α → String}
    (hread : ∀ id data, recordAt t kind id = some data →
      read data = .ok (ofData data) ∧ name (ofData data) = id) :
    ∃ xs, (records t kind >>= fun datas => datas.mapM read) = .ok xs ∧ (xs.map name).Nodup ∧
      ∀ x, x ∈ xs ↔ ∃ data, recordAt t kind (name x) = some data ∧ ofData data = x := by
  obtain ⟨ids, datas, hrecords, hnodup, hforall, hall⟩ := hs.exists_records hkind
  have htyped : ∀ {ids : List String} {datas : List JsonObject},
      List.Forall₂ (fun id data => recordAt t kind id = some data) ids datas →
      datas.mapM read = .ok (datas.map ofData) ∧ (datas.map ofData).map name = ids := by
    intro ids datas h
    induction h with
    | nil => exact ⟨rfl, rfl⟩
    | @cons id data ids datas hdata _ ih =>
      obtain ⟨hok, hname⟩ := hread id data hdata
      refine ⟨?_, by rw [List.map_cons, List.map_cons, hname, ih.2]⟩
      rw [List.mapM_cons, hok, ih.1]
      rfl
  obtain ⟨hmap, hids⟩ := htyped hforall
  refine ⟨datas.map ofData, by rw [hrecords, ok_bind, hmap], by rwa [hids],
    fun x => ⟨fun hmem => ?_, ?_⟩⟩
  · obtain ⟨data, hdata, rfl⟩ := List.mem_map.1 hmem
    obtain ⟨id, -, hid⟩ := exists_of_forall₂ hforall hdata
    exact ⟨data, (hread id data hid).2.symm ▸ hid, rfl⟩
  · rintro ⟨data, hdata, rfl⟩
    obtain ⟨data', hmem, hdata'⟩ := exists_of_forall₂_left hforall
      (hall _ (by rw [hdata]; rfl))
    rw [hdata, Option.some.injEq] at hdata'
    exact List.mem_map.2 ⟨data', hmem, by rw [hdata']⟩

/-- The tasks are listed, each once. -/
lemma ResearchStored.exists_taskRecords (hs : ResearchStored t) :
    ∃ tasks, taskRecords t = .ok tasks ∧ (tasks.map (·.taskId)).Nodup ∧
      ∀ task, task ∈ tasks ↔ taskAt t task.taskId = some task := by
  have hread : ∀ id data, recordAt t "task" id = some data →
      readTask data = .ok (Task.ofData data) ∧ (Task.ofData data).taskId = id := by
    intro id data hdata
    obtain ⟨-, hvalid, -⟩ := hs.valid (by decide) hdata
    have hfields : validTask (withoutTimes data) = true := hvalid
    exact ⟨by simp [readTask, require_of hfields, pure, Except.pure],
      hs.taskId_eq (taskAt_eq_some.2 ⟨data, hdata, rfl⟩)⟩
  obtain ⟨tasks, hok, hnodup, hmem⟩ := hs.exists_typedRecords (by decide) hread
  exact ⟨tasks, hok, hnodup, fun task => (hmem task).trans taskAt_eq_some.symm⟩

/-- The attempts are listed, each once. -/
lemma ResearchStored.exists_attemptRecords (hs : ResearchStored t) :
    ∃ attempts, attemptRecords t = .ok attempts ∧ (attempts.map (·.id)).Nodup ∧
      ∀ attempt, attempt ∈ attempts ↔ attemptAt t attempt.id = some attempt := by
  have hread : ∀ id data, recordAt t "attempt" id = some data →
      readAttempt data = .ok (Attempt.ofData data) ∧ (Attempt.ofData data).id = id := by
    intro id data hdata
    obtain ⟨-, hvalid, -⟩ := hs.valid (by decide) hdata
    have hfields : validAttempt (withoutTimes data) = true := hvalid
    exact ⟨by simp [readAttempt, require_of hfields, pure, Except.pure],
      hs.attemptId_eq (attemptAt_eq_some.2 ⟨data, hdata, rfl⟩)⟩
  obtain ⟨attempts, hok, hnodup, hmem⟩ := hs.exists_typedRecords (by decide) hread
  exact ⟨attempts, hok, hnodup, fun attempt => (hmem attempt).trans attemptAt_eq_some.symm⟩

/-! ## What a save does -/

/-- The data that `save` stores. -/
def stamped (data : JsonObject) (createdAt : JsonValue) (updatedAt : String) : JsonObject :=
  canonicalEntries
    (update data [("created_at", createdAt), ("updated_at", .str updatedAt)])

omit [CharacterDatabase] in
lemma getEntry_stamped {createdAt : JsonValue} {updatedAt field : String}
    (hcreated : field ≠ "created_at") (hupdated : field ≠ "updated_at") :
    getEntry field (stamped data createdAt updatedAt) = (getEntry field data).map canonical := by
  simp [stamped, hcreated, hupdated]

/-- What a successful `save` did. -/
structure Saved (t t' : Tables) (kind identity : String) (data : JsonObject) : Prop where
  key : recordKey kind identity = .ok (recordId kind identity)
  valid : validRecord (recordPayload (recordId kind identity) kind data) = true
  kept : kind = "task" → ∀ old, recordAt t kind identity = some old → keepsTarget data old = true
  appended : ∃ event record, event.eventType = .researchRecordUpdated ∧
    event.text? "record_id" = some (recordId kind identity) ∧
    applyEventMutation t.toEventLog event t.projections = .ok (t'.toEventLog, record)
  queue : t'.publicationQueue = t.publicationQueue
  stored : ∃ createdAt updatedAt, ∀ k ∈ kinds, ∀ i, recordAt t' k i =
    if k = kind ∧ i = identity then some (stamped data createdAt updatedAt) else recordAt t k i
  projection : ∀ key, key ≠ recordId kind identity →
    findRecord t'.projections .research key = findRecord t.projections .research key
  row : ∃ row, findRecord t'.projections .research (recordId kind identity) = some row ∧
    StoredRecord (recordId kind identity) row

/-- A record is valid in the form that is stored exactly when it is valid. -/
lemma validRecord_recordPayload (key kind : String) (data : JsonObject) :
    validRecord (recordPayload key kind (canonicalEntries data)) =
      validRecord (recordPayload key kind data) := by
  have hsame : canonicalEntries (recordPayload key kind (canonicalEntries data)) =
      canonicalEntries (recordPayload key kind data) := by
    simp [recordPayload, canonicalEntries_canonicalEntries]
  rw [← validRecord_canonicalEntries, hsame, validRecord_canonicalEntries]

omit [CharacterDatabase] in
lemma recordId_ne_empty (kind identity : String) : recordId kind identity ≠ "" := by
  intro h
  have hlist := congrArg String.toList h
  simp [recordId] at hlist

lemma save_ok {draw : Draw} {actor : String} {runId : Option String} {version : ℕ}
    (h : save t draw kind identity data actor runId = .ok (t', version)) :
    Saved t t' kind identity data := by
  simp only [save, bind_eq_ok, require_eq_ok, orThrow_eq_ok, pure_eq_ok, mapError_eq_ok,
    exists_and_left, exists_const, Prod.exists, Prod.mk.injEq] at h
  obtain ⟨key, hkey, hvalid, previous, hprevious, hkept, actor', hactor, t₁, record, happend, row,
    hrow, rfl, rfl⟩ := h
  obtain ⟨hkind, -, rfl⟩ := recordKey_ok hkey
  obtain ⟨-, hprevious⟩ := get_ok hprevious
  simp only [appendEvent, bind_eq_ok, require_eq_ok, exists_and_left, exists_const] at happend
  obtain ⟨-, event, hevent, happend⟩ := happend
  obtain ⟨-, htype, -, -, -, -, hpayload⟩ := makeEvent_ok hevent
  have htype : event.eventType = .researchRecordUpdated := EventType.text_injective htype
  obtain ⟨hrun, hqueue⟩ := append_ok happend
  obtain ⟨record', hlog⟩ := hrun.of_singleton
  have hname : event.text? "record_id" = some (recordId kind identity) := by
    rw [EventEnvelope.text?, hpayload]
    rfl
  have hentity : entityId event = recordId kind identity :=
    entityId_eq (by rw [htype]; rfl) (recordId_ne_empty _ _) hname (by rw [htype]; decide)
  obtain ⟨payload, hprojected, hrecord⟩ := findRecord_of_event hlog
  have hsame : payload = event.payload := by
    simp only [projectionPayload, htype, EventType.isOrchestration, Bool.false_eq_true, if_false,
      pure_eq_ok] at hprojected
    exact hprojected.symm
  subst hsame
  have hresearch : ∀ id, findRecord t₁.projections .research id =
      if id = recordId kind identity then
        some ⟨((findRecord t.projections .research id).map (·.version + 1)).getD 1,
          .ofObject (eventState event event.payload)⟩
      else findRecord t.projections .research id := by
    intro id
    rw [hrecord .research (by decide) (by decide) id, htype, hentity]
    exact if_congr (and_iff_right rfl) rfl rfl
  have hdata : ∀ version, rowData ⟨version, .ofObject (eventState event event.payload)⟩ =
      some (stamped data ((previous.bind (getEntry "created_at")).getD (.str draw.now))
        draw.now) := by
    intro version
    rw [rowData, payload?_eventState, hpayload]
    simp [recordPayload, object?, stamped]
  have hvalid' : validRecord event.payload = true := by
    have hchecked := event.payload_valid
    rw [htype, validatePayload] at hchecked
    exact require_eq_ok.1 hchecked
  rw [hpayload, ← validRecord_recordPayload] at hvalid'
  have hnew := hresearch (recordId kind identity)
  rw [if_pos rfl] at hnew
  refine ⟨hkey, hvalid, fun htask old hold => ?_, ⟨event, record', htype, hname, hlog⟩, hqueue,
    ⟨(previous.bind (getEntry "created_at")).getD (.str draw.now), draw.now, fun k hk i => ?_⟩,
    fun id hid => by rw [hresearch, if_neg hid],
    ⟨_, hnew, kind, _, hdata _, hvalid'⟩⟩
  · have hall := hkept htask
    rw [← hprevious, hold] at hall
    exact hall
  · unfold recordAt
    rw [hresearch]
    by_cases hsame : recordId k i = recordId kind identity
    · obtain ⟨rfl, rfl⟩ := recordId_injective hk hkind hsame
      rw [if_pos rfl, if_pos ⟨rfl, rfl⟩, Option.bind_some, hdata]
    · rw [if_neg hsame, if_neg]
      rintro ⟨rfl, rfl⟩
      exact hsame rfl


/-! ## Typed records after a save -/

section Typed

omit [CharacterDatabase]

@[simp] lemma strOf_map_canonical (v : Option JsonValue) : strOf (v.map canonical) = strOf v := by
  simp [strOf]

@[simp] lemma natOf_map_canonical (v : Option JsonValue) : natOf (v.map canonical) = natOf v := by
  rcases v with _ | v
  · rfl
  · cases v <;> simp [natOf]

@[simp] lemma boolOf_map_canonical (v : Option JsonValue) : boolOf (v.map canonical) = boolOf v := by
  rcases v with _ | v
  · rfl
  · cases v <;> simp [boolOf]

@[simp] lemma strsOf_map_canonical (v : Option JsonValue) :
    strsOf (v.map canonical) = strsOf v := by
  rcases v with _ | v
  · rfl
  · cases v with
    | list items =>
      have hitem : ∀ item : JsonValue, str? (some item.canonical) = str? (some item) :=
        fun item => str?_map_canonical (some item)
      simp [strsOf, List.filterMap_map, hitem]
    | _ => simp [strsOf]

@[simp] lemma usageOf_map_canonical (v : Option JsonValue) :
    usageOf (v.map canonical) = usageOf v := by
  simp [usageOf, Function.comp_def]

@[simp] lemma strOf_str (s : String) : strOf (some (.str s)) = s := rfl

@[simp] lemma natOf_int (n : ℕ) : natOf (some (.int n)) = n := by
  simp [natOf]

@[simp] lemma boolOf_bool (b : Bool) : boolOf (some (.bool b)) = b := rfl

@[simp] lemma strsOf_textList (items : List String) : strsOf (some (textList items)) = items := by
  simp [strsOf, textList, List.filterMap_map, str?]

@[simp] lemma usageOf_usageData (usage : Option Usage) :
    usageOf (some (usageData usage)) = usage := by
  cases usage <;> simp [usageOf, usageData, object?]

@[simp] lemma TaskStatus.ofText_text (status : TaskStatus) : ofText status.text = status := by
  cases status <;> rfl

@[simp] lemma AttemptStatus.ofText_text (status : AttemptStatus) :
    ofText status.text = status := by
  cases status <;> rfl

/-- The time stamps are no part of a task. -/
lemma Task.ofData_stamped (data : JsonObject) (createdAt : JsonValue) (updatedAt : String) :
    Task.ofData (stamped data createdAt updatedAt) = Task.ofData data := by
  simp [Task.ofData, getEntry_stamped]

lemma Task.ofData_data (task : Task) : Task.ofData task.data = task := by
  simp [Task.ofData, Task.data]

/-- The time stamps are no part of an attempt. -/
lemma Attempt.ofData_stamped (data : JsonObject) (createdAt : JsonValue) (updatedAt : String) :
    Attempt.ofData (stamped data createdAt updatedAt) = Attempt.ofData data := by
  simp [Attempt.ofData, getEntry_stamped]

lemma Attempt.ofData_data (attempt : Attempt) : Attempt.ofData attempt.data = attempt := by
  simp [Attempt.ofData, Attempt.data]

end Typed

namespace Saved

variable (h : Saved t t' kind identity data)
include h

/-- A save keeps every record valid. -/
lemma researchStored (hs : ResearchStored t) : ResearchStored t' := by
  intro key row hrow
  by_cases hkey : key = recordId kind identity
  · subst hkey
    obtain ⟨row', hrow', hstored⟩ := h.row
    obtain rfl := Option.some.inj (hrow.symm.trans hrow')
    exact hstored
  · rw [h.projection key hkey] at hrow
    exact hs key row hrow

/-- The records of other kinds and identities are kept. -/
lemma recordAt_of_ne {k i : String} (hk : k ∈ kinds) (hne : ¬ (k = kind ∧ i = identity)) :
    recordAt t' k i = recordAt t k i := by
  obtain ⟨createdAt, updatedAt, hstored⟩ := h.stored
  rw [hstored k hk i, if_neg hne]

lemma taskAt_of_ne (hkind : kind ≠ "task") : taskAt t' = taskAt t := by
  funext i
  rw [taskAt, h.recordAt_of_ne (by decide) fun hsame => hkind hsame.1.symm, taskAt]

lemma attemptAt_of_ne (hkind : kind ≠ "attempt") : attemptAt t' = attemptAt t := by
  funext i
  rw [attemptAt, h.recordAt_of_ne (by decide) fun hsame => hkind hsame.1.symm, attemptAt]

end Saved

/-- A saved task is read back. -/
lemma Saved.taskAt_eq (h : Saved t t' "task" identity data) :
    taskAt t' = Function.update (taskAt t) identity (some (Task.ofData data)) := by
  funext i
  obtain ⟨createdAt, updatedAt, hstored⟩ := h.stored
  rw [taskAt, hstored "task" (by decide) i]
  by_cases hi : i = identity
  · rw [hi, if_pos ⟨rfl, rfl⟩, Function.update_self, Option.map_some, Task.ofData_stamped]
  · rw [if_neg fun hsame => hi hsame.2, Function.update_of_ne hi, taskAt]

/-- A saved attempt is read back. -/
lemma Saved.attemptAt_eq (h : Saved t t' "attempt" identity data) :
    attemptAt t' = Function.update (attemptAt t) identity (some (Attempt.ofData data)) := by
  funext i
  obtain ⟨createdAt, updatedAt, hstored⟩ := h.stored
  rw [attemptAt, hstored "attempt" (by decide) i]
  by_cases hi : i = identity
  · rw [hi, if_pos ⟨rfl, rfl⟩, Function.update_self, Option.map_some, Attempt.ofData_stamped]
  · rw [if_neg fun hsame => hi hsame.2, Function.update_of_ne hi, attemptAt]

/-! ## Saves that succeed -/

omit [CharacterDatabase] in
lemma withoutTimes_set {field : String} (hfield : field = "created_at" ∨ field = "updated_at")
    (v : JsonValue) (data : JsonObject) :
    withoutTimes (JsonObject.set field v data) = withoutTimes data := by
  induction data with
  | nil => rcases hfield with rfl | rfl <;> simp [JsonObject.set, withoutTimes]
  | cons entry data ih =>
    obtain ⟨k, w⟩ := entry
    unfold JsonObject.set
    split
    · rename_i hk
      subst hk
      rcases hfield with rfl | rfl <;> simp [withoutTimes]
    · unfold withoutTimes at ih ⊢
      simp only [List.filter_cons, ih]

/-- The parts of a valid record. -/
lemma validRecord_iff : validRecord (recordPayload key kind data) = true ↔
    text textLimit false (some (.str kind)) = true ∧
      ((((((validTime (getEntry "created_at" data) = true ∧
      validTime (getEntry "updated_at" data) = true) ∧
      identifier (getEntry (identityField kind) data) = true) ∧ kinds.contains kind = true) ∧
      (some key == (str? (getEntry (identityField kind) data)).map (recordId kind)) = true) ∧
      (encode (canonicalJson (.dict (withoutTimes data)))).length ≤ 262144) ∧
      validData kind (withoutTimes data) = true) := by
  have hread : getEntry (if kind == "task" then "task_id" else "id") (withoutTimes data) =
      getEntry (identityField kind) data := by
    rw [getEntry_withoutTimes]
    unfold identityField
    by_cases hkind : kind = "task" <;> simp [hkind]
  have hkeys : hasKeys (recordPayload key kind data) ["record_id", "kind", "data"] = true := by
    simp [hasKeys, recordPayload]
  rw [validRecord, hkeys]
  simp only [recordPayload, getEntry_cons, if_true, hread, Bool.and_eq_true, Bool.true_and,
    show ("data" = "record_id") = False by simp, show ("data" = "kind") = False by simp,
    show ("kind" = "record_id") = False by simp, if_false, decide_eq_true_iff, str?]

/-- The time stamps that `save` adds leave a record valid. -/
lemma validRecord_update {createdAt : JsonValue} {now : String}
    (h : validRecord (recordPayload key kind data) = true)
    (hcreated : validTime (some createdAt) = true) (hnow : validTime (some (.str now)) = true) :
    validRecord (recordPayload key kind
      (update data [("created_at", createdAt), ("updated_at", .str now)])) = true := by
  have hsame : withoutTimes (update data [("created_at", createdAt), ("updated_at", .str now)]) =
      withoutTimes data := by
    simp only [update, withoutTimes_set (Or.inl rfl), withoutTimes_set (Or.inr rfl)]
  have hfield : ∀ field, field ≠ "created_at" → field ≠ "updated_at" → getEntry field
      (update data [("created_at", createdAt), ("updated_at", .str now)]) = getEntry field data := by
    intro field hc hu
    simp [hc, hu]
  have hname : identityField kind ≠ "created_at" ∧ identityField kind ≠ "updated_at" := by
    unfold identityField
    by_cases hkind : kind = "task" <;> simp [hkind]
  rw [validRecord_iff] at h ⊢
  obtain ⟨hkind, ⟨⟨⟨⟨⟨-, -⟩, hidentity⟩, hmember⟩, hkey⟩, hlength⟩, hdata⟩ := h
  rw [hsame, hfield _ hname.1 hname.2]
  refine ⟨hkind, ⟨⟨⟨⟨⟨?_, ?_⟩, hidentity⟩, hmember⟩, hkey⟩, hlength⟩, hdata⟩
  · simpa using hcreated
  · simpa using hnow

/-- What the next write takes from outside can be taken. -/
structure DrawReady (t : Tables) (draw : Draw) : Prop where
  ulid : isUlid draw.stamp.eventId = true
  new : draw.stamp.eventId ∉ t.events.map (·.eventId)
  time : validTime (some (.str draw.now)) = true

/-- A valid record that keeps its target is saved. -/
lemma exists_save (hs : ResearchStored t) {draw : Draw} (hdraw : DrawReady t draw)
    (hvalid : validRecord (recordPayload (recordId kind identity) kind data) = true)
    (hidentity : getEntry (identityField kind) data = some (.str identity))
    (hkept : kind = "task" → ∀ old, recordAt t kind identity = some old → keepsTarget data old = true)
    (actor : String) (hactor : text 256 false (some (.str actor)) = true) (runId : Option String)
    (hrun : runId ≠ some "") :
    ∃ t' version, save t draw kind identity data actor runId = .ok (t', version) ∧
      t'.events.map (·.eventId) = t.events.map (·.eventId) ++ [draw.stamp.eventId] := by
  have hkey : recordKey kind identity = .ok (recordId kind identity) := by
    obtain ⟨hkind, -, identity', hname, hidentifier, -⟩ := of_validRecord hvalid
    rw [hidentity] at hname
    cases hname
    exact recordKey_of hkind hidentifier
  have hcreated : validTime (some (((recordAt t kind identity).bind
      (getEntry "created_at")).getD (.str draw.now))) = true := by
    cases hold : recordAt t kind identity with
    | none => exact hdraw.time
    | some old =>
      obtain ⟨hkind, -⟩ := of_validRecord hvalid
      have htimes := (validRecord_iff.1 (hs.valid hkind hold).1).2.1.1.1.1.1.1
      cases hentry : getEntry "created_at" old with
      | none => simpa [hentry] using hdraw.time
      | some createdAt => simpa [hentry] using htimes
  have hstored := validRecord_update hvalid hcreated hdraw.time
  have hactor' : checkText 256 false (some (.str actor)) = .ok actor := by
    simp [checkText, require_of hactor, str?, orThrow]
  have hblank : actor ≠ "" := by
    rintro rfl
    exact absurd hactor (by decide)
  generalize hpayload : recordPayload _ _ (update data _) = payload at hstored
  have hvalidated : validatePayload .researchRecordUpdated payload = .ok () := require_of hstored _
  have hmake : ∃ event, makeEvent draw.stamp
      ⟨EventType.researchRecordUpdated.text, actor, runId, none, payload⟩ = .ok event :=
    exists_makeEvent hdraw.ulid hblank hrun (by simp)
      (show _ = EventType.researchRecordUpdated.text from rfl) hvalidated
  obtain ⟨event, hevent⟩ := hmake
  obtain ⟨hid, htype, -, -, -, -, hfields⟩ := makeEvent_ok hevent
  have htype : event.eventType = .researchRecordUpdated := EventType.text_injective htype
  have hfields : event.payload = payload := hfields
  have hnew : event.eventId ∉ t.events.map (·.eventId) := hid ▸ hdraw.new
  obtain ⟨t', record, happend⟩ := exists_append hnew (by rw [htype]; decide)
    (by rw [htype]; decide) (by rw [htype]; decide)
  obtain ⟨record', hlog⟩ := (append_ok happend).1.of_singleton
  have hname : event.text? "record_id" = some (recordId kind identity) := by
    rw [EventEnvelope.text?, hfields, ← hpayload]
    rfl
  have hentity : entityId event = recordId kind identity :=
    entityId_eq (by rw [htype]; rfl) (recordId_ne_empty _ _) hname (by rw [htype]; decide)
  obtain ⟨row, hrow⟩ : ∃ row, findRecord t'.projections .research (recordId kind identity) =
      some row := by
    obtain ⟨projected, -, hrecord⟩ := findRecord_of_event hlog
    rw [hrecord .research (by decide) (by decide), htype, hentity, if_pos ⟨rfl, rfl⟩]
    exact ⟨_, rfl⟩
  have hkept' : kind = "task" → (recordAt t kind identity).all (keepsTarget data) = true := by
    intro htask
    cases hold : recordAt t kind identity with
    | none => rfl
    | some old => exact hkept htask old hold
  have happend' : appendEvent t draw.stamp
      ⟨"ResearchRecordUpdated", actor, runId, none, payload⟩ = .ok (t', record) := by
    have hplain : "ResearchRecordUpdated" ≠ "EnvironmentTransitionApproved" := by decide
    simp only [appendEvent, require_of hplain, ok_bind]
    rw [show makeEvent draw.stamp ⟨"ResearchRecordUpdated", actor, runId, none, payload⟩ =
      .ok event from hevent]
    exact happend
  refine ⟨t', row.version, ?_, ?_⟩
  · simp only [save, hkey, ok_bind, require_of hvalid, hs.get_eq hkey, require_of hkept', hactor',
      hpayload, happend', Except.mapError, hrow, orThrow]
    rfl
  · obtain ⟨-, hevents, -⟩ := applyEventMutation_ok hlog
    rw [hevents, List.map_append, List.map_singleton, ← hid]
    rfl

end Aizim.Research
