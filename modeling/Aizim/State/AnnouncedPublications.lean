import Aizim.State.History

/-!
# Publications in the log

A published contribution is in the log once: one `PromotionPrepared` row, then one
`DeclarationPublished` and one `KnowledgeDeltaPublished` row that it announces.  A contribution
that is not published has neither of the last two.

`PublicationLog` is this invariant.  It ties the rows of the queue to the rows of the log, and
every operation of the service keeps it (`PublicationLog.exec`), as long as the three types of
events are appended by `prepare_promotion` and `publish_promotion` only and the two events of a
publication name one declaration and one module.
-/

namespace Aizim.State

open JsonValue JsonObject TransitionSystem

/-! ## The invariant -/

/-- The types of events that only a publication appends. -/
def publicationTypes : List EventType :=
  [.promotionPrepared, .declarationPublished, .knowledgeDeltaPublished]

/-- The preparation comes before the declaration and the delta and names what they publish. -/
structure Announces (prepared declaration delta : EventRow) : Prop where
  before_declaration : prepared.sequence < declaration.sequence
  before_delta : prepared.sequence < delta.sequence
  module_eq : prepared.field? "module" = declaration.field? "module" ∧
    prepared.field? "module" = delta.field? "module"
  contentHash_eq : prepared.field? "content_hash" = declaration.field? "content_hash"
  baseEpoch_eq : prepared.field? "base_epoch" = delta.field? "base_epoch"
  knowledgeEpoch_eq : prepared.field? "knowledge_epoch" = delta.field? "knowledge_epoch"
  declarationId_eq : prepared.field? "declaration_id" = declaration.field? "declaration_id" ∧
    prepared.field? "declaration_id" = delta.field? "declaration_id"
  deltaId_eq : prepared.field? "delta_id" = delta.field? "delta_id"

/-- The log holds one preparation, one declaration and one delta of the contribution. -/
def PublishedOnce (log : EventLog) (contributionId : String) : Prop :=
  ∃ prepared declaration delta,
    eventsOf log .promotionPrepared contributionId = [prepared] ∧
    eventsOf log .declarationPublished contributionId = [declaration] ∧
    eventsOf log .knowledgeDeltaPublished contributionId = [delta] ∧
    Announces prepared declaration delta

variable [CharacterDatabase]

/-- The invariant: contributions are prepared and published at most once, and they are published
in the queue exactly when they are in the log. -/
structure PublicationLog (t : Tables) : Prop where
  log : WellFormedLog t.toEventLog
  ids_nodup : (ids t.publicationQueue).Nodup
  prepared_once : ∀ id, (eventsOf t.toEventLog .promotionPrepared id).length ≤ 1
  published : ∀ id, IsPublished t.publicationQueue id → PublishedOnce t.toEventLog id
  unpublished : ∀ id, ¬ IsPublished t.publicationQueue id →
    eventsOf t.toEventLog .declarationPublished id = [] ∧
      eventsOf t.toEventLog .knowledgeDeltaPublished id = []

/-- What the callers of the service do: a plain append is of another type, and the two events of
a publication agree on what they both name. -/
def StateOp.Regular : StateOp → Prop
  | appendEvent _ command => ∀ type ∈ publicationTypes, command.eventType ≠ type.text
  | publishPromotion _ _ _ _ _ _ declaration delta =>
    getEntry "module" delta.payload = getEntry "module" declaration.payload ∧
      getEntry "declaration_id" delta.payload = getEntry "declaration_id" declaration.payload
  | _ => True

lemma publicationLog_initial : PublicationLog initialTables where
  log := wellFormedLog_initial
  ids_nodup := by simp [initialTables, ids]
  prepared_once := by simp [initialTables, initialLog, eventsOf]
  published := by simp [initialTables, IsPublished]
  unpublished := by simp [initialTables, initialLog, eventsOf]

/-! ## Other operations -/

omit [CharacterDatabase] in
/-- Operations that do not publish append none of the three types. -/
lemma StateOp.eventTypes_disjoint {op : StateOp} (hop : op.Regular)
    (hpublishes : op.publishes = false) (hprepare : ∀ stamp id owner command,
      op ≠ .preparePromotion stamp id owner command) :
    ∀ type ∈ op.eventTypes, type ∉ publicationTypes := by
  cases op with
  | appendEvent stamp command =>
    intro type htype hmem
    rw [eventTypes, Option.mem_toList] at htype
    exact hop type hmem (EventType.text_of_ofText? htype).symm
  | publishPromotion _ _ _ _ _ _ _ _ => simp [publishes] at hpublishes
  | preparePromotion stamp id owner command => exact absurd rfl (hprepare stamp id owner command)
  | _ => simp [eventTypes, publicationTypes]

/-- A step that appends none of the three types and publishes nothing keeps the invariant. -/
lemma PublicationLog.of_unrelated {t t' : Tables} {events : List EventEnvelope}
    (hinv : PublicationLog t) (hrun : eventLogSystem.Run t.toEventLog events t'.toEventLog)
    (htypes : ∀ e ∈ events, e.eventType ∉ publicationTypes)
    (hids : (ids t'.publicationQueue).Nodup)
    (hpublished : ∀ id, IsPublished t'.publicationQueue id ↔ IsPublished t.publicationQueue id) :
    PublicationLog t' := by
  have hsame : ∀ type ∈ publicationTypes, ∀ id,
      eventsOf t'.toEventLog type id = eventsOf t.toEventLog type id := by
    intro type htype id
    apply eventsOf_of_run hinv.log hrun
    intro e he heq
    exact htypes e he (heq ▸ htype)
  have hprepared := hsame .promotionPrepared (by simp [publicationTypes])
  have hdeclaration := hsame .declarationPublished (by simp [publicationTypes])
  have hdelta := hsame .knowledgeDeltaPublished (by simp [publicationTypes])
  refine ⟨(rows_of_run hinv.log hrun).1, hids, fun id => ?_, fun id h => ?_, fun id h => ?_⟩
  · rw [hprepared]
    exact hinv.prepared_once id
  · rw [PublishedOnce, hprepared, hdeclaration, hdelta]
    exact hinv.published id ((hpublished id).1 h)
  · rw [hdeclaration, hdelta]
    exact hinv.unpublished id fun hp => h ((hpublished id).2 hp)

/-! ## Preparing -/

omit [CharacterDatabase] in
/-- `prepare` looks for what `eventsOf` selects. -/
lemma preparationRow_eq_none {log : EventLog} {id : String} :
    preparationRow log id = none ↔ eventsOf log .promotionPrepared id = [] := by
  simp [preparationRow, eventsOf, EventRow.isOf, EventRow.field?, List.filter_eq_nil_iff,
    List.find?_eq_none]

omit [CharacterDatabase] in
lemma not_isPublished_of_found {queue : List PublicationQueueRow} (hids : (ids queue).Nodup)
    {row : PublicationQueueRow} {id : String} (hfound : findRow queue id = some row)
    (hstate : row.state ≠ .published) : ¬ IsPublished queue id := by
  rintro ⟨r, hr, hid, hpublished⟩
  obtain ⟨hrow, hrowid⟩ := findRow_some hfound
  rw [List.inj_on_of_nodup_map hids hr hrow (hid.trans hrowid.symm)] at hpublished
  exact hstate hpublished

/-- Preparing a contribution that is not published keeps the invariant. -/
lemma PublicationLog.prepare {t t' : Tables} {id owner : String} {prepared : EventEnvelope}
    {entry : PublicationQueueEntry} (hinv : PublicationLog t)
    (h : prepare t id owner prepared = .ok (t', entry)) : PublicationLog t' := by
  obtain ⟨hqueue, ⟨row, hfound, -, hstate⟩, htype, hid, ⟨hnone, happends⟩ | ⟨rfl, -⟩⟩ :=
    prepare_ok h
  swap
  · exact hinv
  have hunpublished : ¬ IsPublished t.publicationQueue id :=
    not_isPublished_of_found hinv.ids_nodup hfound (by simp [hstate])
  obtain ⟨hlog, rows, hrows, hrecords, -⟩ := rows_of_run hinv.log happends.run
  obtain ⟨r, rfl, hrecord⟩ : ∃ r, rows = [r] ∧ r.Records prepared := by
    rcases hrecords with _ | ⟨hr, _ | _⟩
    exact ⟨_, rfl, hr⟩
  have happended : ∀ type id', eventsOf t'.toEventLog type id' =
      eventsOf t.toEventLog type id' ++ [r].filter (EventRow.isOf type id') := by
    intro type id'
    rw [eventsOf, hrows, List.filter_append, ← eventsOf]
  have hprepared : ∀ id', eventsOf t'.toEventLog .promotionPrepared id' =
      eventsOf t.toEventLog .promotionPrepared id' ++ if id' = id then [r] else [] := by
    intro id'
    rw [happended, hrecord.filter_isOf htype hid]
  have hother : ∀ type, type ≠ .promotionPrepared → ∀ id',
      eventsOf t'.toEventLog type id' = eventsOf t.toEventLog type id' := by
    intro type hne id'
    rw [happended, hrecord.filter_isOf_of_ne (htype.trans_ne hne.symm), List.append_nil]
  refine ⟨hlog, hqueue ▸ hinv.ids_nodup, fun id' => ?_, fun id' h' => ?_, fun id' h' => ?_⟩
  · rw [hprepared]
    by_cases hid' : id' = id
    · rw [hid', preparationRow_eq_none.1 hnone, if_pos rfl]
      simp
    · rw [if_neg hid', List.append_nil]
      exact hinv.prepared_once id'
  · rw [hqueue] at h'
    have hid' : id' ≠ id := fun heq => hunpublished (heq ▸ h')
    obtain ⟨p, d, k, hp, hd, hk, hannounces⟩ := hinv.published id' h'
    refine ⟨p, d, k, ?_, ?_, ?_, hannounces⟩
    · rw [hprepared, if_neg hid', List.append_nil, hp]
    · rw [hother _ (by simp), hd]
    · rw [hother _ (by simp), hk]
  · rw [hqueue] at h'
    rw [hother _ (by simp), hother _ (by simp)]
    exact hinv.unpublished id' h'

/-! ## Publishing -/

/-- A preparation in the log names all that it announces. -/
lemma EventRow.Records.field?_ne_null {row : EventRow} {event : EventEnvelope}
    (h : row.Records event) (htype : event.eventType = .promotionPrepared) {field : String}
    (hfield : field ∈ ["contribution_id", "module", "content_hash", "base_epoch",
      "knowledge_epoch", "declaration_id", "delta_id"]) : row.field? field ≠ some .null := by
  have hcodec : codec? event.eventType = some ⟨["contribution_id", "module", "content_hash",
      "base_epoch", "knowledge_epoch", "declaration_id", "delta_id"], [],
      [("content_hash", .sha256), ("base_epoch", .sha256)]⟩ := by
    rw [htype]
    rfl
  obtain ⟨v, hv, haccepts⟩ := getEntry_of_validatePayload event.payload_valid hcodec hfield
  rw [h.field?, hv]
  intro hnull
  cases v <;> simp at hnull
  simp only [List.mem_cons, List.not_mem_nil, or_false] at hfield
  rcases hfield with rfl | rfl | rfl | rfl | rfl | rfl | rfl <;> exact absurd haccepts (by decide)

/-- A field that is not null was read from the payload. -/
lemma eq_map_of_fieldOrNull {event : EventEnvelope} {field : String} {v : Option JsonValue}
    (h : v = some (canonical (fieldOrNull event field))) (hnull : v ≠ some .null) :
    v = (getEntry field event.payload).map canonical := by
  rw [fieldOrNull] at h
  cases hfield : getEntry field event.payload with
  | none =>
    rw [hfield] at h
    exact absurd h hnull
  | some w =>
    rw [hfield] at h
    exact h

/-- A preparation that `publish_promotion` found announces the rows of the events it appends. -/
lemma announces_of_isPrepared {log : EventLog} {id : String} {declaration delta : EventEnvelope}
    (hlog : WellFormedLog log)
    (hprepared : isPrepared log (expectedPreparation id declaration delta) = true)
    (hmodule : getEntry "module" delta.payload = getEntry "module" declaration.payload)
    (hnamed : getEntry "declaration_id" delta.payload =
      getEntry "declaration_id" declaration.payload) {d k : EventRow} (hd : d.Records declaration)
    (hk : k.Records delta) (hafter : ∀ r ∈ log.events, r.sequence < d.sequence ∧
      r.sequence < k.sequence) :
    ∃ p ∈ eventsOf log .promotionPrepared id, Announces p d k := by
  simp only [isPrepared, List.any_eq_true, Bool.and_eq_true, beq_iff_eq] at hprepared
  obtain ⟨p, hp, htype, hpayload⟩ := hprepared
  obtain ⟨source, hsource⟩ := hlog.written p hp
  have hfield : ∀ name, p.field? name =
      (getEntry name (expectedPreparation id declaration delta)).map canonical := by
    intro name
    rw [EventRow.field?, hpayload]
    simp
  have hnotnull : ∀ name ∈ ["contribution_id", "module", "content_hash", "base_epoch",
      "knowledge_epoch", "declaration_id", "delta_id"], p.field? name ≠ some .null := by
    intro name hname
    exact hsource.field?_ne_null (hsource.eventType.symm.trans htype) hname
  have hdeclaration : ∀ name, p.field? name = some (canonical (fieldOrNull declaration name)) →
      p.field? name ≠ some .null → p.field? name = d.field? name := by
    intro name h hnull
    rw [hd.field?]
    exact eq_map_of_fieldOrNull h hnull
  have hdelta : ∀ name, p.field? name = some (canonical (fieldOrNull delta name)) →
      p.field? name ≠ some .null → p.field? name = k.field? name := by
    intro name h hnull
    rw [hk.field?]
    exact eq_map_of_fieldOrNull h hnull
  have hshared : d.field? "module" = k.field? "module" ∧
      d.field? "declaration_id" = k.field? "declaration_id" := by
    rw [hd.field?, hd.field?, hk.field?, hk.field?, hmodule, hnamed]
    exact ⟨rfl, rfl⟩
  have hm := hdeclaration "module" (hfield _) (hnotnull _ (by simp))
  have hn := hdeclaration "declaration_id" (hfield _) (hnotnull _ (by simp))
  refine ⟨p, ?_, ?_⟩
  · rw [mem_eventsOf, hfield]
    exact ⟨hp, htype, rfl⟩
  · exact
      { before_declaration := (hafter p hp).1
        before_delta := (hafter p hp).2
        module_eq := ⟨hm, hm.trans hshared.1⟩
        contentHash_eq := hdeclaration "content_hash" (hfield _) (hnotnull _ (by simp))
        baseEpoch_eq := hdelta "base_epoch" (hfield _) (hnotnull _ (by simp))
        knowledgeEpoch_eq := hdelta "knowledge_epoch" (hfield _) (hnotnull _ (by simp))
        declarationId_eq := ⟨hn, hn.trans hshared.2⟩
        deltaId_eq := hdelta "delta_id" (hfield _) (hnotnull _ (by simp)) }

/-- What a publication adds to the log: one declaration and one delta of its contribution. -/
lemma eventsOf_of_publish {log log' : EventLog} {id : String}
    {declaration delta change : EventEnvelope} (hlog : WellFormedLog log)
    (hrun : eventLogSystem.Run log [declaration, delta, change] log')
    (hdeclaration : declaration.eventType = .declarationPublished)
    (hdelta : delta.eventType = .knowledgeDeltaPublished)
    (hdeclarationId : declaration.text? "contribution_id" = some id)
    (hdeltaId : delta.text? "contribution_id" = some id)
    (hchange : change.eventType ∉ publicationTypes) :
    ∃ d k : EventRow, d.Records declaration ∧ k.Records delta ∧
      (∀ r ∈ log.events, r.sequence < d.sequence ∧ r.sequence < k.sequence) ∧
      (∀ id', eventsOf log' .promotionPrepared id' = eventsOf log .promotionPrepared id') ∧
      (∀ id', eventsOf log' .declarationPublished id' =
        eventsOf log .declarationPublished id' ++ if id' = id then [d] else []) ∧
      ∀ id', eventsOf log' .knowledgeDeltaPublished id' =
        eventsOf log .knowledgeDeltaPublished id' ++ if id' = id then [k] else [] := by
  obtain ⟨-, rows, hrows, hrecords, hafter⟩ := rows_of_run hlog hrun
  obtain ⟨d, k, c, rfl, hd, hk, hc⟩ : ∃ d k c, rows = [d, k, c] ∧ d.Records declaration ∧
      k.Records delta ∧ c.Records change := by
    rcases hrecords with _ | ⟨hd, _ | ⟨hk, _ | ⟨hc, _ | _⟩⟩⟩
    exact ⟨_, _, _, rfl, hd, hk, hc⟩
  have happended : ∀ type id', eventsOf log' type id' = eventsOf log type id' ++
      ([d].filter (EventRow.isOf type id') ++ ([k].filter (EventRow.isOf type id') ++
        [c].filter (EventRow.isOf type id'))) := by
    intro type id'
    rw [eventsOf, hrows, List.filter_append, ← eventsOf, ← List.filter_append,
      ← List.filter_append]
    rfl
  have hnochange : ∀ type ∈ publicationTypes, ∀ id', [c].filter (EventRow.isOf type id') = [] := by
    intro type htype id'
    apply hc.filter_isOf_of_ne
    intro heq
    exact hchange (heq ▸ htype)
  refine ⟨d, k, hd, hk, fun r hr => ⟨hafter r hr d (by simp), hafter r hr k (by simp)⟩,
    fun id' => ?_, fun id' => ?_, fun id' => ?_⟩
  · rw [happended, hnochange _ (by simp [publicationTypes]),
      hd.filter_isOf_of_ne (by simp [hdeclaration]), hk.filter_isOf_of_ne (by simp [hdelta])]
    simp
  · rw [happended, hnochange _ (by simp [publicationTypes]),
      hk.filter_isOf_of_ne (by simp [hdelta]), hd.filter_isOf hdeclaration hdeclarationId]
    simp
  · rw [happended, hnochange _ (by simp [publicationTypes]),
      hd.filter_isOf_of_ne (by simp [hdeclaration]), hk.filter_isOf hdelta hdeltaId]
    simp

/-- Publishing a prepared contribution that is not published keeps the invariant. -/
lemma PublicationLog.publish {t t' : Tables} {id owner : String} {changedAt : Datetime}
    {declaration delta : EventEnvelope} {event : EventFactory} {entry : PublicationQueueEntry}
    (hinv : PublicationLog t)
    (hdeclaration : declaration.eventType = .declarationPublished)
    (hdelta : delta.eventType = .knowledgeDeltaPublished)
    (hdeclarationId : declaration.text? "contribution_id" = some id)
    (hdeltaId : delta.text? "contribution_id" = some id)
    (hmodule : getEntry "module" delta.payload = getEntry "module" declaration.payload)
    (hnamed : getEntry "declaration_id" delta.payload =
      getEntry "declaration_id" declaration.payload)
    (hchange : ∀ e, event.Makes e → e.eventType ∉ publicationTypes)
    (h : publishPromotion t id owner changedAt declaration delta event = .ok (t', entry)) :
    PublicationLog t' := by
  obtain ⟨row, e, he, -, hprepared, howner⟩ := publishPromotion_ok hinv.ids_nodup h
  have hpublished := howner.isPublished hinv.ids_nodup
  have hunpublished : ¬ IsPublished t.publicationQueue id :=
    not_isPublished_of_found hinv.ids_nodup howner.found
      (PublicationQueueState.ne_published_of_isActive howner.admissible.1)
  obtain ⟨d, k, hd, hk, hafter, hpreparations, hdeclarations, hdeltas⟩ :=
    eventsOf_of_publish hinv.log howner.appends.run hdeclaration hdelta hdeclarationId hdeltaId
      (hchange e he)
  obtain ⟨hlog, -⟩ := rows_of_run hinv.log howner.appends.run
  have hids : (ids t'.publicationQueue).Nodup := by
    rw [howner.queue]
    simpa using hinv.ids_nodup
  refine ⟨hlog, hids, fun id' => ?_, fun id' h' => ?_, fun id' h' => ?_⟩
  · rw [hpreparations]
    exact hinv.prepared_once id'
  · rcases (hpublished id').1 h' with h' | ⟨rfl, -⟩
    · have hid' : id' ≠ id := fun heq => hunpublished (heq ▸ h')
      obtain ⟨p, d', k', hp, hd', hk', hannounces⟩ := hinv.published id' h'
      refine ⟨p, d', k', ?_, ?_, ?_, hannounces⟩
      · rw [hpreparations, hp]
      · rw [hdeclarations, if_neg hid', List.append_nil, hd']
      · rw [hdeltas, if_neg hid', List.append_nil, hk']
    · obtain ⟨hnodeclaration, hnodelta⟩ := hinv.unpublished id' hunpublished
      obtain ⟨p, hp, hannounces⟩ :=
        announces_of_isPrepared hinv.log hprepared hmodule hnamed hd hk hafter
      -- the preparation that was found is the only one of the contribution
      obtain ⟨r, hr⟩ := List.length_eq_one_iff.1
        (le_antisymm (hinv.prepared_once id') (List.length_pos_of_mem hp))
      rw [hr, List.mem_singleton] at hp
      refine ⟨p, d, k, ?_, ?_, ?_, hannounces⟩
      · rw [hpreparations, hr, hp]
      · rw [hdeclarations, hnodeclaration, if_pos rfl, List.nil_append]
      · rw [hdeltas, hnodelta, if_pos rfl, List.nil_append]
  · have hid' : id' ≠ id := by
      rintro rfl
      exact h' ((hpublished id').2 (Or.inr ⟨rfl, rfl⟩))
    have hbefore : ¬ IsPublished t.publicationQueue id' :=
      fun hp => h' ((hpublished id').2 (Or.inl hp))
    rw [hdeclarations, hdeltas, if_neg hid', if_neg hid', List.append_nil, List.append_nil]
    exact hinv.unpublished id' hbefore

/-! ## Every operation -/

/-- Every operation, successful or not, keeps the invariant. -/
lemma PublicationLog.exec {t : Tables} (hinv : PublicationLog t) {op : StateOp}
    (hop : op.Regular) : PublicationLog (op.exec t) := by
  unfold StateOp.exec
  split
  swap
  · exact hinv
  rename_i t' hrun
  obtain ⟨heffect, hqueue⟩ := StateOp.run_ok hinv.ids_nodup hrun
  have hids := (hqueue.callStep hinv.ids_nodup).ids_nodup hinv.ids_nodup
  cases hpublishes : op.publishes with
  | true =>
    cases op with
    | publishPromotion declarationStamp deltaStamp stamp now id owner declaration delta =>
      simp only [StateOp.run, map_eq_ok, Prod.exists] at hrun
      obtain ⟨a, entry, hrun, rfl⟩ := hrun
      obtain ⟨declarationEvent, deltaEvent, hd, hk, hdtype, hktype, hdid, hkid, hrun⟩ :=
        StateService.publishPromotion_ok hrun
      obtain ⟨hmodule, hnamed⟩ := hop
      obtain ⟨-, -, -, -, -, -, hdpayload⟩ := makeEvent_ok hd
      obtain ⟨-, -, -, -, -, -, hkpayload⟩ := makeEvent_ok hk
      rw [← hdpayload, ← hkpayload] at hmodule hnamed
      refine hinv.publish hdtype hktype hdid hkid hmodule hnamed (fun e he => ?_) hrun
      rw [StateService.promotionEvent_makes he]
      simp [publicationTypes]
    | _ => simp [StateOp.publishes] at hpublishes
  | false =>
    by_cases hprepare : ∃ stamp id owner command, op = .preparePromotion stamp id owner command
    · obtain ⟨stamp, id, owner, command, rfl⟩ := hprepare
      simp only [StateOp.run, map_eq_ok, Prod.exists] at hrun
      obtain ⟨a, entry, hrun, rfl⟩ := hrun
      obtain ⟨event, -, -, hrun⟩ := StateService.preparePromotion_ok hrun
      exact hinv.prepare hrun
    · simp only [not_exists] at hprepare
      obtain ⟨events, hevents, htypes⟩ := heffect.exists_run
      have hdisjoint := StateOp.eventTypes_disjoint hop hpublishes hprepare
      exact hinv.of_unrelated hevents (fun e he => hdisjoint _ (htypes e he)) hids
        (hqueue.isPublished hinv.ids_nodup hpublishes)

end Aizim.State
