import Aizim.Knowledge.PromotionSystem
import Aizim.Knowledge.Reader
import Aizim.State.Epochs

/-!
# The chain of epochs

Every publication moves the project from the epoch pair it was made for to the next one.  A
promotion reads the current pair when it starts and publishes much later, but the contribution it
works on is active all that time, and while it is no other one can be published.

`EpochLog` is the invariant of the store, `Pinned` what a promotion knows of the pair it has read,
and `epoch_chain` the result: the deltas in the log form one chain, which ends at the current pair.
-/

namespace Aizim.Knowledge

open JsonValue JsonObject Domain State TransitionSystem

/-! ## Chains -/

/-- Each delta starts from the pair that the one before it reached, and raises the knowledge epoch
by one. -/
def EpochChain : Except Fault EpochPair → List PublishedKnowledgeDelta →
    Except Fault EpochPair → Prop
  | start, [], last => last = start
  | start, delta :: deltas, last =>
    start = .ok delta.previousEpoch ∧
      delta.newEpoch.knowledgeEpoch = delta.previousEpoch.knowledgeEpoch + 1 ∧
      EpochChain (.ok delta.newEpoch) deltas last

lemma EpochChain.snoc {start : Except Fault EpochPair} {deltas : List PublishedKnowledgeDelta}
    {delta : PublishedKnowledgeDelta} (h : EpochChain start deltas (.ok delta.previousEpoch))
    (hnext : delta.newEpoch.knowledgeEpoch = delta.previousEpoch.knowledgeEpoch + 1) :
    EpochChain start (deltas ++ [delta]) (.ok delta.newEpoch) := by
  induction deltas generalizing start with
  | nil => exact ⟨h.symm, hnext, rfl⟩
  | cons first deltas ih =>
    obtain ⟨hstart, hfirst, hrest⟩ := h
    exact ⟨hstart, hfirst, ih hrest⟩

/-- Along a chain the knowledge epochs grow. -/
lemma EpochChain.lt_of_mem {pair : EpochPair} {deltas : List PublishedKnowledgeDelta}
    {last : Except Fault EpochPair} (h : EpochChain (.ok pair) deltas last) :
    ∀ delta ∈ deltas, pair.knowledgeEpoch < delta.newEpoch.knowledgeEpoch := by
  induction deltas generalizing pair with
  | nil => simp
  | cons first deltas ih =>
    obtain ⟨hstart, hnext, hrest⟩ := h
    obtain rfl := Except.ok.inj hstart
    refine List.forall_mem_cons.2 ⟨by omega, fun delta hdelta => ?_⟩
    have hlater := ih hrest delta hdelta
    omega

lemma EpochChain.pairwise {start last : Except Fault EpochPair}
    {deltas : List PublishedKnowledgeDelta} (h : EpochChain start deltas last) :
    deltas.Pairwise fun d e => d.newEpoch.knowledgeEpoch < e.newEpoch.knowledgeEpoch := by
  induction deltas generalizing start with
  | nil => exact .nil
  | cons first deltas ih =>
    obtain ⟨-, -, hrest⟩ := h
    exact .cons (EpochChain.lt_of_mem hrest) (ih hrest)

/-! ## Reading a delta back -/

variable [CharacterDatabase]

omit [CharacterDatabase] in
lemma mapM_nonEmptyText {texts : List String} (h : "" ∉ texts) :
    (texts.map JsonValue.str).mapM nonEmptyText = .ok texts := by
  induction texts with
  | nil => rfl
  | cons text texts ih =>
    rw [List.mem_cons, not_or] at h
    rw [List.map_cons, List.mapM_cons, ih h.2, nonEmptyText, if_neg (Ne.symm h.1)]
    rfl

section

variable {payload : JsonObject} {field : String}

omit [CharacterDatabase] in
lemma textField_stored (error : Fault) (text : String)
    (h : getEntry field payload = some (.str text)) (htext : text ≠ "") :
    textField error (canonicalEntries payload) field = .ok text := by
  simp [textField, h, htext]

omit [CharacterDatabase] in
lemma integerField_stored (error : Fault) (n : ℕ) (h : getEntry field payload = some (.int n)) :
    integerField error (canonicalEntries payload) field = .ok n := by
  simp [integerField, h]

omit [CharacterDatabase] in
lemma deltaText_stored (text : String) (h : getEntry field payload = some (.str text))
    (htext : text ≠ "") : deltaText (canonicalEntries payload) field = .ok text :=
  textField_stored _ text h htext

omit [CharacterDatabase] in
lemma deltaInteger_stored (n : ℕ) (h : getEntry field payload = some (.int n)) :
    deltaInteger (canonicalEntries payload) field = .ok n :=
  integerField_stored _ n h

omit [CharacterDatabase] in
lemma deltaStrings_stored (texts : List String) (h : getEntry field payload = some (items texts))
    (htexts : "" ∉ texts) : deltaStrings (canonicalEntries payload) field = .ok texts := by
  have hcanonical : (texts.map JsonValue.str).map canonical = texts.map JsonValue.str := by
    simp
  have hmap := mapM_nonEmptyText htexts
  simp only [deltaStrings, stringsField, getEntry_canonicalEntries, h, items, Option.map_some,
    canonical_list, hcanonical, hmap]
  rfl

omit [CharacterDatabase] in
lemma baseEpoch_ne (pair : EpochPair) : pair.baseEpoch ≠ "" := by
  intro hempty
  have hvalid := pair.baseEpoch_valid
  rw [hempty] at hvalid
  exact absurd hvalid (by decide)

omit [CharacterDatabase] in
lemma deltaEpoch_stored (pair : EpochPair) {epochField : String}
    (hbase : getEntry field payload = some (.str pair.baseEpoch))
    (hepoch : getEntry epochField payload = some (.int pair.knowledgeEpoch)) :
    deltaEpoch (canonicalEntries payload) field epochField = .ok pair := by
  have hpair : newEpochPair pair.baseEpoch pair.knowledgeEpoch = .ok pair :=
    newEpochPair_eq_ok.2 ⟨rfl, rfl⟩
  simp only [deltaEpoch, deltaText_stored _ hbase (baseEpoch_ne pair), deltaInteger_stored _ hepoch, ok_bind, hpair]
  rfl

end

/-- The reader reads back the epochs of a publication. -/
lemma deltaOf_publication {r : PublicationRecord} {runId newBaseEpoch : String}
    {current : EpochPair} {module : ArtifactReference} {publication : PublicationDelta}
    {stamp : Stamp} {event : EventEnvelope}
    (h : publicationDelta r runId current newBaseEpoch module = .ok publication)
    (hevent : makeEvent stamp publication.delta = .ok event) :
    ∃ delta, deltaOf event.stored.payload = .ok delta ∧ delta.previousEpoch = current ∧
      delta.newEpoch.knowledgeEpoch = current.knowledgeEpoch + 1 ∧
      epochState event.payload = [("base_epoch", .str delta.newEpoch.baseEpoch),
        ("knowledge_epoch", .int delta.newEpoch.knowledgeEpoch)] := by
  simp only [publicationDelta, bind_eq_ok, pure_eq_ok] at h
  obtain ⟨newEpoch, hnew, rfl⟩ := h
  obtain ⟨-, hepoch⟩ := newEpochPair_eq_ok.1 hnew
  obtain ⟨-, htype, -, -, -, -, hpayload⟩ := makeEvent_ok hevent
  dsimp only at hpayload
  have htype : event.eventType = .knowledgeDeltaPublished := EventType.text_injective htype
  have hvalid := event.payload_valid
  rw [htype] at hvalid
  generalize sha256Json (.dict [("name", .str r.name), ("module", .str module.contentHash)]) =
    declarationId at hpayload
  generalize sha256Json (.dict [("declaration", .str declarationId),
    ("epoch", epochJson newEpoch)]) = deltaId at hpayload
  -- the checks of the event are those of the reader
  simp only [validatePayload, codec?, PayloadCodec.validate_eq_ok_iff] at hvalid
  obtain ⟨-, -, hchecks⟩ := hvalid
  rw [hpayload] at hchecks
  simp [PayloadCodec.validator, fieldValidators, evidenceValidators, FieldCheck.accepts,
    textPayload, items] at hchecks
  obtain ⟨hdelta, -, hdeclaration, hcontribution, -, hname, hcompleteType, hmodule, hdependencies,
    hassumptions, haxioms, hevidence⟩ := hchecks
  have hmem : ∀ texts : List String, (∀ x ∈ texts, ¬ x = "") → "" ∉ texts :=
    fun texts htexts hin => htexts "" hin rfl
  refine ⟨⟨deltaId, current, newEpoch, declarationId, r.name, r.completeType, r.moduleName,
    r.dependencies, r.assumptions, r.axioms, r.evidenceLinks, r.contributionId, r.sequence⟩,
    ?_, rfl, by exact_mod_cast hepoch, ?_⟩
  · rw [EventEnvelope.stored_payload]
    simp only [deltaOf]
    rw [deltaText_stored deltaId (by simp [hpayload]) hdelta,
      deltaEpoch_stored current (by simp [hpayload]) (by simp [hpayload]),
      deltaEpoch_stored newEpoch (by simp [hpayload]) (by simp [hpayload]),
      deltaText_stored declarationId (by simp [hpayload]) hdeclaration,
      deltaText_stored r.name (by simp [hpayload]) hname,
      deltaText_stored r.completeType (by simp [hpayload]) hcompleteType,
      deltaText_stored r.moduleName (by simp [hpayload]) hmodule,
      deltaStrings_stored r.dependencies (by simp [hpayload]) (hmem _ hdependencies),
      deltaStrings_stored r.assumptions (by simp [hpayload]) (hmem _ hassumptions),
      deltaStrings_stored r.axioms (by simp [hpayload]) (hmem _ haxioms),
      deltaStrings_stored r.evidenceLinks (by simp [hpayload]) (hmem _ hevidence),
      deltaText_stored r.contributionId (by simp [hpayload]) hcontribution,
      deltaInteger_stored r.sequence (by simp [hpayload])]
    rfl
  · simp [epochState, hpayload]

/-! ## The invariant -/

omit [CharacterDatabase] in
lemma currentEpochIn_congr {t t' : Tables} (h : epochRow t'.toEventLog = epochRow t.toEventLog) :
    currentEpochIn t' = currentEpochIn t := by
  simp only [epochRow] at h
  simp only [currentEpochIn, h]

omit [CharacterDatabase] in
/-- The current pair is the one in the record of the epochs. -/
lemma currentEpochIn_of_row {t : Tables} {version : ℕ} {state : JsonObject} {pair : EpochPair}
    (h : epochRow t.toEventLog = some ⟨version, .ofObject state⟩)
    (hbase : getEntry "base_epoch" state = some (.str pair.baseEpoch))
    (hepoch : getEntry "knowledge_epoch" state = some (.int pair.knowledgeEpoch)) :
    currentEpochIn t = .ok pair := by
  have hpair : newEpochPair pair.baseEpoch pair.knowledgeEpoch = .ok pair :=
    newEpochPair_eq_ok.2 ⟨rfl, rfl⟩
  simp only [epochRow] at h
  simp only [currentEpochIn, h, orThrow, ok_bind, JsonText.object?_ofObject,
    textField_stored _ _ hbase (baseEpoch_ne pair), integerField_stored _ _ hepoch, hpair]
  rfl

/-- The deltas in the log form one chain from the starting pair to the current one. -/
structure EpochLog (start : Except Fault EpochPair) (t : Tables) : Prop where
  log : WellFormedLog t.toEventLog
  queue : QueueProtocol t.publicationQueue
  chain : ∃ deltas, KnowledgeReader.publishedDeltas t.toEventLog = .ok deltas ∧
    EpochChain start deltas (currentEpochIn t)

variable {start : Except Fault EpochPair}

/-- A step that appends no event that sets the epochs keeps the chain. -/
lemma EpochLog.of_unrelated {t t' : Tables} {events : List EventEnvelope} (hinv : EpochLog start t)
    (hrun : eventLogSystem.Run t.toEventLog events t'.toEventLog)
    (htypes : ∀ e ∈ events, e.eventType.setsEpochs = false)
    (hcall : CallStep t.publicationQueue t'.publicationQueue) :
    EpochLog start t' ∧ Overtakes t t' := by
  have hepochs := epochRow_of_run hrun htypes
  obtain ⟨deltas, hdeltas, hchain⟩ := hinv.chain
  have hnone : events.filter (fun e => e.eventType == .knowledgeDeltaPublished) = [] := by
    rw [List.filter_eq_nil_iff]
    intro e he hdelta
    have htype := htypes e he
    rw [beq_iff_eq.1 hdelta] at htype
    simp [EventType.setsEpochs] at htype
  refine ⟨⟨(rows_of_run hinv.log hrun).1, hcall.protocol hinv.queue, deltas, ?_, ?_⟩,
    .of_callStep hcall hinv.queue.ids_nodup hepochs⟩
  · rw [publishedDeltas_of_run hinv.log hrun, hdeltas, deltasOfEvents, hnone]
    simp
  · rw [currentEpochIn_congr hepochs]
    exact hchain

/-- Operations that append no event that sets the epochs keep the chain. -/
lemma EpochLog.exec {t : Tables} (hinv : EpochLog start t) {op : StateOp}
    (hop : ∀ type ∈ op.eventTypes, type.setsEpochs = false) :
    EpochLog start (op.exec t) ∧ Overtakes t (op.exec t) := by
  unfold StateOp.exec
  split
  swap
  · exact ⟨hinv, .refl t⟩
  rename_i t' hrun
  obtain ⟨heffect, hqueue⟩ := StateOp.run_ok hinv.queue.ids_nodup hrun
  obtain ⟨events, hevents, htypes⟩ := heffect.exists_run
  exact hinv.of_unrelated hevents (fun e he => hop _ (htypes e he))
    (hqueue.callStep hinv.queue.ids_nodup)

/-- A publication that was made for the current pair extends the chain. -/
lemma EpochLog.publish {t t' : Tables} (hinv : EpochLog start t)
    {declarationStamp deltaStamp stamp : Stamp} {now : Datetime} {id owner : String}
    {declaration : AppendEventCommand} {publication : PublicationDelta}
    {entry : PublicationQueueEntry} {r : PublicationRecord} {runId newBaseEpoch : String}
    {current : EpochPair} {module : ArtifactReference}
    (hpublication : publicationDelta r runId current newBaseEpoch module = .ok publication)
    (hcurrent : IsActive t id → currentEpochIn t = .ok current)
    (h : StateService.publishPromotion t declarationStamp deltaStamp stamp now id owner declaration
      publication.delta = .ok (t', entry)) :
    EpochLog start t' ∧ Overtakes t t' := by
  obtain ⟨declarationEvent, deltaEvent, -, hdelta, hdtype, hktype, -, -, h⟩ :=
    StateService.publishPromotion_ok h
  have hrun : PublicationCall.run t (.publishPromotion id owner now declarationEvent deltaEvent
      (StateService.promotionEvent stamp)) = .ok t' :=
    map_eq_ok.2 ⟨_, h, rfl⟩
  have hcall := PublicationCall.callStep hinv.queue.ids_nodup hrun
  obtain ⟨row, e, he, -, -, howner⟩ := publishPromotion_ok hinv.queue.ids_nodup h
  obtain ⟨hrow, -⟩ := findRow_some howner.found
  have hactive := howner.admissible.1
  have hid := howner.row_id
  subst hid
  have hchange : e.eventType.setsEpochs = false := by
    rw [StateService.promotionEvent_makes he]
    rfl
  obtain ⟨delta, hread, hprevious, hnext, hstate⟩ := deltaOf_publication hpublication hdelta
  obtain ⟨deltas, hdeltas, hchain⟩ := hinv.chain
  obtain ⟨version, hepochs⟩ := epochRow_of_publish howner.appends.run hktype hchange
  rw [hstate] at hepochs
  have hlast : currentEpochIn t' = .ok delta.newEpoch :=
    currentEpochIn_of_row hepochs (by simp) (by simp)
  have hpublished : IsPublished t'.publicationQueue row.contributionId :=
    (howner.isPublished hinv.queue.ids_nodup _).2 (Or.inr ⟨rfl, rfl⟩)
  refine ⟨⟨(rows_of_run hinv.log howner.appends.run).1, hcall.protocol hinv.queue,
    deltas ++ [delta], ?_, ?_⟩, .of_publish hcall hinv.queue hrow hactive hpublished⟩
  · have hnew : deltasOfEvents [declarationEvent, deltaEvent, e] = .ok [delta] := by
      rw [EventEnvelope.stored_payload] at hread
      have hetype := StateService.promotionEvent_makes he
      simp [deltasOfEvents, hdtype, hktype, hetype, hread]
    rw [publishedDeltas_of_run hinv.log howner.appends.run, hdeltas, hnew]
    rfl
  · rw [hcurrent ⟨row, hrow, rfl, hactive⟩, ← hprevious] at hchain
    rw [hlast]
    exact hchain.snoc (hprevious ▸ hnext)

/-! ## What a promotion knows -/

/-- The pair was current when the promotion read it, and still is while its contribution is
active. -/
structure Pinned (start : Except Fault EpochPair) (id : String) (current : EpochPair)
    (t : Tables) : Prop where
  log : EpochLog start t
  claimed : IsClaimed t id
  current_eq : IsActive t id → currentEpochIn t = .ok current

/-- What the others do: they keep the chain, and do not overtake a contribution that is active. -/
def EpochInterference (start : Except Fault EpochPair) (t t' : Tables) : Prop :=
  EpochLog start t → EpochLog start t' ∧ Overtakes t t'

/-- What a step of a promotion guarantees: it publishes for the current pair only. -/
def PromotionRequest.ForCurrent (t : Tables) : PromotionRequest → Prop
  | .publish id _ _ delta => ∃ r runId current newBaseEpoch module publication,
      publicationDelta r runId current newBaseEpoch module = .ok publication ∧
        delta = publication.delta ∧ (IsActive t id → currentEpochIn t = .ok current)
  | request => request.Quiet

/-- What an effect guarantees. -/
def PromotionEffect.ForCurrent (t : Tables) : PromotionEffect → Prop
  | step request => request.ForCurrent t
  | active _ _ request => request.ForCurrent t

lemma EpochInterference.refl (t : Tables) : EpochInterference start t t :=
  fun h => ⟨h, .refl t⟩

lemma EpochInterference.trans (t t' t'' : Tables) (h : EpochInterference start t t')
    (h' : EpochInterference start t' t'') : EpochInterference start t t'' := by
  intro hinv
  obtain ⟨hinv', hfirst⟩ := h hinv
  obtain ⟨hinv'', hsecond⟩ := h' hinv'
  exact ⟨hinv'', hfirst.trans hsecond⟩

lemma Pinned.stable {id : String} {current : EpochPair} {t t' : Tables}
    (h : Pinned start id current t) (ht : Overtakes t t') (hinv : EpochLog start t') :
    Pinned start id current t' := by
  obtain ⟨hclaimed, hactive⟩ := ht id h.claimed
  refine ⟨hinv, hclaimed, fun ha => ?_⟩
  obtain ⟨hbefore, hepochs⟩ := hactive ha
  rw [currentEpochIn_congr hepochs]
  exact h.current_eq hbefore

omit [CharacterDatabase] in
/-- Steps other than to publish set no epochs. -/
lemma PromotionRequest.Makes.setsEpochs {request : PromotionRequest} {op : StateOp}
    (h : request.Makes op) (hquiet : request.Quiet) :
    ∀ type ∈ op.eventTypes, type.setsEpochs = false := by
  cases request with
  | claimNext _ | advance _ _ _ | recoverExpired _ _ =>
    obtain ⟨_, _, rfl⟩ := h
    simp [StateOp.eventTypes, EventType.setsEpochs]
  | appendEvent command =>
    obtain ⟨_, rfl⟩ := h
    have htype : EventType.ofText? command.eventType = some .promotionVerificationRecorded := by
      rw [show command.eventType = "PromotionVerificationRecorded" from hquiet]
      exact EventType.ofText?_text .promotionVerificationRecorded
    simp [StateOp.eventTypes, htype, EventType.setsEpochs]
  | prepare _ _ _ =>
    obtain ⟨_, rfl⟩ := h
    simp [StateOp.eventTypes, EventType.setsEpochs]
  | publish _ _ _ _ => exact hquiet.elim
  | fail _ _ _ =>
    obtain ⟨_, _, _, rfl⟩ := h
    simp [StateOp.eventTypes, EventType.setsEpochs]
  | rebase _ _ _ _ =>
    obtain ⟨_, _, _, _, _, rfl⟩ := h
    simp [StateOp.eventTypes, EventType.setsEpochs]
  | _ => exact h.elim

/-- A quiet step keeps the chain. -/
lemma EpochLog.quietStep {t t' : Tables} {request : PromotionRequest}
    {answer : Except Fault request.Answer} (hinv : EpochLog start t)
    (h : handleStep request t answer t') (hquiet : request.Quiet) :
    EpochLog start t' ∧ Overtakes t t' := by
  rcases exists_op_of_step h with rfl | ⟨op, hop, rfl⟩
  · exact ⟨hinv, .refl _⟩
  · exact hinv.exec (hop.setsEpochs hquiet)

/-- A step that publishes for the current pair only keeps the chain. -/
lemma EpochLog.step {t t' : Tables} {request : PromotionRequest}
    {answer : Except Fault request.Answer} (hinv : EpochLog start t)
    (h : handleStep request t answer t') (hcurrent : request.ForCurrent t) :
    EpochLog start t' ∧ Overtakes t t' := by
  cases request with
  | publish id owner declaration delta =>
    obtain ⟨r, runId, current, newBaseEpoch, module, publication, hpublication, rfl, hactive⟩ :=
      hcurrent
    rcases h with ⟨declarationStamp, deltaStamp, stamp, now, h⟩ | ⟨rfl, -⟩
    · rcases h.eq_or with rfl | ⟨entry, hrun⟩
      · exact ⟨hinv, .refl _⟩
      · exact hinv.publish hpublication hactive hrun
    · exact ⟨hinv, .refl _⟩
  | _ => exact hinv.quietStep h hcurrent

/-- An effect that publishes for the current pair only keeps the chain. -/
lemma EpochLog.handle {t t' : Tables} {effect : PromotionEffect}
    {r : Option (Except Fault (PromotionAnswer effect))} (hinv : EpochLog start t)
    (h : handlePromotion effect t r t') (hcurrent : effect.ForCurrent t) :
    EpochLog start t' ∧ Overtakes t t' := by
  cases effect with
  | step request =>
    cases r with
    | none => exact h.elim
    | some answer => exact hinv.step h hcurrent
  | active id owner request =>
    cases r with
    | none =>
      obtain ⟨stamp, now, entry, h⟩ := h
      have hexec : StateOp.exec t (.heartbeatPromotion stamp now id owner) = t' := by
        simp [StateOp.exec, StateOp.run, h]
      have htypes : ∀ type ∈ (StateOp.heartbeatPromotion stamp now id owner).eventTypes,
          type.setsEpochs = false := by
        simp [StateOp.eventTypes, EventType.setsEpochs]
      rw [← hexec]
      exact hinv.exec htypes
    | some answer => exact hinv.step h hcurrent

omit [CharacterDatabase] in
/-- A quiet effect publishes nothing. -/
lemma PromotionEffect.Quiet.forCurrent {effect : PromotionEffect} (h : effect.Quiet) (t : Tables) :
    effect.ForCurrent t := by
  have hrequest : ∀ request : PromotionRequest, request.Quiet → request.ForCurrent t := by
    intro request hquiet
    cases request with
    | publish _ _ _ _ => exact hquiet.elim
    | _ => exact hquiet
  cases effect with
  | step request => exact hrequest request h
  | active _ _ request => exact hrequest request h

omit [CharacterDatabase] in
/-- No step of a promotion acknowledges. -/
lemma PromotionRequest.Makes.no_acknowledgement {request : PromotionRequest} {op : StateOp}
    (h : request.Makes op) (hcommand : ∀ command, request = .appendEvent command →
      command.eventType = "PromotionVerificationRecorded") :
    .knowledgeDeltaAcknowledged ∉ op.eventTypes := by
  cases request with
  | claimNext _ | advance _ _ _ | recoverExpired _ _ =>
    obtain ⟨_, _, rfl⟩ := h
    simp [StateOp.eventTypes]
  | appendEvent command =>
    obtain ⟨_, rfl⟩ := h
    have htype : EventType.ofText? command.eventType = some .promotionVerificationRecorded := by
      rw [hcommand command rfl]
      exact EventType.ofText?_text .promotionVerificationRecorded
    simp [StateOp.eventTypes, htype]
  | prepare _ _ _ =>
    obtain ⟨_, rfl⟩ := h
    simp [StateOp.eventTypes]
  | publish _ _ _ _ =>
    obtain ⟨_, _, _, _, rfl⟩ := h
    simp [StateOp.eventTypes]
  | fail _ _ _ =>
    obtain ⟨_, _, _, rfl⟩ := h
    simp [StateOp.eventTypes]
  | rebase _ _ _ _ =>
    obtain ⟨_, _, _, _, _, rfl⟩ := h
    simp [StateOp.eventTypes]
  | _ => exact h.elim

omit [CharacterDatabase] in
/-- What a step that publishes for the current pair only may append. -/
lemma PromotionRequest.ForCurrent.command {t : Tables} {request : PromotionRequest}
    (h : request.ForCurrent t) :
    ∀ command, request = .appendEvent command →
      command.eventType = "PromotionVerificationRecorded" := by
  rintro command rfl
  exact h

omit [CharacterDatabase] in
/-- No effect of a promotion acknowledges. -/
lemma PromotionEffect.Makes.no_acknowledgement {effect : PromotionEffect} {op : StateOp}
    {t : Tables} (h : effect.Makes op) (hcurrent : effect.ForCurrent t) :
    .knowledgeDeltaAcknowledged ∉ op.eventTypes := by
  cases effect with
  | step request =>
    exact PromotionRequest.Makes.no_acknowledgement h (PromotionRequest.ForCurrent.command hcurrent)
  | active id owner request =>
    rcases h with h | ⟨_, _, rfl⟩
    · exact h.no_acknowledgement (PromotionRequest.ForCurrent.command hcurrent)
    · simp [StateOp.eventTypes]

/-! ## The programs -/

/-- What a program of the service ensures beside others. -/
def EnsuresCurrent (start : Except Fault EpochPair) {α : Type} (program : PromotionProgram α)
    (result : α → Tables → Prop) (t : Tables) : Prop :=
  program.Ensures handlePromotion (EpochInterference start) (fun effect t _ _ => effect.ForCurrent t)
    result t

/-- The chain is intact and the contribution has been claimed. -/
structure Claimed (start : Except Fault EpochPair) (id : String) (t : Tables) : Prop where
  log : EpochLog start t
  claimed : IsClaimed t id

lemma Claimed.stable {id : String} {t t' : Tables} (h : Claimed start id t)
    (ht : EpochInterference start t t') : Claimed start id t' := by
  obtain ⟨hinv, hovertakes⟩ := ht h.log
  exact ⟨hinv, (hovertakes id h.claimed).1⟩

lemma Pinned.interfere {id : String} {current : EpochPair} {t t' : Tables}
    (h : Pinned start id current t) (ht : EpochInterference start t t') :
    Pinned start id current t' := by
  obtain ⟨hinv, hovertakes⟩ := ht h.log
  exact h.stable hovertakes hinv

/-- Quiet programs keep what is known of the pair. -/
lemma ensures_of_quiet {α : Type} {program : PromotionProgram α} {id : String}
    {current : EpochPair} {t : Tables} (hquiet : program.Performs PromotionEffect.Quiet)
    (h : Pinned start id current t) :
    EnsuresCurrent start program (fun _ => Pinned start id current) t := by
  refine hquiet.ensures h (fun _ _ ht h => h.interfere ht) ?_
  intro effect t r t' hquiet h hhandle
  refine ⟨hquiet.forCurrent t, h.interfere fun hinv => ?_⟩
  exact hinv.handle hhandle (hquiet.forCurrent t)

/-- Quiet programs keep a claim. -/
lemma ensures_claimed_of_quiet {α : Type} {program : PromotionProgram α} {id : String}
    {t : Tables} (hquiet : program.Performs PromotionEffect.Quiet) (h : Claimed start id t) :
    EnsuresCurrent start program (fun _ => Claimed start id) t := by
  refine hquiet.ensures h (fun _ _ ht h => h.stable ht) ?_
  intro effect t r t' hquiet h hhandle
  refine ⟨hquiet.forCurrent t, h.stable fun hinv => ?_⟩
  exact hinv.handle hhandle (hquiet.forCurrent t)

/-- Quiet programs need nothing. -/
lemma ensures_true_of_quiet {α : Type} {program : PromotionProgram α} {t : Tables}
    (hquiet : program.Performs PromotionEffect.Quiet) :
    EnsuresCurrent start program (fun _ _ => True) t :=
  hquiet.ensures trivial (fun _ _ _ _ => trivial)
    fun _ t _ _ hquiet _ _ => ⟨hquiet.forCurrent t, trivial⟩

/-- One step after another. -/
lemma EnsuresCurrent.bind {α β : Type} {program : PromotionProgram α}
    {next : α → PromotionProgram β} {result : α → Tables → Prop} {result' : β → Tables → Prop}
    {t : Tables} (h : EnsuresCurrent start program result t)
    (hnext : ∀ a t, result a t → EnsuresCurrent start (next a) result' t) :
    EnsuresCurrent start (program >>= next) result' t :=
  Program.Ensures.bind EpochInterference.refl h hnext

/-- One step, where the result follows from what the step did. -/
lemma perform_ensures (request : PromotionRequest) {result : request.Answer → Tables → Prop}
    {t : Tables} (hcurrent : ∀ t₁, EpochInterference start t t₁ → request.ForCurrent t₁)
    (hresult : ∀ t₁, EpochInterference start t t₁ → ∀ answer t₂,
      handleStep request t₁ (.ok answer) t₂ →
        ∀ t₃, EpochInterference start t₂ t₃ → result answer t₃) :
    EnsuresCurrent start (perform request) result t := by
  unfold EnsuresCurrent Program.Ensures perform
  refine Program.meets_request fun t₁ ht₁ r t₂ hhandle => ⟨hcurrent t₁ ht₁, ?_⟩
  intro answer hanswer t₃ ht₃ a ha
  subst hanswer ha
  exact hresult t₁ ht₁ a t₂ hhandle t₃ ht₃

/-- The current pair, once it is read, is pinned. -/
lemma currentEpoch_ensures {id : String} {t : Tables} (h : Claimed start id t) :
    EnsuresCurrent start currentEpoch (fun current => Pinned start id current) t := by
  have hsnapshot : EnsuresCurrent start snapshot
      (fun seen t => IsClaimed seen id ∧ EpochLog start t ∧ Overtakes seen t) t := by
    refine perform_ensures .snapshot (fun _ _ => trivial) fun t₁ ht₁ seen t₂ hstep t₃ ht₃ => ?_
    have hclaimed := h.stable ht₁
    rcases hstep with ⟨rfl, hseen⟩ | ⟨-, fault, hfault⟩
    · obtain rfl := Except.ok.inj hseen
      exact ⟨hclaimed.claimed, ht₃ hclaimed.log⟩
    · simp at hfault
  refine hsnapshot.bind fun seen t₁ ⟨hclaimed, hlog, hovertakes⟩ => ?_
  refine Program.ensures_lift fun current hcurrent t₂ ht₂ => ?_
  obtain ⟨hlog₂, hovertakes₂⟩ := ht₂ hlog
  obtain ⟨hclaimed₂, hactive⟩ := (hovertakes.trans hovertakes₂) id hclaimed
  refine ⟨hlog₂, hclaimed₂, fun ha => ?_⟩
  rw [currentEpochIn_congr (hactive ha).2]
  exact hcurrent

namespace PromotionService

variable (service : PromotionService) {entry : PublicationQueueEntry} {current : EpochPair}
  {t : Tables}

/-- An entry that moves on stays the entry of its contribution. -/
lemma advanceFrom_ensures (h : Pinned start entry.contributionId current t)
    (state target : PublicationQueueState) :
    EnsuresCurrent start (service.advanceFrom entry state target)
      (fun moved t => moved.contributionId = entry.contributionId ∧
        Pinned start entry.contributionId current t) t := by
  unfold advanceFrom
  split
  · refine perform_ensures (.advance entry.contributionId service.ownerId target)
      (fun _ _ => trivial) fun t₁ ht₁ moved t₂ hstep t₃ ht₃ => ?_
    have hpinned := h.interfere ht₁
    obtain ⟨hlog, hovertakes⟩ := hpinned.log.step hstep trivial
    refine ⟨?_, (hpinned.stable hovertakes hlog).interfere ht₃⟩
    rcases hstep with ⟨stamp, now, hstep⟩ | ⟨-, fault, hfault⟩
    · exact contributionId_of_advance hpinned.log.queue.ids_nodup hstep.eq_ok
    · simp at hfault
  · exact Program.ensures_pure fun t₁ ht₁ => ⟨rfl, h.interfere ht₁⟩

/-- A publication is made for the pair that was read. -/
lemma publish_ensures (h : Pinned start entry.contributionId current t) (runId : String)
    (payload : JsonObject) (module : ArtifactReference)
    (materialization : PromotionMaterialization) (evidence : PromotionEvidence) (name : String) :
    EnsuresCurrent start
      (service.publish entry runId payload current module materialization evidence name)
      (fun _ _ => True) t := by
  unfold publish
  refine Program.ensures_lift_bind fun _ _ => Program.ensures_lift_bind fun publication hp => ?_
  refine (ensures_of_quiet (preparePromotion_quiet ..) h).bind fun _ t h => ?_
  refine (ensures_of_quiet (active_quiet (activate_quiet _)) h).bind fun _ t h => ?_
  have hpublish : EnsuresCurrent start (publishPromotion entry.contributionId service.ownerId
      publication.declaration publication.delta) (fun _ _ => True) t := by
    refine perform_ensures (.publish entry.contributionId service.ownerId publication.declaration
      publication.delta) (fun t₁ ht₁ => ?_) fun _ _ _ _ _ _ _ => trivial
    exact ⟨_, _, _, _, _, publication, mapError_eq_ok.1 hp, rfl, (h.interfere ht₁).current_eq⟩
  exact hpublish.bind fun _ _ _ => Program.ensures_pure fun _ _ => trivial

lemma promoteSource_ensures (h : Pinned start entry.contributionId current t) (runId : String)
    (payload : JsonObject) :
    EnsuresCurrent start (service.promoteSource entry runId payload current) (fun _ _ => True)
      t := by
  unfold promoteSource
  refine Program.ensures_lift_bind fun _ _ => ?_
  refine (ensures_of_quiet (onFiles_quiet _) h).bind fun _ t h => ?_
  refine Program.ensures_lift_bind fun _ _ => Program.ensures_lift_bind fun _ _ => ?_
  refine Program.ensures_lift_bind fun _ _ => ?_
  refine (ensures_of_quiet (active_quiet (verify_quiet ..)) h).bind fun _ t h => ?_
  refine (ensures_of_quiet (recordVerification_quiet ..) h).bind fun _ t h => ?_
  split
  · exact ensures_true_of_quiet (service.failEntry_quiet ..)
  · refine (service.advanceFrom_ensures h _ _).bind fun verified t ⟨hverified, h⟩ => ?_
    refine (ensures_of_quiet (onFiles_quiet _) h).bind fun _ t h => ?_
    rw [← hverified] at h
    refine (service.advanceFrom_ensures h _ _).bind fun materialized t ⟨hmaterialized, h⟩ => ?_
    refine (ensures_of_quiet (active_quiet (materializeModule_quiet ..)) h).bind fun _ t h => ?_
    rw [← hmaterialized] at h
    exact service.publish_ensures h ..

lemma promote_ensures (h : Claimed start entry.contributionId t) :
    EnsuresCurrent start (service.promote entry) (fun _ _ => True) t := by
  unfold promote attempt
  refine Program.Ensures.tryCatch EpochInterference.refl ?_ (fun _ _ _ _ _ => trivial) ?_
  · refine EnsuresCurrent.bind (ensures_claimed_of_quiet (findContribution_quiet _) h)
      fun event t h => ?_
    refine (currentEpoch_ensures h).bind fun current t h => ?_
    refine Program.ensures_lift_bind fun runId _ => ?_
    refine (ensures_of_quiet (isStale_quiet ..) h).bind fun stale t h => ?_
    split
    · exact ensures_true_of_quiet (service.rebaseEntry_quiet ..)
    · exact service.promoteSource_ensures h ..
  · intro fault t
    refine ensures_true_of_quiet ?_
    refine .bind ?_ fun _ => service.failEntry_quiet ..
    exact (findContribution_quiet _).bind fun _ => Program.performs_pure _

end PromotionService

omit [CharacterDatabase] in
/-- A row that was written for an owner is claimed. -/
lemma isClaimed_of_updateRows {t t' : Tables} {row : PublicationQueueRow} {owner : String}
    {claimedAt : Datetime} {target : PublicationQueueState}
    (hfound : findRow t.publicationQueue row.contributionId = some row) (htarget : target ≠ .queued)
    (hqueue : t'.publicationQueue =
      updateRows t.publicationQueue row.contributionId owner claimedAt target) :
    IsClaimed t' row.contributionId := by
  obtain ⟨hrow, -⟩ := findRow_some hfound
  refine ⟨updatedRow row owner claimedAt target, ?_, rfl, htarget⟩
  rw [hqueue]
  exact mem_updateRows.2 ⟨row, hrow, by simp⟩

/-- What is left to do of an entry that was claimed or taken over. -/
lemma promoteEntry_ensures (service : PromotionService) {t : Tables}
    {entry : Option PublicationQueueEntry}
    (h : ∀ e, entry = some e → Claimed start e.contributionId t) :
    EnsuresCurrent start (service.promoteEntry entry) (fun _ _ => True) t := by
  cases entry with
  | none => exact Program.ensures_pure fun _ _ => trivial
  | some entry =>
    exact (service.promote_ensures (h entry rfl)).bind
      fun _ _ _ => Program.ensures_pure fun _ _ => trivial

/-- Every promotion and every recovery publishes for the current pair only. -/
lemma isPromotion.ensures {program : PromotionProgram (Option PromotionOutcome)}
    (h : isPromotion program) {t : Tables} (hlog : EpochLog start t) :
    EnsuresCurrent start program (fun _ _ => True) t := by
  obtain ⟨service, rfl | ⟨claimTimeout, rfl⟩⟩ := h
  · have hclaim : EnsuresCurrent start (claimNext service.ownerId)
        (fun entry t => ∀ e, entry = some e → Claimed start e.contributionId t) t := by
      refine perform_ensures (.claimNext service.ownerId) (fun _ _ => trivial) ?_
      intro t₁ ht₁ entry t₂ hstep t₃ ht₃ e he
      obtain ⟨hlog₁, -⟩ := ht₁ hlog
      obtain ⟨hlog₂, -⟩ := hlog₁.step hstep trivial
      refine Claimed.stable ⟨hlog₂, ?_⟩ ht₃
      rcases hstep with ⟨stamp, now, hstep⟩ | ⟨-, fault, hfault⟩
      · rcases claimNext_ok hlog₁.queue.ids_nodup hstep.eq_ok with ⟨-, hnone⟩ |
          ⟨row, e', entry', hentry, hid, -, -, -, -, hfound, -, -, hqueue⟩
        · simp [hnone] at he
        · obtain rfl : e = entry' := Option.some.inj (he.symm.trans hentry)
          rw [hid]
          exact isClaimed_of_updateRows hfound (by simp) hqueue
      · simp at hfault
    exact hclaim.bind fun entry t h => promoteEntry_ensures service h
  · have hrecover : EnsuresCurrent start (recoverExpired service.ownerId claimTimeout)
        (fun entry t => ∀ e, entry = some e → Claimed start e.contributionId t) t := by
      refine perform_ensures (.recoverExpired service.ownerId claimTimeout) (fun _ _ => trivial) ?_
      intro t₁ ht₁ entry t₂ hstep t₃ ht₃ e he
      obtain ⟨hlog₁, -⟩ := ht₁ hlog
      obtain ⟨hlog₂, -⟩ := hlog₁.step hstep trivial
      refine Claimed.stable ⟨hlog₂, ?_⟩ ht₃
      rcases hstep with ⟨stamp, now, hstep⟩ | ⟨-, fault, hfault⟩
      · obtain ⟨staleBefore, -, hrun⟩ := StateService.recoverExpiredPromotion_ok hstep.eq_ok
        rcases recoverExpiredPromotion_ok hlog₁.queue.ids_nodup hrun with ⟨-, hnone⟩ |
          ⟨row, e', entry', hentry, hid, -, -, -, -, hfound, -, hactive, hqueue⟩
        · simp [hnone] at he
        · obtain rfl : e = entry' := Option.some.inj (he.symm.trans hentry)
          have htarget : row.state ≠ .queued := by
            intro hqueued
            simp [hqueued, PublicationQueueState.isActive] at hactive
          rw [hid]
          exact isClaimed_of_updateRows hfound htarget hqueue
      · simp at hfault
    exact hrecover.bind fun entry t h => promoteEntry_ensures service h

/-! ## The chain -/

/-- What the other users of the store do: any operation that sets no epochs. -/
def otherEpochUse (t t' : Tables) : Prop :=
  ∃ op : StateOp, (∀ type ∈ op.eventTypes, type.setsEpochs = false) ∧ t' = op.exec t

/-- Promotions on a store that nothing else publishes to. -/
def epochSystem (store : Tables) : TransitionSystem PromotionPool (PoolAction ℕ) :=
  poolSystem handlePromotion isPromotion otherEpochUse (· = store)

/-- Other users alone lead to reachable states. -/
lemma epochSystem_reachable {store : Tables} {ops : List StateOp}
    (h : ∀ op ∈ ops, ∀ type ∈ op.eventTypes, type.setsEpochs = false) :
    (epochSystem store).Reachable ⟨runOps store ops, fun _ => none⟩ := by
  have hinitial : (epochSystem store).Reachable ⟨store, fun _ => none⟩ :=
    .of_initial ⟨rfl, fun _ => rfl⟩
  exact reachable_foldl_environment hinitial fun op hop t => ⟨op, h op hop, rfl⟩

/-- The log and the queue of every store that the service has made. -/
lemma wellFormed_runOps (ops : List StateOp) :
    WellFormedLog (runOps initialTables ops).toEventLog ∧
      QueueProtocol (runOps initialTables ops).publicationQueue := by
  induction ops using List.reverseRecOn with
  | nil => exact ⟨wellFormedLog_initial, queueProtocol_initial⟩
  | append_singleton ops op ih =>
    obtain ⟨hlog, hqueue⟩ := ih
    have happend : runOps initialTables (ops ++ [op]) = op.exec (runOps initialTables ops) := by
      simp [runOps]
    rw [happend, StateOp.exec]
    split
    · rename_i t' hrun
      obtain ⟨heffect, hcall⟩ := StateOp.run_ok hqueue.ids_nodup hrun
      obtain ⟨events, hevents, -⟩ := heffect.exists_run
      exact ⟨(rows_of_run hlog hevents).1, (hcall.callStep hqueue.ids_nodup).protocol hqueue⟩
    · exact ⟨hlog, hqueue⟩

/-- The invariant of every reachable state. -/
lemma epochLog_of_reachable {store : Tables} (hstore : EpochLog start store) {w : PromotionPool}
    (h : (epochSystem store).Reachable w) : EpochLog start w.state := by
  refine (pool_invariant (EpochInterference start) (fun effect t _ _ => effect.ForCurrent t)
    EpochInterference.refl EpochInterference.trans ?_ ?_ ?_ ?_ h).1
  · rintro t rfl
    exact hstore
  · intro program hprogram t hlog
    exact (hprogram.ensures hlog).meets
  · intro effect t r t' hlog hhandle hcurrent
    have hkeep := hlog.handle hhandle hcurrent
    exact ⟨hkeep.1, fun _ => hkeep⟩
  · rintro t t' hlog ⟨op, hop, rfl⟩
    have hkeep := hlog.exec hop
    exact ⟨hkeep.1, fun _ => hkeep⟩

/-- A project is initialized. -/
def sampleProject : List StateOp :=
  [.appendEvent (sampleStamp 'P') ⟨"ProjectInitialized", "cli", none, none,
    [("project_id", .str "project"), ("base_epoch", .str sampleHash),
     ("knowledge_epoch", .int 0)]⟩]

end Aizim.Knowledge
