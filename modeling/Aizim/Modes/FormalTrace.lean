import Aizim.Framework.JsonLines
import Aizim.State.Events

/-!
# The formal trace

A run is sealed by its formal trace: one record for each kind of step that an event of the log
stands for, each record with its place, the digests of the payload, and the digest of the record
before it.  `buildFormalTraceSources` makes the records, `formalTraceBytes` writes them one
canonical text a line, `readFormalTrace` reads such a file, and `replayFormalTrace` checks a list
of records against the digest of the file.

`FormalTraceRecord.toJson` prints a record and `canonical_toJson_injective` says that the print
determines it, so that two record lists with the same bytes are equal (`eq_of_formalTraceBytes`).
Reading, replaying and extending a trace are settled in `trace_tamper_evident`.
-/

namespace Aizim.Modes

open JsonValue JsonObject State

/-! ## Records -/

/-- `_ZERO_HASH` -/
def zeroHash : String := String.ofList (List.replicate 64 '0')

/-- `_EVENT_KINDS` -/
def eventKindTable : List (String × List String) :=
  [("RunCreated", ["run"]),
   ("ScheduleProposed", ["directive"]),
   ("WorkerRegistered", ["worker"]),
   ("WorkerStarted", ["worker"]),
   ("WorkerStopped", ["worker"]),
   ("WorkerCrashed", ["worker"]),
   ("LeaseGranted", ["lease"]),
   ("LeaseReleased", ["lease"]),
   ("DocumentEdited", ["accepted_document_action"]),
   ("ContributionSubmitted", ["contribution"]),
   ("PromotionVerificationRecorded", ["diagnostics", "build", "source_scan", "axiom_verification"]),
   ("PromotionPrepared", ["promotion"]),
   ("DeclarationPublished", ["publication"]),
   ("KnowledgeDeltaPublished", ["epoch", "delta"]),
   ("KnowledgeDeltaAcknowledged", ["delta_consumption"]),
   ("AlignmentReviewed", ["alignment_review"]),
   ("RunCompleted", ["terminal"]),
   ("RunAborted", ["terminal"]),
   ("FormalTraceSealed", ["trace_seal"])]

/-- What a trace is built from: the sequence, the id, the type and the payload of an event. -/
structure TraceSource where
  sequence : Int
  eventId : String
  eventType : String
  payload : JsonObject

/-- A record of the trace. -/
@[ext]
structure FormalTraceRecord where
  ordinal : Int
  sequence : Int
  kind : String
  sourceEventId : String
  sourceEventType : String
  payloadHash : String
  contentHashes : List String
  previousHash : String
  recordHash : String
  deriving DecidableEq

/-- The exceptions of this module. -/
inductive TraceError
  /-- `INVALID_FORMAL_TRACE_ACTION` -/
  | invalidFormalTraceAction
  /-- `INVALID_FORMAL_TRACE` -/
  | invalidFormalTrace
  /-- The line is not a JSON text. -/
  | invalidJson
  deriving DecidableEq

namespace FormalTraceRecord

/-- The fields that the digest of a record covers. -/
def unsigned (r : FormalTraceRecord) : JsonObject :=
  [("ordinal", .int r.ordinal), ("sequence", .int r.sequence), ("kind", .str r.kind),
   ("source_event_id", .str r.sourceEventId), ("source_event_type", .str r.sourceEventType),
   ("payload_hash", .str r.payloadHash), ("content_hashes", .list (r.contentHashes.map .str)),
   ("previous_hash", .str r.previousHash)]

/-- A record as the serializer sees it. -/
def toJson (r : FormalTraceRecord) : JsonValue :=
  .dict (r.unsigned ++ [("record_hash", .str r.recordHash)])

/-- The record with its digest (`_record`). -/
def sealed (r : FormalTraceRecord) : FormalTraceRecord :=
  { r with recordHash := sha256Json (.dict r.unsigned) }

end FormalTraceRecord

/-! ## Building -/

/-- `_event_kinds` -/
def eventKinds (eventType : String) (payload : JsonObject) : Except TraceError (List String) :=
  if eventType ≠ "FormalActionRecorded" then
    .ok ((getEntry eventType eventKindTable).getD ["event"])
  else
    match payload.get? "action_kind" with
    | some (.str action) =>
      if action ∈ ["diagnostics", "goal", "trial"] then .ok [action]
      else .error .invalidFormalTraceAction
    | _ => .error .invalidFormalTraceAction

/-- The digests that a payload names under a key ending in `_hash`. -/
def namedHashes (payload : JsonObject) : List String :=
  payload.filterMap fun (key, value) =>
    match value with
    | .str digest => if "_hash".toList.isSuffixOf key.toList && isSha256 digest then some digest
      else none
    | _ => none

/-- `tuple(sorted(set(texts)))` -/
def sortedTexts (texts : List String) : List String :=
  (texts.foldr (fun t es => insertEntry t () es) []).map Prod.fst

/-- `_content_hashes` -/
def contentHashes (payload : JsonObject) (payloadHash : String) : List String :=
  sortedTexts (payloadHash :: namedHashes payload)

/-- The records built so far, and the digest that the next one names. -/
structure TraceState where
  records : List FormalTraceRecord
  previousHash : String

/-- One turn of the inner loop: the record of one kind. -/
def appendKind (source : TraceSource) (payloadHash : String) (hashes : List String)
    (s : TraceState) (kind : String) : TraceState :=
  let record := FormalTraceRecord.sealed
    { ordinal := s.records.length
      sequence := source.sequence
      kind
      sourceEventId := source.eventId
      sourceEventType := source.eventType
      payloadHash
      contentHashes := hashes
      previousHash := s.previousHash
      recordHash := "" }
  { records := s.records ++ [record]
    previousHash := record.recordHash }

/-- One turn of the outer loop: the records of one event. -/
def appendSource (s : TraceState) (source : TraceSource) : Except TraceError TraceState := do
  let payloadHash := sha256Json (.dict source.payload)
  let hashes := contentHashes source.payload payloadHash
  let kinds ← eventKinds source.eventType source.payload
  pure (kinds.foldl (appendKind source payloadHash hashes) s)

/-- `build_formal_trace_sources` -/
def buildFormalTraceSources (events : List TraceSource) :
    Except TraceError (List FormalTraceRecord) := do
  let s ← events.foldlM appendSource ⟨[], zeroHash⟩
  pure s.records

/-- `build_formal_trace` -/
def buildFormalTrace [CharacterDatabase] (events : List EventRecord) :
    Except TraceError (List FormalTraceRecord) :=
  buildFormalTraceSources <| events.map fun e =>
    { sequence := e.sequence
      eventId := e.envelope.eventId
      eventType := e.envelope.eventType.text
      payload := e.envelope.payload }

/-! ## Writing, reading and replaying -/

/-- `formal_trace_bytes` -/
def formalTraceBytes (records : List FormalTraceRecord) : Bytes :=
  jsonLines (records.map FormalTraceRecord.toJson)

/-- The fields of a printed record. -/
def recordFields : List String :=
  ["ordinal", "sequence", "kind", "source_event_id", "source_event_type", "payload_hash",
   "content_hashes", "previous_hash", "record_hash"]

/-- `_required_text` -/
def requiredText (raw : JsonObject) (field : String) : Except TraceError String :=
  match raw.get? field with
  | some (.str value) => .ok value
  | _ => .error .invalidFormalTrace

/-- An integer field. -/
def requiredInt (raw : JsonObject) (field : String) : Except TraceError Int :=
  match raw.get? field with
  | some (.int value) => .ok value
  | _ => .error .invalidFormalTrace

/-- An array field. -/
def requiredItems (raw : JsonObject) (field : String) : Except TraceError (List JsonValue) :=
  match raw.get? field with
  | some (.list items) => .ok items
  | _ => .error .invalidFormalTrace

/-- The items of an array, each a digest. -/
def requiredHashes : List JsonValue → Except TraceError (List String)
  | [] => .ok []
  | .str value :: values =>
    if isSha256 value then (value :: ·) <$> requiredHashes values else .error .invalidFormalTrace
  | _ :: _ => .error .invalidFormalTrace

/-- `_parsed_record` -/
def parsedRecord (raw : JsonObject) : Except TraceError FormalTraceRecord := do
  require (raw.hasKeys recordFields) .invalidFormalTrace
  let ordinal ← requiredInt raw "ordinal"
  let sequence ← requiredInt raw "sequence"
  let hashes ← requiredItems raw "content_hashes"
  let kind ← requiredText raw "kind"
  let sourceEventId ← requiredText raw "source_event_id"
  let sourceEventType ← requiredText raw "source_event_type"
  let payloadHash ← requiredText raw "payload_hash"
  let previousHash ← requiredText raw "previous_hash"
  let recordHash ← requiredText raw "record_hash"
  let contentHashes ← requiredHashes hashes
  require (contentHashes ≠ []) .invalidFormalTrace
  pure { ordinal, sequence, kind, sourceEventId, sourceEventType, payloadHash, contentHashes,
         previousHash, recordHash }

/-- One line of `read_formal_trace`. -/
def readLine (line : Bytes) : Except TraceError FormalTraceRecord :=
  match loadsBytes line with
  | none => .error .invalidJson
  | some (.dict raw) => parsedRecord raw
  | some _ => .error .invalidFormalTrace

/-- `read_formal_trace` -/
def readFormalTrace (body : Bytes) : Except TraceError (List FormalTraceRecord) :=
  ((splitLines body).filter fun line => !line.isEmpty).mapM readLine

/-- The loop of `replay_formal_trace`, from an ordinal and the digest of the record before it. -/
def replayFrom (ordinal : Int) (previousHash : String) : List FormalTraceRecord → Bool
  | [] => true
  | record :: records =>
    record.ordinal == ordinal && record.previousHash == previousHash &&
      record.sealed.recordHash == record.recordHash &&
      replayFrom (ordinal + 1) record.recordHash records

/-- The digest of a trace file. -/
def traceDigest (records : List FormalTraceRecord) : String :=
  Sha256.hexdigest (formalTraceBytes records)

/-- `replay_formal_trace` -/
def replayFormalTrace (records : List FormalTraceRecord) (expectedDigest : String) : Bool :=
  isSha256 expectedDigest && replayFrom 0 zeroHash records && traceDigest records == expectedDigest


/-! ## The print of a record -/

namespace FormalTraceRecord

lemma printableItems_map_str (texts : List String) :
    printableItems (texts.map JsonValue.str) = true := by
  induction texts with
  | nil => rfl
  | cons t texts ih => exact ih

lemma printable_toJson (r : FormalTraceRecord) : printable r.toJson = true := by
  simp [toJson, unsigned, printable, printableEntries, printableItems_map_str]

/-- Canonicalisation leaves texts alone. -/
lemma map_canonical_str (texts : List String) :
    texts.map (canonical ∘ JsonValue.str) = texts.map JsonValue.str := rfl

/-- The entries of a printed record. -/
def entries (r : FormalTraceRecord) : JsonObject := r.unsigned ++ [("record_hash", .str r.recordHash)]

lemma canonical_toJson (r : FormalTraceRecord) :
    r.toJson.canonical = .dict (canonicalEntries r.entries) := rfl

/-- Reading the print of a record gives the record, if its list of digests is one. -/
lemma parsedRecord_entries {r : FormalTraceRecord} (hne : r.contentHashes ≠ [])
    (hall : ∀ t ∈ r.contentHashes, isSha256 t = true) :
    parsedRecord (canonicalEntries r.entries) = .ok r := by
  have hhashes : ∀ {texts : List String}, (∀ t ∈ texts, isSha256 t = true) →
      requiredHashes (texts.map JsonValue.str) = .ok texts := by
    intro texts htexts
    induction texts with
    | nil => rfl
    | cons t texts ih =>
      have ht := htexts t (List.mem_cons_self ..)
      have hrest := ih fun u hu => htexts u (List.mem_cons_of_mem _ hu)
      simp [requiredHashes, ht, hrest]
  have hkeys : r.entries.hasKeys recordFields = true := by
    simp [entries, unsigned, hasKeys, recordFields]
  simp only [parsedRecord, bind_eq_ok, require_eq_ok, pure_eq_ok, hasKeys_canonicalEntries]
  refine ⟨⟨⟩, hkeys, r.ordinal, ?_, r.sequence, ?_, r.contentHashes.map .str, ?_, r.kind, ?_,
    r.sourceEventId, ?_, r.sourceEventType, ?_, r.payloadHash, ?_, r.previousHash, ?_,
    r.recordHash, ?_, r.contentHashes, hhashes hall, ⟨⟩, hne, rfl⟩
  all_goals simp [requiredInt, requiredText, requiredItems, entries, unsigned, map_canonical_str]

/-- The print of a record determines the record. -/
lemma canonical_toJson_injective {r s : FormalTraceRecord}
    (h : r.toJson.canonical = s.toJson.canonical) : r = s := by
  have hentries : canonicalEntries r.entries = canonicalEntries s.entries :=
    JsonValue.dict.inj h
  have hget := fun k => getEntry_canonical_of_congr hentries k
  have hordinal := hget "ordinal"
  have hsequence := hget "sequence"
  have hkind := hget "kind"
  have hid := hget "source_event_id"
  have htype := hget "source_event_type"
  have hpayload := hget "payload_hash"
  have hhashes := hget "content_hashes"
  have hprevious := hget "previous_hash"
  have hrecord := hget "record_hash"
  have hinjective : Function.Injective JsonValue.str := fun _ _ => JsonValue.str.inj
  simp [entries, unsigned] at hordinal hsequence hkind hid htype hpayload hhashes hprevious hrecord
  have hlist := List.map_injective_iff.2 hinjective hhashes
  exact FormalTraceRecord.ext hordinal hsequence hkind hid htype hpayload hlist hprevious hrecord

end FormalTraceRecord

/-- Two record lists with the same bytes are equal. -/
lemma eq_of_formalTraceBytes {xs ys : List FormalTraceRecord}
    (h : formalTraceBytes xs = formalTraceBytes ys) : xs = ys := by
  have hprintable : ∀ records : List FormalTraceRecord,
      ∀ v ∈ records.map FormalTraceRecord.toJson, printable v = true := by
    intro records v hv
    obtain ⟨r, -, rfl⟩ := List.mem_map.1 hv
    exact r.printable_toJson
  have hcanonical := canonical_of_jsonLines (hprintable xs) (hprintable ys) h
  rw [List.map_map, List.map_map] at hcanonical
  exact List.map_injective_iff.2 (fun r s hrs => FormalTraceRecord.canonical_toJson_injective hrs)
    hcanonical


/-! ## Chains -/

namespace FormalTraceRecord

/-- The digest lists are ones that the reader accepts. -/
def readable (r : FormalTraceRecord) : Prop :=
  r.contentHashes ≠ [] ∧ ∀ t ∈ r.contentHashes, isSha256 t = true

end FormalTraceRecord

lemma replayFrom_append (xs ys : List FormalTraceRecord) (ordinal : Int) (previousHash : String) :
    replayFrom ordinal previousHash (xs ++ ys) =
      (replayFrom ordinal previousHash xs &&
        replayFrom (ordinal + xs.length) ((xs.getLast?.map (·.recordHash)).getD previousHash)
          ys) := by
  induction xs generalizing ordinal previousHash with
  | nil => simp [replayFrom]
  | cons x xs ih =>
    have hlast : ((x :: xs).getLast?.map (·.recordHash)).getD previousHash =
        (xs.getLast?.map (·.recordHash)).getD x.recordHash := by
      rw [List.getLast?_cons]
      cases xs.getLast? <;> rfl
    have hordinal : ordinal + ((x :: xs).length : Int) = ordinal + 1 + (xs.length : Int) := by
      rw [List.length_cons]
      omega
    rw [List.cons_append, replayFrom, replayFrom, ih, hlast, hordinal]
    simp only [Bool.and_assoc]

/-- What every state of the builder satisfies. -/
structure Chained (s : TraceState) : Prop where
  replays : replayFrom 0 zeroHash s.records = true
  previous : (s.records.getLast?.map (·.recordHash)).getD zeroHash = s.previousHash
  readable : ∀ r ∈ s.records, r.readable

lemma mem_sortedTexts {t : String} {texts : List String} : t ∈ sortedTexts texts ↔ t ∈ texts := by
  have hkey : ∀ es : List (String × Unit), t ∈ es.map Prod.fst ↔ getEntry t es ≠ none := by
    intro es
    rw [Ne, getEntry_eq_none_iff, not_not]
  rw [sortedTexts, hkey]
  induction texts with
  | nil => simp
  | cons u texts ih =>
    by_cases h : t = u <;> simp [h, ih]

lemma readable_contentHashes (payload : JsonObject) (v : JsonValue) :
    contentHashes payload v.sha256Json ≠ [] ∧
      ∀ t ∈ contentHashes payload v.sha256Json, isSha256 t = true := by
  constructor
  · intro h
    have hmem : v.sha256Json ∈ contentHashes payload v.sha256Json :=
      mem_sortedTexts.2 (List.mem_cons_self ..)
    rw [h] at hmem
    simp at hmem
  · intro t ht
    rcases List.mem_cons.1 (mem_sortedTexts.1 ht) with rfl | ht
    · exact isSha256_sha256Json v
    · obtain ⟨⟨key, value⟩, -, hvalue⟩ := List.mem_filterMap.1 ht
      cases value with
      | str digest =>
        simp only [Option.ite_none_right_eq_some, Option.some.injEq, Bool.and_eq_true] at hvalue
        obtain ⟨⟨-, hdigest⟩, rfl⟩ := hvalue
        exact hdigest
      | _ => simp at hvalue

/-- One more record keeps the chain. -/
lemma Chained.appendKind {s : TraceState} (h : Chained s) (source : TraceSource)
    {payloadHash : String} {hashes : List String} (hne : hashes ≠ [])
    (hall : ∀ t ∈ hashes, isSha256 t = true) (kind : String) :
    Chained (appendKind source payloadHash hashes s kind) where
  replays := by
    rw [Modes.appendKind, replayFrom_append, h.replays, h.previous]
    simp [replayFrom, FormalTraceRecord.sealed, FormalTraceRecord.unsigned]
  previous := by simp [Modes.appendKind]
  readable := by
    intro r hr
    rw [Modes.appendKind, List.mem_append, List.mem_singleton] at hr
    rcases hr with hr | rfl
    · exact h.readable r hr
    · exact ⟨hne, hall⟩

/-- The records of one event keep the chain and extend the records before. -/
lemma Chained.appendSource {s t : TraceState} {source : TraceSource} (h : Chained s)
    (ht : appendSource s source = .ok t) : Chained t ∧ s.records <+: t.records := by
  simp only [Modes.appendSource, bind_eq_ok, pure_eq_ok] at ht
  obtain ⟨kinds, -, rfl⟩ := ht
  obtain ⟨hne, hall⟩ := readable_contentHashes source.payload (.dict source.payload)
  generalize contentHashes source.payload (sha256Json (.dict source.payload)) = hashes at hne hall ⊢
  generalize sha256Json (.dict source.payload) = payloadHash
  induction kinds generalizing s with
  | nil => exact ⟨h, List.prefix_refl _⟩
  | cons kind kinds ih =>
    obtain ⟨hchained, hprefix⟩ := ih (h.appendKind source hne hall kind)
    exact ⟨hchained, (List.prefix_append _ _).trans hprefix⟩

/-- A whole run of the builder keeps the chain and extends the records before. -/
lemma Chained.foldlM {s t : TraceState} {events : List TraceSource} (h : Chained s)
    (ht : events.foldlM Modes.appendSource s = .ok t) : Chained t ∧ s.records <+: t.records := by
  induction events generalizing s with
  | nil =>
    rw [List.foldlM_nil, pure_eq_ok] at ht
    subst ht
    exact ⟨h, List.prefix_refl _⟩
  | cons source events ih =>
    rw [List.foldlM_cons, bind_eq_ok] at ht
    obtain ⟨u, hu, ht⟩ := ht
    obtain ⟨hchained, hprefix⟩ := h.appendSource hu
    obtain ⟨hchained', hprefix'⟩ := ih hchained ht
    exact ⟨hchained', hprefix.trans hprefix'⟩

lemma chained_nil : Chained ⟨[], zeroHash⟩ where
  replays := rfl
  previous := rfl
  readable := by simp

lemma chained_of_build {events : List TraceSource} {records : List FormalTraceRecord}
    (h : buildFormalTraceSources events = .ok records) :
    ∃ s, Chained s ∧ events.foldlM appendSource ⟨[], zeroHash⟩ = .ok s ∧ s.records = records := by
  simp only [buildFormalTraceSources, bind_eq_ok, pure_eq_ok] at h
  obtain ⟨s, hs, rfl⟩ := h
  exact ⟨s, (chained_nil.foldlM hs).1, hs, rfl⟩

/-- The trace of a prefix of the events is a prefix of the trace. -/
lemma prefix_of_build {events earlier : List TraceSource} {records : List FormalTraceRecord}
    (h : buildFormalTraceSources events = .ok records) (hearlier : earlier <+: events) :
    ∃ before, buildFormalTraceSources earlier = .ok before ∧ before <+: records := by
  obtain ⟨later, rfl⟩ := hearlier
  obtain ⟨s, -, hs, rfl⟩ := chained_of_build h
  rw [List.foldlM_append, bind_eq_ok] at hs
  obtain ⟨t, ht, hs⟩ := hs
  refine ⟨t.records, ?_, ((chained_nil.foldlM ht).1.foldlM hs).2⟩
  simp only [buildFormalTraceSources, bind_eq_ok, pure_eq_ok]
  exact ⟨t, ht, rfl⟩

/-- A file of readable records is read back. -/
lemma readFormalTrace_formalTraceBytes {records : List FormalTraceRecord}
    (h : ∀ r ∈ records, r.readable) :
    readFormalTrace (formalTraceBytes records) = .ok records := by
  have hprintable : ∀ v ∈ records.map FormalTraceRecord.toJson, printable v = true := by
    intro v hv
    obtain ⟨r, -, rfl⟩ := List.mem_map.1 hv
    exact r.printable_toJson
  have hnonempty : ∀ line ∈ (records.map FormalTraceRecord.toJson).map fun v =>
      encode v.canonicalJson, (!line.isEmpty) = true := by
    intro line hline
    obtain ⟨v, hv, rfl⟩ := List.mem_map.1 hline
    have hread := loadsBytes_encode (hprintable v hv)
    cases hbytes : encode v.canonicalJson with
    | nil =>
      rw [hbytes, loadsBytes_nil] at hread
      simp at hread
    | cons b bs => rfl
  have hread : ∀ r ∈ records, readLine (encode r.toJson.canonicalJson) = .ok r := by
    intro r hr
    have hloads := loadsBytes_encode r.printable_toJson
    rw [r.canonical_toJson] at hloads
    rw [readLine, hloads]
    exact FormalTraceRecord.parsedRecord_entries (h r hr).1 (h r hr).2
  rw [readFormalTrace, formalTraceBytes, splitLines_jsonLines hprintable,
    List.filter_eq_self.2 hnonempty, List.map_map]
  simpa only [Function.comp_def] using mapM_map_eq_ok hread

/-- The replay of a chain accepts exactly the digest of its file. -/
lemma replayFormalTrace_iff {records : List FormalTraceRecord}
    (h : replayFrom 0 zeroHash records = true) (digest : String) :
    replayFormalTrace records digest = true ↔ digest = traceDigest records := by
  rw [replayFormalTrace, h, Bool.and_true, Bool.and_eq_true, beq_iff_eq]
  constructor
  · rintro ⟨-, rfl⟩
    rfl
  · rintro rfl
    exact ⟨isSha256_hexdigest _, rfl⟩


/-- **Round trip and tamper evidence.** A trace is read back from its bytes and replays to the
digest of these bytes and to no other; the trace of any prefix of the events is a prefix of it; and
a list of records that is not the built one is refused under the kept digest, unless its bytes and
the built ones are two byte strings with the same digest. -/
theorem trace_tamper_evident {events : List TraceSource} {records : List FormalTraceRecord}
    (h : buildFormalTraceSources events = .ok records) :
    readFormalTrace (formalTraceBytes records) = .ok records ∧
      (∀ digest, replayFormalTrace records digest = true ↔ digest = traceDigest records) ∧
      (∀ earlier, earlier <+: events → ∃ before,
        buildFormalTraceSources earlier = .ok before ∧ before <+: records) ∧
      ∀ altered : List FormalTraceRecord,
        (traceDigest altered = traceDigest records →
          formalTraceBytes altered = formalTraceBytes records) →
        altered ≠ records → replayFormalTrace altered (traceDigest records) = false := by
  obtain ⟨s, hs, -, rfl⟩ := chained_of_build h
  refine ⟨readFormalTrace_formalTraceBytes hs.readable, replayFormalTrace_iff hs.replays,
    fun earlier hearlier => prefix_of_build h hearlier, ?_⟩
  intro altered hinjective hne
  rw [Bool.eq_false_iff]
  intro hreplay
  rw [replayFormalTrace, Bool.and_eq_true, beq_iff_eq] at hreplay
  exact hne (eq_of_formalTraceBytes (hinjective hreplay.2))

/-- An event of a started worker. -/
def sampleSource : TraceSource where
  sequence := 3
  eventId := "01ARZ3NDEKTSV4RRFFQ69G5FAV"
  eventType := "WorkerStarted"
  payload := [("worker_id", .str "w")]

/-- The record of its trace. -/
def sampleRecord : FormalTraceRecord :=
  let payloadHash := sha256Json (.dict sampleSource.payload)
  FormalTraceRecord.sealed
    ⟨0, 3, "worker", "01ARZ3NDEKTSV4RRFFQ69G5FAV", "WorkerStarted", payloadHash,
      contentHashes sampleSource.payload payloadHash, zeroHash, ""⟩

/-- A record of no event. -/
def forgedRecord : FormalTraceRecord := ⟨0, 0, "", "", "", "", [], "", ""⟩

lemma traceDigest_forgedRecord : traceDigest [] ≠ traceDigest [forgedRecord] := by
  have hbytes : formalTraceBytes [forgedRecord] =
      forgedRecord.toJson.canonical.dumps.flatMap utf8Char ++ [10] := by
    simp [formalTraceBytes, jsonLines, canonicalJson, encode]
  rw [traceDigest, traceDigest, hbytes]
  decide +kernel

theorem trace_tamper_evident_sample :
    readFormalTrace (formalTraceBytes [sampleRecord]) = .ok [sampleRecord] ∧
      replayFormalTrace [sampleRecord] (traceDigest [sampleRecord]) = true ∧
      replayFormalTrace [forgedRecord] (traceDigest []) = false := by
  have hbuild : buildFormalTraceSources [sampleSource] = .ok [sampleRecord] := rfl
  obtain ⟨hread, hreplay, -, -⟩ := trace_tamper_evident hbuild
  have hempty : buildFormalTraceSources [] = .ok [] := rfl
  obtain ⟨-, -, -, htamper⟩ := trace_tamper_evident hempty
  exact ⟨hread, (hreplay _).2 rfl, htamper [forgedRecord]
    (fun h => absurd h.symm traceDigest_forgedRecord) (by simp)⟩

end Aizim.Modes
