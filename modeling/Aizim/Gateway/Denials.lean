import Mathlib.Data.List.Infix
import Aizim.Framework.DatetimeOrder
import Aizim.Framework.Hex
import Aizim.Gateway.Authorization
import Aizim.Gateway.TransportFrames

/-!
# Denials

A call that the gateway refuses is an event in the log, `CapabilityDenied`, with an entry in the
projection of denials under the id of the request.  Everything a caller controls passes a check on
its way there: a role and an operation must be known, and an identifier must not contain 32
consecutive characters that a token could have.  Otherwise `<redacted>` is written in its place.

`denial_hides_token` is what the checks are for: whatever a session and a call hold, no field of
the event and no part of the failure contains the token.

The check of identifiers is applied to run ids and request ids too, and these are what denials are
told apart by.  `denials_separate_iff` says for which ids that works.  The ids that the program
makes for requests, controller executions and research runs are all redacted
(`not_kept_hostRequestId`, `not_kept_executionRunId`, `not_kept_researchRunId`).
-/

namespace Aizim.Gateway

open JsonValue JsonObject Domain State

variable [CharacterDatabase] {Reading : Type} [MonotonicClock Reading]

/-! ## The denial of a call -/

/-- `_PUBLIC_DENIAL` -/
def publicDenial : String := "operation is not allowed for this worker"

/-- `_deny`: the store with the denial recorded, and the failure that is returned. -/
def deny (t : Tables) (stamp : Stamp) (q : GatewayRequest Reading) (reason : String)
    (persistedRun : Option String) : Except StoreError (Tables × GatewayError) := do
  let (t, record) ← appendEvent t stamp (denial q reason persistedRun)
  pure (t, ⟨"CAPABILITY_DENIED", publicDenial, some record.envelope.eventId⟩)

/-- The reasons of the denials before the token is found. -/
def earlyReasons : List String := ["REQUEST_RATE_EXCEEDED", "MISSING_TOKEN", "UNKNOWN_TOKEN"]

/-- The reasons of the denials after the token is found. -/
def lateReasons : List String :=
  ["RUN_BUDGET_EXHAUSTED", "TOKEN_EXPIRED", "TOKEN_REVOKED", "RUN_MISMATCH", "WORKER_MISMATCH",
   "ROLE_MISMATCH", "LEASE_MISMATCH", "UNADVERTISED_OPERATION", "OPERATION_NOT_MINTED",
   "TARGET_UNREGISTERED"]

/-- The session presents the token of a record. -/
def TokenFound (t : Tables) (session : CapabilitySession) (record : CapabilityRecord) : Prop :=
  ∃ token, session.token = some token ∧ record.tokenHash = sha256Text token ∧
    capabilityRecord t (sha256Text token) = .ok (some record)

omit [CharacterDatabase] [MonotonicClock Reading] in
lemma bindingDenial_mem {record : CapabilityRecord} {session : CapabilitySession}
    {reason : String} (h : bindingDenial record session = some reason) : reason ∈ lateReasons := by
  unfold bindingDenial at h
  split_ifs at h <;> (obtain rfl := Option.some.inj h; decide)

omit [CharacterDatabase] [MonotonicClock Reading] in
lemma raises_authorize (targets : List GatewayTool) (record : CapabilityRecord)
    (q : GatewayRequest Reading) : Raises lateReasons (authorize targets record q) := by
  unfold authorize
  refine (raises_require (by decide)).bind fun _ _ => (raises_require (by decide)).bind fun _ _ => ?_
  split
  · rename_i reason hbinding
    exact raises_throw (bindingDenial_mem hbinding)
  · refine (raises_orThrow fun _ => by decide).bind fun role _ =>
      (raises_orThrow fun _ => by decide).bind fun operation _ => ?_
    exact (raises_require (by decide)).bind fun _ _ => (raises_require (by decide)).bind fun _ _ =>
      (raises_require (by decide)).bind fun _ _ => raises_pure _

omit [CharacterDatabase] in
/-- A call is denied before its token is found, or under the run of the token's record. -/
lemma denied_cases {g : CapabilityGateway Reading} {t : Tables} {q : GatewayRequest Reading}
    {reason : String} {persistedRun : Option String}
    (h : (g.decide t q).2 = .ok (.denied reason persistedRun)) :
    (reason ∈ earlyReasons ∧ persistedRun = none) ∨
      (reason ∈ lateReasons ∧ ∃ record, TokenFound t q.session record ∧
        persistedRun = some record.runId) := by
  have hearly : ∀ r ∈ earlyReasons,
      (Except.ok (.denied r none) : Except StoreError GatewayDecision) =
        .ok (.denied reason persistedRun) → reason ∈ earlyReasons ∧ persistedRun = none := by
    rintro r hr heq
    cases heq
    exact ⟨hr, rfl⟩
  unfold CapabilityGateway.decide at h
  simp only at h
  split at h
  · exact .inl (hearly _ (by decide) h)
  split at h
  · exact .inl (hearly _ (by decide) h)
  rename_i token htoken
  split at h
  · exact .inl (hearly _ (by decide) h)
  split at h
  · cases h
  · exact .inl (hearly _ (by decide) h)
  rename_i record hrecord
  split at h
  · exact .inl (hearly _ (by decide) h)
  rename_i hhash
  have hfound : TokenFound t q.session record := ⟨token, htoken, not_not.1 hhash, hrecord⟩
  split at h
  · cases h
    exact .inr ⟨by decide, record, hfound, rfl⟩
  · split at h
    · cases h
    · rename_i reason' hauthorize
      cases h
      exact .inr ⟨raises_authorize _ _ _ _ hauthorize, record, hfound, rfl⟩


/-! ## Tokens in texts -/

/-- A token as `token_urlsafe(32)` makes it: 32 characters or more, all safe in a URL. -/
structure SessionToken where
  text : String
  length_ge : 32 ≤ text.toList.length
  chars : text.toList.all isTokenChar = true

/-- The text does not contain the token. -/
def SessionToken.HiddenIn (token : SessionToken) (text : String) : Prop :=
  ¬ token.text.toList <:+: text.toList

omit [CharacterDatabase] in
/-- A run of characters is found when enough were read before and after. -/
lemma hasRunOf_append {p : Char → Bool} {n : ℕ} {run : List Char} (hrun : run.all p = true)
    (rest : List Char) (read : ℕ) (h : n ≤ read + run.length) :
    hasRunOf p n read (run ++ rest) = true := by
  induction run generalizing read with
  | nil =>
    have hread : n ≤ read := by simpa using h
    cases rest with
    | nil => simp [hasRunOf, hread]
    | cons c cs => simp [hasRunOf, hread]
  | cons c run ih =>
    simp only [List.all_cons, Bool.and_eq_true] at hrun
    have hlength : n ≤ read + 1 + run.length := by
      simp only [List.length_cons] at h
      omega
    simp [hasRunOf, hrun.1, ih hrun.2 (read + 1) hlength]

omit [CharacterDatabase] in
/-- A run of characters is found wherever it stands. -/
lemma hasRunOf_of_infix {p : Char → Bool} {n : ℕ} {run cs : List Char} (hrun : run.all p = true)
    (hlength : n ≤ run.length) (h : run <:+: cs) (read : ℕ) : hasRunOf p n read cs = true := by
  obtain ⟨before, after, rfl⟩ := h
  rw [List.append_assoc]
  induction before generalizing read with
  | nil => exact hasRunOf_append hrun after read (by omega)
  | cons c before ih =>
    rw [List.cons_append, hasRunOf, ih]
    simp

omit [CharacterDatabase] in
/-- A text that is shorter than every token does not contain one. -/
lemma SessionToken.hiddenIn_of_length (token : SessionToken) {text : String}
    (h : text.toList.length < 32) : token.HiddenIn text := by
  intro hinfix
  have hle : token.text.toList.length ≤ text.toList.length := hinfix.length_le
  have hge := token.length_ge
  omega

omit [CharacterDatabase] in
/-- A text without a run of 32 characters of tokens does not contain one. -/
lemma SessionToken.hiddenIn_of_no_run (token : SessionToken) {text : String}
    (h : hasRunOf isTokenChar 32 0 text.toList = false) : token.HiddenIn text := by
  intro hinfix
  have hrun : hasRunOf isTokenChar 32 0 text.toList = true :=
    hasRunOf_of_infix token.chars token.length_ge hinfix 0
  rw [h] at hrun
  cases hrun

omit [CharacterDatabase] in
/-- What `_safe_identifier` returns contains no token. -/
lemma SessionToken.hiddenIn_safeIdentifier (token : SessionToken) (value : String) :
    token.HiddenIn (safeIdentifier value) := by
  unfold safeIdentifier
  split
  · rename_i hsafe
    simp only [Bool.and_eq_true, Bool.not_eq_true'] at hsafe
    exact token.hiddenIn_of_no_run hsafe.2
  · exact token.hiddenIn_of_length (by decide)

omit [CharacterDatabase] in
lemma SessionToken.hiddenIn_safeRole (token : SessionToken) (value : String) :
    token.HiddenIn (safeRole value) := by
  unfold safeRole
  cases AgentRole.ofText? value with
  | none => exact token.hiddenIn_of_length (by decide)
  | some role =>
    apply token.hiddenIn_of_length
    cases role <;> decide

omit [CharacterDatabase] in
lemma SessionToken.hiddenIn_safeOperation (token : SessionToken) (operation : RequestedOperation) :
    token.HiddenIn (safeOperation operation) := by
  unfold safeOperation
  cases operation.tool? with
  | none => exact token.hiddenIn_of_length (by decide)
  | some tool =>
    apply token.hiddenIn_of_length
    cases tool <;> decide

/-! ## Texts in an event -/

mutual

/-- The texts in a JSON value, with its keys, and with its numbers as they are printed. -/
def jsonTexts : JsonValue → List String
  | .null => ["null"]
  | .bool b => [if b then "true" else "false"]
  | .int i => [toString i]
  | .float text => [text]
  | .str s => [s]
  | .list items => listTexts items
  | .dict entries => entriesTexts entries

/-- The texts in the items of an array. -/
def listTexts : List JsonValue → List String
  | [] => []
  | v :: vs => jsonTexts v ++ listTexts vs

/-- The keys and the texts in the values of an object. -/
def entriesTexts : JsonObject → List String
  | [] => []
  | (k, v) :: es => k :: jsonTexts v ++ entriesTexts es

end

/-- The texts in an event of the log. -/
def eventTexts (row : EventRow) : List String :=
  [row.eventId, toString row.schemaVersion, row.eventType.text, row.occurredAt, row.actor] ++
    row.runId.toList ++ row.causationId.toList ++ jsonTexts row.payloadJson.value

/-- The texts in a failure. -/
def errorTexts (error : GatewayError) : List String :=
  [error.code, error.message] ++ error.eventId.toList

omit [CharacterDatabase] in
lemma mem_entriesTexts {text : String} {es : JsonObject} :
    text ∈ entriesTexts es ↔ ∃ e ∈ es, text = e.1 ∨ text ∈ jsonTexts e.2 := by
  induction es with
  | nil => simp [entriesTexts]
  | cons e es ih =>
    obtain ⟨k, v⟩ := e
    simp [entriesTexts, ih, or_assoc]


omit [CharacterDatabase] in
/-- What is hidden in the keys and the texts of an object of texts is hidden in its stored form. -/
lemma hiddenIn_ofObject {token : SessionToken} {es : JsonObject}
    (h : ∀ e ∈ es, token.HiddenIn e.1 ∧ ∃ s, e.2 = .str s ∧ token.HiddenIn s) :
    ∀ text ∈ jsonTexts (JsonText.ofObject es).value, token.HiddenIn text := by
  intro text htext
  simp only [JsonText.ofObject, JsonText.ofValue, canonical_dict, jsonTexts] at htext
  obtain ⟨⟨k, w⟩, hmem, htext⟩ := mem_entriesTexts.1 htext
  obtain ⟨v, hv, rfl⟩ := mem_canonicalEntries hmem
  obtain ⟨hkey, s, rfl, hs⟩ := h (k, v) hv
  rcases htext with rfl | htext
  · exact hkey
  · obtain rfl : text = s := by simpa [jsonTexts] using htext
    exact hs

/-! ## No token in a denial -/

omit [CharacterDatabase] in
lemma isUlid_length {s : String} (h : isUlid s = true) : s.toList.length = 26 := by
  simp only [isUlid, Bool.and_eq_true, beq_iff_eq] at h
  exact h.1

omit [CharacterDatabase] in
lemma length_text_le (d : Datetime) : d.text.toList.length ≤ 27 := by
  have hfraction : (Datetime.fraction d.microsecond).length ≤ 7 := by
    unfold Datetime.fraction
    split
    · simp
    · simp [Datetime.length_digits]
  simp only [Datetime.text, String.toList_ofList, Datetime.textChars, List.length_append,
    List.length_cons, List.length_nil, Datetime.length_digits]
  omega

omit [MonotonicClock Reading] in
/-- What `_deny` appends and returns. -/
lemma deny_ok {t t' : Tables} {stamp : Stamp} {q : GatewayRequest Reading} {reason : String}
    {persistedRun : Option String} {error : GatewayError}
    (h : deny t stamp q reason persistedRun = .ok (t', error)) :
    ∃ event n, makeEvent stamp (denial q reason persistedRun) = .ok event ∧
      t'.events = t.events ++ [EventRow.ofEvent n event] ∧
      (∃ records, applyEvent t.projections event = .ok records ∧
        t'.projections = records.foldl upsertRecord t.projections) ∧
      error = ⟨"CAPABILITY_DENIED", publicDenial, some event.eventId⟩ := by
  simp only [deny, appendEvent, bind_eq_ok, pure_eq_ok, require_eq_ok, exists_and_left,
    exists_const, Prod.exists, Prod.mk.injEq] at h
  obtain ⟨t₁, record, ⟨-, event, hevent, happend⟩, rfl, rfl⟩ := h
  simp only [append, mapError_eq_ok, appendMutation, bind_eq_ok, pure_eq_ok, Prod.mk.injEq,
    Prod.exists] at happend
  obtain ⟨log, record', hlog, t₂, hartifact, t₃, hrevoke, rfl, rfl⟩ := happend
  obtain ⟨hlog₂, -⟩ := registerArtifact_frame hartifact
  obtain ⟨rows, rfl⟩ := revokeLeaseCapabilities_frame hrevoke
  obtain ⟨-, hevents, hprojections, rfl⟩ := applyEventMutation_ok hlog
  obtain rfl : t₂.toEventLog = log := hlog₂
  exact ⟨event, _, hevent, hevents, hprojections, rfl⟩

omit [CharacterDatabase] [MonotonicClock Reading] in
/-- Nothing in a denial contains the token. -/
lemma hiddenIn_denial (token : SessionToken) {q : GatewayRequest Reading} {reason : String}
    (persistedRun : Option String) (hreason : reason.toList.length < 32) :
    (∀ run ∈ (denial q reason persistedRun).runId, token.HiddenIn run) ∧
      ∀ text ∈ jsonTexts (JsonText.ofObject (denial q reason persistedRun).payload).value,
        token.HiddenIn text := by
  constructor
  · rintro run ⟨⟩
    exact token.hiddenIn_safeIdentifier _
  · have hkey : ∀ key ∈ ["reason_code", "role", "worker_id", "operation", "request_id"],
        token.HiddenIn key := fun key hkey => token.hiddenIn_of_length (by
      revert key
      decide)
    apply hiddenIn_ofObject
    simp only [denial, List.forall_mem_cons, List.not_mem_nil, false_implies, implies_true,
      and_true]
    exact ⟨⟨hkey _ (by decide), _, rfl, token.hiddenIn_of_length hreason⟩,
      ⟨hkey _ (by decide), _, rfl, token.hiddenIn_safeRole _⟩,
      ⟨hkey _ (by decide), _, rfl, token.hiddenIn_safeIdentifier _⟩,
      ⟨hkey _ (by decide), _, rfl, token.hiddenIn_safeOperation _⟩,
      ⟨hkey _ (by decide), _, rfl, token.hiddenIn_safeIdentifier _⟩⟩

/-- **No token leaks.** Whatever the session and the call hold, and whatever the reason that the
gateway found to refuse the call: the one event that is recorded and the failure that is returned
contain no token of the form that the issuer makes. -/
theorem denial_hides_token (token : SessionToken) (g : CapabilityGateway Reading) (t t' : Tables)
    (stamp : Stamp) (q : GatewayRequest Reading) (reason : String) (persistedRun : Option String)
    (error : GatewayError) (hdenied : (g.decide t q).2 = .ok (.denied reason persistedRun))
    (hdeny : deny t stamp q reason persistedRun = .ok (t', error)) :
    (∃ row, t'.events = t.events ++ [row] ∧ ∀ text ∈ eventTexts row, token.HiddenIn text) ∧
      ∀ text ∈ errorTexts error, token.HiddenIn text := by
  have hlengths : ∀ r ∈ earlyReasons ++ lateReasons, r.toList.length < 32 := by decide
  have hreason : reason.toList.length < 32 := by
    apply hlengths
    rw [List.mem_append]
    exact (denied_cases hdenied).imp And.left And.left
  obtain ⟨event, n, hevent, hevents, -, rfl⟩ := deny_ok hdeny
  obtain ⟨-, htype, -, hactor, hrun, hcause, hpayload⟩ := makeEvent_ok hevent
  obtain ⟨hhiddenRun, hhiddenPayload⟩ :=
    hiddenIn_denial (q := q) token persistedRun hreason
  have hid : token.HiddenIn event.eventId := by
    apply token.hiddenIn_of_length
    rw [isUlid_length event.eventId_valid]
    decide
  constructor
  · refine ⟨_, hevents, ?_⟩
    simp only [eventTexts, EventRow.ofEvent, List.forall_mem_append, List.forall_mem_cons,
      List.not_mem_nil, false_implies, implies_true, and_true, Option.mem_toList]
    refine ⟨⟨⟨⟨hid, ?_, ?_, ?_, ?_⟩, ?_⟩, ?_⟩, ?_⟩
    · exact token.hiddenIn_of_length (by decide)
    · rw [htype]
      exact token.hiddenIn_of_length (show "CapabilityDenied".toList.length < 32 by decide)
    · have hlength := length_text_le event.occurredAt
      exact token.hiddenIn_of_length (by omega)
    · rw [hactor]
      exact token.hiddenIn_of_length (show "capability_gateway".toList.length < 32 by decide)
    · rw [hrun]
      exact hhiddenRun
    · rw [hcause]
      rintro cause ⟨⟩
    · rw [hpayload]
      exact hhiddenPayload
  · simp only [errorTexts, List.forall_mem_append, List.forall_mem_cons, List.not_mem_nil,
      false_implies, implies_true, and_true, Option.toList_some]
    exact ⟨⟨token.hiddenIn_of_length (by decide), token.hiddenIn_of_no_run (by decide)⟩, hid⟩


/-- A token of 43 characters. -/
def sampleToken : SessionToken where
  text := "dGhpc19pc19hX3Rva2VuX29mXzQzX2NoYXJhY3RlcnM"
  length_ge := by decide
  chars := by decide

/-- A call that has the token everywhere but where it belongs. -/
def leakyRequest : GatewayRequest ℕ where
  session := ⟨none, sampleToken.text, "worker " ++ sampleToken.text, sampleToken.text,
    some sampleToken.text⟩
  operation := .text sampleToken.text
  payload := [(sampleToken.text, .str sampleToken.text)]
  requestId := sampleToken.text
  monotonic := 1
  now := ⟨2026, 1, 1, 12, 30, 0, 0, datetimeValid_halfPastTwelve⟩

/-- The id and the time of the denial. -/
def leakyStamp : Stamp := ⟨"01ARZ3NDEKTSV4RRFFQ69G5FA2", ⟨2026, 1, 1, 12, 30, 0, 0, datetimeValid_halfPastTwelve⟩⟩

omit [CharacterDatabase] in
/-- The token is in none of the fields of the denial. -/
theorem denial_hides_token_sample : letI := asciiDatabase
    ∃ t' error, deny initialTables leakyStamp leakyRequest "MISSING_TOKEN" none = .ok (t', error) ∧
      (∃ row, t'.events = initialTables.events ++ [row] ∧
        ∀ text ∈ eventTexts row, sampleToken.HiddenIn text) ∧
      ∀ text ∈ errorTexts error, sampleToken.HiddenIn text := by
  let := asciiDatabase
  have hrecorded :
      (deny initialTables leakyStamp leakyRequest "MISSING_TOKEN" none).toOption.isSome = true := by
    decide +kernel
  obtain ⟨⟨t', error⟩, hdeny⟩ := Option.isSome_iff_exists.1 hrecorded
  rw [toOption_eq_some] at hdeny
  exact ⟨t', error, hdeny, denial_hides_token sampleToken plannerGateway initialTables t' leakyStamp
    leakyRequest "MISSING_TOKEN" none error rfl hdeny⟩


/-! ## Denials in the projections -/

/-- `_safe_identifier` keeps the value: it is an identifier, and no 32 characters in a row could be
of a token. -/
def Kept (value : String) : Prop :=
  isGatewayIdentifier value = true ∧ hasRunOf isTokenChar 32 0 value.toList = false

instance (value : String) : Decidable (Kept value) := inferInstanceAs (Decidable (_ ∧ _))

/-- `_REDACTED` -/
def redacted : String := "<redacted>"

omit [CharacterDatabase] in
lemma safeIdentifier_eq (value : String) :
    safeIdentifier value = if Kept value then value else redacted := by
  unfold safeIdentifier redacted
  exact if_congr (by simp [Kept]) rfl rfl

omit [CharacterDatabase] in
lemma not_kept_redacted : ¬ Kept redacted := by
  decide

omit [CharacterDatabase] in
lemma safeIdentifier_eq_self_iff {value : String} :
    safeIdentifier value = value ↔ Kept value ∨ value = redacted := by
  rw [safeIdentifier_eq]
  by_cases hkept : Kept value
  · simp [hkept]
  · simp [hkept, eq_comm]

omit [CharacterDatabase] in
/-- Two identifiers are told apart by what is written of them exactly when one is kept. -/
lemma safeIdentifier_ne_iff {a b : String} (h : a ≠ b) :
    safeIdentifier a ≠ safeIdentifier b ↔ Kept a ∨ Kept b := by
  rw [safeIdentifier_eq, safeIdentifier_eq]
  by_cases ha : Kept a
  · by_cases hb : Kept b
    · simp [ha, hb, h]
    · have hne : a ≠ redacted := fun heq => not_kept_redacted (heq ▸ ha)
      simp [ha, hb, hne]
  · by_cases hb : Kept b
    · have hne : redacted ≠ b := fun heq => not_kept_redacted (heq ▸ hb)
      simp [ha, hb, hne]
    · simp [ha, hb]

omit [CharacterDatabase] in
lemma safeIdentifier_ne_empty (value : String) : safeIdentifier value ≠ "" := by
  rw [safeIdentifier_eq]
  split
  · rename_i hkept
    rintro rfl
    exact absurd hkept (by decide)
  · decide

/-- The row of a denial in the projections. -/
def denialRow (t : Tables) (event : EventEnvelope) : Option ProjectionRow :=
  findRecord t.projections .denials (entityId event)

/-- The entry of a denial in the projections. -/
def denialEntry (t : Tables) (event : EventEnvelope) : Option JsonObject :=
  (denialRow t event).bind (·.state?)

/-- A call that a gateway of a world denies, with the event that records it. -/
def DeniedCall (w : GatewayWorld Reading) (name : ℕ) (stamp : Stamp) (q : GatewayRequest Reading)
    (persistedRun : Option String) (event : EventEnvelope) : Prop :=
  ∃ reason t' error, ((w.gateways name).decide w.state q).2 = .ok (.denied reason persistedRun) ∧
    deny w.state stamp q reason persistedRun = .ok (t', error) ∧
    makeEvent stamp (denial q reason persistedRun) = .ok event

omit [MonotonicClock Reading] in
/-- The entry of a denial is that of what is written of the request id. -/
lemma entityId_denial {stamp : Stamp} {q : GatewayRequest Reading} {reason : String}
    {persistedRun : Option String} {event : EventEnvelope}
    (h : makeEvent stamp (denial q reason persistedRun) = .ok event) :
    entityId event = safeIdentifier q.requestId := by
  obtain ⟨-, htype, -, -, -, -, hpayload⟩ := makeEvent_ok h
  have htype : event.eventType = .capabilityDenied := EventType.text_injective htype
  have hid : event.text? "request_id" = some (safeIdentifier q.requestId) := by
    simp [EventEnvelope.text?, hpayload, denial, getEntry, Research.str?]
  have hfield : EventType.entityField .capabilityDenied = some "request_id" := rfl
  simp [entityId, htype, hfield, hid, safeIdentifier_ne_empty]

/-- A denied call writes its entry, under the run as it is written. -/
lemma DeniedCall.entry {w : GatewayWorld Reading} {name : ℕ} {stamp : Stamp}
    {q : GatewayRequest Reading} {persistedRun : Option String} {event : EventEnvelope}
    (h : DeniedCall w name stamp q persistedRun event) :
    ∃ state, denialEntry (w.exec (.call name stamp q)).state event = some state ∧
      getEntry "run_id" state =
        some (.str (safeIdentifier (persistedRun.getD q.session.runId))) := by
  obtain ⟨reason, t', error, hdecision, hdeny, hevent⟩ := h
  have hstate : (w.exec (.call name stamp q)).state = t' := by
    have hrun : (StateOp.appendEvent stamp (denial q reason persistedRun)).run w.state = .ok t' := by
      simp only [deny, bind_eq_ok, pure_eq_ok, Prod.exists, Prod.mk.injEq] at hdeny
      obtain ⟨t₁, record, happend, rfl, -⟩ := hdeny
      simp [StateOp.run, happend, Functor.map, Except.map]
    simp only [GatewayWorld.exec, hdecision, StateOp.exec, hrun]
  obtain ⟨event', n, hevent', -, ⟨records, hrecords, hprojections⟩, -⟩ := deny_ok hdeny
  obtain rfl : event' = event := Except.ok.inj (hevent'.symm.trans hevent)
  obtain ⟨-, htype, -, -, hrun, -⟩ := makeEvent_ok hevent
  have htype : event'.eventType = .capabilityDenied := EventType.text_injective htype
  have hpayload : projectionPayload w.state.projections event' = .ok event'.payload := by
    simp [projectionPayload, htype, EventType.isOrchestration]
  have hchanges : records = [makeRecord w.state.projections .denials (entityId event')
      (eventState event' event'.payload)] := by
    simp only [applyEvent, hpayload, ok_bind, pure_eq_ok] at hrecords
    rw [← hrecords, changes]
    simp [htype, EventType.projection]
  have hfind : ∃ version, findRecord t'.projections .denials (entityId event') =
      some ⟨version, JsonText.ofObject (eventState event' event'.payload)⟩ := by
    rw [hprojections, hchanges, List.foldl_cons, List.foldl_nil, findRecord_upsertRecord,
      if_pos ⟨rfl, rfl⟩]
    exact ⟨_, rfl⟩
  obtain ⟨version, hfind⟩ := hfind
  refine ⟨canonicalEntries (eventState event' event'.payload), ?_, ?_⟩
  · rw [hstate, denialEntry, denialRow, hfind]
    exact JsonText.object?_ofObject _
  · rw [getEntry_canonicalEntries]
    simp [eventState, getEntry, hrun, denial, optionalText]

omit [CharacterDatabase] in
lemma isSome_findRecord_foldl (records : List ProjectionRecord) {table : ProjectionTable}
    {projection : ProjectionName} {key : String}
    (hrow : (findRecord table projection key).isSome) :
    (findRecord (records.foldl upsertRecord table) projection key).isSome := by
  induction records generalizing table with
  | nil => exact hrow
  | cons r records ih =>
    apply ih
    rw [findRecord_upsertRecord]
    split
    · rfl
    · exact hrow

/-- The entries of the log stay when something is appended. -/
lemma isSome_findRecord_run {log log' : EventLog} {events : List EventEnvelope}
    (h : eventLogSystem.Run log events log') {projection : ProjectionName} {key : String}
    (hrow : (findRecord log.projections projection key).isSome) :
    (findRecord log'.projections projection key).isSome := by
  refine h.invariant (P := fun log => (findRecord log.projections projection key).isSome) ?_ hrow
  rintro log event log' hrow ⟨record, hstep⟩
  obtain ⟨-, -, ⟨records, -, hprojections⟩, -⟩ := applyEventMutation_ok hstep
  rw [hprojections]
  exact isSome_findRecord_foldl records hrow

lemma isSome_findRecord_exec {w : GatewayWorld Reading} (hinv : DocumentInvariant w.state)
    (a : GatewayAction Reading) {projection : ProjectionName} {key : String}
    (hrow : (findRecord w.state.projections projection key).isSome) :
    (findRecord (w.exec a).state.projections projection key).isSome := by
  rcases state_exec w a with hstate | ⟨op, hop⟩
  · rwa [hstate]
  · obtain ⟨events, hrun, -⟩ := StateOp.exists_run_exec hinv.ids_nodup op.1
    rw [hop]
    exact isSome_findRecord_run hrun hrow

/-- An entry stays, whatever happens later. -/
lemma isSome_findRecord_runGateways (gateways : ℕ → CapabilityGateway Reading)
    (before after : List (GatewayAction Reading)) {projection : ProjectionName} {key : String}
    (hrow : (findRecord (runGateways gateways before).state.projections projection key).isSome) :
    (findRecord (runGateways gateways (before ++ after)).state.projections projection
      key).isSome := by
  induction after using List.reverseRecOn with
  | nil => simpa using hrow
  | append_singleton after a ih =>
    rw [← List.append_assoc, runGateways_concat]
    exact isSome_findRecord_exec (documentInvariant_runGateways gateways _) a ih


/-! ## Denials of a run -/

/-- A denial in a run: the call, what happened before and after it, and the event. -/
structure Denial (gateways : ℕ → CapabilityGateway Reading)
    (actions : List (GatewayAction Reading)) where
  before : List (GatewayAction Reading)
  name : ℕ
  stamp : Stamp
  q : GatewayRequest Reading
  after : List (GatewayAction Reading)
  persistedRun : Option String
  event : EventEnvelope
  split : actions = before ++ .call name stamp q :: after
  denied : DeniedCall (runGateways gateways before) name stamp q persistedRun event

section

variable (gateways : ℕ → CapabilityGateway Reading) (actions : List (GatewayAction Reading))

/-- The denial came after its token was found, which is that of the record. -/
def Denial.Late {gateways : ℕ → CapabilityGateway Reading} {actions : List (GatewayAction Reading)}
    (d : Denial gateways actions) (record : CapabilityRecord) : Prop :=
  TokenFound (runGateways gateways d.before).state d.q.session record ∧
    d.persistedRun = some record.runId

/-- Each denial after the token was found is recorded under the run of the token's record. -/
def DenialsAttributed : Prop :=
  ∀ (d : Denial gateways actions) (record : CapabilityRecord), d.Late record →
    ∃ state, denialEntry (runGateways gateways (d.before ++ [.call d.name d.stamp d.q])).state
      d.event = some state ∧ getEntry "run_id" state = some (.str record.runId)

/-- Two denied calls with different request ids have two entries. -/
def DenialsDistinct : Prop :=
  ∀ d e : Denial gateways actions, d.q.requestId ≠ e.q.requestId →
    (denialRow (runGateways gateways actions).state d.event).isSome ∧
    (denialRow (runGateways gateways actions).state e.event).isSome ∧
    entityId d.event ≠ entityId e.event

variable {gateways actions}

lemma Denial.entityId_event (d : Denial gateways actions) :
    entityId d.event = safeIdentifier d.q.requestId := by
  obtain ⟨reason, t', error, -, -, hevent⟩ := d.denied
  exact entityId_denial hevent

/-- A denial under a run is one after the token of a record was found. -/
lemma Denial.exists_late (d : Denial gateways actions) {run : String}
    (h : d.persistedRun = some run) : ∃ record, d.Late record := by
  obtain ⟨reason, t', error, hdecision, -⟩ := d.denied
  rcases denied_cases hdecision with ⟨-, hnone⟩ | ⟨-, record, hfound, hrun⟩
  · rw [h] at hnone
    cases hnone
  · exact ⟨record, hfound, hrun⟩

lemma Denial.entry (d : Denial gateways actions) :
    ∃ state, denialEntry (runGateways gateways (d.before ++ [.call d.name d.stamp d.q])).state
      d.event = some state ∧
      getEntry "run_id" state =
        some (.str (safeIdentifier (d.persistedRun.getD d.q.session.runId))) := by
  rw [runGateways_concat]
  exact d.denied.entry

/-- A denial has its row to the end of the run. -/
lemma Denial.isSome_row (d : Denial gateways actions) :
    (denialRow (runGateways gateways actions).state d.event).isSome := by
  obtain ⟨state, hentry, -⟩ := d.entry
  have hthen : (denialRow (runGateways gateways (d.before ++ [.call d.name d.stamp d.q])).state
      d.event).isSome := by
    rw [denialEntry, Option.bind_eq_some_iff] at hentry
    obtain ⟨row, hrow, -⟩ := hentry
    exact Option.isSome_iff_exists.2 ⟨row, hrow⟩
  have hactions : actions = (d.before ++ [.call d.name d.stamp d.q]) ++ d.after := by
    simpa using d.split
  have hlater := isSome_findRecord_runGateways gateways _ d.after hthen
  rw [← hactions] at hlater
  exact hlater

/-- A denial is attributed exactly when the run of the record is written as it is. -/
lemma denialsAttributed_iff : DenialsAttributed gateways actions ↔
    ∀ (d : Denial gateways actions) (record : CapabilityRecord), d.Late record →
      Kept record.runId ∨ record.runId = redacted := by
  refine forall_congr' fun d => forall_congr' fun record => imp_congr_right fun hlate => ?_
  obtain ⟨state, hentry, hrun⟩ := d.entry
  rw [hlate.2, Option.getD_some] at hrun
  rw [← safeIdentifier_eq_self_iff]
  constructor
  · rintro ⟨state', hentry', hrun'⟩
    obtain rfl : state' = state := Option.some.inj (hentry'.symm.trans hentry)
    rw [hrun] at hrun'
    simpa using hrun'
  · intro hkept
    refine ⟨state, hentry, ?_⟩
    rw [hrun, hkept]

/-- Two denials are told apart exactly when the id of one of them is kept. -/
lemma denialsDistinct_iff : DenialsDistinct gateways actions ↔
    ∀ d e : Denial gateways actions, d.q.requestId ≠ e.q.requestId →
      Kept d.q.requestId ∨ Kept e.q.requestId := by
  refine forall_congr' fun d => forall_congr' fun e => imp_congr_right fun hne => ?_
  rw [d.entityId_event, e.entityId_event, safeIdentifier_ne_iff hne]
  constructor
  · exact fun h => h.2.2
  · exact fun h => ⟨d.isSome_row, e.isSome_row, h⟩

end

/-- In every run of gateways, every denial after the token was found is recorded under the run of
the token's record, and denials of different requests have different entries, if and only if every
such run id is written as it is, and of every two request ids of denials at least one is. -/
theorem denials_separate_iff (gateways : ℕ → CapabilityGateway Reading)
    (actions : List (GatewayAction Reading)) :
    DenialsAttributed gateways actions ∧ DenialsDistinct gateways actions ↔
      (∀ (d : Denial gateways actions) (record : CapabilityRecord), d.Late record →
        Kept record.runId ∨ record.runId = redacted) ∧
      ∀ d e : Denial gateways actions, d.q.requestId ≠ e.q.requestId →
        Kept d.q.requestId ∨ Kept e.q.requestId := by
  rw [denialsAttributed_iff, denialsDistinct_iff]

/-! ## Ids that the program makes -/

/-- The request ids of a worker host and of the auditor, `secrets.token_hex(16)`. -/
def hostRequestId (bytes : Bytes) : String := toHex bytes

/-- The run of a controller execution, `f"task-{claim.execution_id}"`, where the execution has the
id `f"execution-{secrets.token_hex(16)}"`. -/
def executionRunId (bytes : Bytes) : String := "task-execution-" ++ toHex bytes

/-- The run of a research session, `"research-" + MonotoneUlidFactory()().lower()`. -/
def researchRunId (ulid : String) : String :=
  "research-" ++ String.ofList (ulid.toList.map Char.toLower)

omit [CharacterDatabase] in
lemma isTokenChar_of_isLowerHex {c : Char} (h : isLowerHex c = true) : isTokenChar c = true := by
  simp only [isLowerHex, isTokenChar, isAsciiLetter, Bool.or_eq_true, Bool.and_eq_true,
    decide_eq_true_eq] at h ⊢
  rcases h with h | ⟨hlow, hhigh⟩
  · exact .inl (.inl (.inr h))
  · exact .inl (.inl (.inl (.inl ⟨hlow, hhigh.trans (by decide)⟩)))

omit [CharacterDatabase] in
/-- Nothing with 32 characters of a token in a row is kept. -/
lemma not_kept_of_infix (run : List Char) {value : String} (hrun : run.all isTokenChar = true)
    (hlength : 32 ≤ run.length) (h : run <:+: value.toList) : ¬ Kept value := by
  rintro ⟨-, hno⟩
  have hfound : hasRunOf isTokenChar 32 0 value.toList = true :=
    hasRunOf_of_infix hrun hlength h 0
  rw [hno] at hfound
  cases hfound

omit [CharacterDatabase] in
/-- What ends in 16 bytes as hexadecimal text is not kept. -/
lemma not_kept_append_toHex (label : String) {bytes : Bytes} (hlength : bytes.length = 16)
    (hbytes : ∀ b ∈ bytes, b < 256) : ¬ Kept (label ++ toHex bytes) := by
  apply not_kept_of_infix (toHex bytes).toList
  · rw [List.all_eq_true]
    intro c hc
    exact isTokenChar_of_isLowerHex (List.all_eq_true.1 (isLowerHex_toHex hbytes) c hc)
  · rw [length_toHex]
    omega
  · rw [String.toList_append]
    exact (List.suffix_append _ _).isInfix

omit [CharacterDatabase] in
lemma not_kept_hostRequestId {bytes : Bytes} (hlength : bytes.length = 16)
    (hbytes : ∀ b ∈ bytes, b < 256) : ¬ Kept (hostRequestId bytes) := by
  have h := not_kept_append_toHex "" hlength hbytes
  rwa [String.empty_append] at h

omit [CharacterDatabase] in
lemma not_kept_executionRunId {bytes : Bytes} (hlength : bytes.length = 16)
    (hbytes : ∀ b ∈ bytes, b < 256) : ¬ Kept (executionRunId bytes) :=
  not_kept_append_toHex "task-execution-" hlength hbytes

omit [CharacterDatabase] in
lemma toList_researchRunId (ulid : String) :
    (researchRunId ulid).toList = "research-".toList ++ ulid.toList.map Char.toLower := by
  simp [researchRunId]

omit [CharacterDatabase] in
lemma not_kept_researchRunId {ulid : String} (h : isUlid ulid = true) :
    ¬ Kept (researchRunId ulid) := by
  have hlower : ulidAlphabet.all (fun c => isTokenChar c.toLower) = true := by decide
  have hprefix : "research-".toList.all isTokenChar = true := by decide
  have hlabel : "research-".toList.length = 9 := by decide
  apply not_kept_of_infix (researchRunId ulid).toList
  · rw [toList_researchRunId, List.all_append, hprefix, Bool.true_and, List.all_map,
      List.all_eq_true]
    simp only [isUlid, Bool.and_eq_true, List.all_eq_true] at h
    intro c hc
    exact List.all_eq_true.mp hlower c (by simpa using h.2 c hc)
  · rw [toList_researchRunId, List.length_append, List.length_map, isUlid_length h, hlabel]
    omega
  · exact List.infix_rfl

/-- All denials of a run have one entry when the requests have the ids of a host. -/
lemma Denial.entityId_eq_of_host {gateways : ℕ → CapabilityGateway Reading}
    {actions : List (GatewayAction Reading)} (d : Denial gateways actions) {bytes : Bytes}
    (hid : d.q.requestId = hostRequestId bytes) (hlength : bytes.length = 16)
    (hbytes : ∀ b ∈ bytes, b < 256) : entityId d.event = redacted := by
  rw [d.entityId_event, safeIdentifier_eq, hid, if_neg (not_kept_hostRequestId hlength hbytes)]


/-! ## Two denials of an execution -/

/-- The grant of a planner in the run of an execution. -/
def executionGrant : CapabilityGrant where
  runId := "task-execution-000102030405060708090a0b0c0d0e0f"
  workerId := "worker"
  role := .formalPlanner
  leaseId := none
  operations := [.formalGraphRead]
  expiresAt := ⟨2026, 1, 1, 13, 0, 0, 0, datetimeValid_oneOClock⟩
  names_ne := by decide
  leaseId_ne := plannerGrant.leaseId_ne
  operations_ne := plannerGrant.operations_ne
  operations_nodup := plannerGrant.operations_nodup
  operations_advertised := plannerGrant.operations_advertised

/-- The planner presents its token and claims another role. -/
def executionRequest (requestId : String) : GatewayRequest ℕ where
  session := ⟨some "token", executionGrant.runId, "worker", "formalizer", none⟩
  operation := .text "formal_graph.read"
  payload := []
  requestId := requestId
  monotonic := 1
  now := ⟨2026, 1, 1, 12, 30, 0, 0, datetimeValid_halfPastTwelve⟩

/-- The first request, with the id that a host gave it. -/
def firstRequest : GatewayRequest ℕ := executionRequest "00112233445566778899aabbccddeeff"

/-- The second request. -/
def secondRequest : GatewayRequest ℕ := executionRequest "ffeeddccbbaa99887766554433221100"

/-- The capability is minted. -/
def executionMint : GatewayAction ℕ :=
  .mint ⟨"01ARZ3NDEKTSV4RRFFQ69G5FA1", ⟨2026, 1, 1, 12, 0, 0, 0, datetimeValid_noon⟩⟩ "token" executionGrant

def firstStamp : Stamp := ⟨"01ARZ3NDEKTSV4RRFFQ69G5FA2", ⟨2026, 1, 1, 12, 30, 0, 0, datetimeValid_halfPastTwelve⟩⟩

def secondStamp : Stamp := ⟨"01ARZ3NDEKTSV4RRFFQ69G5FA3", ⟨2026, 1, 1, 12, 30, 1, 0, by decide⟩⟩

/-- The capability is minted, and both calls are made. -/
def executionCalls : List (GatewayAction ℕ) :=
  [executionMint, .call 0 firstStamp firstRequest, .call 0 secondStamp secondRequest]

/-- The decision is a denial for the role, under the run of the execution. -/
def roleDenied : Except StoreError GatewayDecision → Bool
  | .ok (.denied reason (some run)) => reason == "ROLE_MISMATCH" && run == executionGrant.runId
  | _ => false

omit [CharacterDatabase] in
lemma roleDenied_eq {decision : Except StoreError GatewayDecision} (h : roleDenied decision = true) :
    decision = .ok (.denied "ROLE_MISMATCH" (some executionGrant.runId)) := by
  unfold roleDenied at h
  split at h
  · simp only [Bool.and_eq_true, beq_iff_eq] at h
    rw [h.1, h.2]
  · cases h

/-- A call is refused for the role, and the denial is recorded. -/
def deniedForRole (w : GatewayWorld ℕ) (stamp : Stamp) (q : GatewayRequest ℕ) : Bool :=
  roleDenied ((w.gateways 0).decide w.state q).2 &&
    (deny w.state stamp q "ROLE_MISMATCH" (some executionGrant.runId)).toOption.isSome

lemma exists_deniedCall {w : GatewayWorld ℕ} {stamp : Stamp} {q : GatewayRequest ℕ}
    (h : deniedForRole w stamp q = true) :
    ∃ event, DeniedCall w 0 stamp q (some executionGrant.runId) event := by
  simp only [deniedForRole, Bool.and_eq_true] at h
  obtain ⟨hdecision, hdeny⟩ := h
  obtain ⟨⟨t', error⟩, hdeny⟩ := Option.isSome_iff_exists.1 hdeny
  rw [toOption_eq_some] at hdeny
  obtain ⟨event, -, hevent, -⟩ := deny_ok hdeny
  exact ⟨event, _, t', error, roleDenied_eq hdecision, hdeny, hevent⟩

omit [CharacterDatabase] in
lemma executionCalls_denied :
    @deniedForRole asciiDatabase (@runGateways asciiDatabase ℕ _ (fun _ => plannerGateway)
      [executionMint]) firstStamp firstRequest = true ∧
    @deniedForRole asciiDatabase (@runGateways asciiDatabase ℕ _ (fun _ => plannerGateway)
      [executionMint, .call 0 firstStamp firstRequest]) secondStamp secondRequest = true := by
  decide +kernel

omit [CharacterDatabase] in
/-- Two calls of an execution are denied.  Neither denial is under the run of the execution, and
they have one entry. -/
theorem execution_denials_merge : letI := asciiDatabase
    ¬ DenialsAttributed (fun _ => plannerGateway) executionCalls ∧
      ¬ DenialsDistinct (fun _ => plannerGateway) executionCalls := by
  let := asciiDatabase
  obtain ⟨hfirst, hsecond⟩ := executionCalls_denied
  obtain ⟨event₁, h₁⟩ := exists_deniedCall hfirst
  obtain ⟨event₂, h₂⟩ := exists_deniedCall hsecond
  let d₁ : Denial (fun _ => plannerGateway) executionCalls :=
    ⟨_, 0, firstStamp, firstRequest, _, _, event₁, rfl, h₁⟩
  let d₂ : Denial (fun _ => plannerGateway) executionCalls :=
    ⟨_, 0, secondStamp, secondRequest, [], _, event₂, rfl, h₂⟩
  constructor
  · intro hattributed
    obtain ⟨record, hlate⟩ := d₁.exists_late (show d₁.persistedRun = some executionGrant.runId from rfl)
    have hrun : executionGrant.runId = record.runId := Option.some.inj hlate.2
    have hkept := denialsAttributed_iff.1 hattributed d₁ record hlate
    rw [← hrun] at hkept
    exact absurd hkept (by decide)
  · intro hdistinct
    have hne : firstRequest.requestId ≠ secondRequest.requestId := by decide
    have hkept : Kept firstRequest.requestId ∨ Kept secondRequest.requestId :=
      denialsDistinct_iff.1 hdistinct d₁ d₂ hne
    exact absurd hkept (by decide)

end Aizim.Gateway
