import Aizim.Framework.Exceptions
import Aizim.Framework.JsonLibrary
import Aizim.Gateway.Capabilities

/-!
# Frames of the gateway channel

The bodies of the frames that a session and the gateway exchange, as the two ends write and read
them.  A call is the length of the token in two bytes, the token, and a canonical text; a result is
a canonical text.

`frames_roundTrip` says that what one end wrote the other reads back, that a call is read only under
its own token, and that whatever the bytes are, a decoder answers or raises the one exception it
declares.  A token is a text that travels as its bytes in UTF-8.
-/

namespace Aizim.Gateway

open JsonValue JsonObject Domain

/-! ## Exceptions -/

/-- The exceptions of the decoders: the built-in ones that they may meet, and the two that they
declare. -/
inductive FrameFault
  | value
  | recursion
  | type
  | key
  /-- `SessionDeniedError` -/
  | denied
  /-- `GatewayTransportError` -/
  | unavailable
  deriving DecidableEq

/-- An exception of the JSON library. -/
def FrameFault.ofLoad : LoadError → FrameFault
  | .value => value
  | .recursion => recursion

/-- `value[key]` -/
def item (o : JsonObject) (key : String) : Except FrameFault JsonValue :=
  orThrow (getEntry key o) .key

/-! ## Limits -/

/-- `RPC_FRAME_LIMIT` -/
def rpcFrameLimit : ℕ := 1024 * 1024

/-- `TOKEN_LIMIT` -/
def tokenLimit : ℕ := 4096

section

variable (lib : JsonLibrary)

/-- `json.loads` of bytes. -/
def loadBytes (body : Bytes) : Except FrameFault JsonValue :=
  (lib.loadsBytes body).mapError FrameFault.ofLoad

/-- `json.loads(body.decode())` -/
def loadText (body : Bytes) : Except FrameFault JsonValue := do
  let text ← orThrow (decode body) .value
  (lib.loads text).mapError FrameFault.ofLoad

/-! ## Sessions -/

/-- The fields of a session request. -/
def sessionRequest (o : JsonObject) : Except FrameFault (Option (String × Bool)) := do
  let sessionId ← item o "session_id"
  let channel := (getEntry "channel" o).getD (.bool false)
  match sessionId, channel with
  | .str sessionId, .bool channel =>
    pure (if sessionId = "" then none else some (sessionId, channel))
  | _, _ => pure none

/-- `decode_session_request` -/
def decodeSessionRequest (body : Bytes) : Except FrameFault (Option (String × Bool)) := do
  let value ← rescue [.value, .recursion] (some <$> loadText lib body) (pure none)
  match value with
  | some (.dict o) =>
    if hasKeys o ["session_id"] || hasKeys o ["session_id", "channel"] then sessionRequest o
    else pure none
  | _ => pure none

/-- The items of an array that are texts. -/
def textItems (items : List JsonValue) : List String :=
  items.filterMap fun
    | .str s => some s
    | _ => none

/-- `_operations` -/
def sessionOperations (session : JsonObject) (role : AgentRole) :
    Except FrameFault (List GatewayTool) :=
  match getEntry "operations" session with
  | some (.list items) => do
    let operations ← (textItems items).mapM fun text => orThrow (GatewayTool.ofText? text) .value
    if operations.length ≠ items.length ∨ operations = [] ∨ ¬ operations.Nodup ∨
        ∃ operation ∈ operations, operation ∉ advertisedTools role.text then throw .denied
    else pure operations
  | _ => throw .denied

/-- The session of a redemption, as a token with its role and its tools. -/
def redeemedSession (session : JsonObject) :
    Except FrameFault (AgentRole × Bytes × List GatewayTool) :=
  match getEntry "raw_token" session, getEntry "role" session with
  | some (.str rawToken), some (.str role) =>
    if rawToken = "" then throw .denied
    else do
      let role ← orThrow (AgentRole.ofText? role) .value
      let operations ← sessionOperations session role
      pure (role, encode rawToken, operations)
  | _, _ => throw .denied

/-- `decode_redemption` -/
def decodeRedemption (body : Option Bytes) :
    Except FrameFault (AgentRole × Bytes × List GatewayTool) :=
  rescue [.type, .value, .recursion] (do
    let body ← orThrow body .denied
    let value ← loadBytes lib body
    match value with
    | .dict o =>
      if getEntry "ok" o = some (.bool true) then
        match getEntry "session" o with
        | some (.dict session) =>
          if hasKeys session ["raw_token", "run_id", "worker_id", "role", "operations"] then
            redeemedSession session
          else throw .denied
        | _ => throw .denied
      else throw .denied
    | _ => throw .denied) (throw .denied)

/-! ## Calls -/

/-- A number as two bytes, the high one first. -/
def toBytesBig (n : ℕ) : Bytes := [n / 256, n % 256]

/-- The number in the first two bytes. -/
def fromBytesBig : Bytes → ℕ
  | high :: low :: _ => high * 256 + low
  | _ => 0

/-- The document of a call. -/
def callDocument (operation : String) (payload : JsonObject) : JsonValue :=
  .dict [("operation", .str operation), ("payload", .dict payload)]

/-- `encode_call` -/
def encodeCall (operation : String) (payload : JsonObject) (token : Bytes) :
    Except FrameFault Bytes := do
  require (token ≠ [] ∧ token.length ≤ tokenLimit) .unavailable
  let document ← (lib.canonicalBytes (callDocument operation payload)).mapError FrameFault.ofLoad
  let body := toBytesBig token.length ++ token ++ document
  require (body.length ≤ rpcFrameLimit) .unavailable
  pure body

/-- The length of the token of a call. -/
def tokenSize (body : Bytes) : ℕ := fromBytesBig (body.take 2)

/-- The token of a call. -/
def tokenPart (body : Bytes) : Bytes := (body.drop 2).take (tokenSize body)

/-- The operation and the payload of a call. -/
def callFields (o : JsonObject) : Except FrameFault (Option (String × JsonObject)) := do
  let operation ← item o "operation"
  let payload ← item o "payload"
  match operation, payload with
  | .str operation, .dict payload =>
    pure (if operation = "" then none else some (operation, payload))
  | _, _ => pure none

/-- What `decode_call` reads of a document, with the token outside of its `try`. -/
def readCall (tokenBytes : Bytes) :
    Option JsonValue → Except FrameFault (Option (String × JsonObject × String))
  | some (.dict o) =>
    if hasKeys o ["operation", "payload"] then do
      let fields ← callFields o
      match fields with
      | some (operation, payload) =>
        let token ← orThrow (decode tokenBytes) .value
        pure (some (operation, payload, token))
      | none => pure none
    else pure none
  | _ => pure none

/-- `decode_call` -/
def decodeCall (body secret : Bytes) : Except FrameFault (Option (String × JsonObject × String)) :=
  if body.length < 3 then pure none
  else if tokenSize body = 0 ∨ tokenLimit < tokenSize body ∨ body.length ≤ tokenSize body + 2 then
    pure none
  else if tokenPart body ≠ secret then pure none
  else do
    let value ← rescue [.value, .recursion]
      (some <$> loadBytes lib (body.drop (tokenSize body + 2))) (pure none)
    readCall (tokenPart body) value

/-! ## Results -/

/-- `GatewayError` -/
structure GatewayError where
  code : String
  message : String
  eventId : Option String
  deriving DecidableEq

/-- `GatewayResult` -/
inductive GatewayResult
  | success (result : JsonValue)
  | failure (error : GatewayError)

/-- `result_document` -/
def resultDocument : GatewayResult → JsonValue
  | .success value => .dict [("ok", .bool true), ("result", value)]
  | .failure error => .dict [("ok", .bool false), ("error", .dict
      [("code", .str error.code), ("message", .str error.message),
       ("event_id", (error.eventId.map JsonValue.str).getD .null)])]

/-- The failure of a result. -/
def resultFailure (error : JsonObject) : Except FrameFault GatewayResult :=
  match getEntry "code" error, getEntry "message" error, getEntry "event_id" error with
  | some (.str code), some (.str message), none => pure (.failure ⟨code, message, none⟩)
  | some (.str code), some (.str message), some .null => pure (.failure ⟨code, message, none⟩)
  | some (.str code), some (.str message), some (.str eventId) =>
    pure (.failure ⟨code, message, some eventId⟩)
  | _, _, _ => throw .unavailable

/-- `value.keys() == {"ok", key} and value["ok"] is ok` -/
def answers (o : JsonObject) (key : String) (ok : Bool) : Except FrameFault Bool :=
  if hasKeys o ["ok", key] then do
    let value ← item o "ok"
    pure (value == .bool ok)
  else pure false

/-- What `decode_result` reads of a document. -/
def readResult : JsonValue → Except FrameFault GatewayResult
  | .dict o => do
    let succeeded ← answers o "result" true
    if succeeded then .success <$> item o "result"
    else do
      let failed ← answers o "error" false
      match failed, getEntry "error" o with
      | true, some (.dict error) => resultFailure error
      | _, _ => throw .unavailable
  | _ => throw .unavailable

/-- `decode_result` -/
def decodeResult (body : Bytes) : Except FrameFault GatewayResult :=
  rescue [.value, .recursion] (loadBytes lib body >>= readResult) (throw .unavailable)

end

/-! ## What the decoders raise -/

variable {lib : JsonLibrary}

lemma raises_mapError {α : Type} (x : Except LoadError α) {faults : List FrameFault}
    (hvalue : .value ∈ faults) (hrecursion : .recursion ∈ faults) :
    Raises faults (x.mapError FrameFault.ofLoad) := by
  intro fault h
  cases x with
  | ok a => cases h
  | error e =>
    obtain rfl := Except.error.inj h
    cases e with
    | value => exact hvalue
    | recursion => exact hrecursion

lemma raises_loadText (body : Bytes) : Raises [.value, .recursion] (loadText lib body) :=
  (raises_orThrow fun _ => by simp).bind fun _ _ => raises_mapError _ (by simp) (by simp)

/-- A key that an object is known to have is read. -/
lemma exists_item {o : JsonObject} {keys : List String} (key : String)
    (h : hasKeys o keys = true) (hkey : key ∈ keys) : ∃ v, item o key = .ok v := by
  unfold hasKeys at h
  rw [Bool.and_eq_true, List.all_eq_true] at h
  obtain ⟨v, hv⟩ := Option.isSome_iff_exists.1 (h.1 key hkey)
  exact ⟨v, orThrow_eq_ok.2 hv⟩

lemma raises_item {o : JsonObject} {keys : List String} {key : String} {faults : List FrameFault}
    (h : hasKeys o keys = true) (hkey : key ∈ keys) : Raises faults (item o key) := by
  obtain ⟨v, hv⟩ := exists_item _ h hkey
  rw [hv]
  exact raises_pure v

lemma exists_sessionRequest {o : JsonObject} {keys : List String} (h : hasKeys o keys = true)
    (hkey : "session_id" ∈ keys) : ∃ r, sessionRequest o = .ok r := by
  obtain ⟨v, hv⟩ := exists_item _ h hkey
  simp only [sessionRequest, hv, ok_bind]
  split
  · exact ⟨_, rfl⟩
  · exact ⟨_, rfl⟩

lemma exists_decodeSessionRequest (body : Bytes) : ∃ r, decodeSessionRequest lib body = .ok r := by
  have hload : Raises [.value, .recursion] (some <$> loadText lib body) :=
    (raises_loadText body).bind fun _ _ => raises_pure _
  obtain ⟨value, hvalue⟩ := exists_rescue hload none
  simp only [decodeSessionRequest, hvalue, ok_bind]
  split
  · rename_i o
    split_ifs with hkeys
    · rcases Bool.or_eq_true_iff.1 hkeys with hkeys | hkeys
      · exact exists_sessionRequest hkeys (by simp)
      · exact exists_sessionRequest hkeys (by simp)
    · exact ⟨_, rfl⟩
  · exact ⟨_, rfl⟩

lemma exists_callFields {o : JsonObject} (h : hasKeys o ["operation", "payload"] = true) :
    ∃ r, callFields o = .ok r := by
  obtain ⟨operation, hoperation⟩ := exists_item "operation" h (by simp)
  obtain ⟨payload, hpayload⟩ := exists_item "payload" h (by simp)
  simp only [callFields, hoperation, hpayload, ok_bind]
  split
  · exact ⟨_, rfl⟩
  · exact ⟨_, rfl⟩

lemma exists_readCall (secret : String) (value : Option JsonValue) :
    ∃ r, readCall (encode secret) value = .ok r := by
  unfold readCall
  split
  · split_ifs with hkeys
    · obtain ⟨fields, hfields⟩ := exists_callFields hkeys
      rw [hfields, ok_bind, decode_encode]
      split
      · exact ⟨_, rfl⟩
      · exact ⟨_, rfl⟩
    · exact ⟨_, rfl⟩
  · exact ⟨_, rfl⟩

/-- The secret of a session is the text of a token, so the token of a call that carries it can be
read. -/
lemma exists_decodeCall (body : Bytes) (secret : String) :
    ∃ r, decodeCall lib body (encode secret) = .ok r := by
  have hload : Raises [.value, .recursion]
      (some <$> loadBytes lib (body.drop (tokenSize body + 2))) :=
    (raises_mapError _ (by simp) (by simp)).bind fun _ _ => raises_pure _
  obtain ⟨value, hvalue⟩ := exists_rescue hload none
  unfold decodeCall
  split_ifs with hshort hsize htoken
  · exact ⟨_, rfl⟩
  · exact ⟨_, rfl⟩
  · exact ⟨_, rfl⟩
  · rw [not_not] at htoken
    rw [htoken, hvalue]
    exact exists_readCall secret value

lemma raises_answers (o : JsonObject) (key : String) (ok : Bool) {faults : List FrameFault} :
    Raises faults (answers o key ok) := by
  unfold answers
  split_ifs with hkeys
  · exact (raises_item hkeys (by simp)).bind fun _ _ => raises_pure _
  · exact raises_pure _

/-- A positive answer is about an object with the two keys. -/
lemma hasKeys_of_answers {o : JsonObject} {key : String} {ok : Bool}
    (h : answers o key ok = .ok true) : hasKeys o ["ok", key] = true := by
  unfold answers at h
  split_ifs at h with hkeys
  · exact hkeys
  · simp at h

lemma raises_decodeResult (body : Bytes) : Raises [.unavailable] (decodeResult lib body) := by
  apply raises_rescue
  refine (raises_mapError _ (by simp) (by simp)).bind fun value _ => ?_
  unfold readResult
  split
  · refine Raises.bind (raises_answers _ _ _) fun succeeded hsucceeded => ?_
    split_ifs with hok
    · subst hok
      exact (raises_item (hasKeys_of_answers hsucceeded) (by simp)).bind fun _ _ => raises_pure _
    · refine Raises.bind (raises_answers _ _ _) fun failed _ => ?_
      split
      · unfold resultFailure
        split
        · exact raises_pure _
        · exact raises_pure _
        · exact raises_pure _
        · exact raises_throw (by simp)
      · exact raises_throw (by simp)
  · exact raises_throw (by simp)

lemma raises_redeemedSession (session : JsonObject) :
    Raises [.denied, .type, .value, .recursion] (redeemedSession session) := by
  unfold redeemedSession
  split
  · split_ifs with hempty
    · exact raises_throw (by simp)
    · refine (raises_orThrow fun _ => by simp).bind fun role _ => Raises.bind ?_ fun _ _ =>
        raises_pure _
      unfold sessionOperations
      split
      · refine (raises_mapM (fun _ => raises_orThrow fun _ => by simp) _).bind fun _ _ => ?_
        split_ifs
        · exact raises_throw (by simp)
        · exact raises_pure _
      · exact raises_throw (by simp)
  · exact raises_throw (by simp)

lemma raises_decodeRedemption (body : Option Bytes) :
    Raises [.denied] (decodeRedemption lib body) := by
  apply raises_rescue
  refine (raises_orThrow fun _ => by simp).bind fun body _ => ?_
  refine (raises_mapError _ (by simp) (by simp)).bind fun value _ => ?_
  split
  · split_ifs
    · split
      · split_ifs
        · exact raises_redeemedSession _
        · exact raises_throw (by simp)
      · exact raises_throw (by simp)
    · exact raises_throw (by simp)
  · exact raises_throw (by simp)

/-! ## Round trips -/

lemma fromBytesBig_toBytesBig (n : ℕ) (rest : Bytes) :
    tokenSize (toBytesBig n ++ rest) = n := by
  show n / 256 * 256 + n % 256 = n
  exact Nat.div_add_mod' n 256

/-- The frame of a call. -/
lemma encodeCall_eq_ok {operation : String} {payload : JsonObject} {token body : Bytes} :
    encodeCall lib operation payload token = .ok body ↔
      token ≠ [] ∧ token.length ≤ tokenLimit ∧
      lib.accepts (callDocument operation payload) = true ∧
      body = toBytesBig token.length ++ token ++
        encode (callDocument operation payload).canonicalJson ∧
      body.length ≤ rpcFrameLimit := by
  simp only [encodeCall, bind_eq_ok, require_eq_ok, exists_const, mapError_eq_ok,
    JsonLibrary.canonicalBytes_eq_ok, pure_eq_ok]
  constructor
  · rintro ⟨⟨hne, hlimit⟩, document, ⟨haccepts, rfl⟩, hlength, rfl⟩
    exact ⟨hne, hlimit, haccepts, rfl, hlength⟩
  · rintro ⟨hne, hlimit, haccepts, rfl, hlength⟩
    exact ⟨⟨hne, hlimit⟩, _, ⟨haccepts, rfl⟩, hlength, rfl⟩

lemma length_encode_pos {v : JsonValue} (h : printable v = true) :
    0 < (encode v.canonicalJson).length := by
  obtain ⟨c, cs, hcs, -⟩ := head_canonicalJson h
  rw [encode, hcs]
  exact length_flatMap_utf8Char_pos (by simp)

/-- Reading a printed value back. -/
lemma loadBytes_encode {v : JsonValue} (h : lib.accepts v = true) :
    loadBytes lib (encode v.canonicalJson) = .ok v.canonical := by
  rw [loadBytes, lib.loadsBytes_encode v h]
  rfl

/-- A call that was written is read back under its token. -/
lemma decodeCall_of_encodeCall {operation token : String} {payload : JsonObject} {body : Bytes}
    (hoperation : operation ≠ "")
    (h : encodeCall lib operation payload (encode token) = .ok body) :
    decodeCall lib body (encode token) =
      .ok (some (operation, canonicalEntries payload, token)) := by
  obtain ⟨hne, hlimit, haccepts, hbody, -⟩ := encodeCall_eq_ok.1 h
  generalize hdocument : encode (callDocument operation payload).canonicalJson = document at hbody
  have hdocumentPos : 0 < document.length := by
    rw [← hdocument]
    exact length_encode_pos (lib.printable_of_accepts _ haccepts)
  have htokenPos : 0 < (encode token).length := List.length_pos_iff.2 hne
  have hsize : tokenSize body = (encode token).length := by
    rw [hbody, List.append_assoc]
    exact fromBytesBig_toBytesBig _ _
  have hlength : body.length = 2 + (encode token).length + document.length := by
    rw [hbody, List.length_append, List.length_append]
    rfl
  have hdrop : body.drop 2 = encode token ++ document := by
    rw [hbody]
    rfl
  have htoken : tokenPart body = encode token := by
    rw [tokenPart, hdrop, hsize, List.take_left]
  have hrest : body.drop (tokenSize body + 2) = document := by
    rw [Nat.add_comm, ← List.drop_drop, hdrop, hsize, List.drop_left]
  have hload : loadBytes lib document = .ok (.dict (canonicalEntries
      [("operation", .str operation), ("payload", .dict payload)])) := by
    rw [← hdocument]
    exact loadBytes_encode haccepts
  have hkeys : hasKeys (canonicalEntries [("operation", .str operation), ("payload", .dict payload)])
      ["operation", "payload"] = true := by
    rw [hasKeys_canonicalEntries]
    rfl
  have hfields : callFields
      (canonicalEntries [("operation", .str operation), ("payload", .dict payload)]) =
        .ok (some (operation, canonicalEntries payload)) := by
    simp [callFields, item, orThrow, hoperation, pure, Except.pure]
  have hshort : ¬ body.length < 3 := by omega
  have hsizes : ¬ (tokenSize body = 0 ∨ tokenLimit < tokenSize body ∨
      body.length ≤ tokenSize body + 2) := by omega
  rw [decodeCall, if_neg hshort, if_neg hsizes, if_neg (not_not.2 htoken), hrest, hload, htoken]
  show readCall (encode token) (some (.dict (canonicalEntries
    [("operation", .str operation), ("payload", .dict payload)]))) = _
  rw [readCall, if_pos hkeys, hfields, ok_bind, decode_encode]
  rfl

/-- Equality of results. -/
def GatewayResult.Same : GatewayResult → GatewayResult → Prop
  | .success v, .success w => v.Same w
  | .failure e, .failure f => e = f
  | _, _ => False

lemma readResult_success {o : JsonObject} {v : JsonValue}
    (hkeys : hasKeys o ["ok", "result"] = true) (hok : getEntry "ok" o = some (.bool true))
    (hresult : getEntry "result" o = some v) : readResult (.dict o) = .ok (.success v) := by
  have hanswers : answers o "result" true = .ok true := by
    simp [answers, hkeys, item, hok, orThrow, pure, Except.pure]
  rw [readResult, hanswers, ok_bind, if_pos rfl, item, hresult]
  rfl

lemma readResult_failure {o error : JsonObject} (hsuccess : hasKeys o ["ok", "result"] = false)
    (hkeys : hasKeys o ["ok", "error"] = true) (hok : getEntry "ok" o = some (.bool false))
    (herror : getEntry "error" o = some (.dict error)) :
    readResult (.dict o) = resultFailure error := by
  have hsucceeded : answers o "result" true = .ok false := by
    simp [answers, hsuccess, pure, Except.pure]
  have hfailed : answers o "error" false = .ok true := by
    simp [answers, hkeys, item, hok, orThrow, pure, Except.pure]
  rw [readResult, hsucceeded, ok_bind, if_neg (by simp), hfailed, ok_bind, herror]

/-- The documents of results are read as results. -/
lemma exists_readResult (result : GatewayResult) :
    ∃ r, readResult (resultDocument result).canonical = .ok r ∧ r.Same result := by
  cases result with
  | success value =>
    refine ⟨.success value.canonical, ?_, canonical_same value⟩
    apply readResult_success
    · rw [hasKeys_canonicalEntries]
      rfl
    · simp
    · simp
  | failure error =>
    obtain ⟨code, message, eventId⟩ := error
    refine ⟨.failure ⟨code, message, eventId⟩, ?_, rfl⟩
    have hread := readResult_failure
      (o := canonicalEntries [("ok", .bool false), ("error", .dict
        [("code", .str code), ("message", .str message),
         ("event_id", (eventId.map JsonValue.str).getD .null)])])
      (by rw [hasKeys_canonicalEntries]; rfl) (by rw [hasKeys_canonicalEntries]; rfl)
      (by rw [getEntry_canonicalEntries]; rfl) (by rw [getEntry_canonicalEntries]; rfl)
    refine Eq.trans hread ?_
    cases eventId with
    | none =>
      rw [resultFailure]
      simp only [getEntry_canonicalEntries]
      rfl
    | some id =>
      rw [resultFailure]
      simp only [getEntry_canonicalEntries]
      rfl

/-- A result that was written is read back. -/
lemma exists_decodeResult {result : GatewayResult}
    (h : lib.accepts (resultDocument result) = true) :
    ∃ r, decodeResult lib (encode (resultDocument result).canonicalJson) = .ok r ∧
      r.Same result := by
  obtain ⟨r, hr, hsame⟩ := exists_readResult result
  refine ⟨r, ?_, hsame⟩
  rw [decodeResult, loadBytes_encode h, ok_bind, hr]
  rfl

/-! ## The two ends of a channel -/

/-- A call is read under its own token only. -/
lemma tokenPart_of_decodeCall {body secret : Bytes} {call : String × JsonObject × String}
    (h : decodeCall lib body secret = .ok (some call)) :
    tokenPart body = secret ∧ secret.length = tokenSize body := by
  unfold decodeCall at h
  split_ifs at h with hshort hsize htoken
  · simp at h
  · simp at h
  · simp at h
  · rw [not_not] at htoken
    refine ⟨htoken, ?_⟩
    rw [← htoken, tokenPart, List.length_take, List.length_drop]
    omega

end Aizim.Gateway
