import Aizim.Framework.JsonLibrary
import Aizim.Framework.JsonRoundTrip

/-!
# Frames of the state service

The bodies of the frames that a client and the state service exchange, and the two readers of
`rpc.py`.  Both read a document first: bytes, a text, a JSON value, and once more its canonical
encoding, which is made only to see that it can be.  A `try` around each of the two steps turns what
it catches into the protocol error `MALFORMED_FRAME`.

The readers raise nothing else exactly where the interpreter grants the frames and the digits that
the document asks for (`Affordable`): the `try` statements name no `RecursionError`, and the first
one no `ValueError`.  `rpcFrames_total_iff` says so, and that a request or a response is read back
from its canonical encoding.
-/

namespace Aizim.State.Rpc

open Metered PyJson PyValue

/-- `RpcProtocolError`, with its code. -/
structure RpcProtocolError where
  code : String
  deriving DecidableEq

/-- The protocol error of a frame that cannot be read. -/
def malformedFrame : PyFault RpcProtocolError := .raised ⟨"MALFORMED_FRAME"⟩

/-- `MAX_FRAME_BYTES` -/
def maxFrameBytes : ℕ := 1024 * 1024

section

variable {F : Type}

/-- `RpcRequest` -/
structure RpcRequest (F : Type) where
  operation : PyText
  params : PyObject F
  sessionId : Option PyText

/-- `RpcErrorBody` -/
structure RpcErrorBody where
  code : PyText
  message : PyText
  eventId : Option PyText
  deriving DecidableEq

/-- `RpcResponse` -/
inductive RpcResponse (F : Type)
  | success (result : PyValue F)
  | failure (error : RpcErrorBody)

/-- The texts of a request are not empty. -/
def RpcRequest.WellFormed (r : RpcRequest F) : Prop := r.operation ≠ [] ∧ r.sessionId ≠ some []

/-- The texts of a failure are not empty. -/
def RpcResponse.WellFormed : RpcResponse F → Prop
  | success _ => True
  | failure error => error.code ≠ [] ∧ error.message ≠ [] ∧ error.eventId ≠ some []

/-! ## Documents -/

/-- `None`, or the text. -/
def optionalValue (text : Option PyText) : PyValue F := text.elim .null .str

/-- The document of a request. -/
def requestDocument (r : RpcRequest F) : PyValue F :=
  .dict [(pyString "operation", .str r.operation), (pyString "params", .dict r.params),
    (pyString "session_id", optionalValue r.sessionId)]

/-- The document of a response. -/
def responseDocument : RpcResponse F → PyValue F
  | .success result => .dict [(pyString "ok", .bool true), (pyString "result", result)]
  | .failure error => .dict [(pyString "ok", .bool false), (pyString "error",
      .dict [(pyString "code", .str error.code), (pyString "message", .str error.message),
        (pyString "event_id", optionalValue error.eventId)])]

/-! ## Reading fields -/

/-- `_text` -/
def text (document : PyObject F) (key : String) : Except (PyFault RpcProtocolError) PyText :=
  match document.get? (pyString key) with
  | some (.str value) => if value = [] then throw malformedFrame else pure value
  | _ => throw malformedFrame

/-- `_optional_text` -/
def optionalText (document : PyObject F) (key : String) :
    Except (PyFault RpcProtocolError) (Option PyText) :=
  match document.get? (pyString key) with
  | none => pure none
  | some .null => pure none
  | some (.str value) => if value = [] then throw malformedFrame else pure (some value)
  | some _ => throw malformedFrame

end

section

variable {F : Type} [PyFloat F] (granted : JsonDemand → Bool)

/-- `json.loads(body.decode())` -/
def loadsBody (body : Bytes) : JsonUse RpcProtocolError (PyValue F) := do
  let text ← lift (orThrow (decode body) .unicode)
  loads (fun pairs => .ok (pyDict pairs)) (pyText text.toList)

/-- `_json_document` -/
def jsonDocument (body : Bytes) : Except (PyFault RpcProtocolError) (PyObject F) := do
  let value ← rescue [.unicode, .decode] ((loadsBody body).run granted JsonDemand.refusal)
    (throw malformedFrame)
  match value with
  | .dict document =>
    rescue [.type, .value, .unicode, .decode]
      ((fun _ => document) <$> (PyValue.dict document).canonicalJson.run granted JsonDemand.refusal)
      (throw malformedFrame)
  | _ => throw malformedFrame

/-- `_decode_request` -/
def decodeRequest (body : Bytes) : Except (PyFault RpcProtocolError) (RpcRequest F) := do
  let document ← jsonDocument granted body
  require (document.hasKeys ["operation", "params", "session_id"] = true) malformedFrame
  match document.get? (pyString "params") with
  | some (.dict params) => do
    let operation ← text document "operation"
    let sessionId ← optionalText document "session_id"
    pure ⟨operation, params, sessionId⟩
  | _ => throw malformedFrame

/-- The part of `_decode_response` that reads a failure. -/
def decodeFailure (document : PyObject F) : Except (PyFault RpcProtocolError) (RpcResponse F) :=
  match document.get? (pyString "ok"), document.get? (pyString "error") with
  | some (.bool false), some (.dict error) => do
    require (document.hasKeys ["ok", "error"] = true) malformedFrame
    require (PyObject.hasKeys error ["code", "message", "event_id"] = true) malformedFrame
    let code ← text error "code"
    let message ← text error "message"
    let eventId ← optionalText error "event_id"
    pure (.failure ⟨code, message, eventId⟩)
  | _, _ => throw malformedFrame

/-- `_decode_response` -/
def decodeResponse (body : Bytes) : Except (PyFault RpcProtocolError) (RpcResponse F) := do
  let document ← jsonDocument granted body
  match document.get? (pyString "ok"), document.get? (pyString "result") with
  | some (.bool true), some result =>
    if document.hasKeys ["ok", "result"] then pure (.success result) else decodeFailure document
  | _, _ => decodeFailure document

/-- The body that `rpc_call` writes. -/
def requestBody (request : RpcRequest F) : Except (PyFault RpcProtocolError) Bytes := do
  let encoded ← (requestDocument request).canonicalJson.run granted JsonDemand.refusal
  require (encoded.length ≤ maxFrameBytes) (.raised ⟨"FRAME_TOO_LARGE"⟩)
  pure encoded

/-- The failure that stands for a response beyond the limit of a frame. -/
def responseTooLarge : RpcResponse F :=
  .failure ⟨pyString "RESPONSE_TOO_LARGE", pyString "response exceeds the service frame limit", none⟩

/-- The body that `_write_response` writes. -/
def responseBody (response : RpcResponse F) : Except (PyFault RpcProtocolError) Bytes := do
  let encoded ← (responseDocument response).canonicalJson.run granted JsonDemand.refusal
  if maxFrameBytes < encoded.length then
    (responseDocument (responseTooLarge : RpcResponse F)).canonicalJson.run granted
      JsonDemand.refusal
  else pure encoded

end

/-! ## What a reader raises -/

section

variable {F : Type} [PyFloat F] {granted : JsonDemand → Bool}

omit [PyFloat F] in
lemma raises_text (document : PyObject F) (key : String) :
    Raises [malformedFrame] (text document key) := by
  unfold text
  split
  · split_ifs
    · exact raises_throw List.mem_cons_self
    · exact raises_pure _
  · exact raises_throw List.mem_cons_self

omit [PyFloat F] in
lemma raises_optionalText (document : PyObject F) (key : String) :
    Raises [malformedFrame] (optionalText document key) := by
  unfold optionalText
  split
  · exact raises_pure _
  · exact raises_pure _
  · split_ifs
    · exact raises_throw List.mem_cons_self
    · exact raises_pure _
  · exact raises_throw List.mem_cons_self

omit [PyFloat F] in
lemma raises_decodeFailure (document : PyObject F) :
    Raises [malformedFrame] (decodeFailure document) := by
  unfold decodeFailure
  split
  · refine (raises_require List.mem_cons_self).bind fun _ _ =>
      (raises_require List.mem_cons_self).bind fun _ _ => ?_
    exact (raises_text _ _).bind fun _ _ => (raises_text _ _).bind fun _ _ =>
      (raises_optionalText _ _).bind fun _ _ => raises_pure _
  · exact raises_throw List.mem_cons_self

/-- After its document is read, a request raises nothing but the protocol error. -/
lemma raises_decodeRequest_iff {body : Bytes} :
    Raises [malformedFrame] (decodeRequest granted body : Except _ (RpcRequest F)) ↔
      Raises [malformedFrame] (jsonDocument granted body : Except _ (PyObject F)) := by
  constructor
  · intro h fault hfault
    apply h
    rw [decodeRequest, hfault]
    rfl
  · intro h
    refine h.bind fun document _ => (raises_require List.mem_cons_self).bind fun _ _ => ?_
    split
    · exact (raises_text _ _).bind fun _ _ => (raises_optionalText _ _).bind fun _ _ =>
        raises_pure _
    · exact raises_throw List.mem_cons_self

/-- After its document is read, a response raises nothing but the protocol error. -/
lemma raises_decodeResponse_iff {body : Bytes} :
    Raises [malformedFrame] (decodeResponse granted body : Except _ (RpcResponse F)) ↔
      Raises [malformedFrame] (jsonDocument granted body : Except _ (PyObject F)) := by
  constructor
  · intro h fault hfault
    apply h
    rw [decodeResponse, hfault]
    rfl
  · intro h
    refine h.bind fun document _ => ?_
    split
    · split_ifs
      · exact raises_pure _
      · exact raises_decodeFailure _
    · exact raises_decodeFailure _

variable (F granted) in
/-- What the reading of a body asks for is granted: the frames and the digits of the decoder, and,
where the body holds an object, the frames of the serializer. -/
def Affordable (body : Bytes) : Prop :=
  (∀ d ∈ (loadsBody body : JsonUse _ (PyValue F)).demands, granted d = true) ∧
    ∀ document : PyObject F, (loadsBody body).outcome = .ok (.dict document) →
      ∀ d ∈ ((PyValue.dict document).canonicalJson : JsonUse RpcProtocolError Bytes).demands,
        d.isFrame = true → granted d = true

lemma raises_loadsBody (body : Bytes) :
    Raises [.decode, .unicode] (loadsBody body : JsonUse _ (PyValue F)).outcome := by
  refine raises_outcome_bind (raises_orThrow fun _ => by simp) fun text _ => ?_
  have hnone : ∀ es : PyObject F, Raises []
      ((Except.ok (pyDict es) : Except RpcProtocolError _).mapError PyFault.raised) :=
    fun es => raises_pure _
  refine (raises_loads hnone _).mono ?_
  simp

/-- The document of a body is read, or refused with the protocol error, exactly where the
interpreter grants what that asks for. -/
lemma raises_jsonDocument_iff {body : Bytes} :
    Raises [malformedFrame] (jsonDocument granted body : Except _ (PyObject F)) ↔
      Affordable F granted body := by
  constructor
  · intro h
    have hgranted : ∀ d ∈ (loadsBody body : JsonUse _ (PyValue F)).demands, granted d = true := by
      intro d hd
      by_contra hrefused
      rw [Bool.not_eq_true] at hrefused
      obtain ⟨d', -, -, hrun⟩ := exists_run_eq_error JsonDemand.refusal hd hrefused
      have hfault := h d'.refusal (by
        rw [jsonDocument, hrun]
        cases d' <;> rfl)
      cases d' <;> simp [JsonDemand.refusal, malformedFrame] at hfault
    refine ⟨hgranted, fun document houtcome d hd hframe => ?_⟩
    by_contra hrefused
    rw [Bool.not_eq_true] at hrefused
    have hrun := run_canonicalJson_eq_recursion hd hframe hrefused
    have hfault := h .recursion (by
      rw [jsonDocument, run_of_granted hgranted, houtcome]
      show rescue _ ((fun _ => document) <$> (PyValue.dict document).canonicalJson.run granted _) _
        = _
      rw [hrun]
      rfl)
    simp [malformedFrame] at hfault
  · rintro ⟨hgranted, hframes⟩
    have hread : Raises [malformedFrame]
        (rescue [.unicode, .decode] ((loadsBody body).run granted JsonDemand.refusal)
          (throw malformedFrame) : Except _ (PyValue F)) := by
      rw [run_of_granted hgranted]
      refine Raises.rescue ((raises_loadsBody body).mono ?_) (raises_throw List.mem_cons_self)
      simp
    refine hread.bind fun value hvalue => ?_
    have houtcome : (loadsBody body).outcome = .ok value := by
      rw [run_of_granted hgranted] at hvalue
      cases hload : (loadsBody body : JsonUse _ (PyValue F)).outcome with
      | ok other =>
        rw [hload] at hvalue
        exact hvalue
      | error fault =>
        rw [hload] at hvalue
        unfold rescue at hvalue
        dsimp only at hvalue
        split_ifs at hvalue
    cases value with
    | dict document =>
      refine Raises.rescue ?_ (raises_throw List.mem_cons_self)
      intro fault hfault
      have hraises := raises_canonicalJson (hframes document houtcome)
      cases hrun : ((PyValue.dict document).canonicalJson : JsonUse RpcProtocolError Bytes).run
          granted JsonDemand.refusal with
      | ok bytes =>
        rw [hrun] at hfault
        cases hfault
      | error other =>
        rw [hrun] at hfault
        obtain rfl := Except.error.inj hfault
        have hmem := hraises _ hrun
        rw [List.mem_singleton] at hmem
        rw [hmem]
        simp
    | _ => exact raises_throw List.mem_cons_self

end

/-! ## Round trips -/

section

variable {F : Type} [PyFloat F] {granted : JsonDemand → Bool}

/-- Two values are equal, whatever the order of the keys of their objects. -/
def SameValue (v w : PyValue F) : Prop :=
  ∃ j k : JsonValue, v = ofJson j ∧ w = ofJson k ∧ j.Same k

/-- Two requests are equal. -/
def RpcRequest.Same (r r' : RpcRequest F) : Prop :=
  r.operation = r'.operation ∧ SameValue (.dict r.params) (.dict r'.params) ∧
    r.sessionId = r'.sessionId

/-- Two responses are equal. -/
def RpcResponse.Same : RpcResponse F → RpcResponse F → Prop
  | success result, success result' => SameValue result result'
  | failure error, failure error' => error = error'
  | _, _ => False

/-- An object is read back from its canonical encoding, with its keys sorted. -/
lemma jsonDocument_of_encoding {v : PyValue F} {es : JsonObject} {bytes : Bytes}
    (hrun : (v.canonicalJson : JsonUse RpcProtocolError Bytes).run granted JsonDemand.refusal =
      .ok bytes) (hv : v.toJson? = some (.dict es))
    (hasks : ∀ ask ∈ textAsks 1 v, granted ask = true) :
    jsonDocument granted bytes =
      .ok (ofJsonEntries (JsonValue.canonicalEntries es) : PyObject F) := by
  obtain rfl := ofJson_of_toJson? hv
  obtain ⟨bytes', hagain⟩ := canonicalJson_ofJson hrun
  obtain ⟨j, hj, rfl⟩ := (run_canonicalJson_eq_ok_iff.mp hrun).2
  obtain rfl : .dict es = j := Option.some.inj (hv.symm.trans hj)
  have hload : (loadsBody (encode (JsonValue.dict es).canonicalJson) : JsonUse _ (PyValue F)) =
      ⟨textAsks 1 (ofJson (JsonValue.dict es).canonical : PyValue F),
        .ok (ofJson (JsonValue.dict es).canonical)⟩ := by
    have hdict : ∀ pairs : PyObject F, (pairs.map Prod.fst).Nodup →
        (Except.ok (pyDict pairs) : Except RpcProtocolError _) = .ok pairs :=
      fun pairs hpairs => congrArg Except.ok (pyDict_of_nodup hpairs)
    have hround := loads_canonicalJson hdict (printable_of_toJson? hv)
    rw [loadsBody, decode_encode]
    show (⟨[], .ok _⟩ >>= fun text : String => loads _ (pyText text.toList) : JsonUse _ _) = _
    rw [mk_ok_bind, hround]
    rfl
  have hgranted : ∀ d ∈ (loadsBody (encode (JsonValue.dict es).canonicalJson) :
      JsonUse _ (PyValue F)).demands, granted d = true := by
    rw [hload]
    intro d hd
    exact hasks d (textAsks_canonical_subset 1 _ hd)
  rw [jsonDocument, run_of_granted hgranted, hload]
  show rescue _ ((fun _ => _) <$> ((ofJson (JsonValue.dict es).canonical : PyValue F).canonicalJson :
    JsonUse RpcProtocolError Bytes).run granted JsonDemand.refusal) _ = _
  rw [hagain]
  rfl

/-- The text of an optional text. -/
def optionalJson (text : Option String) : JsonValue := text.elim .null .str

lemma toJson?_optionalValue {text : Option PyText} {j : JsonValue}
    (h : (optionalValue text : PyValue F).toJson? = some j) :
    ∃ plain : Option String, text = plain.map pyString ∧ j = optionalJson plain := by
  cases text with
  | none =>
    obtain rfl := Option.some.inj h
    exact ⟨none, rfl, rfl⟩
  | some s =>
    simp only [optionalValue, Option.elim_some, PyValue.toJson?, Option.map_eq_some_iff] at h
    obtain ⟨cs, hcs, rfl⟩ := h
    refine ⟨some (String.ofList cs), ?_, rfl⟩
    rw [Option.map_some, pyString, String.toList_ofList, pyText_of_plainChars? hcs]

lemma toJson?_str {s : PyText} {j : JsonValue} (h : (.str s : PyValue F).toJson? = some j) :
    ∃ plain : String, s = pyString plain ∧ j = .str plain := by
  simp only [PyValue.toJson?, Option.map_eq_some_iff] at h
  obtain ⟨cs, hcs, rfl⟩ := h
  exact ⟨String.ofList cs, by rw [pyString, String.toList_ofList, pyText_of_plainChars? hcs], rfl⟩

lemma plainChars?_pyString (s : String) : (plainChars? (pyString s)).map String.ofList = some s := by
  rw [pyString, plainChars?_pyText, Option.map_some, String.ofList_toList]

/-- The text of an object is that of its entries. -/
lemma toJsonEntries?_cons {key : String} {v : PyValue F} {o : PyObject F} {es : JsonObject}
    (h : toJsonEntries? ((pyString key, v) :: o) = some es) :
    ∃ j fs, v.toJson? = some j ∧ toJsonEntries? o = some fs ∧ es = (key, j) :: fs := by
  simp only [toJsonEntries?, pyString, plainChars?_pyText, Option.bind_eq_bind, Option.bind_some,
    Option.bind_eq_some_iff, Option.pure_def, String.ofList_toList] at h
  obtain ⟨j, hj, fs, hfs, h⟩ := h
  exact ⟨j, fs, hj, hfs, (Option.some.inj h).symm⟩

omit [PyFloat F] in
lemma text_of_get? {document : PyObject F} {key : String} {value : PyText}
    (h : document.get? (pyString key) = some (.str value)) (hvalue : value ≠ []) :
    text document key = .ok value := by
  rw [text, h]
  exact if_neg hvalue

omit [PyFloat F] in
lemma optionalText_of_get? {document : PyObject F} {key : String} {value : Option PyText}
    (h : document.get? (pyString key) = some (optionalValue value)) (hvalue : value ≠ some []) :
    optionalText document key = .ok value := by
  rw [optionalText, h]
  cases value with
  | none => rfl
  | some s => exact if_neg fun hs => hvalue (congrArg some hs)

lemma ofJson_optionalJson (plain : Option String) :
    (ofJson (optionalJson plain) : PyValue F) = optionalValue (plain.map pyString) := by
  cases plain <;> rfl

/-- An encoded request is read back where its texts are not empty. -/
lemma decodeRequest_of_encoding {r : RpcRequest F} {bytes : Bytes}
    (hrun : ((requestDocument r).canonicalJson : JsonUse RpcProtocolError Bytes).run granted
      JsonDemand.refusal = .ok bytes)
    (hasks : ∀ ask ∈ textAsks 1 (requestDocument r), granted ask = true) (hr : r.WellFormed) :
    ∃ r', decodeRequest granted bytes = .ok r' ∧ r.Same r' := by
  obtain ⟨operation, params, sessionId⟩ := r
  obtain ⟨j, hj, -⟩ := (run_canonicalJson_eq_ok_iff.mp hrun).2
  obtain ⟨es, hes, rfl⟩ := Option.map_eq_some_iff.mp hj
  obtain ⟨j₁, es₁, hoperation, hes₁, rfl⟩ := toJsonEntries?_cons hes
  obtain ⟨j₂, es₂, hparams, hes₂, rfl⟩ := toJsonEntries?_cons hes₁
  obtain ⟨j₃, es₃, hsession, hes₃, rfl⟩ := toJsonEntries?_cons hes₂
  obtain rfl := Option.some.inj hes₃
  obtain ⟨name, rfl, rfl⟩ := toJson?_str hoperation
  obtain ⟨plain, rfl, rfl⟩ := toJson?_optionalValue hsession
  obtain ⟨ps, hps, rfl⟩ := Option.map_eq_some_iff.mp hparams
  have hdocument := jsonDocument_of_encoding hrun hj hasks
  have hcanonical : JsonValue.canonicalEntries
      [("operation", .str name), ("params", .dict ps), ("session_id", optionalJson plain)] =
        [("operation", .str name), ("params", .dict (JsonValue.canonicalEntries ps)),
          ("session_id", optionalJson plain)] := by
    cases plain <;> rfl
  have hentries : (ofJsonEntries (JsonValue.canonicalEntries
      [("operation", .str name), ("params", .dict ps), ("session_id", optionalJson plain)]) :
        PyObject F) = [(pyString "operation", .str (pyString name)),
          (pyString "params", .dict (ofJsonEntries (JsonValue.canonicalEntries ps))),
          (pyString "session_id", optionalValue (plain.map pyString))] := by
    rw [hcanonical, ← ofJson_optionalJson]
    rfl
  rw [hentries] at hdocument
  refine ⟨⟨pyString name, ofJsonEntries (JsonValue.canonicalEntries ps), plain.map pyString⟩, ?_,
    rfl, ⟨.dict ps, .dict (JsonValue.canonicalEntries ps), ?_, rfl, ?_⟩, rfl⟩
  · rw [decodeRequest, hdocument, ok_bind]
    show (text _ "operation" >>= fun operation => optionalText _ "session_id" >>= fun sessionId =>
      pure _) = _
    rw [text_of_get? rfl hr.1, ok_bind, optionalText_of_get? rfl hr.2, ok_bind]
    rfl
  · rw [ofJson, ofJsonEntries_of_toJsonEntries? hps]
  · exact (JsonValue.canonical_same (.dict ps)).symm

/-- An encoded response is read back where its texts are not empty. -/
lemma decodeResponse_of_encoding {r : RpcResponse F} {bytes : Bytes}
    (hrun : ((responseDocument r).canonicalJson : JsonUse RpcProtocolError Bytes).run granted
      JsonDemand.refusal = .ok bytes)
    (hasks : ∀ ask ∈ textAsks 1 (responseDocument r), granted ask = true) (hr : r.WellFormed) :
    ∃ r', decodeResponse granted bytes = .ok r' ∧ r.Same r' := by
  obtain ⟨j, hj, -⟩ := (run_canonicalJson_eq_ok_iff.mp hrun).2
  cases r with
  | success result =>
    obtain ⟨es, hes, rfl⟩ := Option.map_eq_some_iff.mp hj
    obtain ⟨j₁, es₁, hok, hes₁, rfl⟩ := toJsonEntries?_cons hes
    obtain ⟨j₂, es₂, hresult, hes₂, rfl⟩ := toJsonEntries?_cons hes₁
    obtain rfl := Option.some.inj hok
    obtain rfl := Option.some.inj hes₂
    have hdocument := jsonDocument_of_encoding hrun hj hasks
    have hentries : (ofJsonEntries (JsonValue.canonicalEntries
        [("ok", .bool true), ("result", j₂)]) : PyObject F) =
          [(pyString "ok", .bool true), (pyString "result", ofJson j₂.canonical)] := rfl
    rw [hentries] at hdocument
    refine ⟨.success (ofJson j₂.canonical), ?_, j₂, j₂.canonical, ?_, rfl, ?_⟩
    · rw [decodeResponse, hdocument]
      rfl
    · exact (ofJson_of_toJson? hresult).symm
    · exact j₂.canonical_same.symm
  | failure error =>
    obtain ⟨code, message, eventId⟩ := error
    obtain ⟨es, hes, rfl⟩ := Option.map_eq_some_iff.mp hj
    obtain ⟨j₁, es₁, hok, hes₁, rfl⟩ := toJsonEntries?_cons hes
    obtain ⟨j₂, es₂, herror, hes₂, rfl⟩ := toJsonEntries?_cons hes₁
    obtain rfl := Option.some.inj hok
    obtain rfl := Option.some.inj hes₂
    obtain ⟨fs, hfs, rfl⟩ := Option.map_eq_some_iff.mp herror
    obtain ⟨k₁, fs₁, hcode, hfs₁, rfl⟩ := toJsonEntries?_cons hfs
    obtain ⟨k₂, fs₂, hmessage, hfs₂, rfl⟩ := toJsonEntries?_cons hfs₁
    obtain ⟨k₃, fs₃, hevent, hfs₃, rfl⟩ := toJsonEntries?_cons hfs₂
    obtain rfl := Option.some.inj hfs₃
    obtain ⟨code, rfl, rfl⟩ := toJson?_str hcode
    obtain ⟨message, rfl, rfl⟩ := toJson?_str hmessage
    obtain ⟨plain, rfl, rfl⟩ := toJson?_optionalValue hevent
    have hdocument := jsonDocument_of_encoding hrun hj hasks
    have hcanonical : JsonValue.canonicalEntries [("ok", .bool false), ("error", .dict
        [("code", .str code), ("message", .str message), ("event_id", optionalJson plain)])] =
          [("error", .dict [("code", .str code), ("event_id", optionalJson plain),
            ("message", .str message)]), ("ok", .bool false)] := by
      cases plain <;> rfl
    have hentries : (ofJsonEntries (JsonValue.canonicalEntries [("ok", .bool false), ("error", .dict
        [("code", .str code), ("message", .str message), ("event_id", optionalJson plain)])]) :
          PyObject F) = [(pyString "error", .dict [(pyString "code", .str (pyString code)),
            (pyString "event_id", optionalValue (plain.map pyString)),
            (pyString "message", .str (pyString message))]), (pyString "ok", .bool false)] := by
      rw [hcanonical, ← ofJson_optionalJson]
      rfl
    rw [hentries] at hdocument
    refine ⟨.failure ⟨pyString code, pyString message, plain.map pyString⟩, ?_, rfl⟩
    rw [decodeResponse, hdocument, ok_bind]
    show (text _ "code" >>= fun code => text _ "message" >>= fun message =>
      optionalText _ "event_id" >>= fun eventId => pure _) = _
    rw [text_of_get? rfl hr.1, ok_bind, text_of_get? rfl hr.2.1, ok_bind,
      optionalText_of_get? rfl hr.2.2, ok_bind]
    rfl

/-! ## Readers -/

omit [PyFloat F] in
lemma ne_nil_of_text {document : PyObject F} {key : String} {value : PyText}
    (h : text document key = .ok value) : value ≠ [] := by
  unfold text at h
  split at h
  · split_ifs at h with hempty
    obtain rfl := Except.ok.inj h
    exact hempty
  · cases h

omit [PyFloat F] in
lemma ne_nil_of_optionalText {document : PyObject F} {key : String} {value : Option PyText}
    (h : optionalText document key = .ok value) : value ≠ some [] := by
  unfold optionalText at h
  split at h
  · obtain rfl := Except.ok.inj h
    simp
  · obtain rfl := Except.ok.inj h
    simp
  · split_ifs at h with hempty
    obtain rfl := Except.ok.inj h
    exact fun hsome => hempty (Option.some.inj hsome)
  · cases h

/-- The texts of a request that was read are not empty. -/
lemma wellFormed_of_decodeRequest {body : Bytes} {r : RpcRequest F}
    (h : decodeRequest granted body = .ok r) : r.WellFormed := by
  simp only [decodeRequest, bind_eq_ok] at h
  obtain ⟨document, -, -, -, h⟩ := h
  split at h
  · simp only [bind_eq_ok, pure_eq_ok] at h
    obtain ⟨operation, hoperation, sessionId, hsession, rfl⟩ := h
    exact ⟨ne_nil_of_text hoperation, ne_nil_of_optionalText hsession⟩
  · cases h

omit [PyFloat F] in
lemma wellFormed_of_decodeFailure {document : PyObject F} {r : RpcResponse F}
    (h : decodeFailure document = .ok r) : r.WellFormed := by
  unfold decodeFailure at h
  split at h
  · simp only [bind_eq_ok, pure_eq_ok] at h
    obtain ⟨-, -, -, -, code, hcode, message, hmessage, eventId, hevent, rfl⟩ := h
    exact ⟨ne_nil_of_text hcode, ne_nil_of_text hmessage, ne_nil_of_optionalText hevent⟩
  · cases h

/-- The texts of a failure that was read are not empty. -/
lemma wellFormed_of_decodeResponse {body : Bytes} {r : RpcResponse F}
    (h : decodeResponse granted body = .ok r) : r.WellFormed := by
  simp only [decodeResponse, bind_eq_ok] at h
  obtain ⟨document, -, h⟩ := h
  split at h
  · split_ifs at h
    · obtain rfl := Except.ok.inj h
      trivial
    · exact wellFormed_of_decodeFailure h
  · exact wellFormed_of_decodeFailure h

lemma RpcRequest.WellFormed.of_same {r r' : RpcRequest F} (h : r'.WellFormed)
    (hsame : r.Same r') : r.WellFormed := by
  obtain ⟨hoperation, -, hsession⟩ := hsame
  rw [RpcRequest.WellFormed, hoperation, hsession]
  exact h

lemma RpcResponse.WellFormed.of_same {r r' : RpcResponse F} (h : r'.WellFormed)
    (hsame : r.Same r') : r.WellFormed := by
  cases r with
  | success result => trivial
  | failure error =>
    cases r' with
    | success result => exact hsame.elim
    | failure error' =>
      obtain rfl : error = error' := hsame
      exact h

/-- **Frames.** Whatever the bytes, both readers answer or raise the protocol error exactly where the
interpreter grants what the bytes ask for; what they answer is well formed; and a request or a
response within the limits is read back from its canonical encoding exactly where its texts are not
empty. -/
theorem rpcFrames_total_iff :
    (∀ body : Bytes,
      (Raises [malformedFrame] (decodeRequest granted body : Except _ (RpcRequest F)) ∧
        Raises [malformedFrame] (decodeResponse granted body : Except _ (RpcResponse F))) ↔
      Affordable F granted body) ∧
    (∀ body (r : RpcRequest F), decodeRequest granted body = .ok r → r.WellFormed) ∧
    (∀ body (r : RpcResponse F), decodeResponse granted body = .ok r → r.WellFormed) ∧
    (∀ (r : RpcRequest F) bytes, requestBody granted r = .ok bytes →
      (∀ ask ∈ textAsks 1 (requestDocument r), granted ask = true) →
        ((∃ r', decodeRequest granted bytes = .ok r' ∧ r.Same r') ↔ r.WellFormed)) ∧
    ∀ (r : RpcResponse F) bytes,
      ((responseDocument r).canonicalJson : JsonUse RpcProtocolError Bytes).run granted
        JsonDemand.refusal = .ok bytes →
      bytes.length ≤ maxFrameBytes →
      (∀ ask ∈ textAsks 1 (responseDocument r), granted ask = true) →
        responseBody granted r = .ok bytes ∧
          ((∃ r', decodeResponse granted bytes = .ok r' ∧ r.Same r') ↔ r.WellFormed) := by
  refine ⟨fun body => ?_, fun body r h => wellFormed_of_decodeRequest h,
    fun body r h => wellFormed_of_decodeResponse h, fun r bytes hbody hasks => ?_,
    fun r bytes hrun hlength hasks => ⟨?_, ?_⟩⟩
  · rw [raises_decodeRequest_iff, raises_decodeResponse_iff, and_self]
    exact raises_jsonDocument_iff
  · simp only [requestBody, bind_eq_ok, pure_eq_ok] at hbody
    obtain ⟨encoded, hrun, -, -, rfl⟩ := hbody
    constructor
    · rintro ⟨r', hread, hsame⟩
      exact (wellFormed_of_decodeRequest hread).of_same hsame
    · exact decodeRequest_of_encoding hrun hasks
  · rw [responseBody, hrun, ok_bind, if_neg (Nat.not_lt.mpr hlength)]
    rfl
  · constructor
    · rintro ⟨r', hread, hsame⟩
      exact (wellFormed_of_decodeResponse hread).of_same hsame
    · exact decodeResponse_of_encoding hrun hasks

end

/-! ## A deep frame -/

/-- The limits of an interpreter: integers of 4300 digits, a thousand frames of the program's own,
of which the serializer takes two for each value, and ten thousand of the library's. -/
def interpreterLimits : JsonDemand → Bool
  | .digits count => count ≤ 4300
  | .visiting depth => depth ≤ 500
  | .reading depth => depth ≤ 10000
  | .printing depth => depth ≤ 10000

lemma encode_replicate (k : ℕ) :
    encode (String.ofList (List.replicate k '[')) = List.replicate k 91 := by
  rw [encode, String.toList_ofList]
  induction k with
  | zero => rfl
  | succ k ih =>
    rw [List.replicate_succ, List.flatMap_cons, ih]
    rfl

/-- A body of opening brackets asks for a frame for each. -/
lemma mem_demands_loadsBody (F : Type) [PyFloat F] (k : ℕ) : .reading (k + 1) ∈
    (loadsBody (List.replicate (k + 1) 91) : JsonUse _ (PyValue F)).demands := by
  have hdeep := mem_demands_brackets
    (fun pairs : PyObject F => (.ok (pyDict pairs) : Except RpcProtocolError (PyObject F))) k 2 0
  have hskip := skipBlanks_pyText_cons (c := '[') (by decide) (List.replicate k '[')
  rw [← encode_replicate, loadsBody, decode_encode]
  refine mem_demands_bind.mpr (.inr ⟨_, rfl, ?_⟩)
  rw [String.toList_ofList, loads, List.replicate_succ, hskip]
  refine mem_demands_bind.mpr (.inl ?_)
  rw [← List.replicate_succ]
  have hfuel : 2 * (pyText (List.replicate (k + 1) '[')).length + 1 = 2 * k + 2 + 1 := by
    rw [pyText, List.length_map, List.length_replicate]
    omega
  rw [hfuel]
  simpa using hdeep

/-- A small frame of brackets is not refused: it makes the reader raise a `RecursionError`. -/
theorem deep_frame_escapes : ¬ ∀ body : Bytes, body.length ≤ maxFrameBytes →
    Raises [malformedFrame]
      (decodeRequest interpreterLimits body : Except _ (RpcRequest TextFloat)) := by
  intro h
  have hlength : (List.replicate 10001 91 : Bytes).length ≤ maxFrameBytes := by
    rw [List.length_replicate]
    decide
  have hread := h _ hlength
  rw [raises_decodeRequest_iff, raises_jsonDocument_iff] at hread
  have hgranted := hread.1 _ (mem_demands_loadsBody TextFloat 10000)
  exact absurd hgranted (by decide)

end Aizim.State.Rpc
