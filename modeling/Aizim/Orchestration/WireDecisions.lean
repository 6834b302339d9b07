import Aizim.Framework.JsonBytes
import Aizim.Orchestration.ControllerDispatcher

/-!
# Decisions on the wire

`parseControllerWireDecision` reads the bytes that a backend returns: it decodes them, drops the
nulls of the fields that may be null, encodes what is left, and parses that as a decision, which
decodes once more, checks the schema and then the ceilings of the context.

Both decoders map what `json.loads` raises as a `UnicodeDecodeError` or a `JSONDecodeError`.  The
encoder between them is in no `try`, and no `except` names a `RecursionError`.  So the parser raises
its own exception and no other exactly where the document is `WireReadable`
(`wireDecision_total_iff`), and what it returns passes the dispatcher's own check.
-/

namespace Aizim.Orchestration

open Metered PyJson PyValue

/-! ## Exceptions and decisions -/

/-- `ControllerBackendError`, with its code. -/
structure ControllerBackendError where
  code : String
  deriving DecidableEq

/-- `ControllerBackendError("CONTROLLER_DECISION_INVALID")` -/
def decisionInvalid : PyFault ControllerBackendError := .raised ⟨"CONTROLLER_DECISION_INVALID"⟩

/-- `MAX_RESEARCH_WORKER_TIMEOUT_SECONDS` -/
def maxResearchWorkerTimeoutSeconds : ℚ := 14400

/-- `ControllerDecision`, as the parser returns it. -/
inductive WireDecision
  | dispatch (workerId instruction : String) (budget : Int) (timeoutSeconds : ℚ)
  | blocked (reasonCode : String)
  | reject (reasonCode : String)
  deriving DecidableEq

section

variable {F : Type}

/-! ## Fields -/

/-- `_text` -/
def decisionText (o : PyObject F) (name : String) : Except (PyFault ControllerBackendError) PyText :=
  match o.get? (pyString name) with
  | some (.str s) => pure s
  | _ => throw decisionInvalid

/-- `_integer` -/
def decisionInteger (o : PyObject F) (name : String) : Except (PyFault ControllerBackendError) Int :=
  match o.get? (pyString name) with
  | some (.int i) => pure i
  | _ => throw decisionInvalid

/-- A natural number rounded to the 53 bits of a float, ties to even. -/
def roundToFloat (n : ℕ) : ℕ :=
  if n < 2 ^ 53 then n
  else
    let unit := 2 ^ (n.log2 - 52)
    let (q, r) := (n / unit, n % unit)
    if 2 * r < unit ∨ (2 * r = unit ∧ q % 2 = 0) then q * unit else (q + 1) * unit

/-- `float(value)` of an integer. -/
def floatOfInt (i : Int) : Except (PyFault ControllerBackendError) ℚ := do
  let magnitude := roundToFloat i.natAbs
  require (magnitude < 2 ^ 1024) .overflow
  pure (if i < 0 then -(magnitude : ℚ) else magnitude)

variable [PyFloat F] [PyFloatValue F]

/-- `_finite_number` -/
def finiteNumber (o : PyObject F) (name : String) : Except (PyFault ControllerBackendError) ℚ :=
  match o.get? (pyString name) with
  | some (.int i) => floatOfInt i
  | some (.float f) =>
    if PyFloat.isFinite f then pure (PyFloatValue.value f)
    else throw (.raised ⟨"CONTROLLER_TIMEOUT_INVALID"⟩)
  | _ => throw decisionInvalid

/-! ## The schema -/

/-- A number of the schema.  A float that is not finite has no place in a canonical text. -/
def schemaNumber? : Option (PyValue F) → Option ℚ
  | some (.int i) => some i
  | some (.float f) => if PyFloat.isFinite f then some (PyFloatValue.value f) else none
  | _ => none

/-- An integer of the schema, which may be written as a float. -/
def schemaInteger? (v : Option (PyValue F)) : Option ℚ :=
  (schemaNumber? v).filter fun q => q.den = 1

/-- A string of the schema, with the bounds of its length. -/
def schemaString (minLength : ℕ) (maxLength : Option ℕ) : Option (PyValue F) → Bool
  | some (.str s) => minLength ≤ s.length && maxLength.all fun n => s.length ≤ n
  | _ => false

/-- `const` and `enum` with strings. -/
def schemaEnum (names : List String) : Option (PyValue F) → Bool
  | some (.str s) => (names.map pyString).contains s
  | _ => false

/-- The alternative of the schema for a dispatch. -/
def isDispatch (o : PyObject F) : Bool :=
  o.hasKeys ["action", "worker_id", "instruction", "budget", "timeout_seconds"] &&
    schemaEnum ["dispatch"] (o.get? (pyString "action")) &&
    schemaString 1 (some 64) (o.get? (pyString "worker_id")) &&
    schemaString 1 none (o.get? (pyString "instruction")) &&
    ((schemaInteger? (o.get? (pyString "budget"))).any fun q => 1 ≤ q && q ≤ 12) &&
    (schemaNumber? (o.get? (pyString "timeout_seconds"))).any fun q => 0 < q && q ≤ 14400

/-- The alternatives of the schema for the two refusals. -/
def isRefusal (action : String) (reasons : List String) (o : PyObject F) : Bool :=
  o.hasKeys ["action", "reason_code"] && schemaEnum [action] (o.get? (pyString "action")) &&
    schemaEnum reasons (o.get? (pyString "reason_code"))

/-- `controller_decision.schema.json` -/
def schemaAccepts : PyValue F → Bool
  | .dict o => [isDispatch o, isRefusal "blocked" ["DEPENDENCY_UNAVAILABLE", "NO_SAFE_ACTION"] o,
      isRefusal "reject" ["TASK_UNSAFE", "TASK_UNSUPPORTED"] o].count true = 1
  | _ => false

/-! ## Parsing -/

/-- `_dispatch_decision` -/
def dispatchDecision (o : PyObject F) (context : ControllerContext) :
    Except (PyFault ControllerBackendError) WireDecision := do
  let workerId ← decisionText o "worker_id"
  require (workerId = pyString context.workerId) (.raised ⟨"CONTROLLER_WORKER_INVALID"⟩)
  let instruction ← decisionText o "instruction"
  let plain ← orThrow ((plainChars? instruction).map String.ofList)
    (.raised ⟨"CONTROLLER_INSTRUCTION_INVALID"⟩)
  require ((encode plain).length ≤ maxControllerInstructionBytes)
    (.raised ⟨"CONTROLLER_INSTRUCTION_INVALID"⟩)
  let budget ← decisionInteger o "budget"
  require (budget ≤ min context.maxBudget maxWorkerBudget) (.raised ⟨"CONTROLLER_BUDGET_INVALID"⟩)
  let timeoutSeconds ← finiteNumber o "timeout_seconds"
  require (timeoutSeconds ≤ min context.maxTimeoutSeconds maxResearchWorkerTimeoutSeconds)
    (.raised ⟨"CONTROLLER_TIMEOUT_INVALID"⟩)
  pure (.dispatch context.workerId plain budget timeoutSeconds)

/-- `_blocked_reason` and `_reject_reason` -/
def refusalReason (reasons : List String) (o : PyObject F) :
    Except (PyFault ControllerBackendError) String := do
  let reason ← decisionText o "reason_code"
  orThrow (reasons.find? fun r => pyString r = reason) decisionInvalid

/-- `_parse_valid_decision` -/
def parseValidDecision (value : PyValue F) (context : ControllerContext) :
    Except (PyFault ControllerBackendError) WireDecision :=
  match value with
  | .dict o => do
    let action ← decisionText o "action"
    if action = pyString "dispatch" then dispatchDecision o context
    else if action = pyString "blocked" then
      .blocked <$> refusalReason ["DEPENDENCY_UNAVAILABLE", "NO_SAFE_ACTION"] o
    else if action = pyString "reject" then
      .reject <$> refusalReason ["TASK_UNSAFE", "TASK_UNSUPPORTED"] o
    else throw decisionInvalid
  | _ => throw decisionInvalid

/-- `_unique_json_object` -/
def uniqueJsonObject (pairs : PyObject F) : Except ControllerBackendError (PyObject F) := do
  require (pairs.map Prod.fst).Nodup ⟨"CONTROLLER_DECISION_INVALID"⟩
  pure pairs

/-- `json.loads(raw, object_pairs_hook=_unique_json_object)` -/
def loadsDecision (raw : Bytes) : JsonUse ControllerBackendError (PyValue F) := do
  let text ← lift (orThrow (decodeBytes raw) .unicode)
  loads uniqueJsonObject text

variable (granted : JsonDemand → Bool)

/-- The `try` around `json.loads`. -/
def readDecision (raw : Bytes) : Except (PyFault ControllerBackendError) (PyValue F) :=
  rescue [.unicode, .decode] ((loadsDecision raw).run granted JsonDemand.refusal)
    (throw decisionInvalid)

/-- `parse_controller_decision` -/
def parseControllerDecision (F : Type) [PyFloat F] [PyFloatValue F] (raw : Bytes)
    (context : ControllerContext) : Except (PyFault ControllerBackendError) WireDecision := do
  let value ← (readDecision granted raw : Except _ (PyValue F))
  require (schemaAccepts value = true) decisionInvalid
  parseValidDecision value context

/-- The fields that may be null on the wire. -/
def nullable : List String :=
  ["worker_id", "instruction", "budget", "timeout_seconds", "reason_code"]

/-- A document without the nulls of the fields that may be null. -/
def withoutNulls : PyValue F → PyValue F
  | .dict o => .dict (o.filter fun e =>
      match e.2 with
      | .null => !(nullable.map pyString).contains e.1
      | _ => true)
  | v => v

/-- `parse_controller_wire_decision` -/
def parseControllerWireDecision (F : Type) [PyFloat F] [PyFloatValue F] (raw : Bytes)
    (context : ControllerContext) : Except (PyFault ControllerBackendError) WireDecision := do
  let value ← (readDecision granted raw : Except _ (PyValue F))
  let encoded ← (withoutNulls value).canonicalJson.run granted JsonDemand.refusal
  parseControllerDecision granted F encoded context

end

/-! ## What the parser raises -/

section

variable {F : Type} [PyFloat F] [PyFloatValue F] {granted : JsonDemand → Bool}

/-- The exceptions that the parser declares. -/
def backendFaults : List (PyFault ControllerBackendError) :=
  ["CONTROLLER_DECISION_INVALID", "CONTROLLER_WORKER_INVALID", "CONTROLLER_INSTRUCTION_INVALID",
    "CONTROLLER_BUDGET_INVALID", "CONTROLLER_TIMEOUT_INVALID"].map fun code => .raised ⟨code⟩

lemma decisionInvalid_mem : decisionInvalid ∈ backendFaults := List.mem_cons_self

lemma mem_backendFaults {fault : PyFault ControllerBackendError} (h : fault ∈ backendFaults) :
    ∃ error, fault = .raised error := by
  obtain ⟨code, -, rfl⟩ := List.mem_map.mp h
  exact ⟨⟨code⟩, rfl⟩

omit [PyFloat F] [PyFloatValue F] in
lemma raises_decisionText (o : PyObject F) (name : String) :
    Raises backendFaults (decisionText o name) := by
  unfold decisionText
  split
  · exact raises_pure _
  · exact raises_throw decisionInvalid_mem

omit [PyFloat F] [PyFloatValue F] in
lemma raises_decisionInteger (o : PyObject F) (name : String) :
    Raises backendFaults (decisionInteger o name) := by
  unfold decisionInteger
  split
  · exact raises_pure _
  · exact raises_throw decisionInvalid_mem

omit [PyFloat F] [PyFloatValue F] in
lemma raises_refusalReason (reasons : List String) (o : PyObject F) :
    Raises backendFaults (refusalReason reasons o) :=
  (raises_decisionText _ _).bind fun _ _ => raises_orThrow fun _ => decisionInvalid_mem

/-- A small integer is a float. -/
lemma floatOfInt_of_lt {i : Int} (h : i.natAbs < 2 ^ 53) : floatOfInt i = .ok (i : ℚ) := by
  have hround : roundToFloat i.natAbs = i.natAbs := if_pos h
  have hlt : i.natAbs < 2 ^ 1024 :=
    lt_of_lt_of_le h (Nat.pow_le_pow_right (by decide) (by decide))
  rw [floatOfInt]
  simp only [hround, require_of hlt]
  show Except.ok _ = _
  congr 1
  by_cases hi : i < 0
  · rw [if_pos hi]
    have hcast : ((i.natAbs : Int) : ℚ) = ((-i : Int) : ℚ) := congrArg _ (by omega)
    rw [Int.cast_natCast] at hcast
    rw [hcast, Int.cast_neg, neg_neg]
  · rw [if_neg hi]
    have hcast : ((i.natAbs : Int) : ℚ) = (i : ℚ) := congrArg _ (by omega)
    rwa [Int.cast_natCast] at hcast

/-- A number of the schema is read as a float. -/
lemma finiteNumber_of_schemaNumber? {o : PyObject F} {name : String} {q : ℚ}
    (h : schemaNumber? (o.get? (pyString name)) = some q) (hpos : 0 < q) (hle : q ≤ 14400) :
    finiteNumber o name = .ok q := by
  unfold finiteNumber
  unfold schemaNumber? at h
  split at h
  · rename_i i _
    obtain rfl := Option.some.inj h
    have hpos' : 0 < i := by exact_mod_cast hpos
    have hle' : i ≤ 14400 := by exact_mod_cast hle
    exact floatOfInt_of_lt (by norm_num; omega)
  · split_ifs at h with hfinite
    · obtain rfl := Option.some.inj h
      exact if_pos hfinite
  · cases h

/-- What the schema says of a dispatch. -/
lemma isDispatch_spec {o : PyObject F} (h : isDispatch o = true) :
    (∃ s, o.get? (pyString "instruction") = some (.str s) ∧ 1 ≤ s.length) ∧
    (∀ i, o.get? (pyString "budget") = some (.int i) → 1 ≤ i ∧ i ≤ 12) ∧
    ∃ q, finiteNumber o "timeout_seconds" = .ok q ∧ 0 < q ∧ q ≤ 14400 := by
  simp only [isDispatch, Bool.and_eq_true, Option.any_eq_true, decide_eq_true_eq] at h
  obtain ⟨⟨⟨⟨⟨-, -⟩, -⟩, hinstruction⟩, b, hbudget, hb⟩, q, htimeout, hpos, hle⟩ := h
  refine ⟨?_, fun i hi => ?_, q, finiteNumber_of_schemaNumber? htimeout hpos hle, hpos, hle⟩
  · unfold schemaString at hinstruction
    split at hinstruction
    · rename_i s heq
      exact ⟨s, heq, by simpa using hinstruction⟩
    · cases hinstruction
  · rw [hi] at hbudget
    obtain ⟨hnumber, -⟩ := Option.filter_eq_some_iff.mp hbudget
    obtain rfl := Option.some.inj hnumber
    exact ⟨by exact_mod_cast hb.1, by exact_mod_cast hb.2⟩

/-- An accepted document whose action is a dispatch is one. -/
lemma isDispatch_of_schemaAccepts {o : PyObject F} (h : schemaAccepts (.dict o) = true)
    (haction : decisionText o "action" = .ok (pyString "dispatch")) : isDispatch o = true := by
  have hvalue : o.get? (pyString "action") = some (.str (pyString "dispatch")) := by
    unfold decisionText at haction
    split at haction
    · rename_i s heq
      obtain rfl := Except.ok.inj haction
      exact heq
    · cases haction
  have hrefusal : ∀ action reasons, pyString "dispatch" ≠ pyString action →
      isRefusal action reasons o = false := by
    intro action reasons hne
    have henum : schemaEnum [action] (o.get? (pyString "action")) = false := by
      rw [hvalue]
      simp [schemaEnum, hne]
    rw [isRefusal, henum, Bool.and_false, Bool.false_and]
  simp only [schemaAccepts, hrefusal "blocked" _ (by decide), hrefusal "reject" _ (by decide),
    decide_eq_true_eq] at h
  cases hd : isDispatch o with
  | true => rfl
  | false =>
    rw [hd] at h
    simp at h

lemma raises_dispatchDecision {o : PyObject F} (h : isDispatch o = true)
    (context : ControllerContext) : Raises backendFaults (dispatchDecision o context) := by
  obtain ⟨-, -, q, hq, -, -⟩ := isDispatch_spec h
  have hfinite : Raises backendFaults (finiteNumber o "timeout_seconds") := by
    rw [hq]
    exact raises_pure q
  refine (raises_decisionText _ _).bind fun _ _ => (raises_require (by decide)).bind fun _ _ =>
    (raises_decisionText _ _).bind fun _ _ => (raises_orThrow fun _ => by decide).bind fun _ _ =>
    (raises_require (by decide)).bind fun _ _ => (raises_decisionInteger _ _).bind fun _ _ =>
    (raises_require (by decide)).bind fun _ _ => hfinite.bind fun _ _ =>
    (raises_require (by decide)).bind fun _ _ => raises_pure _

/-- A document that the schema accepts is parsed, or refused with an exception of the parser. -/
lemma raises_parseValidDecision {value : PyValue F} (h : schemaAccepts value = true)
    (context : ControllerContext) : Raises backendFaults (parseValidDecision value context) := by
  cases value with
  | dict o =>
    refine (raises_decisionText _ _).bind fun action haction => ?_
    split_ifs with hdispatch
    · subst hdispatch
      exact raises_dispatchDecision (isDispatch_of_schemaAccepts h haction) context
    · exact (raises_refusalReason _ _).bind fun _ _ => raises_pure _
    · exact (raises_refusalReason _ _).bind fun _ _ => raises_pure _
    · exact raises_throw decisionInvalid_mem
  | _ => exact raises_throw decisionInvalid_mem

end

/-! ## Reading twice -/

section

variable {F : Type} [PyFloat F] [PyFloatValue F] {granted : JsonDemand → Bool}

omit [PyFloat F] [PyFloatValue F] in
lemma uniqueJsonObject_eq_ok {es fs : PyObject F} :
    uniqueJsonObject es = .ok fs ↔ (es.map Prod.fst).Nodup ∧ es = fs := by
  simp only [uniqueJsonObject, bind_eq_ok, require_eq_ok, pure_eq_ok, exists_const]

omit [PyFloat F] [PyFloatValue F] in
lemma raises_uniqueJsonObject (es : PyObject F) :
    Raises [decisionInvalid] ((uniqueJsonObject es).mapError PyFault.raised) := by
  intro fault h
  unfold uniqueJsonObject at h
  by_cases hnodup : (es.map Prod.fst).Nodup
  · rw [require_of hnodup] at h
    cases h
  · rw [require_of_not hnodup] at h
    obtain rfl := Except.error.inj h
    exact List.mem_singleton.mpr rfl

omit [PyFloatValue F] in
lemma raises_loadsDecision (raw : Bytes) : Raises [.unicode, .decode, decisionInvalid]
    (loadsDecision raw : JsonUse _ (PyValue F)).outcome := by
  refine raises_outcome_bind (raises_orThrow fun _ => List.mem_cons_self) fun text _ => ?_
  exact (raises_loads raises_uniqueJsonObject text).mono (List.subset_cons_self _ _)

omit [PyFloatValue F] in
/-- The bytes are decoded, or refused with the exception of the parser, exactly where the
interpreter grants what that asks for. -/
lemma raises_readDecision_iff {raw : Bytes} :
    Raises backendFaults (readDecision granted raw : Except _ (PyValue F)) ↔
      ∀ d ∈ (loadsDecision raw : JsonUse _ (PyValue F)).demands, granted d = true := by
  constructor
  · intro h d hd
    by_contra hrefused
    rw [Bool.not_eq_true] at hrefused
    obtain ⟨d', -, -, hrun⟩ := exists_run_eq_error JsonDemand.refusal hd hrefused
    obtain ⟨error, herror⟩ := mem_backendFaults (h d'.refusal (by
      rw [readDecision, hrun]
      cases d' <;> rfl))
    cases d' <;> cases herror
  · intro h
    rw [readDecision, run_of_granted h]
    refine Raises.rescue ((raises_loadsDecision raw).mono ?_) (raises_throw decisionInvalid_mem)
    refine List.cons_subset_cons _ (List.cons_subset_cons _ ?_)
    rintro fault hfault
    rw [List.mem_singleton.mp hfault]
    exact decisionInvalid_mem

omit [PyFloatValue F] in
/-- What `readDecision` returns is what the bytes hold. -/
lemma outcome_of_readDecision {raw : Bytes} {v : PyValue F}
    (h : readDecision granted raw = .ok v) :
    (∀ d ∈ (loadsDecision raw : JsonUse _ (PyValue F)).demands, granted d = true) ∧
      (loadsDecision raw).outcome = .ok v := by
  rw [readDecision] at h
  cases hrun : (loadsDecision raw : JsonUse _ (PyValue F)).run granted JsonDemand.refusal with
  | ok w =>
    rw [hrun] at h
    obtain rfl : w = v := Except.ok.inj h
    exact run_eq_ok_iff.mp hrun
  | error fault =>
    rw [hrun] at h
    unfold rescue at h
    dsimp only at h
    split_ifs at h

omit [PyFloat F] [PyFloatValue F] in
lemma textAsks_withoutNulls_subset (d : ℕ) (v : PyValue F) :
    textAsks d (withoutNulls v) ⊆ textAsks d v := by
  cases v with
  | dict o =>
    rw [withoutNulls, textAsks_dict, textAsks_dict]
    refine List.cons_subset_cons _ fun ask hask => ?_
    obtain ⟨p, hp, hask⟩ := List.mem_flatMap.mp hask
    obtain ⟨e, he, hp⟩ := mem_partsOfEntries.mp hp
    exact List.mem_flatMap.mpr
      ⟨p, mem_partsOfEntries.mpr ⟨e, (List.mem_filter.mp he).1, hp⟩, hask⟩
  | _ => exact fun _ h => h

omit [PyFloatValue F] in
/-- What the encoder wrote is read again, with nothing asked for that was not granted before. -/
lemma demands_loadsDecision_encoded {raw bytes : Bytes} {v : PyValue F}
    (hv : (loadsDecision raw).outcome = .ok v)
    (hgranted : ∀ d ∈ (loadsDecision raw : JsonUse _ (PyValue F)).demands, granted d = true)
    (hrun : ((withoutNulls v).canonicalJson : JsonUse ControllerBackendError Bytes).run granted
      JsonDemand.refusal = .ok bytes) :
    ∀ d ∈ (loadsDecision bytes : JsonUse _ (PyValue F)).demands, granted d = true := by
  obtain ⟨j, hj, rfl⟩ := (run_canonicalJson_eq_ok_iff.mp hrun).2
  have hof := ofJson_of_toJson? hj
  have hprintable := printable_of_toJson? hj
  have hload : (loadsDecision (encode j.canonicalJson) : JsonUse _ (PyValue F)) =
      loads uniqueJsonObject (pyText j.canonicalJson.toList) := by
    rw [loadsDecision, decodeBytes_canonicalJson hprintable]
    exact mk_ok_bind _ _ _
  have hunique : ∀ pairs : PyObject F, (pairs.map Prod.fst).Nodup →
      uniqueJsonObject pairs = .ok pairs :=
    fun pairs hpairs => uniqueJsonObject_eq_ok.mpr ⟨hpairs, rfl⟩
  have hround := loads_canonicalJson hunique hprintable
  intro d hd
  rw [hload, hround] at hd
  have hasked : d ∈ textAsks 1 v := by
    apply textAsks_withoutNulls_subset
    rw [← hof]
    exact textAsks_canonical_subset 1 j hd
  apply hgranted
  obtain ⟨text, htext, hread⟩ := outcome_bind_eq_ok.mp hv
  refine mem_demands_bind.mpr (.inr ⟨text, htext, ?_⟩)
  exact asks_loads (fun es fs h => (uniqueJsonObject_eq_ok.mp h).2 ▸ fun _ h => h) hread hasked

variable (F granted) in
/-- The interpreter grants what the decoder and the encoder ask for, and the value that is encoded
has finite floats and no surrogate that stands alone. -/
structure WireReadable (raw : Bytes) : Prop where
  reading : ∀ d ∈ (loadsDecision raw : JsonUse _ (PyValue F)).demands, granted d = true
  encoding : ∀ v : PyValue F, (loadsDecision raw).outcome = .ok v →
    ∀ d ∈ ((withoutNulls v).canonicalJson : JsonUse ControllerBackendError Bytes).demands,
      granted d = true
  finite : ∀ v : PyValue F, (loadsDecision raw).outcome = .ok v →
    ∀ p ∈ (withoutNulls v).parts 1, ∀ f, p.2 = .float f → PyFloat.isFinite f = true
  plain : ∀ v : PyValue F, (loadsDecision raw).outcome = .ok v →
    ((withoutNulls v).toJson?).isSome

omit [PyFloatValue F] in
/-- The encoder raises nothing that the parser declares. -/
lemma exists_run_of_raises {v : PyValue F}
    (h : Raises backendFaults ((v.canonicalJson : JsonUse ControllerBackendError Bytes).run granted
      JsonDemand.refusal)) :
    ∃ bytes, (v.canonicalJson : JsonUse ControllerBackendError Bytes).run granted
      JsonDemand.refusal = .ok bytes := by
  cases hrun : (v.canonicalJson : JsonUse ControllerBackendError Bytes).run granted
      JsonDemand.refusal with
  | ok bytes => exact ⟨bytes, rfl⟩
  | error fault =>
    obtain ⟨error, rfl⟩ := mem_backendFaults (h fault hrun)
    have hvalue : Raises [.value, .recursion]
        ((v.canonicalJson : JsonUse ControllerBackendError Bytes).run granted
          JsonDemand.refusal) := by
      apply raises_run
      · intro d _ _
        cases d <;> simp [JsonDemand.refusal]
      · have hall : Raises [.value] ((v.canonicalJson : JsonUse ControllerBackendError Bytes).run
            (fun _ => true) JsonDemand.refusal) := raises_canonicalJson fun _ _ _ => rfl
        rw [run_of_granted fun _ _ => rfl] at hall
        exact hall.mono (by simp)
    have hmem := hvalue _ hrun
    simp at hmem

/-- The document is read, encoded and parsed with no exception but the parser's own exactly where it
is readable. -/
lemma raises_parseControllerWireDecision_iff {raw : Bytes} {context : ControllerContext} :
    Raises backendFaults (parseControllerWireDecision granted F raw context) ↔
      WireReadable F granted raw := by
  constructor
  · intro h
    have hread : Raises backendFaults (readDecision granted raw : Except _ (PyValue F)) := by
      intro fault hfault
      apply h
      rw [parseControllerWireDecision, hfault]
      rfl
    have hreading := raises_readDecision_iff.mp hread
    have hrun : ∀ v : PyValue F, (loadsDecision raw).outcome = .ok v →
        ∃ bytes, ((withoutNulls v).canonicalJson : JsonUse ControllerBackendError Bytes).run granted
          JsonDemand.refusal = .ok bytes := by
      intro v hv
      apply exists_run_of_raises
      intro fault hfault
      apply h
      rw [parseControllerWireDecision, readDecision, run_of_granted hreading, hv]
      show ((withoutNulls v).canonicalJson.run granted JsonDemand.refusal >>= _) = _
      rw [hfault]
      rfl
    refine ⟨hreading, fun v hv d hd => ?_, fun v hv p hp => ?_, fun v hv => ?_⟩
    · obtain ⟨bytes, hbytes⟩ := hrun v hv
      exact (run_eq_ok_iff.mp hbytes).1 d hd
    · obtain ⟨bytes, hbytes⟩ := hrun v hv
      exact ((run_canonicalJson_eq_ok_iff.mp hbytes).1 p hp).1.2
    · obtain ⟨bytes, hbytes⟩ := hrun v hv
      obtain ⟨j, hj, -⟩ := (run_canonicalJson_eq_ok_iff.mp hbytes).2
      rw [hj]
      rfl
  · intro h
    refine (raises_readDecision_iff.mpr h.reading).bind fun v hv => ?_
    have houtcome := (outcome_of_readDecision hv).2
    obtain ⟨j, hj⟩ := Option.isSome_iff_exists.mp (h.plain v houtcome)
    have hall : ((withoutNulls v).canonicalJson : JsonUse ControllerBackendError Bytes).run
        (fun _ => true) JsonDemand.refusal = .ok (encode j.canonicalJson) := by
      refine run_canonicalJson_eq_ok_iff.mpr ⟨fun p hp => ?_, j, hj, rfl⟩
      exact ⟨⟨rfl, h.finite v houtcome p hp⟩, fun _ _ => rfl, fun _ _ => rfl⟩
    have hrun : ((withoutNulls v).canonicalJson : JsonUse ControllerBackendError Bytes).run granted
        JsonDemand.refusal = .ok (encode j.canonicalJson) := by
      rw [run_of_granted (h.encoding v houtcome)]
      rwa [run_of_granted fun _ _ => rfl] at hall
    rw [hrun, ok_bind]
    have hagain := demands_loadsDecision_encoded houtcome h.reading hrun
    refine (raises_readDecision_iff.mpr hagain).bind fun w _ => ?_
    refine (raises_require decisionInvalid_mem).bind fun _ haccepted => ?_
    exact raises_parseValidDecision (require_eq_ok.mp haccepted) context

end

/-! ## Ceilings -/

section

variable {F : Type} [PyFloat F] [PyFloatValue F] {granted : JsonDemand → Bool}

/-- The document of a dispatch, with a float as its timeout. -/
def dispatchDocument (workerId instruction : String) (budget : Int) (timeoutSeconds : F) :
    PyValue F :=
  .dict [(pyString "action", .str (pyString "dispatch")),
    (pyString "worker_id", .str (pyString workerId)),
    (pyString "instruction", .str (pyString instruction)), (pyString "budget", .int budget),
    (pyString "timeout_seconds", .float timeoutSeconds)]

variable (F) in
/-- A decision keeps every ceiling: a dispatch passes the check of the dispatcher, whatever its
timeout is in milliseconds, lies within the ceilings of the parser, and has a canonical encoding. -/
def WireDecision.WithinCeilings (context : ControllerContext) : WireDecision → Prop
  | dispatch workerId instruction budget timeoutSeconds =>
    (∀ milliseconds, validDispatch ⟨workerId, instruction, budget, some timeoutSeconds,
      milliseconds⟩ context = true) ∧
    budget ≤ min context.maxBudget maxWorkerBudget ∧
    timeoutSeconds ≤ min context.maxTimeoutSeconds maxResearchWorkerTimeoutSeconds ∧
    ∀ f : F, PyFloat.isFinite f = true →
      ((dispatchDocument workerId instruction budget f).toJson?).isSome
  | blocked reasonCode => reasonCode ∈ ["DEPENDENCY_UNAVAILABLE", "NO_SAFE_ACTION"]
  | reject reasonCode => reasonCode ∈ ["TASK_UNSAFE", "TASK_UNSUPPORTED"]

lemma length_encode_pos {cs : List Char} (h : 0 < cs.length) :
    0 < (encode (String.ofList cs)).length := by
  rw [encode, String.toList_ofList]
  cases cs with
  | nil => simp at h
  | cons c cs =>
    obtain ⟨b, bs, hbytes, -, -⟩ := utf8Char_spec c
    rw [List.flatMap_cons, hbytes]
    exact Nat.succ_pos _

lemma length_of_plainChars? {s : PyText} {cs : List Char} (h : plainChars? s = some cs) :
    cs.length = s.length := by
  rw [← pyText_of_plainChars? h, pyText, List.length_map]

omit [PyFloatValue F] in
lemma isSome_dispatchDocument (workerId instruction : String) (budget : Int) {f : F}
    (hf : PyFloat.isFinite f = true) :
    ((dispatchDocument workerId instruction budget f).toJson?).isSome := by
  have hplain : ∀ s, plainChars? (pyString s) = some s.toList := fun s => plainChars?_pyText _
  simp [dispatchDocument, PyValue.toJson?, toJsonEntries?, hplain, hf]

omit [PyFloat F] [PyFloatValue F] in
lemma get?_of_decisionInteger {o : PyObject F} {name : String} {i : Int}
    (h : decisionInteger o name = .ok i) : o.get? (pyString name) = some (.int i) := by
  unfold decisionInteger at h
  split at h
  · rename_i j heq
    obtain rfl := Except.ok.inj h
    exact heq
  · cases h

omit [PyFloat F] [PyFloatValue F] in
lemma get?_of_decisionText {o : PyObject F} {name : String} {s : PyText}
    (h : decisionText o name = .ok s) : o.get? (pyString name) = some (.str s) := by
  unfold decisionText at h
  split at h
  · rename_i s' heq
    obtain rfl := Except.ok.inj h
    exact heq
  · cases h

/-- A dispatch that the schema accepts and the parser returns keeps the ceilings. -/
lemma withinCeilings_of_dispatchDecision {o : PyObject F} (hdispatch : isDispatch o = true)
    {context : ControllerContext} {decision : WireDecision}
    (h : dispatchDecision o context = .ok decision) : decision.WithinCeilings F context := by
  obtain ⟨⟨s, hs, hlength⟩, hbudget, q, hq, hpos, hle⟩ := isDispatch_spec hdispatch
  simp only [dispatchDecision, bind_eq_ok, require_eq_ok, orThrow_eq_ok, pure_eq_ok,
    Option.map_eq_some_iff, hq] at h
  obtain ⟨workerId, -, -, -, instruction, hinstruction, plain, ⟨cs, hcs, rfl⟩, -, hsize, budget,
    hinteger, -, hceiling, q', hq', -, htimeout, rfl⟩ := h
  obtain rfl := Except.ok.inj hq'
  obtain rfl : s = instruction := by
    have hget := get?_of_decisionText hinstruction
    rw [hs] at hget
    exact PyValue.str.inj (Option.some.inj hget)
  have hbounds := hbudget budget (get?_of_decisionInteger hinteger)
  have hcs' := length_of_plainChars? hcs
  refine ⟨fun milliseconds => ?_, hceiling, htimeout, fun f hf =>
    isSome_dispatchDocument _ _ _ hf⟩
  have hsize' : 0 < (encode (String.ofList cs)).length := length_encode_pos (by omega)
  simp only [validDispatch, beq_self_eq_true, Bool.true_and, Bool.and_eq_true, decide_eq_true_eq,
    Option.any_some]
  exact ⟨⟨⟨⟨hsize', hsize⟩, hbounds.1⟩, le_trans hceiling (min_le_left _ _)⟩, hpos,
    le_trans htimeout (min_le_left _ _)⟩

omit [PyFloat F] [PyFloatValue F] in
lemma mem_of_refusalReason {reasons : List String} {o : PyObject F} {reason : String}
    (h : refusalReason reasons o = .ok reason) : reason ∈ reasons := by
  simp only [refusalReason, bind_eq_ok, orThrow_eq_ok] at h
  obtain ⟨text, -, hfind⟩ := h
  exact List.mem_of_find?_eq_some hfind

/-- A decision that the parser returns keeps every ceiling. -/
lemma withinCeilings_of_parse {raw : Bytes} {context : ControllerContext} {decision : WireDecision}
    (h : parseControllerWireDecision granted F raw context = .ok decision) :
    decision.WithinCeilings F context := by
  simp only [parseControllerWireDecision, parseControllerDecision, bind_eq_ok, require_eq_ok] at h
  obtain ⟨-, -, -, -, value, -, -, haccepted, h⟩ := h
  cases value with
  | dict o =>
    simp only [parseValidDecision, bind_eq_ok] at h
    obtain ⟨action, haction, h⟩ := h
    split_ifs at h with hdispatch
    · subst hdispatch
      exact withinCeilings_of_dispatchDecision (isDispatch_of_schemaAccepts haccepted haction) h
    · obtain ⟨reason, hreason, rfl⟩ := map_eq_ok.mp h
      exact mem_of_refusalReason hreason
    · obtain ⟨reason, hreason, rfl⟩ := map_eq_ok.mp h
      exact mem_of_refusalReason hreason
  | _ => cases h

/-- **Decisions of a backend.** Whatever the bytes and the context: the parser raises only the
exception that it declares exactly where the document is readable, and a decision that it returns
keeps every ceiling, passes the check of the dispatcher and has a canonical encoding. -/
theorem wireDecision_total_iff (raw : Bytes) (context : ControllerContext) :
    (Raises backendFaults (parseControllerWireDecision granted F raw context) ↔
      WireReadable F granted raw) ∧
    ∀ decision, parseControllerWireDecision granted F raw context = .ok decision →
      decision.WithinCeilings F context :=
  ⟨raises_parseControllerWireDecision_iff, fun _ h => withinCeilings_of_parse h⟩

end

/-! ## A number that is none -/

/-- The context of a run with the parser. -/
def wireContext : ControllerContext :=
  ⟨"a", 1, "prove True", "w", .formalizer, "p", "", 0, [], 12, 60, 1⟩

/-- Three letters from a backend make the parser raise the `ValueError` of the encoder, even where
the interpreter grants everything. -/
theorem nan_escapes : ¬ ∀ (raw : Bytes) (context : ControllerContext),
    Raises backendFaults
      (parseControllerWireDecision (fun _ => true) TextFloat raw context) := by
  intro h
  have hfault : parseControllerWireDecision (fun _ => true) TextFloat [78, 97, 78] wireContext =
      .error .value := by
    rfl
  obtain ⟨error, herror⟩ := mem_backendFaults (h _ _ _ hfault)
  cases herror

end Aizim.Orchestration
