import Aizim.Framework.IsoFormat
import Aizim.Framework.JsonPrinter

/-!
# Typed research records

The check that an event payload is a research record: `validRecord` follows `valid_record`, which
turns every exception of its helpers into a refusal, so the helpers are Boolean here.  The
set comparisons of `dict.keys()` are `hasKeys`.

`validRecord_canonicalEntries` is the fact the event log needs: a record that was accepted is
accepted again after it was stored and read back.
-/

namespace Aizim.Research

open Aizim.JsonValue Aizim.JsonObject

/-! ## Field checks -/

/-- `KINDS` -/
def kinds : List String := ["task", "attempt", "memory", "inbox", "contribution", "review", "run"]

/-- `MEMORY_KINDS` -/
def memoryKinds : List String :=
  ["observation", "conjecture", "dead_end", "counterexample", "strategy", "summary"]

/-- `CONTRIBUTION_ROLES` -/
def contributionRoles : List String :=
  ["problem_formulation", "definitions", "strategy", "counterexample", "formalization",
   "semantic_review", "library_design", "exposition", "source_material"]

/-- `REVIEW_KINDS` -/
def reviewKinds : List String :=
  ["semantic_alignment", "research_value", "library_quality", "exposition", "release"]

/-- The text of a value, if it is one. -/
def str? : Option JsonValue → Option String
  | some (.str s) => some s
  | _ => none

/-- The largest integer a record may hold. -/
def maximumInteger : Int := 9007199254740991

/-- `text(value, limit=limit, empty=empty)` -/
def text (limit : ℕ) (empty : Bool) (value : Option JsonValue) : Bool :=
  match value with
  | some (.str s) => (empty || !isBlank s) && (encode s).length ≤ limit
  | _ => false

/-- The limit of `text` when none is given. -/
def textLimit : ℕ := 65536

/-- `integer(value, minimum=minimum, maximum=maximum)` -/
def integer (minimum maximum : Int) (value : Option JsonValue) : Bool :=
  match value with
  | some (.int i) => minimum ≤ i && i ≤ maximum
  | _ => false

/-- `texts(value)` -/
def texts (value : Option JsonValue) : Bool :=
  match value with
  | some (.list items) =>
    items.length ≤ 1000 && items.all fun item => text textLimit false (some item)
  | _ => false

/-- `identifier(value)` -/
def identifier (value : Option JsonValue) : Bool :=
  text 48 false value &&
    (str? value).any (fullmatchIdentifier isAsciiLetter
      (fun c => isIdentifierRest c || c == '-') 47)

/-- The value is one of the texts. -/
def oneOf (texts : List String) (value : Option JsonValue) : Bool :=
  (str? value).any fun s => texts.contains s

/-- `record_id(kind, identity)` of a kind and an identifier that were both accepted. -/
def recordId (kind identity : String) : String := kind ++ ":" ++ identity

/-- The object without the two time stamps. -/
def withoutTimes (data : JsonObject) : JsonObject :=
  data.filter fun e => !(["created_at", "updated_at"].contains e.1)

/-- `task_hash(data)` -/
def taskHash (data : JsonObject) : String :=
  sha256Json (.dict (["statement", "imports", "depends_on", "source_refs"].map fun key =>
    (key, (getEntry key data).getD .null)))

/-! ## Records by kind -/

/-- The fields of a task. -/
def taskFields : List String :=
  ["task_id", "title", "statement", "author", "imports", "depends_on", "source_refs", "max_rounds",
   "max_failures", "timeout_seconds", "status", "rounds", "failures", "target_hash", "feedback",
   "verified_declarations", "paused"]

/-- A statement that may be the target of a task. -/
def validStatement [CharacterDatabase] (statement : String) : Bool :=
  !hasInfix [':', '='] statement.toList &&
    !hasWord ["sorry", "admit", "axiom", "unsafe", "theorem", "import", "initialize"] statement

/-- The imports of a task are module names. -/
def validImports (value : Option JsonValue) : Bool :=
  match value with
  | some (.list items) => items.all fun item =>
      match item with
      | .str s => fullmatchModule true s.toList
      | _ => false
  | _ => false

/-- A task record. -/
def validTask [CharacterDatabase] (data : JsonObject) : Bool :=
  hasKeys data taskFields &&
    oneOf ["pending", "running", "verified", "blocked"] (getEntry "status" data) &&
    text textLimit false (getEntry "statement" data) &&
    (str? (getEntry "statement" data)).any validStatement &&
    text 1024 false (getEntry "title" data) && text 256 false (getEntry "author" data) &&
    texts (getEntry "imports" data) && validImports (getEntry "imports" data) &&
    texts (getEntry "depends_on" data) && texts (getEntry "source_refs" data) &&
    texts (getEntry "verified_declarations" data) && text textLimit true (getEntry "feedback" data) &&
    integer 1 1000 (getEntry "max_rounds" data) && integer 1 1000 (getEntry "max_failures" data) &&
    integer 1 14400 (getEntry "timeout_seconds" data) &&
    integer 0 maximumInteger (getEntry "rounds" data) &&
    integer 0 maximumInteger (getEntry "failures" data) &&
    (match getEntry "paused" data with
      | some (.bool _) => true
      | _ => false) &&
    (str? (getEntry "target_hash" data) == some (taskHash data))

/-- The fields that memory, inbox, contribution and review records share. -/
def validAuthored (data : JsonObject) : Bool :=
  text textLimit true (getEntry "task_id" data) && text 256 false (getEntry "author" data) &&
    text textLimit false (getEntry "body" data) &&
    ["source_refs", "consumed_by", "verified_declarations"].all fun field =>
      (getEntry field data).isNone || texts (getEntry field data)

/-- The value is an array. -/
def isArray : Option JsonValue → Bool
  | some (.list _) => true
  | _ => false

/-- A memory record. -/
def validMemory (data : JsonObject) : Bool :=
  hasKeys data ["id", "task_id", "author", "kind", "body", "source_refs", "origin", "worker_id",
      "verified"] &&
    oneOf memoryKinds (getEntry "kind" data) &&
    (getEntry "verified" data == some (.bool false)) &&
    oneOf ["operator", "worker"] (getEntry "origin" data) &&
    (str? (getEntry "worker_id" data)).isSome && isArray (getEntry "source_refs" data)

/-- An inbox record. -/
def validInbox (data : JsonObject) : Bool :=
  hasKeys data ["id", "task_id", "author", "kind", "body", "consumed_by"] &&
    oneOf ["hint", "question", "constraint"] (getEntry "kind" data) &&
    isArray (getEntry "consumed_by" data)

/-- A contribution record. -/
def validContribution (data : JsonObject) : Bool :=
  hasKeys data ["id", "task_id", "author", "role", "body", "source_refs", "identity_assurance"] &&
    oneOf contributionRoles (getEntry "role" data) &&
    (getEntry "identity_assurance" data == some (.str "operator_declared"))

/-- A review record. -/
def validReview (data : JsonObject) : Bool :=
  hasKeys data ["id", "task_id", "author", "kind", "verdict", "body", "target_hash",
      "verified_declarations", "identity_assurance"] &&
    oneOf reviewKinds (getEntry "kind" data) &&
    oneOf ["accept", "revise", "reject"] (getEntry "verdict" data) &&
    (getEntry "identity_assurance" data == some (.str "operator_declared"))

/-- Token counts, or none. -/
def validUsage (value : Option JsonValue) : Bool :=
  match value with
  | none | some .null => true
  | some (.dict usage) =>
    hasKeys usage ["input_tokens", "cached_input_tokens", "output_tokens"] &&
      ["input_tokens", "cached_input_tokens", "output_tokens"].all (fun field =>
        integer 0 maximumInteger (getEntry field usage)) &&
      (match getEntry "cached_input_tokens" usage, getEntry "input_tokens" usage with
        | some (.int cached), some (.int input) => cached ≤ input
        | _, _ => false)
  | some _ => false

/-- The fields an attempt must have. -/
def attemptFields : List String :=
  ["id", "task_id", "worker_id", "run_id", "target_hash", "round", "status", "feedback",
   "verified_declarations", "usage", "model", "inbox_ids"]

/-- An attempt record (`_valid_attempt`). -/
def validAttempt (data : JsonObject) : Bool :=
  attemptFields.all (fun k => (getEntry k data).isSome) &&
    data.all (fun e => (attemptFields ++ ["controller_model", "controller_usage"]).contains e.1) &&
    oneOf ["running", "verified", "failed", "interrupted"] (getEntry "status" data) &&
    identifier (getEntry "task_id" data) && identifier (getEntry "worker_id" data) &&
    text textLimit false (getEntry "run_id" data) && text textLimit false (getEntry "model" data) &&
    text textLimit true (getEntry "feedback" data) && texts (getEntry "inbox_ids" data) &&
    texts (getEntry "verified_declarations" data) &&
    integer 1 maximumInteger (getEntry "round" data) &&
    ((getEntry "controller_model" data).isNone ||
      text textLimit true (getEntry "controller_model" data)) &&
    validUsage (getEntry "usage" data) && validUsage (getEntry "controller_usage" data) &&
    text textLimit false (getEntry "target_hash" data) &&
    (str? (getEntry "target_hash" data)).any isSha256

/-- A run record. -/
def validRun (data : JsonObject) : Bool :=
  hasKeys data ["id", "status", "model", "participation", "started_at", "finished_at", "reason"] &&
    oneOf ["running", "finished", "interrupted"] (getEntry "status" data)

/-- The record of a kind, without its time stamps. -/
def validData [CharacterDatabase] (kind : String) (data : JsonObject) : Bool :=
  match kind with
  | "task" => validTask data
  | "memory" => validAuthored data && validMemory data
  | "inbox" => validAuthored data && validInbox data
  | "contribution" => validAuthored data && validContribution data
  | "review" => validAuthored data && validReview data
  | "attempt" => validAttempt data
  | "run" => validRun data
  | _ => false

/-- A recorded time is absent or a UTC time. -/
def validTime (value : Option JsonValue) : Bool :=
  match value with
  | none => true
  | some (.str s) => text textLimit false (some (.str s)) && IsoFormat.isUtcIsoformat s
  | some _ => false

/-- `valid_record(payload)` -/
def validRecord [CharacterDatabase] (payload : JsonObject) : Bool :=
  hasKeys payload ["record_id", "kind", "data"] && text textLimit false (getEntry "kind" payload) &&
    match getEntry "kind" payload, getEntry "data" payload with
    | some (.str kind), some (.dict stamped) =>
      let data := withoutTimes stamped
      let identity := getEntry (if kind == "task" then "task_id" else "id") data
      validTime (getEntry "created_at" stamped) && validTime (getEntry "updated_at" stamped) &&
        identifier identity && kinds.contains kind &&
        (str? (getEntry "record_id" payload) == (str? identity).map (recordId kind)) &&
        (encode (canonicalJson (.dict data))).length ≤ 262144 && validData kind data
    | _, _ => false

/-! ## Stored records

Each check reads a field up to its canonical form, so storing a record does not change what the
check answers. -/

section Stored

lemma str?_eq_some {v : Option JsonValue} {s : String} : str? v = some s ↔ v = some (.str s) := by
  rcases v with _ | v
  · simp [str?]
  · cases v <;> simp [str?]

@[simp] lemma str?_map_canonical (v : Option JsonValue) : str? (v.map canonical) = str? v := by
  rcases v with _ | v
  · rfl
  · cases v <;> simp [str?]

@[simp] lemma text_map_canonical (limit : ℕ) (empty : Bool) (v : Option JsonValue) :
    text limit empty (v.map canonical) = text limit empty v := by
  rcases v with _ | v
  · rfl
  · cases v <;> simp [text]

@[simp] lemma text_canonical (limit : ℕ) (empty : Bool) (v : JsonValue) :
    text limit empty (some v.canonical) = text limit empty (some v) :=
  text_map_canonical limit empty (some v)

@[simp] lemma integer_map_canonical (minimum maximum : Int) (v : Option JsonValue) :
    integer minimum maximum (v.map canonical) = integer minimum maximum v := by
  rcases v with _ | v
  · rfl
  · cases v <;> simp [integer]

@[simp] lemma texts_map_canonical (v : Option JsonValue) : texts (v.map canonical) = texts v := by
  rcases v with _ | v
  · rfl
  · cases v <;> simp [texts, List.all_map, Function.comp_def]

@[simp] lemma identifier_map_canonical (v : Option JsonValue) :
    identifier (v.map canonical) = identifier v := by
  simp [identifier]

@[simp] lemma oneOf_map_canonical (texts : List String) (v : Option JsonValue) :
    oneOf texts (v.map canonical) = oneOf texts v := by
  simp [oneOf]

@[simp] lemma isArray_map_canonical (v : Option JsonValue) :
    isArray (v.map canonical) = isArray v := by
  rcases v with _ | v
  · rfl
  · cases v <;> simp [isArray]

@[simp] lemma validImports_map_canonical (v : Option JsonValue) :
    validImports (v.map canonical) = validImports v := by
  rcases v with _ | v
  · rfl
  · cases v with
    | list items =>
      simp only [Option.map_some, canonical_list, validImports, List.all_map]
      congr 1
      funext item
      cases item <;> rfl
    | _ => rfl

lemma getEntry_withoutTimes (k : String) (o : JsonObject) : getEntry k (withoutTimes o) =
    if ["created_at", "updated_at"].contains k then none else getEntry k o := by
  induction o with
  | nil => simp [withoutTimes]
  | cons e o ih =>
    obtain ⟨l, v⟩ := e
    unfold withoutTimes at ih ⊢
    by_cases hl : ["created_at", "updated_at"].contains l = true
    · simp only [List.filter_cons, hl, Bool.not_true, Bool.false_eq_true, if_false, ih]
      by_cases hk : k = l
      · subst hk
        rw [if_pos hl, if_pos hl]
      · simp [hk]
    · simp only [List.filter_cons, Bool.not_eq_true] at hl ⊢
      simp only [hl, Bool.not_false, if_true, getEntry_cons, ih]
      by_cases hk : k = l
      · subst hk
        rw [if_pos rfl, if_neg (by simpa using hl), if_pos rfl]
      · simp [hk]

lemma withoutTimes_canonicalEntries (o : JsonObject) :
    withoutTimes (canonicalEntries o) = canonicalEntries (withoutTimes o) := by
  refine SortedEntries.ext ((sortedEntries_canonicalEntries o).filter _)
    (sortedEntries_canonicalEntries _) fun k => ?_
  rw [getEntry_withoutTimes, getEntry_canonicalEntries, getEntry_canonicalEntries,
    getEntry_withoutTimes]
  split <;> rfl

@[simp] lemma taskHash_canonicalEntries (o : JsonObject) :
    taskHash (canonicalEntries o) = taskHash o := by
  refine sha256Json_congr ?_
  have h : ∀ v : Option JsonValue, canonical ((v.map canonical).getD .null) =
      canonical (v.getD .null) := by
    intro v
    cases v <;> simp
  simp [h]

@[simp] lemma validUsage_map_canonical (v : Option JsonValue) :
    validUsage (v.map canonical) = validUsage v := by
  rcases v with _ | v
  · rfl
  · cases v with
    | dict usage =>
      simp only [Option.map_some, canonical_dict, validUsage, hasKeys_canonicalEntries,
        getEntry_canonicalEntries, integer_map_canonical]
      congr 1
      rcases getEntry "cached_input_tokens" usage with _ | c
      · rfl
      · rcases getEntry "input_tokens" usage with _ | i
        · cases c <;> rfl
        · cases c <;> cases i <;> rfl
    | _ => rfl

@[simp] lemma validTime_map_canonical (v : Option JsonValue) :
    validTime (v.map canonical) = validTime v := by
  rcases v with _ | v
  · rfl
  · cases v <;> simp [validTime]

/-- A text field reads a given text before storing exactly when it does after. -/
lemma map_canonical_eq_str (v : Option JsonValue) (s : String) :
    (v.map canonical == some (.str s)) = (v == some (.str s)) := by
  rw [Bool.eq_iff_iff, beq_iff_eq, beq_iff_eq]
  rcases v with _ | v
  · simp
  · cases v <;> simp

lemma map_canonical_eq_bool (v : Option JsonValue) (b : Bool) :
    (v.map canonical == some (.bool b)) = (v == some (.bool b)) := by
  rw [Bool.eq_iff_iff, beq_iff_eq, beq_iff_eq]
  rcases v with _ | v
  · simp
  · cases v <;> simp

lemma validTask_canonicalEntries [CharacterDatabase] (o : JsonObject) :
    validTask (canonicalEntries o) = validTask o := by
  have hpaused : ∀ v : Option JsonValue,
      (match v.map canonical with | some (.bool _) => true | _ => false) =
        (match v with | some (.bool _) => true | _ => false) := by
    intro v
    rcases v with _ | v
    · rfl
    · cases v <;> rfl
  simp only [validTask, hasKeys_canonicalEntries, getEntry_canonicalEntries, oneOf_map_canonical,
    text_map_canonical, str?_map_canonical, texts_map_canonical, validImports_map_canonical,
    integer_map_canonical, taskHash_canonicalEntries, hpaused]

lemma validAttempt_canonicalEntries (o : JsonObject) :
    validAttempt (canonicalEntries o) = validAttempt o := by
  simp only [validAttempt, getEntry_canonicalEntries, Option.isSome_map, Option.isNone_map,
    oneOf_map_canonical, identifier_map_canonical, text_map_canonical, texts_map_canonical,
    integer_map_canonical, validUsage_map_canonical, str?_map_canonical,
    all_keys_canonicalEntries o fun k =>
      (attemptFields ++ ["controller_model", "controller_usage"]).contains k]

lemma validData_canonicalEntries [CharacterDatabase] (kind : String) (o : JsonObject) :
    validData kind (canonicalEntries o) = validData kind o := by
  unfold validData
  split
  · exact validTask_canonicalEntries o
  case h_6 => exact validAttempt_canonicalEntries o
  all_goals
    simp only [validAuthored, validMemory, validInbox, validContribution, validReview, validRun,
      hasKeys_canonicalEntries, getEntry_canonicalEntries, oneOf_map_canonical, text_map_canonical,
      str?_map_canonical, texts_map_canonical, isArray_map_canonical, Option.isNone_map,
      map_canonical_eq_str, map_canonical_eq_bool]

/-- A stored record is accepted exactly when the record was. -/
theorem validRecord_canonicalEntries [CharacterDatabase] (payload : JsonObject) :
    validRecord (canonicalEntries payload) = validRecord payload := by
  unfold validRecord
  simp only [hasKeys_canonicalEntries, getEntry_canonicalEntries, text_map_canonical]
  congr 1
  rcases getEntry "kind" payload with _ | kind
  · rfl
  · rcases getEntry "data" payload with _ | data
    · cases kind <;> rfl
    · cases kind with
      | str kind =>
        cases data with
        | dict stamped =>
          simp only [Option.map_some, canonical_str, canonical_dict, withoutTimes_canonicalEntries,
            getEntry_canonicalEntries, validTime_map_canonical, identifier_map_canonical,
            str?_map_canonical, validData_canonicalEntries]
          rw [canonicalJson_congr (show (dict (canonicalEntries (withoutTimes stamped))).canonical =
            (dict (withoutTimes stamped)).canonical by simp)]
        | _ => rfl
      | _ => cases data <;> rfl

end Stored

end Aizim.Research
