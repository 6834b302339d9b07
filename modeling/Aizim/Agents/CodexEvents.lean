import Aizim.Framework.JsonBytesExtent
import Aizim.Framework.Pieces
import Aizim.Framework.Sha256

/-!
# Transcripts of Codex processes

A Codex process writes a line of JSON for each event.  `TransportEventHasher` takes the events one
after the other: their canonical texts, without the tokens in their strings, go into a digest, and
the usage of the turns is added up.  Two readers feed it: `readJsonl` cuts lines out of the chunks
that arrive, and `transportUsage` splits bytes that have all arrived.

What the interpreter grants for an event, a stack frame or the digits of a number, depends on the
event only.
-/

namespace Aizim.Agents

open Metered PyJson PyValue

variable {F : Type}

/-! ## Tokens -/

/-- `[A-Za-z0-9_-]` -/
def isTokenChar : PyChar → Bool
  | .char c => c.isAlphanum || c == '_' || c == '-'
  | .surrogate _ => false

/-- A run of characters of tokens, without the run if it is a token. -/
def endRun (run : PyText) : PyText := if 32 ≤ run.length then pyString "<redacted>" else run

/-- The rest of `_TOKEN_SHAPED.sub("<redacted>", text)`, from inside a run of characters of
tokens. -/
def redactFrom : (run : PyText) → PyText → PyText
  | run, [] => endRun run
  | run, c :: cs =>
    if isTokenChar c then redactFrom (run ++ [c]) cs else endRun run ++ c :: redactFrom [] cs

/-- `_TOKEN_SHAPED.sub("<redacted>", text)` -/
def redactText (text : PyText) : PyText := redactFrom [] text

mutual

/-- `_redact` -/
def redact : PyValue F → PyValue F
  | .str s => .str (redactText s)
  | .list xs => .list (redactItems xs)
  | .dict es => .dict (pyDict (redactEntries es))
  | .null => .null
  | .bool b => .bool b
  | .int i => .int i
  | .float f => .float f

/-- `_redact` of the items of a list. -/
def redactItems : List (PyValue F) → List (PyValue F)
  | [] => []
  | x :: xs => redact x :: redactItems xs

/-- `_redact` of the keys and values of a dictionary. -/
def redactEntries : PyObject F → PyObject F
  | [] => []
  | (k, v) :: es => (redactText k, redact v) :: redactEntries es

end

/-! ## Usage -/

/-- What a model was given and what it wrote. -/
structure TurnUsage where
  inputTokens : ℕ
  cachedInputTokens : ℕ
  outputTokens : ℕ
  deriving DecidableEq

/-- The usage of two turns. -/
def TurnUsage.add (u v : TurnUsage) : TurnUsage :=
  ⟨u.inputTokens + v.inputTokens, u.cachedInputTokens + v.cachedInputTokens,
    u.outputTokens + v.outputTokens⟩

/-- A natural number of the usage of a turn. -/
def amount? (usage : PyObject F) (key : String) : Option ℕ :=
  match usage.get? (pyString key) with
  | some (.int i) => if 0 ≤ i then some i.toNat else none
  | _ => none

/-- The value is this string. -/
def isString (s : String) : Option (PyValue F) → Bool
  | some (.str t) => t == pyString s
  | _ => false

/-- What an event says of usage. -/
inductive UsageReport
  /-- No turn ends with the event. -/
  | other
  /-- A turn ends, and its usage is not known. -/
  | incomplete
  | turn (usage : TurnUsage)
  deriving DecidableEq

/-- The usage of a turn, if all of it is there. -/
def parseUsage (usage : PyObject F) : Option TurnUsage := do
  let inputTokens ← amount? usage "input_tokens"
  let cachedInputTokens ← amount? usage "cached_input_tokens"
  let outputTokens ← amount? usage "output_tokens"
  if cachedInputTokens ≤ inputTokens then some ⟨inputTokens, cachedInputTokens, outputTokens⟩
  else none

/-- The part of `TransportEventHasher.add` that looks for usage. -/
def usageReport (value : PyObject F) : UsageReport :=
  if isString "turn.completed" (value.get? (pyString "type")) then
    match value.get? (pyString "usage") with
    | some (.dict usage) =>
      match parseUsage usage with
      | some usage => .turn usage
      | none => .incomplete
    | _ => .incomplete
  else .other

/-! ## Events -/

/-- What an interpreter grants while an event is read. -/
structure EventInterpreter where
  granted : JsonDemand → Bool
  /-- The frame in which `_redact` visits a value that lies this deep. -/
  redacting : ℕ → Bool

/-- An exception of a reader of events. -/
inductive CodexFault
  /-- `CodexEventError("CODEX_JSONL_INVALID")` -/
  | jsonlInvalid
  /-- `AgentLaunchError("CODEX_STDOUT_LIMIT")` -/
  | stdoutLimit
  /-- An exception that `TransportEventHasher.add` does not catch. -/
  | escaped (fault : PyFault Empty)
  deriving DecidableEq

/-- `ValueError` and `RecursionError`, which `TransportEventHasher.add` catches. -/
def caughtFaults : List (PyFault Empty) := [.unicode, .decode, .value, .recursion]

/-- `TransportEventHasher` -/
structure TransportEventHasher where
  digest : Bytes
  usage : Option TurnUsage
  usageIncomplete : Bool

namespace TransportEventHasher

/-- `TransportEventHasher()` -/
def initial : TransportEventHasher := ⟨[], none, false⟩

/-- The hasher with an event. -/
def record (h : TransportEventHasher) (encoded : Bytes) (report : UsageReport) :
    TransportEventHasher where
  digest := h.digest ++ (Sha256.bigEndian 8 encoded.length ++ encoded)
  usage :=
    match report with
    | .turn usage => some ((h.usage.getD ⟨0, 0, 0⟩).add usage)
    | _ => h.usage
  usageIncomplete := h.usageIncomplete || report == .incomplete

/-- `TransportEventHasher.usage` -/
def reportedUsage (h : TransportEventHasher) : Option TurnUsage :=
  if h.usageIncomplete then none else h.usage

/-- `TransportEventHasher.hexdigest` -/
def hexdigest (h : TransportEventHasher) : String := Sha256.hexdigest h.digest

end TransportEventHasher

section

variable [PyFloat F] (interpreter : EventInterpreter)

/-- The object of a line. -/
def decodeEvent (line : Bytes) : Except (PyFault Empty) (PyObject F) := do
  let text ← orThrow (decodeBytes line) .unicode
  let value ← (PyJson.loads (fun es => .ok (pyDict es)) text : JsonUse Empty (PyValue F)).run
    interpreter.granted JsonDemand.refusal
  match value with
  | .dict value => pure value
  | _ => throw .value

/-- The canonical text of an object without its tokens. -/
def encodeEvent (value : PyObject F) : Except (PyFault Empty) Bytes := do
  require (((PyValue.dict value).parts 1).all fun part => interpreter.redacting part.1) .recursion
  ((redact (.dict value)).canonicalJson : JsonUse Empty Bytes).run interpreter.granted
    JsonDemand.refusal

variable (F) in
/-- What an event puts into the digest, and what it says of usage. -/
def readEvent (line : Bytes) : Except (PyFault Empty) (Bytes × UsageReport) := do
  let value ← decodeEvent (F := F) interpreter line
  let encoded ← encodeEvent interpreter value
  pure (encoded, usageReport value)

variable (F) in
/-- `TransportEventHasher.add` -/
def TransportEventHasher.add (h : TransportEventHasher) (line : Bytes) :
    Except CodexFault TransportEventHasher :=
  match readEvent F interpreter line with
  | .ok event => .ok (h.record event.1 event.2)
  | .error fault => .error (if fault ∈ caughtFaults then .jsonlInvalid else .escaped fault)

/-! ## The two readers -/

variable (F) in
/-- `transport_usage` -/
def transportUsage (source : Bytes) : Except CodexFault (Option TurnUsage) :=
  match ((splitLines source).filter isText).foldlM (TransportEventHasher.add F interpreter)
    .initial with
  | .ok stream => .ok stream.reportedUsage
  | .error .jsonlInvalid => .ok none
  | .error fault => .error fault

/-- `_JSONL_LINE_LIMIT` -/
def jsonlLineLimit : ℕ := 4 * 1024 * 1024

/-- A line is not too long. -/
def checkLine (line : Bytes) : Except CodexFault Unit :=
  require (line.length ≤ jsonlLineLimit) .stdoutLimit

variable (F) in
/-- A line that `_read_jsonl` has cut out. -/
def readLine (hasher : TransportEventHasher) (line : Bytes) :
    Except CodexFault TransportEventHasher := do
  checkLine line
  if line.isEmpty then pure hasher else hasher.add F interpreter line

variable (F) in
/-- The loop of `_read_jsonl` over the lines in `pending`, the first of which has been looked at in
part; what is left of `pending`. -/
def takeLines : TransportEventHasher → (line : Bytes) → Bytes →
    Except CodexFault (TransportEventHasher × Bytes)
  | hasher, line, [] => .ok (hasher, line)
  | hasher, line, b :: bs =>
    if isFeed b then do
      let hasher ← readLine F interpreter hasher line
      takeLines hasher [] bs
    else takeLines hasher (line ++ [b]) bs

/-- What a read returns before the end of the stream. -/
abbrev Chunk := {bytes : Bytes // bytes ≠ []}

variable (F) in
/-- `_read_jsonl`, from some hasher and `pending` on. -/
def readChunks : TransportEventHasher → (pending : Bytes) → List Chunk →
    Except CodexFault TransportEventHasher
  | hasher, pending, [] => if pending.isEmpty then pure hasher else hasher.add F interpreter pending
  | hasher, pending, chunk :: chunks => do
    let (hasher, pending) ← takeLines F interpreter hasher [] (pending ++ chunk.val)
    checkLine pending
    readChunks hasher pending chunks

variable (F) in
/-- `_read_jsonl` -/
def readJsonl (chunks : List Chunk) : Except CodexFault TransportEventHasher :=
  readChunks F interpreter .initial [] chunks

end

end Aizim.Agents
