import Aizim.Knowledge.Deltas

/-!
# What a promotion works with

The values that a promotion gets from Lean, with the checks of their constructors, and the effects
that its program performs: one for each transaction of the store, one for a read of it, the file
operations of the artifact store, and the three calls that are awaited.

While an awaited call is pending, a heartbeat refreshes the claim of the contribution.  `active`
is an effect that is performed with the heartbeat beside it.
-/

namespace Aizim.Knowledge

open JsonValue JsonObject Domain State

/-! ## Evidence -/

/-- `_MODULE` -/
def isPromotionModule (module : String) : Bool :=
  ["AizimSmoke.Research.", "AizimResearch."].any fun root =>
    root.toList.isPrefixOf module.toList &&
      match module.toList.drop root.toList.length with
      | [] => false
      | c :: cs => isIdentifierStart c && cs.all isIdentifierRest

/-- What the verification of a source found, with the checks of the constructor. -/
structure PromotionEvidence where
  diagnostics : List String
  axioms : List String
  completeType : String
  dependencies : List String
  assumptions : List String
  moduleSource : Option Bytes
  diagnosticsResponseHash : Option String
  buildResponseHash : Option String
  axiomResponseHash : Option String
  buildSuccess : Bool
  sourceScanWarnings : List String
  completeType_ne : completeType ≠ ""
  texts_ne : ∀ texts ∈ [diagnostics, axioms, dependencies, assumptions, sourceScanWarnings],
    "" ∉ texts
  hashes_valid : ∀ hash ∈ [diagnosticsResponseHash, buildResponseHash, axiomResponseHash],
    hash.all isSha256 = true

/-- A module that was put into the project, and the base epoch the project then has. -/
structure PromotionMaterialization where
  module : String
  contentHash : String
  baseEpoch : String
  module_valid : isPromotionModule module = true
  contentHash_valid : isSha256 contentHash = true
  baseEpoch_valid : isSha256 baseEpoch = true

/-- `PromotionOutcome` -/
structure PromotionOutcome where
  contributionId : String
  state : PublicationQueueState
  newEpoch : Option EpochPair
  rebasedContributionId : Option String

/-- `_ALLOWED_AXIOMS` -/
def allowedAxioms : List String := ["propext", "Classical.choice", "Quot.sound"]

/-- `set(evidence.axioms) <= _ALLOWED_AXIOMS` -/
def PromotionEvidence.axiomsAllowed (evidence : PromotionEvidence) : Bool :=
  evidence.axioms.all allowedAxioms.contains

/-- `accepted` -/
def PromotionEvidence.accepted (evidence : PromotionEvidence) : Bool :=
  evidence.diagnostics.isEmpty && evidence.buildSuccess && evidence.sourceScanWarnings.isEmpty &&
    !evidence.axioms.contains "sorryAx" && evidence.axiomsAllowed

/-! ## Effects -/

/-- The single steps of a promotion.  `snapshot` is a read of the store. -/
inductive PromotionRequest
  | snapshot
  | claimNext (owner : String)
  | recoverExpired (owner : String) (claimTimeout : ℕ)
  | appendEvent (command : AppendEventCommand)
  | advance (contributionId owner : String) (target : PublicationQueueState)
  | prepare (contributionId owner : String) (prepared : AppendEventCommand)
  | publish (contributionId owner : String) (declaration delta : AppendEventCommand)
  | fail (contributionId owner : String) (failure : AppendEventCommand)
  | rebase (contributionId owner : String) (submitted rebased : AppendEventCommand)
  | file (operation : FileEffect)
  | verify (source : Bytes) (theoremName : String)
  | materialize (source : Bytes) (epochPair : EpochPair) (publicationSequence : ℕ)
  | activate (materialization : PromotionMaterialization)

/-- What a step answers. -/
def PromotionRequest.Answer [CharacterDatabase] : PromotionRequest → Type
  | snapshot => Tables
  | claimNext _ => Option PublicationQueueEntry
  | recoverExpired _ _ => Option PublicationQueueEntry
  | appendEvent _ => EventRecord
  | advance _ _ _ => PublicationQueueEntry
  | prepare _ _ _ => PublicationQueueEntry
  | publish _ _ _ _ => PublicationQueueEntry
  | fail _ _ _ => PublicationQueueEntry
  | rebase _ _ _ _ => PublicationQueueEntry × PublicationQueueEntry
  | file operation => FileAnswer operation
  | verify _ _ => PromotionEvidence
  | materialize _ _ _ => PromotionMaterialization
  | activate _ => Unit

/-- A step, or a step with the heartbeat of a claim beside it. -/
inductive PromotionEffect
  | step (request : PromotionRequest)
  | active (contributionId owner : String) (request : PromotionRequest)

variable [CharacterDatabase]

/-- What an effect answers. -/
def PromotionAnswer : PromotionEffect → Type
  | .step request => request.Answer
  | .active _ _ request => request.Answer

/-- A program of the promotion service. -/
abbrev PromotionProgram (α : Type) := Program PromotionEffect PromotionAnswer Fault α

/-- Perform one step. -/
def perform (request : PromotionRequest) : PromotionProgram request.Answer :=
  Program.request (PromotionEffect.step request)

/-- A snapshot of the store. -/
def snapshot : PromotionProgram Tables := perform .snapshot

/-- `claim_next_promotion` -/
def claimNext (owner : String) : PromotionProgram (Option PublicationQueueEntry) :=
  perform (.claimNext owner)

/-- `recover_expired_promotion` -/
def recoverExpired (owner : String) (claimTimeout : ℕ) :
    PromotionProgram (Option PublicationQueueEntry) :=
  perform (.recoverExpired owner claimTimeout)

/-- `append_event` -/
def appendEvent (command : AppendEventCommand) : PromotionProgram EventRecord :=
  perform (.appendEvent command)

/-- `advance_promotion` -/
def advancePromotion (contributionId owner : String) (target : PublicationQueueState) :
    PromotionProgram PublicationQueueEntry :=
  perform (.advance contributionId owner target)

/-- `prepare_promotion` -/
def preparePromotion (contributionId owner : String) (prepared : AppendEventCommand) :
    PromotionProgram PublicationQueueEntry :=
  perform (.prepare contributionId owner prepared)

/-- `publish_promotion` -/
def publishPromotion (contributionId owner : String) (declaration delta : AppendEventCommand) :
    PromotionProgram PublicationQueueEntry :=
  perform (.publish contributionId owner declaration delta)

/-- `fail_promotion` -/
def failPromotion (contributionId owner : String) (failure : AppendEventCommand) :
    PromotionProgram PublicationQueueEntry :=
  perform (.fail contributionId owner failure)

/-- `rebase_promotion` -/
def rebasePromotion (contributionId owner : String) (submitted rebased : AppendEventCommand) :
    PromotionProgram (PublicationQueueEntry × PublicationQueueEntry) :=
  perform (.rebase contributionId owner submitted rebased)

/-- `verify` -/
def verify (source : Bytes) (theoremName : String) : PromotionProgram PromotionEvidence :=
  perform (.verify source theoremName)

/-- `materialize` -/
def materialize (source : Bytes) (epochPair : EpochPair) (publicationSequence : ℕ) :
    PromotionProgram PromotionMaterialization :=
  perform (.materialize source epochPair publicationSequence)

/-- `activate` -/
def activate (materialization : PromotionMaterialization) : PromotionProgram Unit :=
  perform (.activate materialization)

/-- Perform file operations. -/
def onFiles {α : Type} (program : FileProgram α) : PromotionProgram α :=
  program.mapEffects (fun operation => .step (.file operation)) fun _ answer => answer

/-- The effect with the heartbeat beside it. -/
def PromotionEffect.withHeartbeat (contributionId owner : String) : PromotionEffect → PromotionEffect
  | step request => active contributionId owner request
  | active contributionId owner request => active contributionId owner request

/-- `_active` -/
def active {α : Type} (contributionId owner : String) (operation : PromotionProgram α) :
    PromotionProgram α :=
  operation.mapEffects (PromotionEffect.withHeartbeat contributionId owner) fun effect answer =>
    match effect, answer with
    | .step _, answer => answer
    | .active _ _ _, answer => answer

end Aizim.Knowledge
