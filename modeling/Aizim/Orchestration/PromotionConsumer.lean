import Mathlib.Logic.Function.Basic
import Aizim.Knowledge.PromotionResults

/-!
# The promotion consumer

One loop promotes what is in the queue and sleeps until `notify_submission` wakes it.  Others wait
for an epoch, or for the failure that ends the loop.  The three share events: a wait on an event
that is not set sleeps until it is set, and setting it wakes all who sleep on it.

A step is what runs between two awaits of the loop or of a waiter, or what another user of the store
does; within `promote_next` every step of the promotion is one.  An exception may escape from
building the service, from `promote_next` and from `notify_published`, and the label of the step
says so.  `consumer_serves` is about the runs in which none does and in which the loop does not look
for a contribution while another promotion holds the queue.
-/

namespace Aizim.Orchestration

open JsonValue JsonObject Domain State Knowledge TransitionSystem

variable [CharacterDatabase]

/-! ## The consumer -/

/-- How `run` ends. -/
inductive LoopExit
  /-- It returns after an outcome that is not published. -/
  | failed
  | stopped
  | cancelled
  | raised (fault : Fault)

/-- Where `run` is. -/
inductive LoopPhase
  | unstarted
  /-- In `_wake.wait()`, before the event is set. -/
  | sleeping
  /-- In `_wake.wait()`, after the event was set. -/
  | woken
  | promoting (program : PromotionProgram (Option PromotionOutcome))
  | notifying
  | ended (exit : LoopExit)

/-- What a waiter raises. -/
inductive WaitError
  /-- `PromotionConsumerError` -/
  | promotionConsumer (reasonCode : String)
  | fault (fault : Fault)

/-- Where a waiter is, and what it waits for. -/
inductive Waiter (α : Type)
  | unstarted
  | asleep (awaited : α)
  | woken (awaited : α)
  | returned
  | raised (error : WaitError)
  | cancelled

/-- What setting an event does to a waiter. -/
def Waiter.wake {α : Type} : Waiter α → Waiter α
  | asleep awaited => woken awaited
  | waiter => waiter

/-- `PromotionConsumer` with its store, the loop, the stop event and the waiters.  `announced` are
the contributions that were in the queue at some call of `notify_submission`, and `publishedEpochs`
the epochs of the outcomes that said published. -/
structure PromotionConsumer where
  allowedImports : List String
  root : String
  continueOnFailure : Bool
  tables : Tables
  wake : Bool
  published : Bool
  failed : Bool
  failure : Option PromotionOutcome
  stop : Bool
  phase : LoopPhase
  epochWaiters : ℕ → Waiter ℤ
  failureWaiters : ℕ → Waiter Unit
  announced : List String
  publishedEpochs : List ℕ

namespace PromotionConsumer

/-- A new consumer of a store. -/
def create (allowedImports : List String) (root : String) (continueOnFailure : Bool)
    (tables : Tables) : PromotionConsumer where
  allowedImports
  root
  continueOnFailure
  tables
  wake := false
  published := false
  failed := false
  failure := none
  stop := false
  phase := .unstarted
  epochWaiters _ := .unstarted
  failureWaiters _ := .unstarted
  announced := []
  publishedEpochs := []

variable (s : PromotionConsumer)

/-- `_service` -/
def service : Except Fault PromotionService := do
  let deltas ← KnowledgeReader.read s.tables 0
  let imports := s.allowedImports ++ deltas.map (·.module)
  if h : s.root ∈ ["AizimSmoke.Research", "AizimResearch"] then
    pure ⟨"shared-promotion-consumer", imports.eraseDups, s.root, by decide, h⟩
  else throw (.promotion "INVALID_PUBLICATION_NAMESPACE")

/-- `_failure_error` -/
def failureError : WaitError :=
  match s.failure with
  | none => .promotionConsumer "PROMOTION_FAILED"
  | some outcome =>
    if outcome.rebasedContributionId.isSome then .promotionConsumer "EPOCH_MISMATCH"
    else match queryEvents s.tables.toEventLog none with
      | .error e => .fault (.store e)
      | .ok records =>
        let found := records.reverse.find? fun record =>
          record.envelope.eventType == .promotionFailed &&
            getEntry "contribution_id" record.envelope.payload == some (.str outcome.contributionId)
        match found.bind fun record => getEntry "reason_code" record.envelope.payload with
        | some (.str reason) => .promotionConsumer reason
        | _ => .promotionConsumer "PROMOTION_FAILED"

/-- The loop moves on. -/
def moveTo (phase : LoopPhase) : PromotionConsumer := { s with phase }

/-- `_published.set()` -/
def setPublished : PromotionConsumer :=
  { s with published := true, epochWaiters := fun w => (s.epochWaiters w).wake }

/-- `_failed.set()` -/
def setFailed : PromotionConsumer :=
  { s with failed := true, failureWaiters := fun w => (s.failureWaiters w).wake }

/-- `notify_submission` -/
def notifySubmission : PromotionConsumer :=
  { s with
    wake := true
    phase := match s.phase with
      | .sleeping => .woken
      | phase => phase
    announced := s.announced ++ ids s.tables.publicationQueue }

/-- A waiter moves on. -/
def moveEpochWaiter (w : ℕ) (waiter : Waiter ℤ) : PromotionConsumer :=
  { s with epochWaiters := Function.update s.epochWaiters w waiter }

/-- A waiter moves on. -/
def moveFailureWaiter (w : ℕ) (waiter : Waiter Unit) : PromotionConsumer :=
  { s with failureWaiters := Function.update s.failureWaiters w waiter }

/-- `wait_for_epoch`, from the head of its loop to its await or its end. -/
def waitForEpoch (w : ℕ) (epoch : ℤ) : PromotionConsumer :=
  match KnowledgeReader.read s.tables (epoch - 1) with
  | .error e => s.moveEpochWaiter w (.raised (.fault e))
  | .ok (_ :: _) => s.moveEpochWaiter w .returned
  | .ok [] =>
    if s.failure.isSome then
      { s with published := false }.moveEpochWaiter w (.raised s.failureError)
    else { s with published := false }.moveEpochWaiter w (.asleep epoch)

/-- `wait_for_failure` -/
def waitForFailure (w : ℕ) : PromotionConsumer :=
  if s.failed then s.moveFailureWaiter w (.raised s.failureError)
  else s.moveFailureWaiter w (.asleep ())

end PromotionConsumer

/-! ## Steps of the loop -/

/-- The inner loop of `run`, from its head to the next await.  The label is the exception that
escapes from building the service. -/
inductive InnerLoop (s : PromotionConsumer) : Option Fault → PromotionConsumer → Prop
  | stopped (h : s.stop = true) : InnerLoop s none (s.moveTo (.ended .stopped))
  | calls {service : PromotionService} (h : s.stop = false) (built : s.service = .ok service) :
    InnerLoop s none (s.moveTo (.promoting service.promoteNext))
  | raises (h : s.stop = false) (fault : Fault) :
    InnerLoop s (some fault) (s.moveTo (.ended (.raised fault)))

/-- The outer loop of `run`, from its head to the next await. -/
inductive OuterLoop (s : PromotionConsumer) : Option Fault → PromotionConsumer → Prop
  | stopped (h : s.stop = true) : OuterLoop s none (s.moveTo (.ended .stopped))
  | sleeps (h : s.stop = false) (unset : s.wake = false) : OuterLoop s none (s.moveTo .sleeping)
  | goes {s' : PromotionConsumer} {escaped : Option Fault} (h : s.stop = false)
    (set : s.wake = true) (inner : InnerLoop { s with wake := false } escaped s') :
    OuterLoop s escaped s'

/-- `run`, from a step of `promote_next` to the next await. -/
inductive Proceeds (s : PromotionConsumer) :
    PromotionProgram (Option PromotionOutcome) → Option Fault → PromotionConsumer → Prop
  | promoting {effect : PromotionEffect}
    {next : Except Fault (PromotionAnswer effect) → PromotionProgram (Option PromotionOutcome)} :
    Proceeds s (.perform effect next) none (s.moveTo (.promoting (.perform effect next)))
  | raises {fault : Fault} :
    Proceeds s (.raise fault) (some fault) (s.moveTo (.ended (.raised fault)))
  | nothing {s' : PromotionConsumer} {escaped : Option Fault} (outer : OuterLoop s escaped s') :
    Proceeds s (.done none) escaped s'
  | fails {outcome : PromotionOutcome} (h : outcome.state ≠ .published)
    (ends : s.continueOnFailure = false) :
    Proceeds s (.done (some outcome)) none
      (({ s with failure := some outcome }.setPublished.setFailed).moveTo (.ended .failed))
  | continues {outcome : PromotionOutcome} {s' : PromotionConsumer} {escaped : Option Fault}
    (h : outcome.state ≠ .published) (goesOn : s.continueOnFailure = true)
    (inner : InnerLoop s.setPublished escaped s') :
    Proceeds s (.done (some outcome)) escaped s'
  | publishes {outcome : PromotionOutcome} (h : outcome.state = .published) :
    Proceeds s (.done (some outcome)) none
      (({ s with publishedEpochs := s.publishedEpochs ++
          (outcome.newEpoch.map EpochPair.knowledgeEpoch).toList }.setPublished).moveTo .notifying)

/-! ## The system -/

/-- What happens in one step.  The steps of the loop say which exception escapes in them. -/
inductive ConsumerAction
  | start (escaped : Option Fault)
  | resume (escaped : Option Fault)
  /-- A step of the promotion is answered. -/
  | answer (escaped : Option Fault)
  /-- A step of the promotion is pending, and its claim is refreshed. -/
  | pending
  /-- `notify_published` ends. -/
  | notified (escaped : Option Fault)
  | cancel
  | stop
  | notifySubmission
  /-- Another user of the store does an operation. -/
  | use
  | waitForEpoch (w : ℕ) (epoch : ℤ)
  | resumeEpoch (w : ℕ)
  | cancelEpoch (w : ℕ)
  | waitForFailure (w : ℕ)
  | resumeFailure (w : ℕ)
  | cancelFailure (w : ℕ)

/-- The exception that escapes from the loop in a step. -/
def ConsumerAction.escaped : ConsumerAction → Option Fault
  | start escaped | resume escaped | answer escaped | notified escaped => escaped
  | _ => none

/-- One step. -/
inductive ConsumerStep : PromotionConsumer → ConsumerAction → PromotionConsumer → Prop
  | start {s s' : PromotionConsumer} {escaped : Option Fault} (found : s.phase = .unstarted)
    (outer : OuterLoop s escaped s') : ConsumerStep s (.start escaped) s'
  | resume {s s' : PromotionConsumer} {escaped : Option Fault} (found : s.phase = .woken)
    (inner : InnerLoop { s with wake := false } escaped s') : ConsumerStep s (.resume escaped) s'
  | answer {s s' : PromotionConsumer} {effect : PromotionEffect}
    {next : Except Fault (PromotionAnswer effect) → PromotionProgram (Option PromotionOutcome)}
    {answer : Except Fault (PromotionAnswer effect)} {t : Tables} {escaped : Option Fault}
    (found : s.phase = .promoting (.perform effect next))
    (handled : handlePromotion effect s.tables (some answer) t)
    (proceeds : Proceeds { s with tables := t } (next answer) escaped s') :
    ConsumerStep s (.answer escaped) s'
  | pending {s : PromotionConsumer} {effect : PromotionEffect}
    {next : Except Fault (PromotionAnswer effect) → PromotionProgram (Option PromotionOutcome)}
    {t : Tables} (found : s.phase = .promoting (.perform effect next))
    (handled : handlePromotion effect s.tables none t) :
    ConsumerStep s .pending { s with tables := t }
  | notified {s s' : PromotionConsumer} {escaped : Option Fault} (found : s.phase = .notifying)
    (inner : InnerLoop s escaped s') : ConsumerStep s (.notified escaped) s'
  /-- `notify_published` raises. -/
  | notifyFails {s : PromotionConsumer} (found : s.phase = .notifying) (fault : Fault) :
    ConsumerStep s (.notified (some fault)) (s.moveTo (.ended (.raised fault)))
  | cancel {s : PromotionConsumer} (running : ∀ exit, s.phase ≠ .ended exit) :
    ConsumerStep s .cancel (s.moveTo (.ended .cancelled))
  | stop (s : PromotionConsumer) : ConsumerStep s .stop { s with stop := true }
  | notifySubmission (s : PromotionConsumer) : ConsumerStep s .notifySubmission s.notifySubmission
  | use (s : PromotionConsumer) (op : StateOp) :
    ConsumerStep s .use { s with tables := op.exec s.tables }
  | waitForEpoch {s : PromotionConsumer} {w : ℕ} (found : s.epochWaiters w = .unstarted)
    (epoch : ℤ) : ConsumerStep s (.waitForEpoch w epoch) (s.waitForEpoch w epoch)
  | resumeEpoch {s : PromotionConsumer} {w : ℕ} {epoch : ℤ}
    (found : s.epochWaiters w = .woken epoch) :
    ConsumerStep s (.resumeEpoch w) (s.waitForEpoch w epoch)
  | cancelEpoch {s : PromotionConsumer} {w : ℕ} {epoch : ℤ}
    (found : s.epochWaiters w = .asleep epoch ∨ s.epochWaiters w = .woken epoch) :
    ConsumerStep s (.cancelEpoch w) (s.moveEpochWaiter w .cancelled)
  | waitForFailure {s : PromotionConsumer} {w : ℕ} (found : s.failureWaiters w = .unstarted) :
    ConsumerStep s (.waitForFailure w) (s.waitForFailure w)
  | resumeFailure {s : PromotionConsumer} {w : ℕ} (found : s.failureWaiters w = .woken ()) :
    ConsumerStep s (.resumeFailure w) (s.moveFailureWaiter w (.raised s.failureError))
  | cancelFailure {s : PromotionConsumer} {w : ℕ}
    (found : s.failureWaiters w = .asleep () ∨ s.failureWaiters w = .woken ()) :
    ConsumerStep s (.cancelFailure w) (s.moveFailureWaiter w .cancelled)

/-- A consumer on a new store. -/
def consumerSystem (allowedImports : List String) (root : String) (continueOnFailure : Bool) :
    TransitionSystem PromotionConsumer ConsumerAction where
  initial s := s = .create allowedImports root continueOnFailure initialTables
  step := ConsumerStep

/-! ## What the consumer promises -/

/-- Whoever waits for the failure or for an unpublished epoch is told, and does not sleep. -/
structure Tells (s : PromotionConsumer) : Prop where
  epochAwake : ∀ w epoch, s.epochWaiters w ≠ .asleep epoch
  failureAwake : ∀ w awaited, s.failureWaiters w ≠ .asleep awaited
  epoch : ∀ w epoch, KnowledgeReader.read s.tables (epoch - 1) = .ok [] →
    ∃ error, (s.waitForEpoch w epoch).epochWaiters w = .raised error
  failure : ∀ w, ∃ error, (s.waitForFailure w).failureWaiters w = .raised error

/-- A loop that ended by itself has told the waiters, a loop that sleeps has left no contribution
that was announced to it, and nobody sleeps who waits for an epoch that the loop has published. -/
structure Serves (s : PromotionConsumer) : Prop where
  tells : ∀ exit, s.phase = .ended exit → exit ≠ .stopped → exit ≠ .cancelled → Tells s
  wakes : s.phase = .sleeping → s.wake = false → ∀ id ∈ s.announced, ¬ IsQueued s.tables id
  publishes : ∀ w epoch, s.epochWaiters w = .asleep epoch → ∀ published ∈ s.publishedEpochs,
    (published : ℤ) < epoch

/-- The loop asks for the next contribution while another promotion holds the queue, and there is
one. -/
def AsksInVain (s : PromotionConsumer) : Prop :=
  (∃ service : PromotionService, s.phase = .promoting service.promoteNext) ∧
    active s.tables.publicationQueue = true ∧ ∃ id, IsQueued s.tables id

/-- No exception escapes in the step, and the loop does not ask in vain in it. -/
def Calm (s : PromotionConsumer) (a : ConsumerAction) : Prop :=
  a.escaped = none ∧ (a = .answer none → ¬ AsksInVain s)

/-! ## The invariant -/

/-- What a promotion of the loop answers. -/
def Outcomes (program : PromotionProgram (Option PromotionOutcome)) (t : Tables) : Prop :=
  EnsuresSound program (fun outcome t => ∀ o, outcome = some o → Announced o t) t

/-- The invariant of the store, the waiters and what the loop has published. -/
structure Waited (s : PromotionConsumer) : Prop where
  sound : SoundStore s.tables
  announced : ∀ id ∈ s.announced, IsEnqueued s.tables id
  epochs : ∀ published ∈ s.publishedEpochs, HasEpoch s.tables published
  waiting : ∀ w epoch, s.epochWaiters w = .asleep epoch → ∀ published ∈ s.publishedEpochs,
    (published : ℤ) < epoch
  failureKnown : s.failure.isSome = true → ∀ w epoch, s.epochWaiters w ≠ .asleep epoch
  failureSet : s.failed = true → ∀ w awaited, s.failureWaiters w ≠ .asleep awaited

/-- The invariant of the loop.  A program that has claimed an entry never answers nothing. -/
def LoopPhase.Holds (s : PromotionConsumer) : LoopPhase → Prop
  | unstarted => s.wake = false → s.announced = []
  | sleeping => ∀ id ∈ s.announced, IsClaimed s.tables id
  | promoting program => Outcomes program s.tables ∧
    ((∃ service : PromotionService, program = service.promoteNext) ∨
      ∃ claimed : PromotionProgram PromotionOutcome, program = some <$> claimed)
  | ended .failed => s.failure.isSome = true ∧ s.failed = true
  | ended (.raised _) => False
  | _ => True

/-- The invariant. -/
structure ConsumerInvariant (s : PromotionConsumer) : Prop where
  waited : Waited s
  loop : s.phase.Holds s

variable {s s' : PromotionConsumer} {t : Tables} {escaped : Option Fault}

/-- What the others do to the store keeps it. -/
lemma Waited.grows (h : Waited s) (ht : Grows s.tables t) : Waited { s with tables := t } := by
  obtain ⟨hsound, henqueued, -, -⟩ := ht h.sound
  exact ⟨hsound, fun id hid => henqueued id (h.announced id hid),
    fun published hp => (h.epochs published hp).grows h.sound ht, h.waiting, h.failureKnown,
    h.failureSet⟩

lemma Outcomes.grows {program : PromotionProgram (Option PromotionOutcome)} {t t' : Tables}
    (h : Outcomes program t) (ht : Grows t t') : Outcomes program t' :=
  Program.Meets.stable (fun _ _ _ => Grows.trans) h ht

lemma LoopPhase.Holds.grows {phase : LoopPhase} (h : phase.Holds s) (hsound : SoundStore s.tables)
    (ht : Grows s.tables t) : phase.Holds { s with tables := t } := by
  cases phase with
  | sleeping =>
    obtain ⟨-, -, hclaimed, -⟩ := ht hsound
    exact fun id hid => hclaimed id (h id hid)
  | promoting program => exact ⟨h.1.grows ht, h.2⟩
  | ended exit => cases exit <;> exact h
  | _ => exact h

lemma ConsumerInvariant.grows (h : ConsumerInvariant s) (ht : Grows s.tables t) :
    ConsumerInvariant { s with tables := t } :=
  ⟨h.waited.grows ht, h.loop.grows h.waited.sound ht⟩

/-- The invariant of the loop depends on the wake-up, the store and the failure only. -/
lemma LoopPhase.Holds.of_fields {phase : LoopPhase} (h : phase.Holds s) (hwake : s'.wake = s.wake)
    (hannounced : s'.announced = s.announced) (htables : s'.tables = s.tables)
    (hfailure : s'.failure = s.failure) (hfailed : s'.failed = s.failed) : phase.Holds s' := by
  cases phase with
  | unstarted =>
    intro hunset
    rw [hannounced]
    exact h (hwake ▸ hunset)
  | sleeping =>
    intro id hid
    rw [htables]
    exact h id (hannounced ▸ hid)
  | promoting program =>
    rw [Holds, htables]
    exact h
  | ended exit =>
    cases exit with
    | failed =>
      rw [Holds, hfailure, hfailed]
      exact h
    | _ => exact h
  | _ => exact h

/-! ## The loop keeps it -/

lemma InnerLoop.invariant (h : InnerLoop s none s') (hs : Waited s) : ConsumerInvariant s' := by
  generalize hescaped : (none : Option Fault) = escaped at h
  cases h with
  | stopped _ => exact ⟨⟨hs.1, hs.2, hs.3, hs.4, hs.5, hs.6⟩, trivial⟩
  | @calls service _ _ =>
    exact ⟨⟨hs.1, hs.2, hs.3, hs.4, hs.5, hs.6⟩, service.promoteNext_ensures hs.sound,
      .inl ⟨service, rfl⟩⟩
  | raises _ fault => cases hescaped

/-- The outer loop, when no announced contribution is queued or the wake-up is set. -/
lemma OuterLoop.invariant (h : OuterLoop s none s') (hs : Waited s)
    (hclaimed : s.wake = false → ∀ id ∈ s.announced, IsClaimed s.tables id) :
    ConsumerInvariant s' := by
  generalize hescaped : (none : Option Fault) = escaped at h
  cases h with
  | stopped _ => exact ⟨⟨hs.1, hs.2, hs.3, hs.4, hs.5, hs.6⟩, trivial⟩
  | sleeps _ unset => exact ⟨⟨hs.1, hs.2, hs.3, hs.4, hs.5, hs.6⟩, hclaimed unset⟩
  | goes _ _ inner =>
    subst hescaped
    exact inner.invariant ⟨hs.1, hs.2, hs.3, hs.4, hs.5, hs.6⟩

omit [CharacterDatabase] in
/-- Nobody sleeps on an event that was just set. -/
lemma Waiter.wake_ne_asleep {α : Type} (waiter : Waiter α) (awaited : α) :
    waiter.wake ≠ .asleep awaited := by
  cases waiter <;> simp [Waiter.wake]

lemma Waited.setPublished (hs : Waited s) : Waited s.setPublished := by
  refine ⟨hs.sound, hs.announced, hs.epochs, fun w epoch hw => ?_, fun _ w epoch => ?_,
    hs.failureSet⟩
  · exact absurd hw (Waiter.wake_ne_asleep _ _)
  · exact Waiter.wake_ne_asleep _ _

/-- A step of a promotion has been answered.  Nothing is the answer of a claim only, and then no
announced contribution is left. -/
lemma Proceeds.invariant {program : PromotionProgram (Option PromotionOutcome)}
    (h : Proceeds s program none s') (hs : Waited s) (houtcomes : Outcomes program s.tables)
    (hprogram : (program = .done none ∧ ∀ id ∈ s.announced, IsClaimed s.tables id) ∨
      ∃ claimed : PromotionProgram PromotionOutcome, program = some <$> claimed) :
    ConsumerInvariant s' := by
  generalize hescaped : (none : Option Fault) = escaped at h
  cases h with
  | promoting =>
    refine ⟨⟨hs.1, hs.2, hs.3, hs.4, hs.5, hs.6⟩, houtcomes, .inr ?_⟩
    rcases hprogram with ⟨hnone, -⟩ | hclaimed
    · cases hnone
    · exact hclaimed
  | raises => cases hescaped
  | nothing outer =>
    subst hescaped
    rcases hprogram with ⟨-, hclaimed⟩ | ⟨claimed, hclaimed⟩
    · exact outer.invariant hs fun _ => hclaimed
    · cases claimed <;> cases hclaimed
  | @fails outcome _ _ =>
    refine ⟨⟨hs.sound, hs.announced, hs.epochs, fun w epoch hw => ?_, fun _ w epoch => ?_,
      fun _ w awaited => ?_⟩, rfl, rfl⟩
    · exact absurd hw (Waiter.wake_ne_asleep _ _)
    · exact Waiter.wake_ne_asleep _ _
    · exact Waiter.wake_ne_asleep _ _
  | continues _ _ inner =>
    subst hescaped
    exact inner.invariant hs.setPublished
  | @publishes outcome hpublished =>
    obtain ⟨-, hannounced⟩ := houtcomes s.tables (Grows.refl _)
    obtain ⟨pair, hpair, hepoch⟩ := hannounced _ rfl outcome rfl hpublished
    refine ⟨⟨hs.sound, hs.announced, fun published hp => ?_, fun w epoch hw => ?_,
      fun _ w epoch => ?_, hs.failureSet⟩, trivial⟩
    · have hp : published ∈ s.publishedEpochs ++ [pair.knowledgeEpoch] := by
        rw [hpair] at hp
        exact hp
      rcases List.mem_append.1 hp with hp | hp
      · exact hs.epochs published hp
      · rw [List.mem_singleton.1 hp]
        exact hepoch
    · exact absurd hw (Waiter.wake_ne_asleep _ _)
    · exact Waiter.wake_ne_asleep _ _

/-- A claim that finds nothing leaves the store, and another entry is active or none is queued. -/
lemma claimNext_none {t t' : Tables} {stamp : Stamp} {now : Datetime} {owner : String}
    (h : StateService.claimNextPromotion t stamp now owner = .ok (t', none)) :
    t' = t ∧ (active t.publicationQueue = true ∨ ∀ id, ¬ IsQueued t id) := by
  unfold StateService.claimNextPromotion State.claimNext at h
  split at h
  · rename_i hactive
    simp only [pure_eq_ok, Prod.mk.injEq, and_true] at h
    exact ⟨h.symm, .inl hactive⟩
  · split at h
    · rename_i hrows
      simp only [pure_eq_ok, Prod.mk.injEq, and_true] at h
      refine ⟨h.symm, .inr ?_⟩
      rintro id ⟨row, hrow, -, hqueued⟩
      have hempty := List.filter_eq_nil_iff.1 (firstBySequence_eq_none.1 hrows) row hrow
      exact hempty (beq_iff_eq.2 hqueued)
    · simp [bind_eq_ok] at h

/-- What is left of a promotion after a step. -/
lemma next_of_promoting {effect : PromotionEffect}
    {next : Except Fault (PromotionAnswer effect) → PromotionProgram (Option PromotionOutcome)}
    {answer : Except Fault (PromotionAnswer effect)} (hs : Waited s)
    (hphase : s.phase = .promoting (.perform effect next))
    (hprogram : (∃ service : PromotionService, Program.perform effect next = service.promoteNext) ∨
      ∃ claimed : PromotionProgram PromotionOutcome, Program.perform effect next = some <$> claimed)
    (handled : handlePromotion effect s.tables (some answer) t) (hvain : ¬ AsksInVain s) :
    (next answer = .done none ∧ ∀ id ∈ s.announced, IsClaimed t id) ∨
      ∃ claimed : PromotionProgram PromotionOutcome, next answer = some <$> claimed := by
  rcases hprogram with ⟨service, hnext⟩ | ⟨claimed, hnext⟩
  · have hvain : active s.tables.publicationQueue = true → ∀ id, ¬ IsQueued s.tables id :=
      fun hactive id hid => hvain ⟨⟨service, by rw [hphase, hnext]⟩, hactive, id, hid⟩
    cases hnext
    cases answer with
    | error fault => exact .inr ⟨.raise fault, rfl⟩
    | ok entry =>
      cases entry with
      | some entry => exact .inr ⟨service.promote entry, rfl⟩
      | none =>
        rcases handled with ⟨stamp, now, htransacts⟩ | ⟨-, fault, hfault⟩
        · obtain ⟨rfl, hempty⟩ := claimNext_none htransacts.eq_ok
          refine .inl ⟨rfl, fun id hid => ?_⟩
          have hnot : ¬ IsQueued s.tables id := by
            rcases hempty with hactive | hempty
            · exact hvain hactive id
            · exact hempty id
          exact (isQueued_or_isClaimed (hs.announced id hid)).resolve_left hnot
        · cases hfault
  · cases claimed with
    | done outcome => cases hnext
    | raise fault => cases hnext
    | perform effect' next' =>
      cases hnext
      exact .inr ⟨next' answer, rfl⟩

/-! ## The waiters keep it -/

lemma Waited.moveEpochWaiter (h : Waited s) {w : ℕ} {waiter : Waiter ℤ}
    (hasleep : ∀ epoch, waiter = .asleep epoch → s.failure.isSome = false ∧
      ∀ published ∈ s.publishedEpochs, (published : ℤ) < epoch) :
    Waited (s.moveEpochWaiter w waiter) := by
  refine ⟨h.sound, h.announced, h.epochs, fun v epoch hv => ?_, fun hknown v epoch hv => ?_,
    h.failureSet⟩
  all_goals
    by_cases hvw : v = w
    · subst hvw
      simp only [PromotionConsumer.moveEpochWaiter, Function.update_self] at *
      obtain ⟨hnone, hlt⟩ := hasleep epoch hv
      first
        | exact hlt
        | rw [hnone] at hknown
          cases hknown
    · simp only [PromotionConsumer.moveEpochWaiter, Function.update_of_ne hvw] at *
      first
        | exact h.waiting v epoch hv
        | exact h.failureKnown hknown v epoch hv

lemma Waited.moveFailureWaiter (h : Waited s) {w : ℕ} {waiter : Waiter Unit}
    (hasleep : ∀ awaited, waiter = .asleep awaited → s.failed = false) :
    Waited (s.moveFailureWaiter w waiter) := by
  refine ⟨h.sound, h.announced, h.epochs, h.waiting, h.failureKnown, fun hset v awaited hv => ?_⟩
  by_cases hvw : v = w
  · subst hvw
    simp only [PromotionConsumer.moveFailureWaiter, Function.update_self] at *
    rw [hasleep awaited hv] at hset
    cases hset
  · simp only [PromotionConsumer.moveFailureWaiter, Function.update_of_ne hvw] at *
    exact h.failureSet hset v awaited hv

namespace ConsumerInvariant

lemma moveEpochWaiter (h : ConsumerInvariant s) {w : ℕ} {waiter : Waiter ℤ}
    (hasleep : ∀ epoch, waiter = .asleep epoch → s.failure.isSome = false ∧
      ∀ published ∈ s.publishedEpochs, (published : ℤ) < epoch) :
    ConsumerInvariant (s.moveEpochWaiter w waiter) :=
  ⟨h.waited.moveEpochWaiter hasleep, h.loop.of_fields rfl rfl rfl rfl rfl⟩

lemma moveFailureWaiter (h : ConsumerInvariant s) {w : ℕ} {waiter : Waiter Unit}
    (hasleep : ∀ awaited, waiter = .asleep awaited → s.failed = false) :
    ConsumerInvariant (s.moveFailureWaiter w waiter) :=
  ⟨h.waited.moveFailureWaiter hasleep, h.loop.of_fields rfl rfl rfl rfl rfl⟩

/-- A waiter goes to sleep only for an epoch that has not been published. -/
lemma waitForEpoch (h : ConsumerInvariant s) (w : ℕ) (epoch : ℤ) :
    ConsumerInvariant (s.waitForEpoch w epoch) := by
  obtain ⟨⟨hsound, hannounced, hepochs, hwaiting, hknown, hset⟩, hloop⟩ := h
  have hcleared : ConsumerInvariant { s with published := false } :=
    ⟨⟨hsound, hannounced, hepochs, hwaiting, hknown, hset⟩, hloop.of_fields rfl rfl rfl rfl rfl⟩
  unfold PromotionConsumer.waitForEpoch
  split
  · exact moveEpochWaiter ⟨⟨hsound, hannounced, hepochs, hwaiting, hknown, hset⟩, hloop⟩ (by simp)
  · exact moveEpochWaiter ⟨⟨hsound, hannounced, hepochs, hwaiting, hknown, hset⟩, hloop⟩ (by simp)
  · rename_i hread
    split
    · exact hcleared.moveEpochWaiter (by simp)
    · rename_i hfailure
      refine hcleared.moveEpochWaiter fun awaited hawaited => ⟨by simpa using hfailure, ?_⟩
      intro published hp
      by_contra hle
      have hafter : epoch - 1 < published := by
        rw [Waiter.asleep.injEq] at hawaited
        omega
      exact (hepochs published hp).read_ne hafter hread

lemma waitForFailure (h : ConsumerInvariant s) (w : ℕ) :
    ConsumerInvariant (s.waitForFailure w) := by
  unfold PromotionConsumer.waitForFailure
  split
  · exact h.moveFailureWaiter (by simp)
  · rename_i hset
    exact h.moveFailureWaiter fun _ _ => by simpa using hset

/-- A call of `notify_submission` announces what is in the queue, and the loop will look. -/
lemma notifySubmission (h : ConsumerInvariant s) : ConsumerInvariant s.notifySubmission := by
  obtain ⟨⟨hsound, hannounced, hepochs, hwaiting, hknown, hset⟩, hloop⟩ := h
  refine ⟨⟨hsound, fun id hid => ?_, hepochs, hwaiting, hknown, hset⟩, ?_⟩
  · rcases List.mem_append.1 hid with hid | hid
    · exact hannounced id hid
    · exact hid
  · simp only [PromotionConsumer.notifySubmission]
    cases hphase : s.phase with
    | unstarted =>
      intro hunset
      cases hunset
    | sleeping => trivial
    | ended exit =>
      rw [hphase] at hloop
      cases exit <;> exact hloop
    | promoting program =>
      rw [hphase] at hloop
      exact hloop
    | _ => trivial

/-- **Every calm step keeps the invariant.** -/
lemma step (h : ConsumerInvariant s) {a : ConsumerAction} (hstep : ConsumerStep s a s')
    (ha : Calm s a) : ConsumerInvariant s' := by
  obtain ⟨hescaped, hvain⟩ := ha
  obtain ⟨hwaited, hloop⟩ := h
  have hmoved : ∀ phase : LoopPhase, phase.Holds s → ConsumerInvariant (s.moveTo phase) :=
    fun phase hphase => ⟨⟨hwaited.1, hwaited.2, hwaited.3, hwaited.4, hwaited.5, hwaited.6⟩,
      hphase.of_fields rfl rfl rfl rfl rfl⟩
  have hcleared : Waited { s with wake := false } :=
    ⟨hwaited.1, hwaited.2, hwaited.3, hwaited.4, hwaited.5, hwaited.6⟩
  cases hstep with
  | start found outer =>
    obtain rfl : _ = none := hescaped
    rw [found] at hloop
    refine outer.invariant hwaited fun hunset id hid => ?_
    rw [hloop hunset] at hid
    cases hid
  | resume found inner =>
    obtain rfl : _ = none := hescaped
    exact inner.invariant hcleared
  | answer found handled proceeds =>
    obtain rfl : _ = none := hescaped
    rw [found] at hloop
    have hgrows := grows_handle handled
    have hnext := next_of_promoting hwaited found hloop.2 handled (hvain rfl)
    refine proceeds.invariant (hwaited.grows hgrows) ?_ hnext
    exact (hloop.1 _ (Grows.refl _) _ _ handled).2
  | pending found handled => exact ConsumerInvariant.grows ⟨hwaited, hloop⟩ (grows_handle handled)
  | notified found inner =>
    obtain rfl : _ = none := hescaped
    exact inner.invariant hwaited
  | notifyFails found fault => cases hescaped
  | cancel running => exact hmoved _ trivial
  | stop => exact ⟨⟨hwaited.1, hwaited.2, hwaited.3, hwaited.4, hwaited.5, hwaited.6⟩,
      hloop.of_fields rfl rfl rfl rfl rfl⟩
  | notifySubmission => exact notifySubmission ⟨hwaited, hloop⟩
  | use op => exact ConsumerInvariant.grows ⟨hwaited, hloop⟩ (grows_exec s.tables op)
  | waitForEpoch found epoch => exact waitForEpoch ⟨hwaited, hloop⟩ _ epoch
  | resumeEpoch found => exact waitForEpoch ⟨hwaited, hloop⟩ _ _
  | cancelEpoch found => exact moveEpochWaiter ⟨hwaited, hloop⟩ (by simp)
  | waitForFailure found => exact waitForFailure ⟨hwaited, hloop⟩ _
  | resumeFailure found => exact moveFailureWaiter ⟨hwaited, hloop⟩ (by simp)
  | cancelFailure found => exact moveFailureWaiter ⟨hwaited, hloop⟩ (by simp)

/-- What the invariant says of those who wait. -/
lemma serves (h : ConsumerInvariant s) : Serves s := by
  obtain ⟨hwaited, hloop⟩ := h
  refine ⟨fun exit hended hstopped hcancelled => ?_, fun hsleeping _ id hid => ?_, hwaited.waiting⟩
  · rw [hended] at hloop
    cases exit with
    | failed =>
      obtain ⟨hfailure, hfailed⟩ := hloop
      refine ⟨hwaited.failureKnown hfailure, hwaited.failureSet hfailed, fun w epoch hread => ?_,
        fun w => ?_⟩
      · refine ⟨s.failureError, ?_⟩
        simp [PromotionConsumer.waitForEpoch, hread, hfailure, PromotionConsumer.moveEpochWaiter]
      · refine ⟨s.failureError, ?_⟩
        simp [PromotionConsumer.waitForFailure, hfailed, PromotionConsumer.moveFailureWaiter]
    | raised fault => exact hloop.elim
    | stopped => exact absurd rfl hstopped
    | cancelled => exact absurd rfl hcancelled
  · rw [hsleeping] at hloop
    exact hwaited.sound.not_isQueued (hloop id hid)

end ConsumerInvariant

/-- A new consumer that sleeps, and one that waits for its failure. -/
def sleepingConsumer : PromotionConsumer :=
  ((PromotionConsumer.create [] "AizimResearch" false initialTables).moveTo
    .sleeping).waitForFailure 0

lemma reachable_sleepingConsumer {P : PromotionConsumer → ConsumerAction → Prop}
    (hstart : P (.create [] "AizimResearch" false initialTables) (.start none))
    (hwait : P ((PromotionConsumer.create [] "AizimResearch" false initialTables).moveTo .sleeping)
      (.waitForFailure 0)) :
    ((consumerSystem [] "AizimResearch" false).restrict P).Reachable sleepingConsumer := by
  have hinitial : ((consumerSystem [] "AizimResearch" false).restrict P).Reachable
      (.create [] "AizimResearch" false initialTables) := .of_initial rfl
  exact (hinitial.step ⟨.start rfl (.sleeps rfl rfl), hstart⟩).step ⟨.waitForFailure rfl, hwait⟩

end Aizim.Orchestration
