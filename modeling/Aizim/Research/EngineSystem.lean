import Aizim.Framework.Transition
import Aizim.Research.EngineStretches
import Aizim.Research.OperatorRequests

/-!
# The research project as a system

A research project is a store and at most one process that runs an engine over it.  Its steps are the
requests of the operator, everything else that the service does, the stretches of the engine in any
order that its event loop admits, and the death of the process, between two stretches or after any
save within one.  `StoreInvariant` and `EngineInvariant` hold in every state.

The tokens of `secrets` are assumed to be new: a process starts with tokens that differ from each
other and that no attempt of the store was named after.
-/

namespace Aizim.Research

open Aizim.JsonValue Aizim.JsonObject State Orchestration

/-! ## Steps -/

/-- What may happen next in a process that runs an engine. -/
inductive EngineAction
  | begin (attemptId : String)
  | discard (attemptId : String)
  | settle (attempt : Attempt) (execution : Execution)
  | wake (failure : Option ResearchFailure)
  | poll
  | close (result : Except ResearchFailure Unit)
  | requestStop
  | timeLimit

namespace EngineAction

/-- The event loop may take the action: a new task takes its first step, or none if it was
cancelled; the loop wakes up when attempts have ended, and takes over the exception of one. -/
def Enabled (engine : Engine) : EngineAction → Prop
  | begin id => ∃ a ∈ engine.active, a.attempt.id = id ∧ a.phase = .created ∧
      a.cancelRequested = false
  | discard id => ∃ a ∈ engine.active, a.attempt.id = id ∧ a.phase = .created ∧
      a.cancelRequested = true
  | settle attempt _ => ∃ a ∈ engine.active, a.attempt = attempt ∧ a.phase = .executing
  | wake none => engine.phase = .waiting ∧ (∃ a ∈ engine.active, a.isEnded = true) ∧
      ∀ a ∈ engine.active, ∀ e, a.phase ≠ .ended (.error e)
  | wake (some e) => engine.phase = .waiting ∧ ∃ a ∈ engine.active, a.phase = .ended (.error e)
  | poll => engine.phase = .idle
  | close result => engine.phase = .closing result ∧ ∀ a ∈ engine.active, a.isEnded = true
  | requestStop => True
  | timeLimit => True

variable [CharacterDatabase]

/-- The code of an action. -/
def code : EngineAction → EngineM Unit
  | begin id => setAttemptPhase id .executing
  | discard id => setAttemptPhase id (.ended (.error .cancelled))
  | settle attempt execution => settleAttempt attempt execution
  | wake failure => Research.wake failure
  | poll => Research.poll
  | close result => closed result
  | requestStop => Research.requestStop
  | timeLimit => Research.timeLimit

end EngineAction

/-- `run` has returned or raised. -/
def Engine.isEnded (engine : Engine) : Bool :=
  match engine.phase with
  | .ended _ => true
  | _ => false

/-- The engine of a run that begins. -/
def Engine.initial (config : EngineConfig) (tokens : ℕ → String) : Engine :=
  ⟨config, tokens, false, false, [], .idle⟩

/-- A research project: the store, and the process that runs an engine. -/
structure ResearchWorld where
  tables : Tables
  process : Option Engine

/-- A step of a project. -/
inductive ResearchAction
  | request (draw : Draw) (params : JsonObject)
  | service (op : StateOp)
  | start (config : EngineConfig) (tokens : ℕ → String) (draws : ℕ → Draw)
  | engine (action : EngineAction) (draws : ℕ → Draw)
  | finish (draws : ℕ → Draw)
  | crash

variable [CharacterDatabase]

/-- The tokens are new. -/
structure FreshTokens (t : Tables) (tokens : ℕ → String) : Prop where
  injective : Function.Injective tokens
  unused : ∀ n, attemptAt t ("attempt-" ++ tokens n) = none

/-- What a stretch may leave: the process goes on, or it died after a save. -/
inductive Leaves (code : EngineM Unit) (s : EngineState) : ResearchWorld → Prop
  | done : Leaves code s ⟨(code s).state.tables, some (code s).state.engine⟩
  | died {u : EngineState} (saved : u ∈ (code s).saved) : Leaves code s ⟨u.tables, none⟩

/-- The steps of a project.  A request that raises changes nothing. -/
inductive ResearchStep : ResearchWorld → ResearchAction → ResearchWorld → Prop
  | request {w} (draw params) : ResearchStep w (.request draw params)
      { w with tables := settle w.tables (operatorChange w.tables draw params) }
  | service {w op} (h : EventType.researchRecordUpdated ∉ op.eventTypes) :
      ResearchStep w (.service op) { w with tables := op.exec w.tables }
  | start {t w'} {config tokens draws} (hfresh : FreshTokens t tokens)
      (h : Leaves startRun ⟨t, .initial config tokens, draws⟩ w') :
      ResearchStep ⟨t, none⟩ (.start config tokens draws) w'
  | engine {t engine action draws w'} (hrunning : engine.isEnded = false)
      (henabled : action.Enabled engine) (h : Leaves action.code ⟨t, engine, draws⟩ w') :
      ResearchStep ⟨t, some engine⟩ (.engine action draws) w'
  | finish {t engine result draws w'} (hphase : engine.phase = .ended result)
      (h : Leaves (closeRun result) ⟨t, engine, draws⟩ w') :
      ResearchStep ⟨t, some engine⟩ (.finish draws) ⟨w'.tables, none⟩
  | crash {t engine} : ResearchStep ⟨t, some engine⟩ .crash ⟨t, none⟩

/-- A research project, from a new store without a process. -/
def researchSystem : TransitionSystem ResearchWorld ResearchAction where
  initial w := w = ⟨initialTables, none⟩
  step := ResearchStep

end Aizim.Research
