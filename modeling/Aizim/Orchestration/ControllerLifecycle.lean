import Aizim.Orchestration.ControllerExecution

/-!
# The lifecycle of the controller

How a session of the controller is started, stopped, and found to have crashed.  The record of the
controller's runtime names the session that runs and the version of the configuration that it runs
with.
-/

namespace Aizim.Orchestration

open JsonValue JsonObject Domain State

/-- The error of a record that cannot be read. -/
def controllerStateInvalid : ControlError := .execution "CONTROLLER_STATE_INVALID"

/-- `ControllerProviderId` -/
structure ControllerProviderId where
  value : String
  valid : isControllerProviderId value = true

variable [CharacterDatabase]

/-- `start_controller` -/
def startController (t : Tables) (stamp : Stamp) (sessionId : String) (controllerVersion : ℕ)
    (provider : ControllerProviderId) (backendVersion executableHash : String) :
    Except ControlError Tables := do
  let configured ← orThrow (findRecord t.projections .controller controllerId)
    (.execution "CONTROLLER_NOT_CONFIGURED")
  let configuredPayload ← readPayload controllerStateInvalid configured
  require (configured.version = controllerVersion) (.execution "CONTROLLER_VERSION_STALE")
  require (getEntry "provider" configuredPayload = some (.str provider.value))
    (.execution "CONTROLLER_PROVIDER_STALE")
  let runtime ← (findRecord t.projections .controllerRuntime controllerId).mapM
    (readPayload controllerStateInvalid)
  require (runtime.bind (getEntry "status") ≠ some (.str "running"))
    (.execution "CONTROLLER_ALREADY_RUNNING")
  appendControl t stamp .controllerStarted controllerId
    [("controller_id", .str controllerId), ("controller_session_id", .str sessionId),
     ("controller_version", .int controllerVersion), ("provider", .str provider.value),
     ("backend_version", .str backendVersion), ("executable_hash", .str executableHash)]

/-- `recover_unclean_controller` -/
def recoverUncleanController (t : Tables) (stamp : Stamp) :
    Except ControlError (Tables × Option String) :=
  match findRecord t.projections .controllerRuntime controllerId with
  | none => pure (t, none)
  | some runtime => do
    let payload ← readPayload controllerStateInvalid runtime
    if getEntry "status" payload ≠ some (.str "running") then pure (t, none)
    else
      let sessionId ← readText controllerStateInvalid payload "controller_session_id"
      let t ← appendControl t stamp .controllerCrashed controllerId
        [("controller_id", .str controllerId), ("controller_session_id", .str sessionId),
         ("reason_code", .str "UNCLEAN_SHUTDOWN")]
      pure (t, some sessionId)

/-- `record_controller_stop` -/
def recordControllerStop (t : Tables) (stamp : Stamp) (sessionId reasonCode : String) :
    Except ControlError Tables :=
  appendControl t stamp .controllerStopped controllerId
    [("controller_id", .str controllerId), ("controller_session_id", .str sessionId),
     ("reason_code", .str reasonCode)]

end Aizim.Orchestration
