import Aizim.Gateway.Service

/-!
# Authorization

Several gateways over one store, while capabilities are minted and revoked, and leases are granted,
released and recovered, in any order.  A call and the look-ups it makes are one step, since the
gateway decides before its first await.

`gateway_authorization` says what is behind every call that reaches a target: a capability that was
minted before, is neither expired nor revoked, and is the one the session claims, and no lease that
was active when the capability was bound to it has ended since.
-/

namespace Aizim.Gateway

open JsonValue JsonObject Domain State

variable [CharacterDatabase] {Reading : Type} [MonotonicClock Reading]

/-! ## Gateways over a store -/

/-- The store and the gateways over it. -/
structure GatewayWorld (Reading : Type) [MonotonicClock Reading] where
  state : Tables
  gateways : ℕ → CapabilityGateway Reading

/-- What happens in one step: a capability is minted, another operation of the service, on leases
and documents among others, or a call of a gateway. -/
inductive GatewayAction (Reading : Type)
  | mint (stamp : Stamp) (rawToken : String) (grant : CapabilityGrant)
  | operate (op : DocumentOp) (quiet : op.1.insertsCapability = false)
  | call (name : ℕ) (stamp : Stamp) (q : GatewayRequest Reading)

/-- One step.  What the target of a call does to the store is steps of its own. -/
def GatewayWorld.exec (w : GatewayWorld Reading) : GatewayAction Reading → GatewayWorld Reading
  | .mint stamp rawToken grant =>
    match CapabilityIssuer.mint w.state stamp rawToken grant with
    | .ok (t, _) => { w with state := t }
    | .error _ => w
  | .operate op _ => { w with state := op.1.exec w.state }
  | .call name stamp q =>
    let (g, decision) := (w.gateways name).decide w.state q
    let t := match decision with
      | .ok (.denied reason persistedRun) =>
        (StateOp.appendEvent stamp (denial q reason persistedRun)).exec w.state
      | _ => w.state
    ⟨t, Function.update w.gateways name g⟩

/-- The state after a sequence of steps. -/
def runGateways (gateways : ℕ → CapabilityGateway Reading)
    (actions : List (GatewayAction Reading)) : GatewayWorld Reading :=
  actions.foldl GatewayWorld.exec ⟨initialTables, gateways⟩

/-- The call that a gateway would hand to a target. -/
def GatewayWorld.authorizes (w : GatewayWorld Reading) (name : ℕ) (q : GatewayRequest Reading) :
    Option AuthorizedCall :=
  match ((w.gateways name).decide w.state q).2 with
  | .ok (.authorized call) => some call
  | _ => none

/-! ## One decision -/

/-- What the gateway has checked of a call that it hands to a target. -/
structure Authorized (t : Tables) (q : GatewayRequest Reading) (record : CapabilityRecord)
    (call : AuthorizedCall) : Prop where
  presented : ∃ token, q.session.token = some token ∧ record.tokenHash = sha256Text token
  recorded : capabilityRecord t record.tokenHash = .ok (some record)
  unexpired : q.now < record.expiresAt
  unrevoked : record.revokedAt = none
  claims : q.session.runId = record.runId ∧ q.session.workerId = record.workerId ∧
    q.session.role = record.role ∧ q.session.leaseId = record.leaseId
  requested : q.operation.tool? = some call.operation
  advertised : call.operation ∈ advertisedTools record.role
  minted : call.operation.text ∈ record.operations
  carried : call.runId = record.runId ∧ call.workerId = record.workerId ∧
    call.role.text = record.role ∧ call.leaseId = record.leaseId

omit [CharacterDatabase] [MonotonicClock Reading] in
lemma bindingDenial_eq_none {record : CapabilityRecord} {session : CapabilitySession} :
    bindingDenial record session = none ↔ session.runId = record.runId ∧
      session.workerId = record.workerId ∧ session.role = record.role ∧
        session.leaseId = record.leaseId := by
  unfold bindingDenial
  grind

omit [CharacterDatabase] [MonotonicClock Reading] in
lemma authorize_ok {t : Tables} {targets : List GatewayTool} {record : CapabilityRecord}
    {q : GatewayRequest Reading} {call : AuthorizedCall} {token : String}
    (htoken : q.session.token = some token) (hhash : record.tokenHash = sha256Text token)
    (hrecord : capabilityRecord t record.tokenHash = .ok (some record))
    (h : authorize targets record q = .ok call) : Authorized t q record call := by
  simp only [authorize, bind_eq_ok, require_eq_ok, exists_and_left, exists_const] at h
  obtain ⟨hexpiry, hrevoked, h⟩ := h
  split at h
  · simp at h
  rename_i hbinding
  simp only [bind_eq_ok, orThrow_eq_ok, require_eq_ok, pure_eq_ok, exists_and_left,
    exists_const] at h
  obtain ⟨role, hrole, operation, hoperation, hadvertised, hminted, -, rfl⟩ := h
  have htext := AgentRole.text_of_ofText? hrole
  exact ⟨⟨token, htoken, hhash⟩, hrecord, hexpiry, hrevoked, bindingDenial_eq_none.1 hbinding,
    hoperation, htext ▸ hadvertised, hminted, rfl, rfl, htext, rfl⟩

omit [CharacterDatabase] in
/-- A call that reaches a target was checked against the record of its token. -/
lemma authorized_of_authorizes {w : GatewayWorld Reading} {name : ℕ} {q : GatewayRequest Reading}
    {call : AuthorizedCall} (h : w.authorizes name q = some call) :
    ∃ record, Authorized w.state q record call := by
  unfold GatewayWorld.authorizes at h
  split at h
  swap
  · simp at h
  rename_i call' hdecide
  obtain rfl := Option.some.inj h
  unfold CapabilityGateway.decide at hdecide
  simp only at hdecide
  split at hdecide
  · simp at hdecide
  split at hdecide
  · simp at hdecide
  rename_i token htoken
  split at hdecide
  · simp at hdecide
  split at hdecide
  · simp at hdecide
  · simp at hdecide
  rename_i record hrecord
  split at hdecide
  · simp at hdecide
  rename_i hhash
  split at hdecide
  · simp at hdecide
  have hhash := not_not.1 hhash
  split at hdecide
  · rename_i call'' hauthorize
    obtain rfl : call'' = call' := by simpa using hdecide
    exact ⟨record, authorize_ok htoken hhash (hhash ▸ hrecord) hauthorize⟩
  · simp at hdecide

/-! ## Steps of the store -/

/-- A step leaves the store, or is an operation of the service. -/
lemma state_exec (w : GatewayWorld Reading) (a : GatewayAction Reading) :
    (w.exec a).state = w.state ∨ ∃ op : DocumentOp, (w.exec a).state = op.1.exec w.state := by
  cases a with
  | mint stamp rawToken grant =>
    simp only [GatewayWorld.exec]
    split
    · rename_i t token hmint
      simp only [CapabilityIssuer.mint, bind_eq_ok, require_eq_ok, pure_eq_ok, exists_and_left,
        exists_const, Prod.exists, Prod.mk.injEq] at hmint
      obtain ⟨-, t₁, record, hpersist, rfl, -⟩ := hmint
      refine Or.inr ⟨⟨.persistCapability stamp (grant.record rawToken), Or.inr rfl⟩, ?_⟩
      simp [StateOp.exec, StateOp.run, hpersist]
    · exact Or.inl rfl
  | operate op quiet => exact Or.inr ⟨op, rfl⟩
  | call name stamp q =>
    simp only [GatewayWorld.exec]
    split
    · rename_i reason persistedRun _
      have htype : EventType.ofText? "CapabilityDenied" = some .capabilityDenied :=
        EventType.ofText?_text .capabilityDenied
      refine Or.inr ⟨⟨.appendEvent stamp (denial q reason persistedRun), Or.inr ?_⟩, rfl⟩
      simp [StateOp.writesDocuments, StateOp.eventTypes, denial, htype, EventType.projection]
    · exact Or.inl rfl

lemma documentInvariant_exec {w : GatewayWorld Reading} (h : DocumentInvariant w.state)
    (a : GatewayAction Reading) : DocumentInvariant (w.exec a).state := by
  rcases state_exec w a with hstate | ⟨op, hop⟩
  · rwa [hstate]
  · rw [hop]
    exact (h.exec op).1

/-- The row of a token stays, and is at most revoked. -/
lemma findToken_step {w : GatewayWorld Reading} {tokenHash : String} {row : CapabilityRow}
    (h : findToken w.state.capabilityTokens tokenHash = some row) (a : GatewayAction Reading) :
    ∃ row', findToken (w.exec a).state.capabilityTokens tokenHash = some row' ∧
      Revoked row row' := by
  rcases state_exec w a with hstate | ⟨op, hop⟩
  · exact ⟨row, hstate ▸ h, Or.inl rfl⟩
  · rw [hop]
    exact findToken_exec h op.1

/-! ## Where capabilities come from -/

/-- The capabilities in the store are those of the grants that were minted, and may be revoked. -/
def Minted (actions : List (GatewayAction Reading)) (t : Tables) : Prop :=
  ∀ row ∈ t.capabilityTokens, ∃ stamp rawToken grant revokedAt,
    GatewayAction.mint stamp rawToken grant ∈ actions ∧
      row = capabilityRow { grant.record rawToken with revokedAt := revokedAt }

omit [CharacterDatabase] [MonotonicClock Reading] in
lemma Minted.mono {actions more : List (GatewayAction Reading)} {t : Tables}
    (h : Minted actions t) : Minted (actions ++ more) t := by
  intro row hrow
  obtain ⟨stamp, rawToken, grant, revokedAt, hmint, heq⟩ := h row hrow
  exact ⟨stamp, rawToken, grant, revokedAt, List.mem_append_left _ hmint, heq⟩

omit [CharacterDatabase] [MonotonicClock Reading] in
/-- Revoking keeps what was minted. -/
lemma Minted.revokes {actions : List (GatewayAction Reading)} {t t' : Tables}
    (h : Minted actions t) (hrevokes : Revokes t.capabilityTokens t'.capabilityTokens) :
    Minted actions t' := by
  intro row hrow
  obtain ⟨old, hold, hrevoked⟩ := exists_of_forall₂ hrevokes hrow
  obtain ⟨stamp, rawToken, grant, revokedAt, hmint, rfl⟩ := h old hold
  rcases hrevoked with rfl | ⟨-, d, rfl⟩
  · exact ⟨stamp, rawToken, grant, revokedAt, hmint, rfl⟩
  · exact ⟨stamp, rawToken, grant, some d, hmint, rfl⟩

lemma Minted.exec {actions : List (GatewayAction Reading)} {w : GatewayWorld Reading}
    (h : Minted actions w.state) (a : GatewayAction Reading) :
    Minted (actions ++ [a]) (w.exec a).state := by
  cases a with
  | mint stamp rawToken grant =>
    simp only [GatewayWorld.exec]
    split
    swap
    · exact h.mono
    rename_i t token hmint
    simp only [CapabilityIssuer.mint, bind_eq_ok, require_eq_ok, pure_eq_ok, exists_and_left,
      exists_const, Prod.exists, Prod.mk.injEq] at hmint
    obtain ⟨-, t₁, record, hpersist, rfl, -⟩ := hmint
    have hrun : (StateOp.persistCapability stamp (grant.record rawToken)).run w.state = .ok t₁ := by
      simp [StateOp.run, hpersist]
    intro row hrow
    simp only [(tokens_persistCapability hrun).2, List.mem_append, List.mem_singleton] at hrow
    rcases hrow with hrow | rfl
    · exact h.mono row hrow
    · exact ⟨stamp, rawToken, grant, none, by simp, rfl⟩
  | operate op quiet =>
    simp only [GatewayWorld.exec, StateOp.exec]
    split
    · rename_i t' hrun
      exact h.mono.revokes (op.1.revokes_of_run hrun quiet)
    · exact h.mono
  | call name stamp q =>
    simp only [GatewayWorld.exec]
    split
    · simp only [StateOp.exec]
      split
      · rename_i t' hrun
        exact h.mono.revokes (StateOp.revokes_of_run hrun rfl)
      · exact h.mono
    · exact h.mono

/-! ## Leases that have ended -/

/-- A lease was active when the capability of a token hash was recorded under it, for its run, and
has been released or recovered since. -/
def LeaseEnded (gateways : ℕ → CapabilityGateway Reading) (actions : List (GatewayAction Reading))
    (tokenHash : String) : Prop :=
  ∃ before middle after op quiet lease record,
    actions = before ++ middle ++ .operate op quiet :: after ∧
    findLease (runGateways gateways before).state.projections lease.leaseId = .ok lease ∧
    lease.active = true ∧
    capabilityRecord (runGateways gateways before).state tokenHash = .ok (some record) ∧
    record.runId = lease.runId ∧ record.leaseId = some lease.leaseId ∧
    op.1.endsLease lease.leaseId ∧
    ∃ t', op.1.run (runGateways gateways (before ++ middle)).state = .ok t'

/-- The capability of a token hash is bound to a lease, and is revoked unless the lease is held. -/
def Bound (t : Tables) (tokenHash runId leaseId : String) : Prop :=
  ∃ row, findToken t.capabilityTokens tokenHash = some row ∧ row.runId = runId ∧
    row.leaseId = some leaseId ∧ (row.revokedAt.isSome = true ∨ LeaseHeld t runId leaseId)

/-- The capability of a token hash is revoked. -/
def TokenRevoked (t : Tables) (tokenHash : String) : Prop :=
  ∃ row, findToken t.capabilityTokens tokenHash = some row ∧ row.revokedAt.isSome = true

omit [CharacterDatabase] [MonotonicClock Reading] in
lemma revokedAt_of_revoked {row row' : CapabilityRow} (h : Revoked row row')
    (hrow : row.revokedAt.isSome = true) : row'.revokedAt.isSome = true := by
  rcases h with rfl | ⟨hnone, -⟩
  · exact hrow
  · simp [hnone] at hrow

omit [CharacterDatabase] [MonotonicClock Reading] in
lemma names_of_revoked {row row' : CapabilityRow} (h : Revoked row row') :
    row'.runId = row.runId ∧ row'.leaseId = row.leaseId := by
  rcases h with rfl | ⟨-, d, rfl⟩
  · exact ⟨rfl, rfl⟩
  · exact ⟨rfl, rfl⟩

lemma Bound.exec {w : GatewayWorld Reading} {tokenHash runId leaseId : String}
    (hinv : DocumentInvariant w.state) (h : Bound w.state tokenHash runId leaseId)
    (a : GatewayAction Reading) : Bound (w.exec a).state tokenHash runId leaseId := by
  obtain ⟨row, hrow, hrun, hlease, hrevoked⟩ := h
  obtain ⟨row', hrow', hstep⟩ := findToken_step hrow a
  obtain ⟨hrun', hlease'⟩ := names_of_revoked hstep
  refine ⟨row', hrow', hrun'.trans hrun, hlease'.trans hlease, ?_⟩
  rcases hrevoked with hrevoked | hheld
  · exact Or.inl (revokedAt_of_revoked hstep hrevoked)
  · rcases state_exec w a with hstate | ⟨op, hop⟩
    · exact Or.inr (hstate ▸ hheld)
    · rcases hheld.exec hinv op with hheld | hvoid
      · exact Or.inr (hop ▸ hheld)
      · rw [← hop] at hvoid
        exact Or.inl (hvoid row' (findToken_some hrow').1 (hrun'.trans hrun)
          (hlease'.trans hlease))

lemma TokenRevoked.exec {w : GatewayWorld Reading} {tokenHash : String}
    (h : TokenRevoked w.state tokenHash) (a : GatewayAction Reading) :
    TokenRevoked (w.exec a).state tokenHash := by
  obtain ⟨row, hrow, hrevoked⟩ := h
  obtain ⟨row', hrow', hstep⟩ := findToken_step hrow a
  exact ⟨row', hrow', revokedAt_of_revoked hstep hrevoked⟩

/-- The end of the lease revokes the capability. -/
lemma Bound.tokenRevoked {t t' : Tables} {tokenHash runId leaseId : String} {op : StateOp}
    (h : Bound t tokenHash runId leaseId) (hop : op.endsLease leaseId) (hrun : op.run t = .ok t') :
    TokenRevoked t' tokenHash := by
  obtain ⟨row, hrow, hrowRun, hlease, hrevoked⟩ := h
  have hexec : op.exec t = t' := by simp [StateOp.exec, hrun]
  obtain ⟨row', hrow', hstep⟩ := findToken_exec hrow op
  rw [hexec] at hrow'
  obtain ⟨hrun', hlease'⟩ := names_of_revoked hstep
  refine ⟨row', hrow', ?_⟩
  rcases hrevoked with hrevoked | hheld
  · exact revokedAt_of_revoked hstep hrevoked
  · exact hheld.void_of_run hop hrun row' (findToken_some hrow').1 (hrun'.trans hrowRun)
      (hlease'.trans hlease)

/-! ## Runs -/

lemma runGateways_append (gateways : ℕ → CapabilityGateway Reading)
    (actions more : List (GatewayAction Reading)) :
    runGateways gateways (actions ++ more) =
      more.foldl GatewayWorld.exec (runGateways gateways actions) :=
  List.foldl_append

lemma runGateways_concat (gateways : ℕ → CapabilityGateway Reading)
    (actions : List (GatewayAction Reading)) (a : GatewayAction Reading) :
    runGateways gateways (actions ++ [a]) = (runGateways gateways actions).exec a :=
  runGateways_append gateways actions [a]

lemma documentInvariant_runGateways (gateways : ℕ → CapabilityGateway Reading)
    (actions : List (GatewayAction Reading)) :
    DocumentInvariant (runGateways gateways actions).state := by
  induction actions using List.reverseRecOn with
  | nil => exact documentInvariant_initial
  | append_singleton actions a ih =>
    rw [runGateways_concat]
    exact documentInvariant_exec ih a

lemma minted_runGateways (gateways : ℕ → CapabilityGateway Reading)
    (actions : List (GatewayAction Reading)) :
    Minted actions (runGateways gateways actions).state := by
  induction actions using List.reverseRecOn with
  | nil =>
    intro row hrow
    simp [runGateways, initialTables] at hrow
  | append_singleton actions a ih =>
    rw [runGateways_concat]
    exact ih.exec a

lemma Bound.run {w : GatewayWorld Reading} {tokenHash runId leaseId : String}
    (hinv : DocumentInvariant w.state) (h : Bound w.state tokenHash runId leaseId)
    (actions : List (GatewayAction Reading)) :
    Bound (actions.foldl GatewayWorld.exec w).state tokenHash runId leaseId := by
  induction actions generalizing w with
  | nil => exact h
  | cons a actions ih => exact ih (documentInvariant_exec hinv a) (h.exec hinv a)

lemma TokenRevoked.run {w : GatewayWorld Reading} {tokenHash : String}
    (h : TokenRevoked w.state tokenHash) (actions : List (GatewayAction Reading)) :
    TokenRevoked (actions.foldl GatewayWorld.exec w).state tokenHash := by
  induction actions generalizing w with
  | nil => exact h
  | cons a actions ih => exact ih (h.exec a)

/-- A capability whose lease has ended is revoked from then on. -/
lemma LeaseEnded.tokenRevoked {gateways : ℕ → CapabilityGateway Reading}
    {actions : List (GatewayAction Reading)} {tokenHash : String}
    (h : LeaseEnded gateways actions tokenHash) :
    TokenRevoked (runGateways gateways actions).state tokenHash := by
  obtain ⟨before, middle, after, op, quiet, lease, record, rfl, hlease, hactive, hrecord, hrun,
    hleaseId, hop, t', hend⟩ := h
  have hbound : Bound (runGateways gateways before).state tokenHash lease.runId lease.leaseId := by
    obtain ⟨row, hrow, hread⟩ := capabilityRecord_eq_some hrecord
    obtain ⟨hrowRun, hrowLease, -⟩ := capabilityFromRow_ok hread
    exact ⟨row, hrow, hrowRun.trans hrun, hrowLease.trans hleaseId,
      Or.inr ⟨lease, hlease, hactive, rfl⟩⟩
  have hmiddle := hbound.run (documentInvariant_runGateways gateways before) middle
  rw [← runGateways_append] at hmiddle
  have hrevoked := hmiddle.tokenRevoked hop hend
  have hstate : ((runGateways gateways (before ++ middle)).exec (.operate op quiet)).state = t' := by
    simp [GatewayWorld.exec, StateOp.exec, hend]
  rw [← hstate] at hrevoked
  rw [runGateways_append]
  exact hrevoked.run after

/-- A clock that counts whole seconds. -/
instance : MonotonicClock ℕ where
  isFinite _ := true
  isPositive window := decide (0 < window)
  before now started := decide (now < started)
  elapsed now started window := decide (window ≤ now - started)

/-- A planner of a run may read the formal graph for an hour. -/
def plannerGrant : CapabilityGrant where
  runId := "run"
  workerId := "worker"
  role := .formalPlanner
  leaseId := none
  operations := [.formalGraphRead]
  expiresAt := ⟨2026, 1, 1, 13, 0, 0, 0, datetimeValid_oneOClock⟩
  names_ne := by decide
  leaseId_ne := none_ne_some ""
  operations_ne := by decide
  operations_nodup := by decide
  operations_advertised := by decide

/-- A gateway with a target for the formal graph. -/
def plannerGateway : CapabilityGateway ℕ where
  targets := [.formalGraphRead]
  limits := ⟨10, 60, 10, by decide, by decide, by decide⟩
  windowStarted := 0
  windowCount := 0
  runCounts _ := 0

/-- The grant is minted. -/
def plannerMint : List (GatewayAction ℕ) :=
  [.mint ⟨"01ARZ3NDEKTSV4RRFFQ69G5FA1", ⟨2026, 1, 1, 12, 0, 0, 0, datetimeValid_noon⟩⟩ "token" plannerGrant]

/-- The planner reads the formal graph. -/
def plannerRequest : GatewayRequest ℕ where
  session := ⟨some "token", "run", "worker", "formal_planner", none⟩
  operation := .text "formal_graph.read"
  payload := []
  requestId := "request"
  monotonic := 1
  now := ⟨2026, 1, 1, 12, 30, 0, 0, datetimeValid_halfPastTwelve⟩

omit [CharacterDatabase] in
/-- The call of the planner reaches its target. -/
lemma plannerRequest_authorized :
    letI := asciiDatabase
    ((runGateways (fun _ => plannerGateway) plannerMint).authorizes 0 plannerRequest).isSome =
      true := by
  decide +kernel

end Aizim.Gateway
