import Aizim.Framework.Transition
import Aizim.Gateway.PeerIdentity
import Aizim.Gateway.TransportFrames

/-!
# The session broker

A worker's token waits with the broker under a session id, and a connection that names the id gets
the token if its peer is the registered one.  Every connection has a handler; a handler runs until
it waits, so one step of the system is what one handler, or one call, does between two waits.
Whatever ends a wait is an input of the step: bytes, an end of the stream, an exception or a
cancellation.

The objects that registrations and handlers refer to stand in one list and are named by their
place, so that a secret can be looked at after nothing refers to it any more.  `single_redemption`
is the law of the broker.
-/

namespace Aizim.Gateway

open Domain

/-! ## Registrations -/

/-- `BrokerRegistration`, with the checks of its constructor; the operations are the granted ones. -/
structure BrokerRegistration where
  runId : String
  workerId : String
  role : AgentRole
  sidecarExecutableSha256 : ImageHash
  expiresAt : Datetime
  rawToken : String
  leaseId : Option String
  operations : List GatewayTool
  names_ne : runId ≠ "" ∧ workerId ≠ ""
  rawToken_ne : rawToken ≠ ""
  leaseId_ne : leaseId ≠ some ""
  operations_ne : operations ≠ []
  operations_nodup : operations.Nodup
  operations_advertised : ∀ operation ∈ operations, operation ∈ advertisedTools role.text

/-- `PendingSession` -/
structure PendingSession where
  runId : String
  workerId : String
  role : AgentRole
  imageHash : ImageHash
  expiresAt : Datetime
  leaseId : Option String
  operations : List GatewayTool
  secret : Bytes

/-- `PendingSession.clear` -/
def PendingSession.clear (pending : PendingSession) : PendingSession :=
  { pending with secret := List.replicate pending.secret.length 0 }

/-- All bytes of the secret are zero. -/
def PendingSession.Cleared (pending : PendingSession) : Prop := ∀ byte ∈ pending.secret, byte = 0

@[simp] lemma PendingSession.cleared_clear (pending : PendingSession) : pending.clear.Cleared :=
  fun _ hbyte => List.eq_of_mem_replicate hbyte

/-- The object that `register` builds. -/
def BrokerRegistration.pending (registration : BrokerRegistration) : PendingSession where
  runId := registration.runId
  workerId := registration.workerId
  role := registration.role
  imageHash := registration.sidecarExecutableSha256
  expiresAt := registration.expiresAt
  leaseId := registration.leaseId
  operations := registration.operations
  secret := encode registration.rawToken

/-- What a registration made: its id, its claims as they were, and its object as it is. -/
structure Session where
  sessionId : String
  registration : BrokerRegistration
  pending : PendingSession

/-- The session with its secret cleared. -/
def Session.clear (session : Session) : Session :=
  { session with pending := session.pending.clear }

/-! ## Responses -/

/-- The first document that a connection is sent. -/
inductive Response
  /-- `_DENIAL` -/
  | denial
  | session (rawToken runId workerId : String) (role : AgentRole) (operations : List GatewayTool)
  deriving DecidableEq

/-- The session of a registration. -/
def BrokerRegistration.response (registration : BrokerRegistration) : Response :=
  .session registration.rawToken registration.runId registration.workerId registration.role
    registration.operations

/-- What a broker is built with: the JSON library, the verifier, its own user, and whether it has a
gateway to serve channels from. -/
structure BrokerSettings (Socket : Type) where
  lib : JsonLibrary
  verifier : PeerVerifier Socket
  ownerEuid : ℤ
  hasGateway : Bool

section

variable {Socket : Type} (settings : BrokerSettings Socket)

/-- The peer is the owner's, runs the registered image, and comes before the expiry. -/
def Valid (identity : PeerIdentity) (pending : PendingSession) (now : Datetime) : Prop :=
  identity.euid = settings.ownerEuid ∧ identity.executableSha256 = pending.imageHash ∧
    now < pending.expiresAt

instance (identity : PeerIdentity) (pending : PendingSession) (now : Datetime) :
    Decidable (Valid settings identity pending now) := by
  unfold Valid
  infer_instance

/-- The body of the `try` that decides the response, and whether a channel follows. -/
def decideResponse (pending : PendingSession) (channel : Bool) (socket : Option Socket)
    (now : Datetime) : Except PeerFault (Response × Bool) :=
  match socket with
  | none => pure (.denial, false)
  | some socket => do
    let identity ← settings.verifier.identity socket
    if Valid settings identity pending now ∧ (channel = false ∨ settings.hasGateway = true) then do
      let rawToken ← orThrow (decode pending.secret) .unicode
      pure (.session rawToken pending.runId pending.workerId pending.role pending.operations,
        channel)
    else pure (.denial, false)

/-- The response, with a denial for what the `except` clause catches. -/
def response (pending : PendingSession) (channel : Bool) (socket : Option Socket)
    (now : Datetime) : Except PeerFault (Response × Bool) :=
  rescue PeerFault.caught (decideResponse settings pending channel socket now)
    (pure (.denial, false))

end

/-! ## The broker -/

/-- Where the handler of a connection waits. -/
inductive Handler
  /-- not yet started -/
  | created
  | readingHeader
  | readingBody (size : ℕ)
  /-- sending a denial, with no registration taken -/
  | denying
  /-- sending the response for a registration, before its channel if there is to be one -/
  | replying (place : ℕ) (channel : Bool)
  /-- in `serve_gateway_channel` -/
  | serving (place : ℕ)
  /-- in `wait_closed` -/
  | closing
  | ended
  deriving DecidableEq

/-- The registration whose object the handler will clear. -/
def Handler.holds : Handler → Option ℕ
  | replying place _ => some place
  | serving place => some place
  | _ => none

/-- A registration taken by a connection: what the peer's socket and the clock were, and the
response. -/
structure Redemption (Socket : Type) where
  connection : ℕ
  sessionId : String
  place : ℕ
  socket : Option Socket
  now : Datetime
  response : Response

/-- A frame that the broker wrote outside of a channel. -/
inductive SentFrame (Socket : Type)
  /-- a denial to a connection that took no registration -/
  | denial (connection : ℕ)
  | answer (redemption : Redemption Socket)

/-- The registration that was taken for a frame. -/
def SentFrame.redemption? {Socket : Type} : SentFrame Socket → Option (Redemption Socket)
  | denial _ => none
  | answer redemption => some redemption

/-- Where the cleanup task is. -/
inductive CleanupTask
  | absent
  | running
  | finished
  /-- ended by an exception or a cancellation -/
  | failed
  deriving DecidableEq

/-- The broker, with all objects that it made and all frames that it wrote, the last first. -/
structure Broker (Socket : Type) where
  registrations : List (String × ℕ)
  sessions : List Session
  starting : ℕ
  server : Bool
  closed : Bool
  cleanup : CleanupTask
  handlers : List Handler
  sent : List (SentFrame Socket)

namespace Broker

variable {Socket : Type}

/-- A new broker. -/
def new : Broker Socket where
  registrations := []
  sessions := []
  starting := 0
  server := false
  closed := false
  cleanup := .absent
  handlers := []
  sent := []

/-- The registrations that were taken. -/
def redemptions (b : Broker Socket) : List (Redemption Socket) :=
  b.sent.filterMap SentFrame.redemption?

/-- The places of the registrations that wait. -/
def places (b : Broker Socket) : List ℕ := b.registrations.map Prod.snd

/-- `register`, with the id that the factory made; where it raises, nothing changes. -/
def register (b : Broker Socket) (sessionId : String) (registration : BrokerRegistration) :
    Broker Socket :=
  if b.closed = true ∨ sessionId = "" ∨ sessionId ∈ b.registrations.map Prod.fst then b
  else { b with
    registrations := b.registrations ++ [(sessionId, b.sessions.length)]
    sessions := b.sessions ++ [⟨sessionId, registration, registration.pending⟩] }

/-- Clear the objects at these places. -/
def clear (b : Broker Socket) (places : List ℕ) : Broker Socket :=
  { b with sessions := b.sessions.mapIdx fun place session =>
      if place ∈ places then session.clear else session }

/-- `_clear_registrations` -/
def clearRegistrations (b : Broker Socket) : Broker Socket :=
  { b.clear b.places with registrations := [] }

/-- `start` up to its wait: it may be refused, and the socket may not be had. -/
def start (b : Broker Socket) (bound : Bool) : Broker Socket :=
  if b.closed = true ∨ b.server = true then b
  else if bound then { b with starting := b.starting + 1 }
  else b.clearRegistrations

/-- `start` after its wait, which may have raised. -/
def resumeStart (b : Broker Socket) (returned : Bool) : Broker Socket :=
  if b.starting = 0 then b
  else if returned then { b with starting := b.starting - 1, server := true }
  else { b.clearRegistrations with starting := b.starting - 1 }

/-- `_accept`: a server gives connections, and may give the last of them while it closes. -/
def accept (b : Broker Socket) : Broker Socket :=
  if b.server = true ∨ b.cleanup ≠ .absent then { b with handlers := b.handlers ++ [.created] }
  else b

/-- The handler of a connection goes on to its next wait. -/
def setHandler (b : Broker Socket) (connection : ℕ) (handler : Handler) : Broker Socket :=
  { b with handlers := b.handlers.set connection handler }

/-- `write_frame(writer, _DENIAL)`, up to its wait. -/
def deny (b : Broker Socket) (connection : ℕ) : Broker Socket :=
  { b.setHandler connection .denying with sent := .denial connection :: b.sent }

/-- `int.from_bytes(header, "big")` -/
def frameSize (header : Bytes) : ℕ := header.foldl (fun size byte => size * 256 + byte) 0

/-- `MAX_FRAME_BYTES` -/
def maxFrameBytes : ℕ := 4096

/-- `self._registrations.pop(session_id)` -/
def pop (b : Broker Socket) (sessionId : String) : Broker Socket :=
  { b with registrations := b.registrations.filter (·.1 != sessionId) }

/-- `write_frame` of the response for a registration, up to its wait. -/
def answer (b : Broker Socket) (redemption : Redemption Socket) (channel : Bool) : Broker Socket :=
  { b.setHandler redemption.connection (.replying redemption.place channel) with
    sent := .answer redemption :: b.sent }

/-- What `_handle` does with the body of the request, up to its wait. -/
def redeem (settings : BrokerSettings Socket) (b : Broker Socket) (connection : ℕ) (body : Bytes)
    (socket : Option Socket) (now : Datetime) : Broker Socket :=
  match decodeSessionRequest settings.lib body with
  | .error _ => b.setHandler connection .closing
  | .ok none => b.deny connection
  | .ok (some (sessionId, channel)) =>
    match b.registrations.find? (·.1 == sessionId) with
    | none => b.deny connection
    | some (_, place) =>
      match b.sessions[place]? with
      -- no registration refers beyond the list
      | none => (b.pop sessionId).setHandler connection .closing
      | some session =>
        match response settings session.pending channel socket now with
        -- the object is not cleared where the verifier raises what nothing catches
        | .error _ => (b.pop sessionId).setHandler connection .closing
        | .ok (response, channel) =>
          (b.pop sessionId).answer ⟨connection, sessionId, place, socket, now, response⟩ channel

/-- What ends a wait: the call returned, with the bytes of a read; the stream ended first, after
some bytes; or the call raised, which a cancellation makes it do. -/
inductive Wake
  | returned (body : Bytes)
  | incomplete (read : Bytes)
  | raised

/-- `_handle` from one wait to the next. -/
def resume (settings : BrokerSettings Socket) (b : Broker Socket) (connection : ℕ) (wake : Wake)
    (socket : Option Socket) (now : Datetime) : Handler → Broker Socket
  | .created =>
    match wake with
    | .returned _ => b.setHandler connection .readingHeader
    | _ => b.setHandler connection .ended
  | .readingHeader =>
    match wake with
    | .returned header =>
      if maxFrameBytes < frameSize header then b.deny connection
      else b.setHandler connection (.readingBody (frameSize header))
    | .incomplete read => if read = [] then b.setHandler connection .closing else b.deny connection
    | .raised => b.setHandler connection .closing
  | .readingBody size =>
    match wake with
    | .returned body => if body.length = size then b.redeem settings connection body socket now else b
    | .incomplete _ => b.deny connection
    | .raised => b.setHandler connection .closing
  | .denying => b.setHandler connection .closing
  | .replying place channel =>
    match wake, channel with
    | .returned _, true => b.setHandler connection (.serving place)
    | _, _ => (b.clear [place]).setHandler connection .closing
  | .serving place => (b.clear [place]).setHandler connection .closing
  | .closing => b.setHandler connection .ended
  | .ended => b

/-- The `finally` of `_cleanup`. -/
def finish (b : Broker Socket) (outcome : CleanupTask) : Broker Socket :=
  { b.clearRegistrations with server := false, closed := true, cleanup := outcome }

/-- `aclose`: the first call makes the cleanup task, which without a server ends at once. -/
def close (b : Broker Socket) : Broker Socket :=
  if b.cleanup ≠ .absent then b
  else if b.server = true then { b with cleanup := .running }
  else b.finish .finished

/-- `_cleanup` after its last wait: it returned when no handler was left, or it raised. -/
def resumeCleanup (b : Broker Socket) (returned : Bool) : Broker Socket :=
  if b.cleanup ≠ .running then b
  else if returned then
    if ∀ handler ∈ b.handlers, handler = .ended then b.finish .finished else b
  else b.finish .failed

end Broker

/-- What happens to a broker. -/
inductive BrokerAction (Socket : Type)
  | register (sessionId : String) (registration : BrokerRegistration)
  | start (bound : Bool)
  | resumeStart (returned : Bool)
  | accept
  | resume (connection : ℕ) (wake : Broker.Wake) (socket : Option Socket) (now : Datetime)
  | close
  | resumeCleanup (returned : Bool)

/-- One step of the broker. -/
def Broker.exec {Socket : Type} (settings : BrokerSettings Socket) (b : Broker Socket) :
    BrokerAction Socket → Broker Socket
  | .register sessionId registration => b.register sessionId registration
  | .start bound => b.start bound
  | .resumeStart returned => b.resumeStart returned
  | .accept => b.accept
  | .resume connection wake socket now =>
    match b.handlers[connection]? with
    | some handler => b.resume settings connection wake socket now handler
    | none => b
  | .close => b.close
  | .resumeCleanup returned => b.resumeCleanup returned

/-- The broker as a transition system. -/
def brokerSystem {Socket : Type} (settings : BrokerSettings Socket) :
    TransitionSystem (Broker Socket) (BrokerAction Socket) :=
  .ofFunction .new (Broker.exec settings)


/-! ## The invariant -/

section

variable {Socket : Type} {settings : BrokerSettings Socket} {b : Broker Socket}

variable (settings) in
/-- The response went to a peer that was asked for and found valid, before the expiry, and is that
of the registration; any other response is a denial. -/
def Redemption.Authorised (r : Redemption Socket) (session : Session) : Prop :=
  r.response = .denial ∨
    (∃ socket identity, r.socket = some socket ∧
      settings.verifier.identity socket = .ok identity ∧ identity.euid = settings.ownerEuid ∧
      identity.executableSha256 = session.registration.sidecarExecutableSha256 ∧
      r.now < session.registration.expiresAt) ∧
    r.response = session.registration.response

variable (settings) in
/-- What holds of a broker at all times. -/
structure Broker.Invariant (b : Broker Socket) : Prop where
  ids_nodup : (b.registrations.map Prod.fst).Nodup
  /-- a registration waits or was taken once -/
  places_nodup : (b.places ++ b.redemptions.map Redemption.place).Nodup
  registered : ∀ sessionId place, (sessionId, place) ∈ b.registrations →
    ∃ registration, b.sessions[place]? = some ⟨sessionId, registration, registration.pending⟩
  redeemed : ∀ r ∈ b.redemptions, ∃ session, b.sessions[r.place]? = some session ∧
    session.sessionId = r.sessionId ∧ r.Authorised settings session
  /-- a secret is zero, waits, or is in the hands of one handler -/
  held : ∀ place session, b.sessions[place]? = some session → session.pending.Cleared ∨
    place ∈ b.places ∨
      ∃ (connection : ℕ) (handler : Handler), b.handlers[connection]? = some handler ∧
        handler.holds = some place
  holder : ∀ (connection : ℕ) (handler : Handler) (place : ℕ),
    b.handlers[connection]? = some handler → handler.holds = some place →
      ∃ r ∈ b.redemptions, r.connection = connection ∧ r.place = place
  handlers_eq_nil : b.server = false → b.cleanup = .absent → b.handlers = []
  registrations_eq_nil : b.closed = true → b.registrations = []
  finished : b.cleanup = .finished →
    b.closed = true ∧ ∀ session ∈ b.sessions, session.pending.Cleared

namespace Broker

lemma getElem?_clear (b : Broker Socket) (places : List ℕ) (place : ℕ) :
    (b.clear places).sessions[place]? =
      b.sessions[place]?.map fun session => if place ∈ places then session.clear else session := by
  rw [clear, List.getElem?_mapIdx]

/-- What is known of the sessions after some were cleared. -/
lemma exists_of_getElem?_clear {places : List ℕ} {place : ℕ} {session : Session}
    (h : (b.clear places).sessions[place]? = some session) :
    ∃ before, b.sessions[place]? = some before ∧
      session = if place ∈ places then before.clear else before := by
  rw [getElem?_clear, Option.map_eq_some_iff] at h
  obtain ⟨before, hbefore, hsession⟩ := h
  exact ⟨before, hbefore, hsession.symm⟩

/-- A cleared secret stays cleared. -/
lemma cleared_of_getElem?_clear {places : List ℕ} {place : ℕ} {session before : Session}
    (hcleared : before.pending.Cleared)
    (hsession : session = if place ∈ places then before.clear else before) :
    session.pending.Cleared := by
  by_cases hplace : place ∈ places
  · rw [hsession, if_pos hplace]
    exact before.pending.cleared_clear
  · rw [hsession, if_neg hplace]
    exact hcleared

lemma forall_cleared_clear {places : List ℕ}
    (h : ∀ session ∈ b.sessions, session.pending.Cleared) :
    ∀ session ∈ (b.clear places).sessions, session.pending.Cleared := by
  intro session hsession
  obtain ⟨place, hplace⟩ := List.mem_iff_getElem?.1 hsession
  obtain ⟨before, hbefore, hafter⟩ := exists_of_getElem?_clear hplace
  exact cleared_of_getElem?_clear (h before (List.mem_of_getElem? hbefore)) hafter

/-- A clear keeps what a redemption says of its registration. -/
lemma redeemed_clear (h : b.Invariant settings) (places : List ℕ) :
    ∀ r ∈ b.redemptions, ∃ session, (b.clear places).sessions[r.place]? = some session ∧
      session.sessionId = r.sessionId ∧ r.Authorised settings session := by
  intro r hr
  obtain ⟨session, hsession, hid, hauthorised⟩ := h.redeemed r hr
  rw [getElem?_clear, hsession]
  by_cases hplace : r.place ∈ places
  · exact ⟨session.clear, by simp [hplace], hid, hauthorised⟩
  · exact ⟨session, by simp [hplace], hid, hauthorised⟩

lemma invariant_new : (new : Broker Socket).Invariant settings where
  ids_nodup := List.nodup_nil
  places_nodup := List.nodup_nil
  registered _ _ h := by simp [new] at h
  redeemed _ h := by simp [new, redemptions] at h
  held _ _ h := by simp [new] at h
  holder _ _ _ h := by simp [new] at h
  handlers_eq_nil _ _ := rfl
  registrations_eq_nil _ := rfl
  finished h := by simp [new] at h

/-! ### Handlers -/

/-- A handler that goes on with what it holds. -/
lemma Invariant.setHandler (h : b.Invariant settings) {connection : ℕ} {handler : Handler}
    (hhandler : b.handlers[connection]? = some handler) (next : Handler)
    (hholds : next.holds = handler.holds) :
    (b.setHandler connection next).Invariant settings where
  ids_nodup := h.ids_nodup
  places_nodup := h.places_nodup
  registered := h.registered
  redeemed := h.redeemed
  held place session hsession := by
    rcases h.held place session hsession with hcleared | hplace | ⟨c, other, hother, hheld⟩
    · exact .inl hcleared
    · exact .inr (.inl hplace)
    · right; right
      by_cases hc : c = connection
      · subst hc
        obtain rfl := Option.some.inj (hhandler.symm.trans hother)
        have hlt : c < b.handlers.length := (List.getElem?_eq_some_iff.1 hother).1
        exact ⟨c, next, by simp [Broker.setHandler, hlt], hholds.trans hheld⟩
      · refine ⟨c, other, ?_, hheld⟩
        rw [Broker.setHandler, List.getElem?_set_ne fun heq => hc heq.symm]
        exact hother
  holder c other place hother hheld := by
    by_cases hc : c = connection
    · subst hc
      have hlt : c < b.handlers.length := (List.getElem?_eq_some_iff.1 hhandler).1
      simp only [Broker.setHandler, List.getElem?_set_self hlt, Option.some.injEq] at hother
      subst hother
      exact h.holder c handler place hhandler (hholds.symm.trans hheld)
    · rw [Broker.setHandler, List.getElem?_set_ne fun heq => hc heq.symm] at hother
      exact h.holder c other place hother hheld
  handlers_eq_nil hserver hcleanup := by
    have hnil := h.handlers_eq_nil hserver hcleanup
    rw [hnil] at hhandler
    simp at hhandler
  registrations_eq_nil := h.registrations_eq_nil
  finished := h.finished

lemma Invariant.deny (h : b.Invariant settings) {connection : ℕ} {handler : Handler}
    (hhandler : b.handlers[connection]? = some handler) (hholds : handler.holds = none) :
    (b.deny connection).Invariant settings := by
  have hnext := h.setHandler hhandler .denying hholds.symm
  exact ⟨hnext.ids_nodup, hnext.places_nodup, hnext.registered, hnext.redeemed, hnext.held,
    hnext.holder, hnext.handlers_eq_nil, hnext.registrations_eq_nil, hnext.finished⟩

/-- No registration that a connection took still waits. -/
lemma Invariant.not_mem_places (h : b.Invariant settings) {r : Redemption Socket}
    (hr : r ∈ b.redemptions) : r.place ∉ b.places := fun hplace =>
  List.disjoint_of_nodup_append h.places_nodup hplace (List.mem_map_of_mem hr)

/-- A registration is taken by one connection. -/
lemma Invariant.eq_of_place_eq (h : b.Invariant settings) {r r' : Redemption Socket}
    (hr : r ∈ b.redemptions) (hr' : r' ∈ b.redemptions) (hplace : r.place = r'.place) : r = r' :=
  List.inj_on_of_nodup_map (List.nodup_append.1 h.places_nodup).2.1 hr hr' hplace

/-- A handler that clears what it holds. -/
lemma Invariant.release (h : b.Invariant settings) {connection place : ℕ} {handler : Handler}
    (hhandler : b.handlers[connection]? = some handler) (hholds : handler.holds = some place) :
    ((b.clear [place]).setHandler connection .closing).Invariant settings := by
  obtain ⟨r, hr, hconnection, hplace⟩ := h.holder connection handler place hhandler hholds
  have hlt : connection < b.handlers.length := (List.getElem?_eq_some_iff.1 hhandler).1
  exact {
    ids_nodup := h.ids_nodup
    places_nodup := h.places_nodup
    registered := by
      intro sessionId waiting hwaiting
      obtain ⟨registration, hregistration⟩ := h.registered sessionId waiting hwaiting
      have hne : waiting ≠ place := by
        rintro rfl
        exact h.not_mem_places hr (hplace ▸ List.mem_map.2 ⟨_, hwaiting, rfl⟩)
      refine ⟨registration, ?_⟩
      rw [Broker.setHandler, getElem?_clear, hregistration]
      simp [hne]
    redeemed := redeemed_clear h [place]
    held := by
      intro other session hsession
      obtain ⟨before, hbefore, hafter⟩ := exists_of_getElem?_clear hsession
      by_cases hother : other = place
      · left
        rw [hafter, if_pos (List.mem_singleton.2 hother)]
        exact before.pending.cleared_clear
      · rcases h.held other before hbefore with hcleared | hwaits | ⟨c, holder, hholder, hheld⟩
        · exact .inl (cleared_of_getElem?_clear hcleared hafter)
        · exact .inr (.inl hwaits)
        · have hc : connection ≠ c := by
            rintro rfl
            obtain rfl := Option.some.inj (hhandler.symm.trans hholder)
            exact hother (Option.some.inj (hheld.symm.trans hholds))
          refine .inr (.inr ⟨c, holder, ?_, hheld⟩)
          rw [Broker.setHandler, List.getElem?_set_ne hc]
          exact hholder
    holder := by
      intro c holder held hholder hheld
      by_cases hc : connection = c
      · subst hc
        have hnext : Handler.closing = holder := by
          simpa [Broker.setHandler, clear, hlt] using hholder
        subst hnext
        cases hheld
      · rw [Broker.setHandler, List.getElem?_set_ne hc] at hholder
        exact h.holder c holder held hholder hheld
    handlers_eq_nil := by
      intro hserver hcleanup
      have hnil := h.handlers_eq_nil hserver hcleanup
      rw [hnil] at hlt
      exact absurd hlt (Nat.not_lt_zero _)
    registrations_eq_nil := h.registrations_eq_nil
    finished := fun hfinished =>
      ⟨(h.finished hfinished).1, forall_cleared_clear (h.finished hfinished).2⟩ }

/-! ### Calls -/

lemma Invariant.clearRegistrations (h : b.Invariant settings) :
    b.clearRegistrations.Invariant settings where
  ids_nodup := List.nodup_nil
  places_nodup := (List.nodup_append.1 h.places_nodup).2.1
  registered _ _ hwaits := by simp [Broker.clearRegistrations] at hwaits
  redeemed := redeemed_clear h b.places
  held place session hsession := by
    obtain ⟨before, hbefore, hafter⟩ := exists_of_getElem?_clear hsession
    rcases h.held place before hbefore with hcleared | hplace | hheld
    · exact .inl (cleared_of_getElem?_clear hcleared hafter)
    · left
      rw [hafter, if_pos hplace]
      exact before.pending.cleared_clear
    · exact .inr (.inr hheld)
  holder := h.holder
  handlers_eq_nil := h.handlers_eq_nil
  registrations_eq_nil _ := rfl
  finished hfinished := ⟨(h.finished hfinished).1, forall_cleared_clear (h.finished hfinished).2⟩

lemma Invariant.register (h : b.Invariant settings) (sessionId : String)
    (registration : BrokerRegistration) :
    (b.register sessionId registration).Invariant settings := by
  unfold Broker.register
  split
  · exact h
  rename_i hguard
  rw [not_or, not_or] at hguard
  obtain ⟨hopen, -, hfresh⟩ := hguard
  have hold : ∀ {place : ℕ} {session : Session}, b.sessions[place]? = some session →
      (b.sessions ++ [⟨sessionId, registration, registration.pending⟩])[place]? =
        some session := by
    intro place session hsession
    rw [List.getElem?_append_left (List.getElem?_eq_some_iff.1 hsession).1]
    exact hsession
  have hlt : ∀ place ∈ b.places ++ b.redemptions.map Redemption.place,
      place < b.sessions.length := by
    intro place hplace
    rcases List.mem_append.1 hplace with hwaits | htaken
    · obtain ⟨⟨waitingId, _⟩, hmem, rfl⟩ := List.mem_map.1 hwaits
      obtain ⟨_, hsession⟩ := h.registered waitingId _ hmem
      exact (List.getElem?_eq_some_iff.1 hsession).1
    · obtain ⟨r, hr, rfl⟩ := List.mem_map.1 htaken
      obtain ⟨_, hsession, -⟩ := h.redeemed r hr
      exact (List.getElem?_eq_some_iff.1 hsession).1
  exact {
    ids_nodup := by
      rw [List.map_append, List.nodup_append_comm]
      exact List.nodup_cons.2 ⟨hfresh, h.ids_nodup⟩
    places_nodup := by
      have hplaces : (b.places ++ [b.sessions.length]) ++ b.redemptions.map Redemption.place =
          b.places ++ b.sessions.length :: b.redemptions.map Redemption.place := by simp
      rw [places, List.map_append]
      change ((b.places ++ [b.sessions.length]) ++ b.redemptions.map Redemption.place).Nodup
      rw [hplaces, List.nodup_middle, List.nodup_cons]
      exact ⟨fun hmem => (hlt _ hmem).false, h.places_nodup⟩
    registered := by
      intro waitingId place hwaits
      rcases List.mem_append.1 hwaits with hwaits | hnew
      · obtain ⟨other, hother⟩ := h.registered waitingId place hwaits
        exact ⟨other, hold hother⟩
      · obtain ⟨rfl, rfl⟩ := Prod.mk.inj (List.mem_singleton.1 hnew)
        exact ⟨registration, by simp⟩
    redeemed := by
      intro r hr
      obtain ⟨session, hsession, hrest⟩ := h.redeemed r hr
      exact ⟨session, hold hsession, hrest⟩
    held := by
      intro place session hsession
      by_cases hplace : place < b.sessions.length
      · rw [List.getElem?_append_left hplace] at hsession
        rcases h.held place session hsession with hcleared | hwaits | hheld
        · exact .inl hcleared
        · right; left
          rw [places, List.map_append]
          exact List.mem_append_left _ hwaits
        · exact .inr (.inr hheld)
      · have hbound := (List.getElem?_eq_some_iff.1 hsession).1
        rw [List.length_append, List.length_singleton] at hbound
        have heq : place = b.sessions.length := by omega
        right; left
        rw [places, List.map_append, heq]
        exact List.mem_append_right _ (List.mem_singleton_self _)
    holder := h.holder
    handlers_eq_nil := h.handlers_eq_nil
    registrations_eq_nil := fun hclosed => absurd hclosed hopen
    finished := fun hfinished => absurd (h.finished hfinished).1 hopen }

lemma Invariant.start (h : b.Invariant settings) (bound : Bool) :
    (b.start bound).Invariant settings := by
  unfold Broker.start
  split_ifs
  · exact h
  · exact ⟨h.ids_nodup, h.places_nodup, h.registered, h.redeemed, h.held, h.holder,
      h.handlers_eq_nil, h.registrations_eq_nil, h.finished⟩
  · exact h.clearRegistrations

lemma Invariant.resumeStart (h : b.Invariant settings) (returned : Bool) :
    (b.resumeStart returned).Invariant settings := by
  unfold Broker.resumeStart
  split_ifs
  · exact h
  · exact ⟨h.ids_nodup, h.places_nodup, h.registered, h.redeemed, h.held, h.holder,
      fun hserver => by simp at hserver, h.registrations_eq_nil, h.finished⟩
  · have hcleared := h.clearRegistrations
    exact ⟨hcleared.ids_nodup, hcleared.places_nodup, hcleared.registered, hcleared.redeemed,
      hcleared.held, hcleared.holder, hcleared.handlers_eq_nil, hcleared.registrations_eq_nil,
      hcleared.finished⟩

lemma Invariant.accept (h : b.Invariant settings) : b.accept.Invariant settings := by
  unfold Broker.accept
  split
  · rename_i hlistening
    exact {
      ids_nodup := h.ids_nodup
      places_nodup := h.places_nodup
      registered := h.registered
      redeemed := h.redeemed
      held := by
        intro place session hsession
        rcases h.held place session hsession with hcleared | hwaits | ⟨c, handler, hc, hholds⟩
        · exact .inl hcleared
        · exact .inr (.inl hwaits)
        · refine .inr (.inr ⟨c, handler, ?_, hholds⟩)
          rw [List.getElem?_append_left (List.getElem?_eq_some_iff.1 hc).1]
          exact hc
      holder := by
        intro c handler place hc hholds
        rw [List.getElem?_append] at hc
        split at hc
        · exact h.holder c handler place hc hholds
        · obtain rfl := List.mem_singleton.1 (List.mem_of_getElem? hc)
          cases hholds
      handlers_eq_nil := by
        intro hserver hcleanup
        rcases hlistening with hrunning | hclosing
        · exact absurd (hserver.symm.trans hrunning) (by simp)
        · exact absurd hcleanup hclosing
      registrations_eq_nil := h.registrations_eq_nil
      finished := h.finished }
  · exact h

/-- The end of the cleanup; with no secret in the hands of a handler, all are zero. -/
lemma Invariant.finish (h : b.Invariant settings) {outcome : CleanupTask}
    (houtcome : outcome ≠ .absent)
    (hended : outcome = .finished → ∀ handler ∈ b.handlers, handler.holds = none) :
    (b.finish outcome).Invariant settings := by
  have hcleared := h.clearRegistrations
  refine ⟨hcleared.ids_nodup, hcleared.places_nodup, hcleared.registered, hcleared.redeemed,
    hcleared.held, hcleared.holder, fun _ habsent => absurd habsent houtcome, fun _ => rfl, ?_⟩
  intro hfinished
  refine ⟨rfl, fun session hsession => ?_⟩
  obtain ⟨place, hplace⟩ := List.mem_iff_getElem?.1 hsession
  rcases hcleared.held place session hplace with hzero | hwaits | ⟨c, handler, hc, hholds⟩
  · exact hzero
  · simp [Broker.clearRegistrations, places] at hwaits
  · rw [hended hfinished handler (List.mem_of_getElem? hc)] at hholds
    cases hholds

lemma Invariant.close (h : b.Invariant settings) : b.close.Invariant settings := by
  unfold Broker.close
  split_ifs with hcleanup hserver
  · exact h
  · exact ⟨h.ids_nodup, h.places_nodup, h.registered, h.redeemed, h.held, h.holder,
      (fun _ habsent => by cases habsent), h.registrations_eq_nil,
      (fun hfinished => by cases hfinished)⟩
  · apply h.finish (by simp)
    intro _ handler hhandler
    rw [h.handlers_eq_nil (Bool.eq_false_iff.2 hserver) (not_not.1 hcleanup)] at hhandler
    simp at hhandler

lemma Invariant.resumeCleanup (h : b.Invariant settings) (returned : Bool) :
    (b.resumeCleanup returned).Invariant settings := by
  unfold Broker.resumeCleanup
  split_ifs with hcleanup hreturned hended
  · exact h
  · apply h.finish (by simp)
    intro _ handler hhandler
    rw [hended handler hhandler]
    rfl
  · exact h
  · exact h.finish (by simp) fun hfinished => by cases hfinished

/-! ### Redemption -/

variable (settings) in
lemma raises_decideResponse (pending : PendingSession) (channel : Bool) (socket : Option Socket)
    (now : Datetime) :
    Raises PeerFault.caught (decideResponse settings pending channel socket now) := by
  cases socket with
  | none => exact raises_pure _
  | some socket =>
    apply (settings.verifier.raises socket).bind
    intro identity _
    split_ifs
    · apply Raises.bind (raises_orThrow fun _ => by simp [PeerFault.caught])
      intro rawToken _
      exact raises_pure _
    · exact raises_pure _

variable (settings) in
/-- The `try` around the verifier catches all that it raises. -/
lemma exists_response (pending : PendingSession) (channel : Bool) (socket : Option Socket)
    (now : Datetime) : ∃ answer, response settings pending channel socket now = .ok answer :=
  exists_rescue (raises_decideResponse settings pending channel socket now) _

/-- The session goes only to a peer that was found valid. -/
lemma authorised_of_response {registration : BrokerRegistration} {channel channel' : Bool}
    {socket : Option Socket} {now : Datetime} {answer : Response}
    (h : response settings registration.pending channel socket now = .ok (answer, channel'))
    (connection : ℕ) (sessionId : String) (place : ℕ) :
    Redemption.Authorised settings ⟨connection, sessionId, place, socket, now, answer⟩
      ⟨sessionId, registration, registration.pending⟩ := by
  have hdenied : ∀ {x : Except PeerFault (Response × Bool)}, x = pure (.denial, false) →
      x = .ok (answer, channel') → answer = .denial := by
    rintro _ rfl hx
    exact (congrArg Prod.fst (Except.ok.inj hx)).symm
  unfold response rescue at h
  cases hdecide : decideResponse settings registration.pending channel socket now with
  | error fault =>
    rw [hdecide] at h
    dsimp only at h
    split at h
    · exact .inl (hdenied rfl h)
    · cases h
  | ok decided =>
    rw [hdecide] at h
    obtain rfl := Except.ok.inj h
    cases socket with
    | none => exact .inl (hdenied rfl hdecide)
    | some socket =>
      simp only [decideResponse, bind_eq_ok] at hdecide
      obtain ⟨identity, hidentity, hdecide⟩ := hdecide
      split at hdecide
      · rename_i hvalid
        simp only [bind_eq_ok, orThrow_eq_ok, pure_eq_ok] at hdecide
        obtain ⟨rawToken, hdecode, hanswer⟩ := hdecide
        obtain ⟨⟨heuid, himage, hbefore⟩, -⟩ := hvalid
        obtain rfl : registration.rawToken = rawToken :=
          Option.some.inj ((decode_encode registration.rawToken).symm.trans hdecode)
        right
        exact ⟨⟨socket, identity, rfl, hidentity, heuid, himage, hbefore⟩,
          (congrArg Prod.fst hanswer).symm⟩
      · exact .inl (hdenied rfl hdecide)

/-- A connection takes a registration. -/
lemma Invariant.answer (h : b.Invariant settings) {r : Redemption Socket} {handler : Handler}
    (hhandler : b.handlers[r.connection]? = some handler) (hholds : handler.holds = none)
    (hwaits : (r.sessionId, r.place) ∈ b.registrations)
    (hauthorised : ∀ session, b.sessions[r.place]? = some session →
      r.Authorised settings session) (channel : Bool) :
    ((b.pop r.sessionId).answer r channel).Invariant settings := by
  obtain ⟨registration, hregistration⟩ := h.registered _ _ hwaits
  have hlt : r.connection < b.handlers.length := (List.getElem?_eq_some_iff.1 hhandler).1
  have hfilter : (b.registrations.filter (·.1 != r.sessionId)).Sublist b.registrations :=
    List.filter_sublist
  have hopen : b.registrations ≠ [] := List.ne_nil_of_mem hwaits
  have hplace : r.place ∈ b.places := List.mem_map.2 ⟨_, hwaits, rfl⟩
  -- another registration has another place, for its session has another id
  have hgone : r.place ∉ (b.registrations.filter (·.1 != r.sessionId)).map Prod.snd := by
    intro hmem
    obtain ⟨⟨sessionId, _⟩, hmem, rfl⟩ := List.mem_map.1 hmem
    obtain ⟨hmem, hne⟩ := List.mem_filter.1 hmem
    obtain ⟨other, hother⟩ := h.registered _ _ hmem
    have hid := congrArg Session.sessionId (Option.some.inj (hother.symm.trans hregistration))
    simp only at hid
    simp [hid] at hne
  exact {
    ids_nodup := (hfilter.map Prod.fst).nodup h.ids_nodup
    places_nodup := by
      change ((b.registrations.filter (·.1 != r.sessionId)).map Prod.snd ++
        r.place :: b.redemptions.map Redemption.place).Nodup
      rw [List.nodup_middle, List.nodup_cons, List.mem_append, not_or]
      refine ⟨⟨hgone, List.disjoint_of_nodup_append h.places_nodup hplace⟩, ?_⟩
      exact ((hfilter.map Prod.snd).append (List.Sublist.refl _)).nodup h.places_nodup
    registered := fun sessionId place hmem => h.registered sessionId place (hfilter.subset hmem)
    redeemed := by
      intro taken htaken
      rcases List.mem_cons.1 htaken with rfl | htaken
      · exact ⟨_, hregistration, rfl, hauthorised _ hregistration⟩
      · exact h.redeemed taken htaken
    held := by
      intro place session hsession
      rcases h.held place session hsession with hcleared | hmem | ⟨c, other, hother, hheld⟩
      · exact .inl hcleared
      · obtain ⟨⟨sessionId, _⟩, hentry, rfl⟩ := List.mem_map.1 hmem
        by_cases hid : sessionId = r.sessionId
        · subst hid
          have hentry := List.inj_on_of_nodup_map h.ids_nodup hentry hwaits rfl
          refine .inr (.inr ⟨r.connection, .replying r.place channel, ?_, ?_⟩)
          · exact List.getElem?_set_self hlt
          · exact congrArg (fun entry => some entry.2) hentry.symm
        · refine .inr (.inl (List.mem_map.2 ⟨_, List.mem_filter.2 ⟨hentry, ?_⟩, rfl⟩))
          simp [hid]
      · have hc : r.connection ≠ c := by
          rintro rfl
          obtain rfl := Option.some.inj (hhandler.symm.trans hother)
          rw [hholds] at hheld
          cases hheld
        exact .inr (.inr ⟨c, other, (List.getElem?_set_ne hc).trans hother, hheld⟩)
    holder := by
      intro c other place hother hheld
      by_cases hc : r.connection = c
      · subst hc
        obtain rfl := Option.some.inj ((List.getElem?_set_self hlt).symm.trans hother)
        exact ⟨r, List.mem_cons_self, rfl, Option.some.inj hheld⟩
      · obtain ⟨taken, htaken, hrest⟩ :=
          h.holder c other place ((List.getElem?_set_ne hc).symm.trans hother) hheld
        exact ⟨taken, List.mem_cons_of_mem _ htaken, hrest⟩
    handlers_eq_nil := by
      intro hserver hcleanup
      rw [h.handlers_eq_nil hserver hcleanup] at hlt
      exact absurd hlt (Nat.not_lt_zero _)
    registrations_eq_nil := fun hclosed => absurd (h.registrations_eq_nil hclosed) hopen
    finished := fun hfinished =>
      absurd (h.registrations_eq_nil (h.finished hfinished).1) hopen }

/-- A connection that names an id takes what is registered under it, whatever the response. -/
lemma Invariant.exists_redeem_eq (h : b.Invariant settings) (connection : ℕ) {place : ℕ}
    {body : Bytes} {sessionId : String} {channel : Bool}
    (hdecode : decodeSessionRequest settings.lib body = .ok (some (sessionId, channel)))
    (hwaits : (sessionId, place) ∈ b.registrations) (socket : Option Socket) (now : Datetime) :
    ∃ answer channel',
      b.redeem settings connection body socket now = (b.pop sessionId).answer
        ⟨connection, sessionId, place, socket, now, answer⟩ channel' ∧
      ∀ session, b.sessions[place]? = some session →
        Redemption.Authorised settings ⟨connection, sessionId, place, socket, now, answer⟩
          session := by
  obtain ⟨registration, hregistration⟩ := h.registered _ _ hwaits
  obtain ⟨⟨answer, channel'⟩, hanswer⟩ :=
    exists_response settings registration.pending channel socket now
  have hfind : b.registrations.find? (·.1 == sessionId) = some (sessionId, place) := by
    cases hfound : b.registrations.find? (·.1 == sessionId) with
    | none =>
      have habsent := List.find?_eq_none.1 hfound _ hwaits
      simp at habsent
    | some entry =>
      have hid : entry.1 = sessionId := by simpa using List.find?_some hfound
      exact congrArg some
        (List.inj_on_of_nodup_map h.ids_nodup (List.mem_of_find?_eq_some hfound) hwaits hid)
  refine ⟨answer, channel', ?_, ?_⟩
  · simp only [Broker.redeem, hdecode, hfind, hregistration, hanswer]
  · intro session hsession
    obtain rfl := Option.some.inj (hregistration.symm.trans hsession)
    exact authorised_of_response hanswer connection sessionId place

lemma Invariant.redeem (h : b.Invariant settings) {connection : ℕ} {handler : Handler}
    (hhandler : b.handlers[connection]? = some handler) (hholds : handler.holds = none)
    (body : Bytes) (socket : Option Socket) (now : Datetime) :
    (b.redeem settings connection body socket now).Invariant settings := by
  obtain ⟨request, hdecode⟩ : ∃ request, decodeSessionRequest settings.lib body = .ok request :=
    exists_decodeSessionRequest body
  cases request with
  | none =>
    simp only [Broker.redeem, hdecode]
    exact h.deny hhandler hholds
  | some request =>
    obtain ⟨sessionId, channel⟩ := request
    cases hfind : b.registrations.find? (·.1 == sessionId) with
    | none =>
      simp only [Broker.redeem, hdecode, hfind]
      exact h.deny hhandler hholds
    | some entry =>
      obtain ⟨waitingId, place⟩ := entry
      obtain rfl : waitingId = sessionId := by simpa using List.find?_some hfind
      have hwaits := List.mem_of_find?_eq_some hfind
      obtain ⟨answer, channel', hredeem, hauthorised⟩ :=
        h.exists_redeem_eq connection hdecode hwaits socket now
      rw [hredeem]
      exact h.answer (r := ⟨connection, waitingId, place, socket, now, answer⟩) hhandler hholds hwaits
        hauthorised channel'

/-! ### Steps and runs -/

lemma Invariant.resume (h : b.Invariant settings) {connection : ℕ} {handler : Handler}
    (hhandler : b.handlers[connection]? = some handler) (wake : Wake) (socket : Option Socket)
    (now : Datetime) : (b.resume settings connection wake socket now handler).Invariant settings := by
  cases handler with
  | created =>
    cases wake <;> exact h.setHandler hhandler _ rfl
  | readingHeader =>
    cases wake with
    | returned header =>
      simp only [Broker.resume]
      split_ifs
      · exact h.deny hhandler rfl
      · exact h.setHandler hhandler _ rfl
    | incomplete read =>
      simp only [Broker.resume]
      split_ifs
      · exact h.setHandler hhandler _ rfl
      · exact h.deny hhandler rfl
    | raised => exact h.setHandler hhandler _ rfl
  | readingBody size =>
    cases wake with
    | returned body =>
      simp only [Broker.resume]
      split_ifs
      · exact h.redeem hhandler rfl body socket now
      · exact h
    | incomplete read => exact h.deny hhandler rfl
    | raised => exact h.setHandler hhandler _ rfl
  | denying => exact h.setHandler hhandler _ rfl
  | replying place channel =>
    cases wake with
    | returned =>
      cases channel with
      | true => exact h.setHandler hhandler _ rfl
      | false => exact h.release hhandler rfl
    | incomplete read => exact h.release hhandler rfl
    | raised => exact h.release hhandler rfl
  | serving place => exact h.release hhandler rfl
  | closing => exact h.setHandler hhandler _ rfl
  | ended => exact h

lemma Invariant.exec (h : b.Invariant settings) (action : BrokerAction Socket) :
    (b.exec settings action).Invariant settings := by
  cases action with
  | register sessionId registration => exact h.register sessionId registration
  | start bound => exact h.start bound
  | resumeStart returned => exact h.resumeStart returned
  | accept => exact h.accept
  | resume connection wake socket now =>
    simp only [Broker.exec]
    cases hhandler : b.handlers[connection]? with
    | none => exact h
    | some handler => exact h.resume hhandler wake socket now
  | close => exact h.close
  | resumeCleanup returned => exact h.resumeCleanup returned

lemma invariant_of_reachable (h : (brokerSystem settings).Reachable b) : b.Invariant settings := by
  apply h.invariant
  · rintro _ rfl
    exact invariant_new
  · rintro s action _ hs rfl
    exact hs.exec action

variable (settings) in
/-- What was sent stays sent. -/
lemma sent_suffix_exec (b : Broker Socket) (action : BrokerAction Socket) :
    b.sent <:+ (b.exec settings action).sent := by
  have hset : ∀ connection handler, b.sent <:+ (b.setHandler connection handler).sent :=
    fun _ _ => List.suffix_refl _
  have hdeny : ∀ connection, b.sent <:+ (b.deny connection).sent :=
    fun _ => List.suffix_cons _ _
  cases action with
  | register => simp only [Broker.exec, Broker.register]; split_ifs <;> exact List.suffix_refl _
  | start => simp only [Broker.exec, Broker.start]; split_ifs <;> exact List.suffix_refl _
  | resumeStart =>
    simp only [Broker.exec, Broker.resumeStart]
    split_ifs <;> exact List.suffix_refl _
  | accept => simp only [Broker.exec, Broker.accept]; split_ifs <;> exact List.suffix_refl _
  | close => simp only [Broker.exec, Broker.close]; split_ifs <;> exact List.suffix_refl _
  | resumeCleanup =>
    simp only [Broker.exec, Broker.resumeCleanup]
    split_ifs <;> exact List.suffix_refl _
  | resume connection wake socket now =>
    simp only [Broker.exec]
    cases b.handlers[connection]? with
    | none => exact List.suffix_refl _
    | some handler =>
      cases handler with
      | readingBody size =>
        cases wake with
        | returned body =>
          simp only [Broker.resume]
          split_ifs
          · unfold Broker.redeem
            split
            · exact List.suffix_refl _
            · exact hdeny connection
            · split
              · exact hdeny connection
              · split
                · exact List.suffix_refl _
                · split
                  · exact List.suffix_refl _
                  · exact List.suffix_cons _ _
          · exact List.suffix_refl _
        | incomplete read => exact hdeny connection
        | raised => exact hset connection _
      | readingHeader =>
        cases wake with
        | returned header =>
          simp only [Broker.resume]
          split_ifs
          · exact hdeny connection
          · exact hset connection _
        | incomplete read =>
          simp only [Broker.resume]
          split_ifs
          · exact hset connection _
          · exact hdeny connection
        | raised => exact hset connection _
      | created => cases wake <;> exact hset connection _
      | replying place channel => cases wake <;> cases channel <;> exact List.suffix_refl _
      | denying => exact hset connection _
      | serving place => exact List.suffix_refl _
      | closing => exact hset connection _
      | ended => exact List.suffix_refl _

/-- What was taken stays taken. -/
lemma redemptions_subset_of_run {as : List (BrokerAction Socket)} {later : Broker Socket}
    (h : (brokerSystem settings).Run b as later) : b.redemptions ⊆ later.redemptions := by
  have hsent : b.sent <:+ later.sent := by
    apply h.mono (P := fun _ => True) (R := fun s t => s.sent <:+ t.sent)
    · exact fun s => List.suffix_refl _
    · exact fun _ _ _ => List.IsSuffix.trans
    · rintro s action _ - rfl
      exact ⟨trivial, sent_suffix_exec settings s action⟩
    · trivial
  exact (hsent.filterMap SentFrame.redemption?).subset

end Broker

end

/-! ## The law of the broker -/

namespace Broker

/-- The connection that took the registration at this place is done with it. -/
def TakerEnded {Socket : Type} (b : Broker Socket) (place : ℕ) : Prop :=
  ∃ r ∈ b.redemptions, r.place = place ∧
    (b.handlers[r.connection]? = some .closing ∨ b.handlers[r.connection]? = some .ended)

/-- In every run: a registration is taken at most once, and its session is sent only to a valid
peer before its expiry; a connection that names a registered id takes the registration for good;
and a secret is zero when the connection that took it is done with it, when the cleanup returned,
and when the broker was closed in any way before a connection took it. -/
theorem single_redemption {Socket : Type} (settings : BrokerSettings Socket) (b : Broker Socket)
    (h : (brokerSystem settings).Reachable b) :
    (b.redemptions.map Redemption.place).Nodup ∧
    (∀ r ∈ b.redemptions, ∃ session, b.sessions[r.place]? = some session ∧
      session.sessionId = r.sessionId ∧ r.Authorised settings session) ∧
    (∀ (connection place : ℕ) (body : Bytes) (sessionId : String) (channel : Bool)
      (socket : Option Socket) (now : Datetime),
      b.handlers[connection]? = some (.readingBody body.length) →
      decodeSessionRequest settings.lib body = .ok (some (sessionId, channel)) →
      (sessionId, place) ∈ b.registrations →
      let next := b.exec settings (.resume connection (.returned body) socket now)
      sessionId ∉ next.registrations.map Prod.fst ∧
      ∃ r ∈ next.redemptions, r.connection = connection ∧ r.place = place ∧
        ∀ as later, (brokerSystem settings).Run next as later →
          place ∉ later.places ∧ ∀ r' ∈ later.redemptions, r'.place = place → r' = r) ∧
    ∀ place session, b.sessions[place]? = some session →
      (b.TakerEnded place ∨ b.cleanup = .finished ∨
        (b.closed = true ∧ place ∉ b.redemptions.map Redemption.place)) →
      session.pending.Cleared := by
  have hb := invariant_of_reachable h
  refine ⟨(List.nodup_append.1 hb.places_nodup).2.1, hb.redeemed, ?_, ?_⟩
  · intro connection place body sessionId channel socket now hhandler hdecode hwaits next
    obtain ⟨answer, channel', hredeem, hauthorised⟩ :=
      hb.exists_redeem_eq connection hdecode hwaits socket now
    have hnext : next = (b.pop sessionId).answer
        ⟨connection, sessionId, place, socket, now, answer⟩ channel' := by
      simp only [next, Broker.exec, hhandler, Broker.resume, if_true, hredeem]
    have hreachable : (brokerSystem settings).Reachable next := h.step rfl
    refine ⟨?_, ⟨connection, sessionId, place, socket, now, answer⟩, ?_, rfl, rfl, ?_⟩
    · rw [hnext]
      simp [Broker.answer, Broker.pop, Broker.setHandler]
    · rw [hnext]
      exact List.mem_cons_self
    · intro as later hrun
      have hlater := invariant_of_reachable (hrun.reachable hreachable)
      have hmem := redemptions_subset_of_run hrun
        (show (⟨connection, sessionId, place, socket, now, answer⟩ : Redemption Socket) ∈
            next.redemptions by
          rw [hnext]
          exact List.mem_cons_self)
      exact ⟨hlater.not_mem_places hmem, fun r' hr' hplace =>
        hlater.eq_of_place_eq hr' hmem hplace⟩
  · intro place session hsession hreleased
    have hheld := hb.held place session hsession
    rcases hreleased with ⟨r, hr, rfl, hended⟩ | hfinished | ⟨hclosed, huntaken⟩
    · rcases hheld with hcleared | hwaits | ⟨c, handler, hhandler, hholds⟩
      · exact hcleared
      · exact absurd hwaits (hb.not_mem_places hr)
      · obtain ⟨r', hr', rfl, hplace⟩ := hb.holder c handler r.place hhandler hholds
        obtain rfl := hb.eq_of_place_eq hr' hr hplace
        rcases hended with hclosing | hended
        · obtain rfl := Option.some.inj (hclosing.symm.trans hhandler)
          cases hholds
        · obtain rfl := Option.some.inj (hended.symm.trans hhandler)
          cases hholds
    · exact (hb.finished hfinished).2 session (List.mem_of_getElem? hsession)
    · rcases hheld with hcleared | hwaits | ⟨c, handler, hhandler, hholds⟩
      · exact hcleared
      · rw [places, hb.registrations_eq_nil hclosed] at hwaits
        cases hwaits
      · obtain ⟨r, hr, -, hplace⟩ := hb.holder c handler place hhandler hholds
        exact absurd (List.mem_map.2 ⟨r, hr, hplace⟩) huntaken

/-! ### A run -/

lemma sampleNames_ne : "run" ≠ "" ∧ "worker" ≠ "" := by decide

/-- A registration of one worker. -/
def sampleRegistration : BrokerRegistration where
  runId := "run"
  workerId := "worker"
  role := .formalizer
  sidecarExecutableSha256 := imageHash []
  expiresAt := ⟨2026, 1, 1, 13, 0, 0, 0, datetimeValid_oneOClock⟩
  rawToken := "token"
  leaseId := none
  operations := advertisedTools AgentRole.formalizer.text
  names_ne := sampleNames_ne
  rawToken_ne := by decide
  leaseId_ne := by simp
  operations_ne := by decide
  operations_nodup := by decide
  operations_advertised _ h := h

/-- The broker of user 1000 on Linux. -/
def sampleSettings : BrokerSettings LinuxPeer := ⟨unlimitedJson, linuxVerifier "linux", 1000, false⟩

/-- A process of that user that runs the registered image. -/
def samplePeer : LinuxPeer where
  credentials := some (.bytes [7, 0, 0, 0, 232, 3, 0, 0, 232, 3, 0, 0])
  processImage _ := some ⟨some true, some [], some ()⟩

/-- The request of the session `s`. -/
def sampleRequest : Bytes := encode "\x7b\"session_id\":\"s\"\x7d"

/-- A session is registered, named, sent, and its connection goes away. -/
def sampleActions : List (BrokerAction LinuxPeer) :=
  let now : Datetime := ⟨2026, 1, 1, 12, 0, 0, 0, datetimeValid_noon⟩
  [.register "s" sampleRegistration, .start true, .resumeStart true, .accept,
    .resume 0 (.returned []) none now, .resume 0 (.returned [0, 0, 0, 18]) none now,
    .resume 0 (.returned sampleRequest) (some samplePeer) now, .resume 0 (.returned []) none now]

/-- The broker after that. -/
def sampleBroker : Broker LinuxPeer := sampleActions.foldl (Broker.exec sampleSettings) .new

theorem single_redemption_sample :
    sampleBroker.redemptions.map Redemption.response = [sampleRegistration.response] ∧
      (∀ r ∈ sampleBroker.redemptions, ∃ session, sampleBroker.sessions[r.place]? = some session ∧
        session.sessionId = r.sessionId ∧ r.Authorised sampleSettings session) ∧
      sampleBroker.TakerEnded 0 ∧
      ∀ session, sampleBroker.sessions[0]? = some session → session.pending.Cleared := by
  have hlaw := single_redemption sampleSettings sampleBroker
    (TransitionSystem.reachable_foldl _ _ sampleActions)
  have hended : sampleBroker.TakerEnded 0 := by
    unfold TakerEnded
    decide +kernel
  exact ⟨by decide +kernel, hlaw.2.1, hended, fun session hsession =>
    hlaw.2.2.2 0 session hsession (.inl hended)⟩

end Broker

end Aizim.Gateway
