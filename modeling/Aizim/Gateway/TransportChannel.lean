import Aizim.Framework.Transition
import Aizim.Gateway.TransportFrames

/-!
# The client end of a gateway channel

A transport sends calls over one stream, one at a time: a call writes its frame while it holds the
lock and then waits for the next item of a queue with one slot, which a task fills with the results
it reads.  Frames carry no name of the call they answer.

A step is what runs between two awaits: of a call, of the task that reads, of `aclose`, or of the
peer, which answers the frames it was sent in their order.  Any call may be interrupted at any of its
awaits.  `Paired` is the invariant: while the channel is open, all frames but that of the call that
holds the lock have been answered and read, so what is in the slot is its answer; and a call that
leaves without its answer has closed the channel before it released the lock.
-/

namespace Aizim.Gateway

open JsonValue JsonObject

/-! ## The transport -/

/-- Where the task that reads the responses is. -/
inductive ReaderTask
  /-- In `read_frame`. -/
  | reading
  /-- In `put`, while the slot is taken. -/
  | putting (result : GatewayResult)
  /-- It has ended, or it has been cancelled. -/
  | done

/-- `GatewayTransport`.  `none` in the slot of the queue says that the channel was closed. -/
structure GatewayTransport where
  token : Bytes
  lock : Option ℕ
  responses : Option (Option GatewayResult)
  disconnected : Bool
  error : Bool
  closed : Bool
  closeTask : Bool
  readerTask : ReaderTask

/-- A new transport. -/
def GatewayTransport.create (token : Bytes) : GatewayTransport where
  token
  lock := none
  responses := none
  disconnected := false
  error := false
  closed := false
  closeTask := false
  readerTask := .reading

/-- `_start_closing`.  The task that reads is cancelled, or ends itself after the call. -/
def GatewayTransport.startClosing (t : GatewayTransport) : GatewayTransport :=
  let t := if t.closeTask then t else
    { t with
      closed := true
      token := List.replicate t.token.length 0
      readerTask := .done
      closeTask := true }
  { t with
    error := true
    disconnected := true
    responses := t.responses <|> some none }

/-! ## Calls and the peer -/

/-- How a call ends. -/
inductive CallExit
  | returned (result : GatewayResult)
  | raised (fault : FrameFault)
  /-- An exception that arrived at an await, `CancelledError` among others, is raised again. -/
  | interrupted

/-- Where a call is. -/
inductive CallPhase
  | unstarted
  | waiting (operation : String) (payload : JsonObject)
  | draining
  | receiving
  | exited (exit : CallExit)

/-- The transport with its calls and what went over the stream: the frames that were written, each
by its call, the answers of the peer and how many of them were read. -/
structure Channel extends GatewayTransport where
  calls : ℕ → CallPhase
  written : List (ℕ × Bytes)
  answers : List Bytes
  framesRead : ℕ

namespace Channel

/-- A channel without calls. -/
def create (token : Bytes) : Channel where
  toGatewayTransport := .create token
  calls _ := .unstarted
  written := []
  answers := []
  framesRead := 0

/-- The call moves on. -/
def moveTo (s : Channel) (c : ℕ) (phase : CallPhase) : Channel :=
  { s with calls := Function.update s.calls c phase }

/-- The call ends and releases the lock. -/
def exitCall (s : Channel) (c : ℕ) (exit : CallExit) : Channel :=
  { s with
    calls := Function.update s.calls c (.exited exit)
    lock := none }

/-- `_start_closing` -/
def close (s : Channel) : Channel := { s with toGatewayTransport := s.startClosing }

/-- `call`, from the lock to the first await. -/
def enter (lib : JsonLibrary) (s : Channel) (c : ℕ) (operation : String) (payload : JsonObject) :
    Channel :=
  if s.closed || s.error then s.exitCall c (.raised .unavailable)
  else match encodeCall lib operation payload s.token with
    | .error fault => s.exitCall c (.raised fault)
    | .ok body =>
      { s with
        lock := some c
        written := s.written ++ [(c, body)]
        calls := Function.update s.calls c .draining }

/-- `call`, from the item it got to its end. -/
def receive (s : Channel) (c : ℕ) (response : Option GatewayResult) : Channel :=
  let s := { s with responses := none }
  match response with
  | none => s.close.exitCall c (.raised .unavailable)
  | some result => s.exitCall c (.returned result)

/-- One round of `_read_responses`, on the next frame. -/
def readResponse (lib : JsonLibrary) (s : Channel) (body : Bytes) : Channel :=
  let s := { s with framesRead := s.framesRead + 1 }
  if rpcFrameLimit < body.length then s.close
  else match decodeResult lib body with
    | .ok result =>
      if s.responses.isSome then { s with readerTask := .putting result }
      else { s with responses := some (some result) }
    | .error .unavailable => s.close
    | .error _ => { s with readerTask := .done }

end Channel

/-- What happens in one step. -/
inductive ChannelEvent
  /-- A call begins and waits for the lock. -/
  | begin (c : ℕ) (operation : String) (payload : JsonObject)
  /-- A waiting call gets the lock. -/
  | acquire (c : ℕ)
  | drained (c : ℕ)
  /-- `drain` raises `ConnectionError`. -/
  | drainFails (c : ℕ)
  | receive (c : ℕ)
  /-- A call is cancelled, or another exception arrives at its await. -/
  | interrupt (c : ℕ)
  | aclose
  /-- The peer answers the next frame. -/
  | answer (body : Bytes)
  | readFrame
  | put
  /-- The stream ends or fails; the task that reads handles that. -/
  | disconnect
  /-- The task that reads ends with an exception that it does not handle. -/
  | readerFails

/-- One step, if it can be taken. -/
def ChannelEvent.run (lib : JsonLibrary) (s : Channel) : ChannelEvent → Option Channel
  | begin c operation payload =>
    match s.calls c with
    | .unstarted => some (s.moveTo c (.waiting operation payload))
    | _ => none
  | acquire c =>
    match s.calls c, s.lock with
    | .waiting operation payload, none => some (s.enter lib c operation payload)
    | _, _ => none
  | drained c =>
    match s.calls c with
    | .draining => some (s.moveTo c .receiving)
    | _ => none
  | drainFails c =>
    match s.calls c with
    | .draining => some (s.close.exitCall c (.raised .unavailable))
    | _ => none
  | receive c =>
    match s.calls c, s.responses with
    | .receiving, some response => some (s.receive c response)
    | _, _ => none
  | interrupt c =>
    match s.calls c with
    | .waiting _ _ => some (s.moveTo c (.exited .interrupted))
    | .draining | .receiving => some (s.close.exitCall c .interrupted)
    | _ => none
  | aclose => some s.close
  | answer body =>
    if s.answers.length < s.written.length then some { s with answers := s.answers ++ [body] }
    else none
  | readFrame =>
    match s.readerTask, s.answers[s.framesRead]? with
    | .reading, some body => some (s.readResponse lib body)
    | _, _ => none
  | put =>
    match s.readerTask, s.responses with
    | .putting result, none => some { s with responses := some (some result), readerTask := .reading }
    | _, _ => none
  | disconnect =>
    match s.readerTask with
    | .reading => some s.close
    | _ => none
  | readerFails => some { s with readerTask := .done }

/-- The channel as a transition system. -/
def channelSystem (lib : JsonLibrary) (token : Bytes) : TransitionSystem Channel ChannelEvent where
  initial s := s = Channel.create token
  step s e s' := e.run lib s = some s'

variable {lib : JsonLibrary} {s s' : Channel}

/-! ## Closing -/

/-- The call holds the lock. -/
def CallPhase.Holds : CallPhase → Prop
  | draining | receiving => True
  | _ => False

/-- The result is the answer to the last frame that was written. -/
def AnswersLast (lib : JsonLibrary) (s : Channel) (result : GatewayResult) : Prop :=
  s.framesRead = s.written.length ∧ ∃ answer, s.answers[s.written.length - 1]? = some answer ∧
    decodeResult lib answer = .ok result

/-- The result is the answer to the frame that the call wrote. -/
def AnswersCall (lib : JsonLibrary) (s : Channel) (c : ℕ) (result : GatewayResult) : Prop :=
  ∃ (i : ℕ) (body answer : Bytes), s.written[i]? = some (c, body) ∧ s.answers[i]? = some answer ∧
    decodeResult lib answer = .ok result

/-- The invariant. -/
structure Paired (lib : JsonLibrary) (s : Channel) : Prop where
  flags : s.error = s.closed ∧ s.closeTask = s.closed
  reader : (∀ result, s.readerTask ≠ .putting result) ∧ (s.closed = true → s.readerTask = .done)
  holds : ∀ c, (s.calls c).Holds ↔ s.lock = some c
  answered : s.framesRead ≤ s.answers.length ∧ s.answers.length ≤ s.written.length
  distinct : (s.written.map Prod.fst).Nodup
  unwritten : ∀ c, (s.calls c = .unstarted ∨ ∃ operation payload,
    s.calls c = .waiting operation payload) → c ∉ s.written.map Prod.fst
  last : ∀ c, s.lock = some c → ∃ written body, s.written = written ++ [(c, body)]
  slot : ∀ result, s.responses = some (some result) → s.lock.isSome → AnswersLast lib s result
  free : s.closed = false → s.lock = none → s.responses = none ∧ s.framesRead = s.written.length
  held : s.closed = false → s.lock.isSome →
    s.written.length ≤ s.framesRead + 1 ∧ s.responses ≠ some none
  returned : ∀ c result, s.calls c = .exited (.returned result) → AnswersCall lib s c result
  poisoned : ∀ c exit, s.calls c = .exited exit → c ∈ s.written.map Prod.fst →
    (∀ result, exit ≠ .returned result) → s.closed = true ∧ s.lock = none

/-- What `_start_closing` leaves: the transport is closed, and a result in the slot stays there. -/
lemma Channel.close_fields (h : Paired lib s) :
    s.close.closed = true ∧ s.close.error = true ∧ s.close.closeTask = true ∧
      s.close.readerTask = .done ∧ s.close.lock = s.lock ∧
      ∀ result, s.close.responses = some (some result) → s.responses = some (some result) := by
  have hslot : ∀ result, (s.responses <|> some none) = some (some result) →
      s.responses = some (some result) := by
    intro result hresult
    cases hresponses : s.responses with
    | none => simp [hresponses] at hresult
    | some item => simpa [hresponses] using hresult
  unfold Channel.close GatewayTransport.startClosing
  cases hclosed : s.closed with
  | false =>
    have htask : s.closeTask = false := h.flags.2.trans hclosed
    simp only [htask, Bool.false_eq_true, if_false, true_and]
    exact hslot
  | true =>
    have htask : s.closeTask = true := h.flags.2.trans hclosed
    simp only [htask, if_true, hclosed, h.reader.2 hclosed, true_and]
    exact hslot

/-- Closing keeps the invariant. -/
lemma Paired.close (h : Paired lib s) : Paired lib s.close := by
  obtain ⟨hclosed, herror, htask, hreader, hlock, hslot⟩ := Channel.close_fields h
  constructor
  · exact ⟨herror.trans hclosed.symm, htask.trans hclosed.symm⟩
  · rw [hreader]
    simp
  · rw [hlock]
    exact h.holds
  · exact h.answered
  · exact h.distinct
  · exact h.unwritten
  · rw [hlock]
    exact h.last
  · intro result hresult
    rw [hlock]
    exact h.slot result (hslot result hresult)
  · rw [hclosed]
    simp
  · rw [hclosed]
    simp
  · exact h.returned
  · intro c exit hexit hwritten hnot
    rw [hlock]
    exact ⟨hclosed, (h.poisoned c exit hexit hwritten hnot).2⟩

/-! ## Calls -/

/-- A call that moves on without the lock changing hands. -/
lemma Paired.moveTo (h : Paired lib s) {c : ℕ} {phase : CallPhase}
    (hholds : phase.Holds ↔ (s.calls c).Holds)
    (hwaiting : (phase = .unstarted ∨ ∃ operation payload, phase = .waiting operation payload) →
      c ∉ s.written.map Prod.fst)
    (hexited : ∀ exit, phase = .exited exit → exit = .interrupted ∧ c ∉ s.written.map Prod.fst) :
    Paired lib (s.moveTo c phase) := by
  refine ⟨h.flags, h.reader, fun d => ?_, h.answered, h.distinct, fun d hd => ?_, h.last, h.slot,
    h.free, h.held, fun d result hd => ?_, fun d exit hd hwritten hnot => ?_⟩
  all_goals
    by_cases hdc : d = c
    · subst hdc
      simp only [Channel.moveTo, Function.update_self] at *
      first
        | rw [hholds]
          exact h.holds d
        | exact hwaiting hd
        | exact absurd (hexited _ hd).1 (by simp)
        | exact absurd hwritten (hexited _ hd).2
    · simp only [Channel.moveTo, Function.update_of_ne hdc] at *
      first
        | exact h.holds d
        | exact h.unwritten d hd
        | exact h.returned d result hd
        | exact h.poisoned d exit hd hwritten hnot

/-- A call that ends, with the lock or before it got it. -/
lemma Paired.exitCall (h : Paired lib s) {c : ℕ} {exit : CallExit}
    (hcall : s.lock = some c ∨ s.lock = none)
    (hreturned : ∀ result, exit = .returned result → AnswersCall lib s c result)
    (hleft : (∀ result, exit ≠ .returned result) → c ∈ s.written.map Prod.fst → s.closed = true)
    (hfree : s.closed = false → s.responses = none ∧ s.framesRead = s.written.length) :
    Paired lib (s.exitCall c exit) := by
  refine ⟨h.flags, h.reader, fun d => ?_, h.answered, h.distinct, fun d hd => ?_,
    fun d hd => ?_, fun result _ hsome => ?_, fun hopen _ => hfree hopen, fun _ hsome => ?_,
    fun d result hd => ?_, fun d e hd hwritten hnot => ⟨?_, rfl⟩⟩
  · have hlock : (s.exitCall c exit).lock = none := rfl
    rw [hlock]
    by_cases hdc : d = c
    · subst hdc
      simp [Channel.exitCall, CallPhase.Holds]
    · simp only [Channel.exitCall, Function.update_of_ne hdc, h.holds]
      rcases hcall with hcall | hcall
      · simp [hcall, Ne.symm hdc]
      · simp [hcall]
  · by_cases hdc : d = c
    · subst hdc
      simp [Channel.exitCall] at hd
    · simp only [Channel.exitCall, Function.update_of_ne hdc] at hd
      exact h.unwritten d hd
  · simp [Channel.exitCall] at hd
  · simp [Channel.exitCall] at hsome
  · simp [Channel.exitCall] at hsome
  · by_cases hdc : d = c
    · subst hdc
      simp only [Channel.exitCall, Function.update_self, CallPhase.exited.injEq] at hd
      exact hreturned result hd
    · simp only [Channel.exitCall, Function.update_of_ne hdc] at hd
      exact h.returned d result hd
  · by_cases hdc : d = c
    · subst hdc
      simp only [Channel.exitCall, Function.update_self, CallPhase.exited.injEq] at hd
      subst hd
      exact hleft hnot hwritten
    · simp only [Channel.exitCall, Function.update_of_ne hdc] at hd
      exact (h.poisoned d e hd hwritten hnot).1

/-- A call that leaves without its answer closes the channel first. -/
lemma Paired.abandon (h : Paired lib s) {c : ℕ} (hholds : (s.calls c).Holds) {exit : CallExit}
    (hexit : ∀ result, exit ≠ .returned result) : Paired lib (s.close.exitCall c exit) := by
  obtain ⟨hclosed, -, -, -, hlock, -⟩ := Channel.close_fields h
  apply h.close.exitCall
  · left
    rw [hlock]
    exact (h.holds c).1 hholds
  · intro result heq
    exact absurd heq (hexit result)
  · intro _ _
    exact hclosed
  · intro hopen
    rw [hclosed] at hopen
    cases hopen

/-- A call that gets the lock writes its frame, or ends. -/
lemma Paired.enter (h : Paired lib s) {c : ℕ} {operation : String} {payload : JsonObject}
    (hcall : s.calls c = .waiting operation payload) (hlock : s.lock = none) :
    Paired lib (s.enter lib c operation payload) := by
  have hunwritten : c ∉ s.written.map Prod.fst := h.unwritten c (Or.inr ⟨_, _, hcall⟩)
  have hraised : ∀ fault, Paired lib (s.exitCall c (.raised fault)) := by
    intro fault
    apply h.exitCall (Or.inr hlock)
    · simp
    · intro _ hwritten
      exact absurd hwritten hunwritten
    · intro hopen
      exact h.free hopen hlock
  unfold Channel.enter
  split
  · exact hraised _
  rename_i hopen
  have hopen : s.closed = false := by
    simp only [Bool.or_eq_true, not_or, Bool.not_eq_true] at hopen
    exact hopen.1
  obtain ⟨hempty, hread⟩ := h.free hopen hlock
  split
  · exact hraised _
  rename_i body hbody
  refine ⟨h.flags, h.reader, fun d => ?_, ?_, ?_, fun d hd => ?_, fun d hd => ?_,
    fun result hresult => ?_, fun _ hnone => ?_, fun _ _ => ?_, fun d result hd => ?_,
    fun d exit hd hwritten hnot => ?_⟩
  · by_cases hdc : d = c
    · subst hdc
      simp [CallPhase.Holds]
    · simp only [Function.update_of_ne hdc, h.holds, hlock]
      simp [Ne.symm hdc]
  · obtain ⟨hle, hle'⟩ := h.answered
    simp only [List.length_append, List.length_singleton]
    omega
  · rw [List.map_append]
    exact List.Nodup.append h.distinct (by simp) (by simpa using hunwritten)
  · by_cases hdc : d = c
    · subst hdc
      simp at hd
    · simp only [Function.update_of_ne hdc] at hd
      have hold := h.unwritten d hd
      simp only [List.map_append, List.mem_append, List.map_cons, List.map_nil,
        List.mem_singleton, not_or]
      exact ⟨hold, hdc⟩
  · obtain rfl : c = d := by simpa using hd
    exact ⟨s.written, body, rfl⟩
  · simp only [hempty] at hresult
    cases hresult
  · simp at hnone
  · simp only [List.length_append, List.length_singleton, hempty, hread]
    exact ⟨le_rfl, by simp⟩
  · by_cases hdc : d = c
    · subst hdc
      simp at hd
    · simp only [Function.update_of_ne hdc] at hd
      obtain ⟨i, b, answer, hi, hrest⟩ := h.returned d result hd
      refine ⟨i, b, answer, ?_, hrest⟩
      obtain ⟨hlt, -⟩ := List.getElem?_eq_some_iff.1 hi
      rw [List.getElem?_append_left hlt]
      exact hi
  · by_cases hdc : d = c
    · subst hdc
      simp at hd
    · simp only [Function.update_of_ne hdc] at hd
      have hold : d ∈ s.written.map Prod.fst := by
        simpa [hdc] using hwritten
      have hclosed := (h.poisoned d exit hd hold hnot).1
      rw [hopen] at hclosed
      cases hclosed

/-! ## Results -/

/-- What is in the slot answers the call that holds the lock. -/
lemma Paired.answersCall (h : Paired lib s) {c : ℕ} {result : GatewayResult}
    (hlock : s.lock = some c) (hslot : s.responses = some (some result)) :
    AnswersCall lib s c result := by
  obtain ⟨-, answer, hanswer, hdecode⟩ := h.slot result hslot (by simp [hlock])
  obtain ⟨written, body, hwritten⟩ := h.last c hlock
  refine ⟨written.length, body, answer, ?_, ?_, hdecode⟩
  · simp [hwritten]
  · rw [hwritten] at hanswer
    simpa using hanswer

/-- A call that gets an item of the queue returns its own result, or closes the channel. -/
lemma Paired.receive (h : Paired lib s) {c : ℕ} {response : Option GatewayResult}
    (hcall : s.calls c = .receiving) (hslot : s.responses = some response) :
    Paired lib (s.receive c response) := by
  have hlock : s.lock = some c := (h.holds c).1 (by rw [hcall]; trivial)
  have htaken : Paired lib { s with responses := none } := by
    refine ⟨h.flags, h.reader, h.holds, h.answered, h.distinct, h.unwritten, h.last,
      fun result hresult => ?_, fun _ hnone => ?_, fun hopen hsome => ⟨(h.held hopen hsome).1, ?_⟩,
      h.returned, h.poisoned⟩
    · cases hresult
    · rw [hlock] at hnone
      cases hnone
    · simp
  cases response with
  | none =>
    apply htaken.abandon
    · rw [hcall]
      trivial
    · simp
  | some result =>
    apply htaken.exitCall (Or.inl hlock)
    · intro result' heq
      obtain rfl : result = result' := by simpa using heq
      exact h.answersCall hlock hslot
    · intro hnot
      exact absurd rfl (hnot result)
    · intro _
      exact ⟨rfl, (h.slot result hslot (by simp [hlock])).1⟩

/-- The task that reads puts the answer to the last frame into the empty slot. -/
lemma Paired.readResponse (h : Paired lib s) {body : Bytes} (hreading : s.readerTask = .reading)
    (hbody : s.answers[s.framesRead]? = some body) : Paired lib (s.readResponse lib body) := by
  have hopen : s.closed = false := by
    cases hclosed : s.closed with
    | false => rfl
    | true =>
      have hdone := h.reader.2 hclosed
      rw [hreading] at hdone
      cases hdone
  obtain ⟨hlt, -⟩ := List.getElem?_eq_some_iff.1 hbody
  obtain ⟨-, hanswers⟩ := h.answered
  have hlock : s.lock.isSome := by
    cases hnone : s.lock with
    | none =>
      have hread := (h.free hopen hnone).2
      omega
    | some c => rfl
  obtain ⟨hlast, hslot⟩ := h.held hopen hlock
  have hempty : s.responses = none := by
    cases hresponses : s.responses with
    | none => rfl
    | some item =>
      cases item with
      | none => exact absurd hresponses hslot
      | some result =>
        have hread := (h.slot result hresponses hlock).1
        omega
  have hcount : s.framesRead + 1 = s.written.length := by omega
  have hread : Paired lib { s with framesRead := s.framesRead + 1 } := by
    refine ⟨h.flags, h.reader, h.holds, ⟨?_, hanswers⟩, h.distinct, h.unwritten, h.last,
      fun result hresult _ => ?_, fun hopen hnone => ?_, fun _ _ => ⟨?_, hslot⟩, h.returned,
      h.poisoned⟩
    · exact hlt
    · rw [hempty] at hresult
      cases hresult
    · exact ⟨(h.free hopen hnone).1, hcount⟩
    · show s.written.length ≤ s.framesRead + 1 + 1
      omega
  unfold Channel.readResponse
  dsimp only
  split
  · exact hread.close
  split
  · rename_i result hresult
    rw [hempty, Option.isSome_none, if_neg Bool.false_ne_true]
    refine ⟨hread.flags, hread.reader, hread.holds, hread.answered, hread.distinct, hread.unwritten,
      hread.last, fun result' hresult' _ => ?_, fun _ hnone => ?_, fun hopen hsome => ?_,
      hread.returned, hread.poisoned⟩
    · obtain rfl : result = result' := by simpa using hresult'
      refine ⟨hcount, body, ?_, hresult⟩
      show s.answers[s.written.length - 1]? = some body
      rw [← hcount]
      exact hbody
    · have hnone : s.lock = none := hnone
      rw [hnone] at hlock
      cases hlock
    · exact ⟨(hread.held hopen hsome).1, by simp⟩
  · exact hread.close
  · exact ⟨hread.flags, ⟨by simp, fun _ => rfl⟩, hread.holds, hread.answered, hread.distinct,
      hread.unwritten, hread.last, hread.slot, hread.free, hread.held, hread.returned,
      hread.poisoned⟩

/-- One more answer of the peer. -/
lemma Paired.answer (h : Paired lib s) (hlt : s.answers.length < s.written.length) (body : Bytes) :
    Paired lib { s with answers := s.answers ++ [body] } := by
  obtain ⟨hle, -⟩ := h.answered
  have hkept : ∀ {i : ℕ} {answer : Bytes}, s.answers[i]? = some answer →
      (s.answers ++ [body])[i]? = some answer := by
    intro i answer hi
    obtain ⟨hi', -⟩ := List.getElem?_eq_some_iff.1 hi
    rw [List.getElem?_append_left hi']
    exact hi
  refine ⟨h.flags, h.reader, h.holds, ⟨?_, ?_⟩, h.distinct, h.unwritten, h.last,
    fun result hresult hsome => ?_, h.free, h.held, fun c result hc => ?_, h.poisoned⟩
  · simp only [List.length_append, List.length_singleton]
    omega
  · simp only [List.length_append, List.length_singleton]
    omega
  · obtain ⟨hread, answer, hanswer, hdecode⟩ := h.slot result hresult hsome
    exact ⟨hread, answer, hkept hanswer, hdecode⟩
  · obtain ⟨i, b, answer, hi, hanswer, hdecode⟩ := h.returned c result hc
    exact ⟨i, b, answer, hi, hkept hanswer, hdecode⟩

/-! ## Every run -/

lemma paired_create (token : Bytes) : Paired lib (Channel.create token) := by
  constructor <;> simp [Channel.create, GatewayTransport.create, CallPhase.Holds]

/-- Every step keeps the invariant. -/
lemma Paired.step {e : ChannelEvent} (h : Paired lib s) (hstep : e.run lib s = some s') :
    Paired lib s' := by
  cases e with
  | begin c operation payload =>
    simp only [ChannelEvent.run] at hstep
    split at hstep
    · rename_i hcall
      obtain rfl := Option.some.inj hstep
      apply h.moveTo
      · simp [hcall, CallPhase.Holds]
      · intro _
        exact h.unwritten c (Or.inl hcall)
      · simp
    · cases hstep
  | acquire c =>
    simp only [ChannelEvent.run] at hstep
    split at hstep
    · rename_i operation payload hcall hlock
      obtain rfl := Option.some.inj hstep
      exact h.enter hcall hlock
    · cases hstep
  | drained c =>
    simp only [ChannelEvent.run] at hstep
    split at hstep
    · rename_i hcall
      obtain rfl := Option.some.inj hstep
      apply h.moveTo <;> simp [hcall, CallPhase.Holds]
    · cases hstep
  | drainFails c =>
    simp only [ChannelEvent.run] at hstep
    split at hstep
    · rename_i hcall
      obtain rfl := Option.some.inj hstep
      apply h.abandon
      · simp [hcall, CallPhase.Holds]
      · simp
    · cases hstep
  | receive c =>
    simp only [ChannelEvent.run] at hstep
    split at hstep
    · rename_i response hcall hslot
      obtain rfl := Option.some.inj hstep
      exact h.receive hcall hslot
    · cases hstep
  | interrupt c =>
    simp only [ChannelEvent.run] at hstep
    split at hstep
    · rename_i operation payload hcall
      obtain rfl := Option.some.inj hstep
      apply h.moveTo
      · simp [hcall, CallPhase.Holds]
      · simp
      · intro exit hexit
        refine ⟨?_, h.unwritten c (Or.inr ⟨_, _, hcall⟩)⟩
        simpa using hexit.symm
    · rename_i hcall
      obtain rfl := Option.some.inj hstep
      apply h.abandon
      · simp [hcall, CallPhase.Holds]
      · simp
    · rename_i hcall
      obtain rfl := Option.some.inj hstep
      apply h.abandon
      · simp [hcall, CallPhase.Holds]
      · simp
    · cases hstep
  | aclose =>
    obtain rfl := Option.some.inj hstep
    exact h.close
  | answer body =>
    simp only [ChannelEvent.run] at hstep
    split at hstep
    · rename_i hlt
      obtain rfl := Option.some.inj hstep
      exact h.answer hlt body
    · cases hstep
  | readFrame =>
    simp only [ChannelEvent.run] at hstep
    split at hstep
    · rename_i body hreading hbody
      obtain rfl := Option.some.inj hstep
      exact h.readResponse hreading hbody
    · cases hstep
  | put =>
    simp only [ChannelEvent.run] at hstep
    split at hstep
    · rename_i result hputting _
      exact absurd hputting (h.reader.1 result)
    · cases hstep
  | disconnect =>
    simp only [ChannelEvent.run] at hstep
    split at hstep
    · obtain rfl := Option.some.inj hstep
      exact h.close
    · cases hstep
  | readerFails =>
    obtain rfl := Option.some.inj hstep
    exact ⟨h.flags, ⟨by simp, fun _ => rfl⟩, h.holds, h.answered, h.distinct, h.unwritten, h.last,
      h.slot, h.free, h.held, h.returned, h.poisoned⟩

/-! ## Later calls -/

/-- The call has not got the lock yet. -/
def CallPhase.Pending : CallPhase → Prop
  | unstarted | waiting _ _ => True
  | _ => False

/-- The call has not got the lock, or it was refused, or it was interrupted before. -/
def CallPhase.Refused : CallPhase → Prop
  | unstarted | waiting _ _ | exited (.raised .unavailable) | exited .interrupted => True
  | _ => False

lemma CallPhase.Pending.refused {phase : CallPhase} (h : phase.Pending) : phase.Refused := by
  cases phase with
  | unstarted => trivial
  | waiting operation payload => trivial
  | _ => cases h

/-- A closed channel whose lock is free stays so, and no call of it does more than be refused. -/
structure Shut (s : Channel) (d : ℕ) : Prop where
  closed : s.closed = true
  unlocked : s.lock = none
  refused : (s.calls d).Refused

/-- What a call does in a shut channel when it gets the lock. -/
lemma enter_of_closed (hclosed : s.closed = true) (c : ℕ) (operation : String)
    (payload : JsonObject) :
    s.enter lib c operation payload = s.exitCall c (.raised .unavailable) := by
  simp [Channel.enter, hclosed]

lemma Shut.step {d : ℕ} {e : ChannelEvent} (h : Shut s d) (hinv : Paired lib s)
    (hstep : e.run lib s = some s') : Shut s' d := by
  obtain ⟨hclosed, hlock, hrefused⟩ := h
  have hnot : ∀ c, ¬ (s.calls c).Holds := by
    intro c hholds
    rw [hinv.holds, hlock] at hholds
    cases hholds
  have hmove : ∀ {c : ℕ} {phase : CallPhase}, phase.Refused → Shut (s.moveTo c phase) d := by
    intro c phase hphase
    refine ⟨hclosed, hlock, ?_⟩
    by_cases hdc : d = c
    · subst hdc
      simpa [Channel.moveTo] using hphase
    · simpa [Channel.moveTo, Function.update_of_ne hdc] using hrefused
  have hclose : Shut s.close d := by
    obtain ⟨hclosed', -, -, -, hlock', -⟩ := Channel.close_fields hinv
    exact ⟨hclosed', hlock'.trans hlock, hrefused⟩
  have hdone := hinv.reader.2 hclosed
  cases e with
  | begin c operation payload =>
    simp only [ChannelEvent.run] at hstep
    split at hstep
    · obtain rfl := Option.some.inj hstep
      exact hmove trivial
    · cases hstep
  | acquire c =>
    simp only [ChannelEvent.run] at hstep
    split at hstep
    · obtain rfl := Option.some.inj hstep
      rw [enter_of_closed hclosed]
      refine ⟨hclosed, rfl, ?_⟩
      by_cases hdc : d = c
      · subst hdc
        simp [Channel.exitCall, CallPhase.Refused]
      · simpa [Channel.exitCall, Function.update_of_ne hdc] using hrefused
    · cases hstep
  | drained c =>
    simp only [ChannelEvent.run] at hstep
    split at hstep
    · rename_i hcall
      exact absurd (by rw [hcall]; trivial) (hnot c)
    · cases hstep
  | drainFails c =>
    simp only [ChannelEvent.run] at hstep
    split at hstep
    · rename_i hcall
      exact absurd (by rw [hcall]; trivial) (hnot c)
    · cases hstep
  | receive c =>
    simp only [ChannelEvent.run] at hstep
    split at hstep
    · rename_i hcall _
      exact absurd (by rw [hcall]; trivial) (hnot c)
    · cases hstep
  | interrupt c =>
    simp only [ChannelEvent.run] at hstep
    split at hstep
    · obtain rfl := Option.some.inj hstep
      exact hmove trivial
    · rename_i hcall
      exact absurd (by rw [hcall]; trivial) (hnot c)
    · rename_i hcall
      exact absurd (by rw [hcall]; trivial) (hnot c)
    · cases hstep
  | aclose =>
    obtain rfl := Option.some.inj hstep
    exact hclose
  | answer body =>
    simp only [ChannelEvent.run] at hstep
    split at hstep
    · obtain rfl := Option.some.inj hstep
      exact ⟨hclosed, hlock, hrefused⟩
    · cases hstep
  | readFrame => simp [ChannelEvent.run, hdone] at hstep
  | put => simp [ChannelEvent.run, hdone] at hstep
  | disconnect => simp [ChannelEvent.run, hdone] at hstep
  | readerFails =>
    obtain rfl := Option.some.inj hstep
    exact ⟨hclosed, hlock, hrefused⟩

/-- In every state that a run from here reaches, the calls that have no lock yet are refused: they
were interrupted, or raised `GatewayTransportError`, or will when they get the lock, which is
free. -/
def RefusesLaterCalls (lib : JsonLibrary) (token : Bytes) (s : Channel) : Prop :=
  ∀ d, (s.calls d).Pending → ∀ events s', (channelSystem lib token).Run s events s' →
    (s'.calls d).Refused ∧ ∀ operation payload, s'.calls d = .waiting operation payload →
      (ChannelEvent.acquire d).run lib s' = some (s'.exitCall d (.raised .unavailable))

/-- Responses are paired with their requests: in every reachable state every call has written one
frame at most, one that returned has returned the answer to its own frame, and once a call that had
written left without its answer all later calls are refused. -/
theorem gateway_responses_paired (lib : JsonLibrary) (token : Bytes) (s : Channel)
    (h : (channelSystem lib token).Reachable s) :
    (s.written.map Prod.fst).Nodup ∧
    (∀ c result, s.calls c = .exited (.returned result) → AnswersCall lib s c result) ∧
    ∀ c exit, s.calls c = .exited exit → c ∈ s.written.map Prod.fst →
      (∀ result, exit ≠ .returned result) → RefusesLaterCalls lib token s := by
  have hinv : Paired lib s := by
    apply h.invariant
    · rintro _ rfl
      exact paired_create token
    · intro s e s' hs hstep
      exact hs.step hstep
  refine ⟨hinv.distinct, hinv.returned, fun c exit hexit hwritten hnot d hd events s' hrun => ?_⟩
  obtain ⟨hclosed, hlock⟩ := hinv.poisoned c exit hexit hwritten hnot
  have hshut : Paired lib s' ∧ Shut s' d := by
    apply hrun.invariant (P := fun s => Paired lib s ∧ Shut s d)
    · rintro s e s' ⟨hs, hshut⟩ hstep
      exact ⟨hs.step hstep, hshut.step hs hstep⟩
    · exact ⟨hinv, hclosed, hlock, hd.refused⟩
  obtain ⟨-, hclosed', hlock', hrefused⟩ := hshut
  refine ⟨hrefused, fun operation payload hwaiting => ?_⟩
  simp only [ChannelEvent.run, hwaiting, hlock', enter_of_closed hclosed']

/-! ## A cancelled call -/

/-- A call is cancelled after it wrote its frame, and another call begins. -/
def cancelledEvents : List ChannelEvent :=
  [.begin 0 "lean.goal" [], .acquire 0, .drained 0, .interrupt 0, .begin 1 "lean.context" []]

/-- The state after a sequence of steps, if all can be taken. -/
def runEvents (lib : JsonLibrary) (s : Channel) : List ChannelEvent → Option Channel
  | [] => some s
  | e :: events => (e.run lib s).bind fun s => runEvents lib s events

lemma run_of_runEvents {token : Bytes} {events : List ChannelEvent}
    (h : runEvents lib s events = some s') : (channelSystem lib token).Run s events s' := by
  induction events generalizing s with
  | nil =>
    obtain rfl := Option.some.inj h
    exact .nil s
  | cons e events ih =>
    obtain ⟨t, ht, hrest⟩ := Option.bind_eq_some_iff.1 h
    have hfirst : (channelSystem lib token).Run s [e] t := TransitionSystem.Run.single ht
    exact hfirst.append (ih hrest)

/-- The first call is interrupted after its frame was written, and the second waits. -/
def Channel.cancelledFirst (s : Channel) : Bool :=
  (match s.calls 0, s.calls 1 with
    | .exited .interrupted, .waiting _ _ => true
    | _, _ => false) && s.written.map Prod.fst == [0]

lemma cancelledFirst_cancelledEvents :
    (runEvents unlimitedJson (Channel.create (encode "token")) cancelledEvents).any
      Channel.cancelledFirst = true := by
  decide +kernel

/-- The second call never returns a result. -/
theorem gateway_responses_paired_sample :
    ∃ s, runEvents unlimitedJson (Channel.create (encode "token")) cancelledEvents = some s ∧
      ∀ events s', (channelSystem unlimitedJson (encode "token")).Run s events s' →
        (s'.calls 1).Refused := by
  obtain ⟨s, hs, hfirst⟩ :=
    (Option.any_eq_true _ _).1 cancelledFirst_cancelledEvents
  have hreach : (channelSystem unlimitedJson (encode "token")).Reachable s :=
    ⟨_, _, rfl, run_of_runEvents hs⟩
  rw [Channel.cancelledFirst, Bool.and_eq_true, beq_iff_eq] at hfirst
  obtain ⟨hcalls, hwritten⟩ := hfirst
  split at hcalls
  · rename_i operation payload hzero hone
    obtain ⟨-, -, hrefuses⟩ :=
      gateway_responses_paired unlimitedJson (encode "token") s hreach
    refine ⟨s, hs, fun events s' hrun => ?_⟩
    have hlater := hrefuses 0 .interrupted hzero (by simp [hwritten]) (by simp)
    exact (hlater 1 (by rw [hone]; trivial) events s' hrun).1
  · cases hcalls

end Aizim.Gateway
