import Aizim.State.Service

/-!
# Environment transitions

A run that may change its environment needs a predeclared fingerprint, or, in collaborative
participation, a human approval in the event log.  `humanApproved` searches the log for it: it takes the
last proposal with the payload of the transition and the last approval of its transition id, and refuses
when these do not belong together.

`IsApproved` is what the log says: some proposal with the payload has an approval that cites it.
`human_approved_iff` says when the search agrees with it, and `humanApproved_reproposed` that an
identical proposal breaks every approval that was there.
-/

namespace Aizim.Knowledge

open Aizim.JsonValue Aizim.JsonObject State

/-! ## Transitions -/

/-- `EnvironmentPolicyError` -/
structure EnvironmentPolicyError where
  code : String
  deriving DecidableEq

/-- `EnvironmentTransition`, with the checks of its constructor. -/
structure EnvironmentTransition where
  transitionId : String
  oldFingerprint : String
  newFingerprint : String
  reason : String
  transitionId_ne : transitionId ≠ ""
  oldFingerprint_valid : isSha256 oldFingerprint = true
  newFingerprint_valid : isSha256 newFingerprint = true
  fingerprints_ne : oldFingerprint ≠ newFingerprint
  reason_ne : reason ≠ ""

/-- `_transition_payload` -/
def EnvironmentTransition.payload (transition : EnvironmentTransition) : JsonObject :=
  [("transition_id", .str transition.transitionId),
   ("old_fingerprint", .str transition.oldFingerprint),
   ("new_fingerprint", .str transition.newFingerprint), ("reason", .str transition.reason)]

/-- Two dictionaries are equal, in whatever order their entries were inserted. -/
def sameObject (a b : JsonObject) : Bool := canonicalEntries a == canonicalEntries b

/-- `{**payload, "reviewer": None}` -/
def withoutReviewer (payload : JsonObject) : JsonObject := set "reviewer" .null payload

section

variable [CharacterDatabase]

/-! ## The search for an approval -/

/-- The event is of the type, and names the transition. -/
def isAbout (type : EventType) (transition : EnvironmentTransition) (event : EventEnvelope) : Bool :=
  event.eventType = type &&
    getEntry "transition_id" event.payload == some (.str transition.transitionId)

/-- The loop of `_human_approved` over the events, the last one first. -/
def searchApproval (transition : EnvironmentTransition) (proposal : EventEnvelope) :
    List EventEnvelope → Except EnvironmentPolicyError Bool
  | [] => .ok false
  | approval :: rest =>
    if isAbout .environmentTransitionApproved transition approval then do
      require (approval.causationId = some proposal.eventId ∧
        getEntry "reviewer" approval.payload = some (.str approval.actor)) ⟨"INVALID_HUMAN_APPROVAL"⟩
      require (sameObject (withoutReviewer approval.payload)
        (withoutReviewer transition.payload) = true) ⟨"INVALID_HUMAN_APPROVAL"⟩
      pure true
    else searchApproval transition proposal rest

/-- `_human_approved` of the events of a run -/
def humanApproved (events : List EventEnvelope) (transition : EnvironmentTransition) :
    Except EnvironmentPolicyError Bool :=
  let proposals := events.filter (isAbout .environmentTransitionProposed transition)
  match proposals.reverse.find? (fun event => sameObject event.payload transition.payload) with
  | none =>
    if proposals ≠ [] ∨ events.any (isAbout .environmentTransitionApproved transition) = true then
      .error ⟨"INVALID_HUMAN_APPROVAL"⟩
    else .ok false
  | some proposal => searchApproval transition proposal events.reverse

/-! ## Decisions -/

/-- `ParticipationMode` -/
inductive ParticipationMode
  | autonomous
  | collaborative
  | learning
  deriving DecidableEq

/-- `RunPolicy`, as far as it concerns the environment. -/
structure RunPolicy where
  participation : ParticipationMode
  environmentFrozen : Bool

/-- `EnvironmentPolicy.authorize`, which returns an assisted decision or raises. -/
def EnvironmentPolicy.authorize (predeclared : List String) (run : RunPolicy)
    (transition : EnvironmentTransition) : Except EnvironmentPolicyError Unit := do
  require (run.environmentFrozen = false) ⟨"ENVIRONMENT_FROZEN"⟩
  match run.participation with
  | .autonomous => require (transition.newFingerprint ∈ predeclared) ⟨"TRANSITION_NOT_PREDECLARED"⟩
  | .collaborative => .error ⟨"HUMAN_APPROVAL_REQUIRED"⟩
  | .learning => .error ⟨"TRANSITION_NOT_ALLOWED"⟩

/-- `EnvironmentPolicy._authorize_human_approved` -/
def EnvironmentPolicy.authorizeHumanApproved (run : RunPolicy) : Except EnvironmentPolicyError Unit := do
  require (run.environmentFrozen = false) ⟨"ENVIRONMENT_FROZEN"⟩
  match run.participation with
  | .collaborative => pure ()
  | .autonomous | .learning => .error ⟨"TRANSITION_NOT_ALLOWED"⟩

/-- `EnvironmentTransitionService.authorize`, given the events of the run -/
def authorizeTransition (predeclared : List String) (events : List EventEnvelope) (run : RunPolicy)
    (transition : EnvironmentTransition) : Except EnvironmentPolicyError Unit :=
  match run.participation with
  | .collaborative => do
    if ← humanApproved events transition then EnvironmentPolicy.authorizeHumanApproved run
    else EnvironmentPolicy.authorize predeclared run transition
  | .autonomous | .learning => EnvironmentPolicy.authorize predeclared run transition

/-! ## What the log says -/

/-- The event proposes the payload of the transition. -/
def Proposes (transition : EnvironmentTransition) (proposal : EventEnvelope) : Prop :=
  proposal.eventType = .environmentTransitionProposed ∧
    canonicalEntries proposal.payload = canonicalEntries transition.payload

/-- The event approves the proposal: it cites it, its reviewer is its actor, and its payload is that of
the transition. -/
structure Approves (transition : EnvironmentTransition) (proposal approval : EventEnvelope) :
    Prop where
  approved : approval.eventType = .environmentTransitionApproved
  cites : approval.causationId = some proposal.eventId
  reviewer : getEntry "reviewer" approval.payload = some (.str approval.actor)
  payload : canonicalEntries (withoutReviewer approval.payload) =
    canonicalEntries (withoutReviewer transition.payload)

/-- Some proposal of the transition has an approval. -/
def IsApproved (events : List EventEnvelope) (transition : EnvironmentTransition) : Prop :=
  ∃ proposal ∈ events, ∃ approval ∈ events,
    Proposes transition proposal ∧ Approves transition proposal approval

/-- The last event of a kind. -/
def IsLast (p : EventEnvelope → Prop) (events : List EventEnvelope) (event : EventEnvelope) : Prop :=
  ∃ earlier later, events = earlier ++ event :: later ∧ p event ∧ ∀ e ∈ later, ¬ p e

/-- The last approval of the transition id approves the last proposal of the transition. -/
def LastApproved (events : List EventEnvelope) (transition : EnvironmentTransition) : Prop :=
  ∃ proposal approval, IsLast (Proposes transition) events proposal ∧
    IsLast (fun e => isAbout .environmentTransitionApproved transition e = true) events approval ∧
    Approves transition proposal approval

/-! ## The search -/

variable {transition : EnvironmentTransition} {events : List EventEnvelope}
  {proposal approval : EventEnvelope}

lemma find?_reverse_eq_some {p : EventEnvelope → Bool} {event : EventEnvelope} :
    events.reverse.find? p = some event ↔ IsLast (fun e => p e = true) events event := by
  rw [List.find?_eq_some_iff_append]
  unfold IsLast
  constructor
  · rintro ⟨hp, later, earlier, hsplit, hlater⟩
    refine ⟨earlier.reverse, later.reverse, ?_, hp, fun e he => ?_⟩
    · rw [← List.reverse_inj, hsplit]
      simp
    · simpa using hlater e (List.mem_reverse.1 he)
  · rintro ⟨earlier, later, rfl, hp, hlater⟩
    refine ⟨hp, later.reverse, earlier.reverse, by simp, fun e he => ?_⟩
    simpa using hlater e (List.mem_reverse.1 he)

lemma IsLast.mem {p : EventEnvelope → Prop} {event : EventEnvelope} (h : IsLast p events event) :
    event ∈ events ∧ p event := by
  obtain ⟨earlier, later, rfl, hp, -⟩ := h
  exact ⟨List.mem_append_right _ List.mem_cons_self, hp⟩

/-- A proposal of the transition names it. -/
lemma Proposes.isAbout (h : Proposes transition proposal) :
    isAbout .environmentTransitionProposed transition proposal = true := by
  have hid : getEntry "transition_id" proposal.payload = some (.str transition.transitionId) :=
    getEntry_str_of_congr h.2.symm rfl
  simp [Knowledge.isAbout, h.1, hid]

/-- An approval of the transition names it. -/
lemma Approves.isAbout (h : Approves transition proposal approval) :
    isAbout .environmentTransitionApproved transition approval = true := by
  have hid : getEntry "transition_id" (withoutReviewer approval.payload) =
      some (.str transition.transitionId) := getEntry_str_of_congr h.payload.symm rfl
  rw [withoutReviewer, getEntry_set, if_neg (by decide)] at hid
  simp [Knowledge.isAbout, h.approved, hid]

/-- The search finds the last proposal of the transition. -/
lemma find?_proposals_eq_some :
    (events.filter (isAbout .environmentTransitionProposed transition)).reverse.find?
        (fun event => sameObject event.payload transition.payload) = some proposal ↔
      IsLast (Proposes transition) events proposal := by
  have hsame : ∀ e : EventEnvelope, isAbout .environmentTransitionProposed transition e = true ∧
      sameObject e.payload transition.payload = true ↔ Proposes transition e := by
    intro e
    rw [sameObject, beq_iff_eq]
    constructor
    · rintro ⟨habout, hpayload⟩
      simp only [isAbout, Bool.and_eq_true, decide_eq_true_eq] at habout
      exact ⟨habout.1, hpayload⟩
    · exact fun h => ⟨h.isAbout, h.2⟩
  rw [← List.filter_reverse, List.find?_filter, find?_reverse_eq_some]
  simp only [hsame, decide_eq_true_eq]

/-- The loop stops at the last approval of the transition id. -/
lemma searchApproval_eq_true {rest : List EventEnvelope} :
    searchApproval transition proposal rest = .ok true ↔
      ∃ approval, rest.find? (isAbout .environmentTransitionApproved transition) = some approval ∧
        Approves transition proposal approval := by
  induction rest with
  | nil => simp [searchApproval]
  | cons event rest ih =>
    unfold searchApproval
    split
    · rename_i habout
      rw [List.find?_cons_of_pos habout]
      have htype : event.eventType = .environmentTransitionApproved := by
        simp only [isAbout, Bool.and_eq_true, decide_eq_true_eq] at habout
        exact habout.1
      simp only [bind_eq_ok, require_eq_ok, pure_eq_ok, exists_const, and_true, sameObject,
        beq_iff_eq, Option.some.injEq, exists_eq_left']
      constructor
      · rintro ⟨⟨hcites, hreviewer⟩, hpayload⟩
        exact ⟨htype, hcites, hreviewer, hpayload⟩
      · exact fun h => ⟨⟨h.cites, h.reviewer⟩, h.payload⟩
    · rename_i habout
      rw [List.find?_cons_of_neg habout, ih]

/-- **The environment check** approves a transition exactly when the last approval of its id approves its
last proposal. -/
theorem humanApproved_eq_true :
    humanApproved events transition = .ok true ↔ LastApproved events transition := by
  unfold humanApproved LastApproved
  dsimp only
  split
  · rename_i hnone
    constructor
    · intro h
      split at h <;> cases h
    · rintro ⟨proposal, approval, hlast, -⟩
      rw [find?_proposals_eq_some.2 hlast] at hnone
      cases hnone
  · rename_i proposal hfound
    rw [searchApproval_eq_true]
    simp only [find?_reverse_eq_some]
    constructor
    · rintro ⟨approval, happroval, h⟩
      exact ⟨proposal, approval, find?_proposals_eq_some.1 hfound, happroval, h⟩
    · rintro ⟨proposal', approval, hlast, happroval, h⟩
      rw [find?_proposals_eq_some.2 hlast] at hfound
      cases hfound
      exact ⟨approval, happroval, h⟩

lemma LastApproved.isApproved (h : LastApproved events transition) :
    IsApproved events transition := by
  obtain ⟨proposal, approval, hproposal, happroval, happroves⟩ := h
  exact ⟨proposal, hproposal.mem.1, approval, happroval.mem.1, hproposal.mem.2, happroves⟩

/-- **The check agrees with the log** exactly when an approved transition has the last approval of its id
for its last proposal. -/
theorem human_approved_iff (events : List EventEnvelope) (transition : EnvironmentTransition) :
    (humanApproved events transition = .ok true ↔ IsApproved events transition) ↔
      (IsApproved events transition → LastApproved events transition) := by
  rw [humanApproved_eq_true]
  constructor
  · exact fun h => h.2
  · exact fun h => ⟨LastApproved.isApproved, h⟩

/-! ## Proposing again -/

lemma IsLast.unique {p : EventEnvelope → Prop} {a b : EventEnvelope} (ha : IsLast p events a)
    (hb : IsLast p events b) : a = b := by
  classical
  have hfind : ∀ {e}, IsLast p events e → events.reverse.find? (fun e => decide (p e)) = some e := by
    intro e he
    rw [find?_reverse_eq_some]
    simpa using he
  exact Option.some.inj ((hfind ha).symm.trans (hfind hb))

lemma IsLast.append {p : EventEnvelope → Prop} {event other : EventEnvelope}
    (h : IsLast p events event) (hother : ¬ p other) : IsLast p (events ++ [other]) event := by
  obtain ⟨earlier, later, rfl, hp, hlater⟩ := h
  refine ⟨earlier, later ++ [other], by simp, hp, fun e he => ?_⟩
  rcases List.mem_append.1 he with he | he
  · exact hlater e he
  · rw [List.mem_singleton.1 he]
    exact hother

/-- An identical proposal under a new id breaks the approval that was there. -/
theorem humanApproved_reproposed (happroved : humanApproved events transition = .ok true)
    (hproposes : Proposes transition proposal)
    (hnew : proposal.eventId ∉ events.map (·.eventId)) :
    IsApproved (events ++ [proposal]) transition ∧
      humanApproved (events ++ [proposal]) transition ≠ .ok true := by
  have hlast := humanApproved_eq_true.1 happroved
  obtain ⟨old, hold, approval, happroval, hproposed, happroves⟩ := hlast.isApproved
  refine ⟨⟨old, List.mem_append_left _ hold, approval, List.mem_append_left _ happroval, hproposed,
    happroves⟩, fun hagain => ?_⟩
  obtain ⟨first, cited, hfirst, hcited, hcites⟩ := hlast
  obtain ⟨second, cited', hsecond, hcited', hcites'⟩ := humanApproved_eq_true.1 hagain
  have hsame : second = proposal := hsecond.unique ⟨events, [], rfl, hproposes, nofun⟩
  have hkept : cited' = cited := by
    refine hcited'.unique (hcited.append ?_)
    simp [isAbout, hproposes.1]
  have hid : some proposal.eventId = some first.eventId := by
    rw [← hsame, ← hcites'.cites, hkept, hcites.cites]
  apply hnew
  rw [Option.some.inj hid]
  exact List.mem_map_of_mem hfirst.mem.1

end

/-! ## A transition that is proposed again -/

section

attribute [local instance] asciiDatabase

/-- A change of the environment. -/
def sampleTransition : EnvironmentTransition where
  transitionId := "transition-1"
  oldFingerprint := "0000000000000000000000000000000000000000000000000000000000000000"
  newFingerprint := "1111111111111111111111111111111111111111111111111111111111111111"
  reason := "new import policy"
  transitionId_ne := by decide
  oldFingerprint_valid := by decide
  newFingerprint_valid := by decide
  fingerprints_ne := by decide
  reason_ne := by decide

/-- An event about it. -/
def sampleEvent (type : EventType) (eventId actor : String) (causationId : Option String)
    (payload : JsonObject) (hid : isUlid eventId = true) (hactor : actor ≠ "")
    (hcause : causationId ≠ some "") (hpayload : validatePayload type payload = .ok ()) :
    EventEnvelope :=
  ⟨eventId, type, ⟨2026, 1, 1, 12, 0, 0, 0, datetimeValid_noon⟩, actor, some "run-1", causationId, payload, hid,
    hactor, by decide, hcause, hpayload⟩

/-- It is proposed, approved by a human, and proposed again. -/
def sampleEvents : List EventEnvelope :=
  [sampleEvent .environmentTransitionProposed "01ARZ3NDEKTSV4RRFFQ69G5FA0" "research_conductor" none
     sampleTransition.payload (by decide) (by decide) nofun (by rfl),
   sampleEvent .environmentTransitionApproved "01ARZ3NDEKTSV4RRFFQ69G5FA1" "human-reviewer"
     (some "01ARZ3NDEKTSV4RRFFQ69G5FA0")
     (sampleTransition.payload ++ [("reviewer", .str "human-reviewer")])
     (by decide) (by decide) (by decide) (by rfl),
   sampleEvent .environmentTransitionProposed "01ARZ3NDEKTSV4RRFFQ69G5FA2" "research_conductor" none
     sampleTransition.payload (by decide) (by decide) nofun (by rfl)]

/-- **The second proposal breaks the approval**: the log has a proposal with an approval, and the check
raises. -/
theorem approval_broken_by_reproposal : IsApproved sampleEvents sampleTransition ∧
    humanApproved (sampleEvents.take 2) sampleTransition = .ok true ∧
    humanApproved sampleEvents sampleTransition = .error ⟨"INVALID_HUMAN_APPROVAL"⟩ := by
  refine ⟨⟨_, List.mem_cons_self, _, List.mem_cons_of_mem _ List.mem_cons_self, ⟨rfl, rfl⟩,
    ⟨rfl, rfl, rfl, ?_⟩⟩, by rfl, by rfl⟩
  rfl

end

end Aizim.Knowledge
