import Aizim.Framework.BinaryFloat
import Aizim.Gateway.Authorization

/-!
# Rate limits

The gateway counts the requests of a window, which starts with the first request after the window
before has run out, and the requests of every run.  Both counters are taken before the first await
of a call, so concurrent calls and failing targets do not touch them: what a sequence of calls passes
depends on the readings of the clock alone (`passed_eq`).

`windowTrace_pairwise` says how the windows of a clock that does not go backwards follow one
another.  The clock is read in doubles and the age of a window is a rounded difference; that a window
has run out by its rounded age but not by its true one is possible only below zero
(`three_windows_below_zero`).
-/

namespace Aizim.Gateway

open JsonValue JsonObject Domain State FloatFormat

/-! ## Readings -/

/-- A reading of a clock whose readings are finite. -/
structure Double where
  value : ℚ
  representable : binary64.Representable value
  deriving DecidableEq

@[ext] lemma Double.ext {d e : Double} (h : d.value = e.value) : d = e := by
  obtain ⟨v, hv⟩ := d
  obtain ⟨w, hw⟩ := e
  obtain rfl : v = w := h
  rfl

instance : MonotonicClock Double where
  isFinite _ := true
  isPositive d := 0 < d.value
  before now started := now.value < started.value
  elapsed now started window := window.value ≤ binary64.round (now.value - started.value)

/-! ## Calls that pass the window check -/

/-- A call that passed the window check: the start of its window and its reading of the clock. -/
structure PassedCall (Reading : Type) where
  windowStarted : Reading
  reading : Reading

section Passed

variable {Reading : Type} [MonotonicClock Reading]

/-- The calls that pass when the clock reads these values. -/
def windowTrace (g : CapabilityGateway Reading) : List Reading → List (PassedCall Reading)
  | [] => []
  | now :: readings =>
    (if (g.takeGlobalRequest now).2 then [⟨(g.takeGlobalRequest now).1.windowStarted, now⟩]
      else []) ++ windowTrace (g.takeGlobalRequest now).1 readings

/-- The readings of the clock in the calls of a gateway. -/
def callReadings (name : ℕ) (actions : List (GatewayAction Reading)) : List Reading :=
  actions.filterMap fun
    | .call n _ q => if n = name then some q.monotonic else none
    | _ => none

variable [CharacterDatabase]

/-- The call of a gateway, if the step is one and passes the window check. -/
def GatewayWorld.passes (name : ℕ) (w : GatewayWorld Reading) :
    GatewayAction Reading → List (PassedCall Reading)
  | .call n _ q =>
    if n = name ∧ ((w.gateways n).takeGlobalRequest q.monotonic).2 then
      [⟨((w.gateways n).takeGlobalRequest q.monotonic).1.windowStarted, q.monotonic⟩]
    else []
  | _ => []

/-- The calls of a gateway that pass the window check in a sequence of steps. -/
def GatewayWorld.passed (name : ℕ) (w : GatewayWorld Reading) :
    List (GatewayAction Reading) → List (PassedCall Reading)
  | [] => []
  | action :: actions => w.passes name action ++ (w.exec action).passed name actions

/-- The call of a run that a step of a gateway hands to a target. -/
def GatewayWorld.reaches (name : ℕ) (runId : String) (w : GatewayWorld Reading) :
    GatewayAction Reading → List AuthorizedCall
  | .call n _ q =>
    if n = name then (w.authorizes n q).toList.filter fun call => call.runId = runId else []
  | _ => []

/-- The calls of a run that a gateway hands to a target in a sequence of steps. -/
def GatewayWorld.reached (name : ℕ) (runId : String) (w : GatewayWorld Reading) :
    List (GatewayAction Reading) → List AuthorizedCall
  | [] => []
  | action :: actions => w.reaches name runId action ++ (w.exec action).reached name runId actions

/-! ## Counters -/

omit [CharacterDatabase] in
@[simp] lemma takeGlobalRequest_limits (g : CapabilityGateway Reading) (now : Reading) :
    (g.takeGlobalRequest now).1.limits = g.limits := by
  unfold CapabilityGateway.takeGlobalRequest
  dsimp only
  split_ifs <;> rfl

omit [CharacterDatabase] in
@[simp] lemma takeGlobalRequest_runCounts (g : CapabilityGateway Reading) (now : Reading) :
    (g.takeGlobalRequest now).1.runCounts = g.runCounts := by
  unfold CapabilityGateway.takeGlobalRequest
  dsimp only
  split_ifs <;> rfl

omit [CharacterDatabase] in
/-- The window check does not look at the counters of the runs. -/
lemma takeGlobalRequest_update (g : CapabilityGateway Reading) (counts : String → ℕ)
    (now : Reading) :
    ({ g with runCounts := counts }.takeGlobalRequest now) =
      ({ (g.takeGlobalRequest now).1 with runCounts := counts }, (g.takeGlobalRequest now).2) := by
  unfold CapabilityGateway.takeGlobalRequest
  dsimp only
  split_ifs <;> rfl

omit [CharacterDatabase] in
lemma windowTrace_update (g : CapabilityGateway Reading) (counts : String → ℕ)
    (readings : List Reading) :
    windowTrace { g with runCounts := counts } readings = windowTrace g readings := by
  induction readings generalizing g with
  | nil => rfl
  | cons now readings ih =>
    simp only [windowTrace, takeGlobalRequest_update, ih]

omit [CharacterDatabase] [MonotonicClock Reading] in
/-- A call that is authorized is one of the run of its record. -/
lemma runId_of_authorize {targets : List GatewayTool} {record : CapabilityRecord}
    {q : GatewayRequest Reading} {call : AuthorizedCall}
    (h : authorize targets record q = .ok call) : call.runId = record.runId := by
  simp only [authorize, bind_eq_ok, require_eq_ok, exists_and_left, exists_const] at h
  obtain ⟨-, -, h⟩ := h
  split at h
  · simp at h
  simp only [bind_eq_ok, orThrow_eq_ok, require_eq_ok, pure_eq_ok, exists_and_left,
    exists_const] at h
  obtain ⟨role, -, operation, -, -, -, -, rfl⟩ := h
  rfl

omit [CharacterDatabase] in
/-- A request of a run that passes is counted. -/
lemma takeRunRequest_ok {g : CapabilityGateway Reading} {runId : String}
    (h : (g.takeRunRequest runId).2 = true) :
    g.runCounts runId < g.limits.runBudget ∧
      (g.takeRunRequest runId).1.runCounts runId = g.runCounts runId + 1 := by
  unfold CapabilityGateway.takeRunRequest at h ⊢
  split at h
  · simp at h
  · rename_i hle
    rw [if_neg hle]
    exact ⟨not_le.1 hle, Function.update_self _ _ _⟩

omit [CharacterDatabase] in
/-- The check of a run changes one count. -/
lemma exists_takeRunRequest (g : CapabilityGateway Reading) (runId : String) :
    ∃ counts, (g.takeRunRequest runId).1 = { g with runCounts := counts } ∧
      ∀ run, g.runCounts run ≤ counts run := by
  unfold CapabilityGateway.takeRunRequest
  split
  · exact ⟨g.runCounts, rfl, fun run => le_rfl⟩
  · refine ⟨_, rfl, fun run => ?_⟩
    by_cases hrun : run = runId
    · rw [hrun, Function.update_self]
      omega
    · rw [Function.update_of_ne hrun]

omit [CharacterDatabase] in
/-- What a decision does to the gateway: the window check, and a count of one run. -/
lemma decide_gateway (g : CapabilityGateway Reading) (t : Tables) (q : GatewayRequest Reading) :
    ∃ counts, (g.decide t q).1 = { (g.takeGlobalRequest q.monotonic).1 with runCounts := counts } ∧
      (∀ runId, g.runCounts runId ≤ counts runId) ∧
      ∀ call, (g.decide t q).2 = .ok (.authorized call) →
        g.runCounts call.runId < g.limits.runBudget ∧
          counts call.runId = g.runCounts call.runId + 1 := by
  have hsame : ∀ decision : Except StoreError GatewayDecision,
      (∀ call, decision ≠ .ok (.authorized call)) →
      ∃ counts, (g.takeGlobalRequest q.monotonic).1 =
          { (g.takeGlobalRequest q.monotonic).1 with runCounts := counts } ∧
        (∀ runId, g.runCounts runId ≤ counts runId) ∧ ∀ call, decision = .ok (.authorized call) →
          g.runCounts call.runId < g.limits.runBudget ∧
            counts call.runId = g.runCounts call.runId + 1 := by
    intro decision hnot
    refine ⟨(g.takeGlobalRequest q.monotonic).1.runCounts, rfl, fun runId => ?_, fun call hcall => ?_⟩
    · rw [takeGlobalRequest_runCounts]
    · exact absurd hcall (hnot call)
  unfold CapabilityGateway.decide
  dsimp only
  split
  · exact hsame _ (by simp)
  split
  · exact hsame _ (by simp)
  split
  · exact hsame _ (by simp)
  split
  · exact hsame _ (by simp)
  · exact hsame _ (by simp)
  rename_i record hrecord
  split
  · exact hsame _ (by simp)
  obtain ⟨counts, hcounts, hle⟩ :=
    exists_takeRunRequest (g.takeGlobalRequest q.monotonic).1 record.runId
  rw [takeGlobalRequest_runCounts] at hle
  split
  · refine ⟨counts, hcounts, hle, by simp⟩
  · rename_i htaken
    refine ⟨counts, hcounts, hle, fun call hcall => ?_⟩
    have htaken : ((g.takeGlobalRequest q.monotonic).1.takeRunRequest record.runId).2 = true := by
      simpa using htaken
    obtain ⟨hlt, hone⟩ := takeRunRequest_ok htaken
    have hrun : call.runId = record.runId := by
      split at hcall
      swap
      · simp at hcall
      rename_i call' hauthorize
      obtain rfl : call' = call := by simpa using hcall
      exact runId_of_authorize hauthorize
    rw [hcounts, takeGlobalRequest_runCounts, ← hrun] at hone
    rw [takeGlobalRequest_runCounts, takeGlobalRequest_limits, ← hrun] at hlt
    exact ⟨hlt, hone⟩

omit [CharacterDatabase] in
lemma authorizes_eq_some {w : GatewayWorld Reading} {name : ℕ} {q : GatewayRequest Reading}
    {call : AuthorizedCall} :
    w.authorizes name q = some call ↔
      ((w.gateways name).decide w.state q).2 = .ok (.authorized call) := by
  unfold GatewayWorld.authorizes
  split
  · rename_i call' hdecide
    rw [hdecide]
    simp
  · rename_i hnot
    simp only [false_iff, reduceCtorEq]
    exact hnot call

/-! ## Sequences of calls -/

/-- A step that is not a call of the gateway leaves it. -/
lemma exec_gateways (w : GatewayWorld Reading) (action : GatewayAction Reading) (name : ℕ)
    (h : ∀ stamp q, action ≠ .call name stamp q) :
    (w.exec action).gateways name = w.gateways name := by
  cases action with
  | mint stamp rawToken grant =>
    simp only [GatewayWorld.exec]
    split <;> rfl
  | operate op quiet => rfl
  | call n stamp q =>
    have hne : name ≠ n := by
      rintro rfl
      exact h stamp q rfl
    simp only [GatewayWorld.exec]
    exact Function.update_of_ne hne _ _

lemma exec_gateways_call (w : GatewayWorld Reading) (name : ℕ) (stamp : Stamp)
    (q : GatewayRequest Reading) :
    (w.exec (.call name stamp q)).gateways name = ((w.gateways name).decide w.state q).1 := by
  simp only [GatewayWorld.exec]
  exact Function.update_self _ _ _

/-- Which calls pass depends on the readings of the clock alone. -/
lemma passed_eq (name : ℕ) (w : GatewayWorld Reading) (actions : List (GatewayAction Reading)) :
    w.passed name actions = windowTrace (w.gateways name) (callReadings name actions) := by
  induction actions generalizing w with
  | nil => rfl
  | cons action actions ih =>
    rw [GatewayWorld.passed, ih]
    cases action with
    | mint stamp rawToken grant =>
      rw [exec_gateways _ _ _ (by simp)]
      rfl
    | operate op quiet =>
      rw [exec_gateways _ _ _ (by simp)]
      rfl
    | call n stamp q =>
      by_cases hn : n = name
      · subst hn
        obtain ⟨counts, hcounts, -⟩ := decide_gateway (w.gateways n) w.state q
        rw [exec_gateways_call, hcounts, windowTrace_update]
        simp [GatewayWorld.passes, callReadings, windowTrace]
      · rw [exec_gateways _ _ _ (by simp [hn])]
        simp [GatewayWorld.passes, callReadings, hn]

/-- A run has no more calls left than its budget. -/
lemma reached_length (name : ℕ) (runId : String) (w : GatewayWorld Reading)
    (actions : List (GatewayAction Reading)) :
    (w.reached name runId actions).length ≤
      (w.gateways name).limits.runBudget - (w.gateways name).runCounts runId := by
  induction actions generalizing w with
  | nil => simp [GatewayWorld.reached]
  | cons action actions ih =>
    have hrest := ih (w.exec action)
    rw [GatewayWorld.reached, List.length_append]
    cases action with
    | mint stamp rawToken grant =>
      rw [exec_gateways _ _ _ (by simp)] at hrest
      simpa [GatewayWorld.reaches] using hrest
    | operate op quiet =>
      rw [exec_gateways _ _ _ (by simp)] at hrest
      simpa [GatewayWorld.reaches] using hrest
    | call n stamp q =>
      by_cases hn : n = name
      · subst hn
        obtain ⟨counts, hcounts, hle, hauthorized⟩ := decide_gateway (w.gateways n) w.state q
        rw [exec_gateways_call, hcounts, takeGlobalRequest_limits] at hrest
        rw [GatewayWorld.reaches, if_pos rfl]
        dsimp only at hrest
        cases hcall : w.authorizes n q with
        | none =>
          have hmono := hle runId
          simp only [Option.toList_none, List.filter_nil, List.length_nil]
          omega
        | some call =>
          obtain ⟨hlt, hone⟩ := hauthorized call (authorizes_eq_some.1 hcall)
          by_cases hrun : call.runId = runId
          · subst hrun
            simp only [Option.toList_some, List.filter_cons, decide_true, if_true, List.filter_nil,
              List.length_singleton]
            omega
          · have hmono := hle runId
            simp only [Option.toList_some, List.filter_cons, hrun, decide_false, List.filter_nil,
              Bool.false_eq_true, if_false, List.length_nil]
            omega
      · rw [exec_gateways _ _ _ (by simp [hn])] at hrest
        simpa [GatewayWorld.reaches, hn] using hrest

end Passed

/-! ## One window -/

/-- The window of a gateway has run out at a reading, by its rounded age. -/
def Expires (g : CapabilityGateway Double) (now : Double) : Prop :=
  g.limits.windowSeconds.value ≤ binary64.round (now.value - g.windowStarted.value)

lemma windowSeconds_pos (g : CapabilityGateway Double) : 0 < g.limits.windowSeconds.value := by
  have h : decide (0 < g.limits.windowSeconds.value) = true := g.limits.windowSeconds_valid.2
  exact of_decide_eq_true h

/-- A window has not run out at its start. -/
lemma not_expires_self (g : CapabilityGateway Double) : ¬ Expires g g.windowStarted := by
  rw [Expires, sub_self, round_zero, not_le]
  exact windowSeconds_pos g

/-- The window check at a reading that is not before the window. -/
lemma takeGlobalRequest_cases (g : CapabilityGateway Double) {now : Double}
    (h : g.windowStarted.value ≤ now.value) :
    (Expires g now ∧ g.takeGlobalRequest now =
      ({ g with windowStarted := now, windowCount := 1 }, true)) ∨
    (¬ Expires g now ∧ g.windowCount < g.limits.requestLimit ∧ g.takeGlobalRequest now =
      ({ g with windowCount := g.windowCount + 1 }, true)) ∨
    (¬ Expires g now ∧ g.limits.requestLimit ≤ g.windowCount ∧
      g.takeGlobalRequest now = (g, false)) := by
  have hbefore : MonotonicClock.before now g.windowStarted = false := by
    have hnot : decide (now.value < g.windowStarted.value) = false :=
      decide_eq_false (not_lt.2 h)
    exact hnot
  have hfinite : MonotonicClock.isFinite now = true := rfl
  have helapsed : MonotonicClock.elapsed now g.windowStarted g.limits.windowSeconds = true ↔
      Expires g now := decide_eq_true_iff
  have hlimit := g.limits.requestLimit_pos
  by_cases hexpires : Expires g now
  · refine Or.inl ⟨hexpires, ?_⟩
    have htrue := helapsed.2 hexpires
    simp [CapabilityGateway.takeGlobalRequest, hfinite, hbefore, htrue, hlimit.ne']
  · have hfalse : MonotonicClock.elapsed now g.windowStarted g.limits.windowSeconds = false := by
      rw [← Bool.not_eq_true, helapsed]
      exact hexpires
    by_cases hcount : g.limits.requestLimit ≤ g.windowCount
    · refine Or.inr (Or.inr ⟨hexpires, hcount, ?_⟩)
      simp [CapabilityGateway.takeGlobalRequest, hfinite, hbefore, hfalse, hcount]
    · refine Or.inr (Or.inl ⟨hexpires, not_le.1 hcount, ?_⟩)
      simp [CapabilityGateway.takeGlobalRequest, hfinite, hbefore, hfalse, hcount]

/-- The clock does not go backwards, from the start of the window on. -/
def Advances (started : Double) (readings : List Double) : Prop :=
  (started :: readings).Pairwise fun a b => a.value ≤ b.value

lemma Advances.head {started now : Double} {readings : List Double}
    (h : Advances started (now :: readings)) : started.value ≤ now.value :=
  List.rel_of_pairwise_cons h List.mem_cons_self

lemma Advances.reset {started now : Double} {readings : List Double}
    (h : Advances started (now :: readings)) : Advances now readings :=
  (List.pairwise_cons.1 h).2

lemma Advances.tail {started now : Double} {readings : List Double}
    (h : Advances started (now :: readings)) : Advances started readings := by
  obtain ⟨hstarted, hrest⟩ := List.pairwise_cons.1 h
  refine List.pairwise_cons.2 ⟨fun b hb => hstarted b (List.mem_cons_of_mem _ hb), ?_⟩
  exact (List.pairwise_cons.1 hrest).2

/-! ## The windows of a clock -/

/-- Every call lies in its window, which is the present one or a later one. -/
lemma bounds_of_mem {g : CapabilityGateway Double} {readings : List Double}
    (h : Advances g.windowStarted readings) :
    ∀ c ∈ windowTrace g readings, g.windowStarted.value ≤ c.windowStarted.value ∧
      c.windowStarted.value ≤ c.reading.value ∧ c.reading ∈ readings := by
  induction readings generalizing g with
  | nil => simp [windowTrace]
  | cons now readings ih =>
    intro c hc
    rw [windowTrace, List.mem_append] at hc
    rcases takeGlobalRequest_cases g h.head with ⟨-, htake⟩ | ⟨-, -, htake⟩ | ⟨-, -, htake⟩
    · rw [htake] at hc
      rcases hc with hc | hc
      · obtain rfl : c = ⟨now, now⟩ := by simpa using hc
        exact ⟨h.head, le_rfl, List.mem_cons_self⟩
      · obtain ⟨hstarted, hreading, hmem⟩ := ih h.reset c hc
        exact ⟨h.head.trans hstarted, hreading, List.mem_cons_of_mem _ hmem⟩
    · rw [htake] at hc
      rcases hc with hc | hc
      · obtain rfl : c = ⟨g.windowStarted, now⟩ := by simpa using hc
        exact ⟨le_rfl, h.head, List.mem_cons_self⟩
      · obtain ⟨hstarted, hreading, hmem⟩ :=
          ih (g := { g with windowCount := g.windowCount + 1 }) h.tail c hc
        exact ⟨hstarted, hreading, List.mem_cons_of_mem _ hmem⟩
    · rw [htake] at hc
      rcases hc with hc | hc
      · simp at hc
      · obtain ⟨hstarted, hreading, hmem⟩ := ih h.tail c hc
        exact ⟨hstarted, hreading, List.mem_cons_of_mem _ hmem⟩

/-- A window that has run out at a reading started before it. -/
lemma Expires.lt {g : CapabilityGateway Double} {now : Double} (h : Expires g now)
    (hle : g.windowStarted.value ≤ now.value) : g.windowStarted.value < now.value := by
  refine lt_of_le_of_ne hle fun heq => ?_
  have hnow : now = g.windowStarted := Double.ext heq.symm
  exact not_expires_self g (hnow ▸ h)

/-- At most the request limit of calls pass in one window. -/
lemma countP_windowTrace {g : CapabilityGateway Double} {readings : List Double}
    (h : Advances g.windowStarted readings) (started : Double) :
    (windowTrace g readings).countP (fun c => c.windowStarted = started) ≤
      if started = g.windowStarted then g.limits.requestLimit - g.windowCount
      else g.limits.requestLimit := by
  induction readings generalizing g with
  | nil => simp [windowTrace]
  | cons now readings ih =>
    rw [windowTrace, List.countP_append]
    rcases takeGlobalRequest_cases g h.head with ⟨hexpires, htake⟩ | ⟨-, hlt, htake⟩ | ⟨-, -, htake⟩
    · rw [htake]
      have hrest := ih h.reset (g := { g with windowStarted := now, windowCount := 1 })
      have hlater : now ≠ g.windowStarted := by
        rintro rfl
        exact not_expires_self g hexpires
      have hlimit := g.limits.requestLimit_pos
      by_cases hstarted : started = g.windowStarted
      · -- no later call lies in a window that has run out
        subst hstarted
        have hnone : (windowTrace { g with windowStarted := now, windowCount := 1 }
            readings).countP (fun c => c.windowStarted = g.windowStarted) = 0 := by
          rw [List.countP_eq_zero]
          intro c hc
          obtain ⟨hle, -⟩ := bounds_of_mem h.reset c hc
          have hlt := hexpires.lt h.head
          simp only [decide_eq_true_eq]
          rintro hsame
          rw [hsame] at hle
          exact absurd hlt (not_lt.2 hle)
        simp [hnone, hlater]
      · rw [if_neg hstarted]
        by_cases hnow : started = now
        · subst hnow
          rw [if_pos rfl] at hrest
          simp only [List.countP_cons, List.countP_nil, if_true, decide_true]
          dsimp only at hrest
          omega
        · rw [if_neg hnow] at hrest
          have hnow' : now ≠ started := Ne.symm hnow
          simp only [if_true, List.countP_cons, List.countP_nil, hnow', decide_false,
            Bool.false_eq_true, if_false]
          dsimp only at hrest
          omega
    · rw [htake]
      have hrest := ih h.tail (g := { g with windowCount := g.windowCount + 1 })
      by_cases hstarted : started = g.windowStarted
      · subst hstarted
        rw [if_pos rfl] at hrest ⊢
        simp only [List.countP_cons, List.countP_nil, if_true, decide_true]
        dsimp only at hrest
        omega
      · have hstarted' : g.windowStarted ≠ started := Ne.symm hstarted
        rw [if_neg hstarted] at hrest ⊢
        simp only [if_true, List.countP_cons, List.countP_nil, hstarted', decide_false,
          Bool.false_eq_true, if_false]
        dsimp only at hrest
        omega
    · rw [htake]
      simpa using ih h.tail

/-- What a window that has run out says of the start of the next, for a clock that is not below
zero: it is no earlier than the length of a window, and the length of a window later unless it is
twice as late. -/
structure Follows (window : ℚ) (started next : Double) : Prop where
  late : window ≤ next.value
  apart : next.value < 2 * started.value → started.value + window ≤ next.value

lemma follows_of_expires {g : CapabilityGateway Double} {now : Double}
    (hzero : 0 ≤ g.windowStarted.value) (hle : g.windowStarted.value ≤ now.value)
    (h : Expires g now) : Follows g.limits.windowSeconds.value g.windowStarted now := by
  have hlt := h.lt hle
  refine ⟨h.trans ?_, fun htwice => ?_⟩
  · apply round_le (sub_pos.2 hlt) now.representable
    linarith
  · -- the two readings are so close that their difference is not rounded
    have hexact := round_sub g.windowStarted.representable now.representable hle htwice.le
    rw [Expires, hexact] at h
    linarith

/-- The later windows of a trace, seen from a reading in the present one. -/
lemma later_of_mem {g : CapabilityGateway Double} {readings : List Double}
    (h : Advances g.windowStarted readings) (hzero : 0 ≤ g.windowStarted.value) {t : Double}
    (ht : ¬ Expires g t) (hafter : ∀ r ∈ readings, t.value ≤ r.value) :
    ∀ c ∈ windowTrace g readings, c.windowStarted = g.windowStarted ∨
      (t.value < c.windowStarted.value ∧
        Follows g.limits.windowSeconds.value g.windowStarted c.windowStarted) := by
  induction readings generalizing g t with
  | nil => simp [windowTrace]
  | cons now readings ih =>
    intro c hc
    rw [windowTrace, List.mem_append] at hc
    have hrest : ∀ r ∈ readings, t.value ≤ r.value :=
      fun r hr => hafter r (List.mem_cons_of_mem _ hr)
    rcases takeGlobalRequest_cases g h.head with ⟨hexpires, htake⟩ | ⟨-, -, htake⟩ | ⟨-, -, htake⟩
    · rw [htake] at hc
      have hfollows := follows_of_expires hzero h.head hexpires
      have htnow : t.value < now.value := by
        refine lt_of_le_of_ne (hafter now List.mem_cons_self) fun heq => ht ?_
        rw [Double.ext heq]
        exact hexpires
      right
      rcases hc with hc | hc
      · obtain rfl : c = ⟨now, now⟩ := by simpa using hc
        exact ⟨htnow, hfollows⟩
      · have hnow : ∀ r ∈ readings, now.value ≤ r.value := fun r hr =>
          List.rel_of_pairwise_cons h.reset hr
        rcases ih (g := { g with windowStarted := now, windowCount := 1 }) h.reset
          (hzero.trans h.head) (not_expires_self _) hnow c hc with hsame | ⟨hlt, hlate, hapart⟩
        · rw [hsame]
          exact ⟨htnow, hfollows⟩
        · refine ⟨htnow.trans hlt, hlate, fun htwice => ?_⟩
          have hle := h.head
          have hstep : now.value + g.limits.windowSeconds.value ≤ c.windowStarted.value :=
            hapart (by dsimp only; linarith)
          linarith
    · rw [htake] at hc
      rcases hc with hc | hc
      · left
        obtain rfl : c = ⟨g.windowStarted, now⟩ := by simpa using hc
        rfl
      · exact ih (g := { g with windowCount := g.windowCount + 1 }) h.tail hzero ht hrest c hc
    · rw [htake] at hc
      rcases hc with hc | hc
      · simp at hc
      · exact ih h.tail hzero ht hrest c hc

/-- How a later call follows an earlier one: in its window, or in a later one that started after the
earlier call. -/
def CallAfter (window : ℚ) (c d : PassedCall Double) : Prop :=
  c.reading.value ≤ d.reading.value ∧ d.windowStarted.value ≤ d.reading.value ∧
    (d.windowStarted = c.windowStarted ∨
      (c.reading.value < d.windowStarted.value ∧ Follows window c.windowStarted d.windowStarted))

/-- The calls that pass follow one another. -/
lemma windowTrace_pairwise {g : CapabilityGateway Double} {readings : List Double}
    (h : Advances g.windowStarted readings) (hzero : 0 ≤ g.windowStarted.value) :
    (windowTrace g readings).Pairwise (CallAfter g.limits.windowSeconds.value) := by
  induction readings generalizing g with
  | nil => simp [windowTrace]
  | cons now readings ih =>
    have hafter : ∀ r ∈ readings, now.value ≤ r.value := fun r hr =>
      List.rel_of_pairwise_cons h.reset hr
    rw [windowTrace]
    rcases takeGlobalRequest_cases g h.head with ⟨-, htake⟩ | ⟨hopen, -, htake⟩ | ⟨-, -, htake⟩
    · rw [htake]
      have hnow := hzero.trans h.head
      refine List.pairwise_cons.2 ⟨fun d hd => ?_,
        ih (g := { g with windowStarted := now, windowCount := 1 }) h.reset hnow⟩
      obtain ⟨-, hreading, hmem⟩ := bounds_of_mem h.reset d hd
      exact ⟨hafter _ hmem, hreading, later_of_mem
        (g := { g with windowStarted := now, windowCount := 1 }) h.reset hnow (not_expires_self _)
        hafter d hd⟩
    · rw [htake]
      refine List.pairwise_cons.2 ⟨fun d hd => ?_,
        ih (g := { g with windowCount := g.windowCount + 1 }) h.tail hzero⟩
      obtain ⟨-, hreading, hmem⟩ := bounds_of_mem
        (g := { g with windowCount := g.windowCount + 1 }) h.tail d hd
      exact ⟨hafter _ hmem, hreading, later_of_mem
        (g := { g with windowCount := g.windowCount + 1 }) h.tail hzero hopen hafter d hd⟩
    · rw [htake]
      exact ih h.tail hzero

/-! ## Any interval -/

/-- A list in which no three elements in order have three keys is at most twice as long as the
elements of one key are many. -/
lemma length_le_two_mul {α β : Type*} [DecidableEq β] (key : α → β) {R : α → α → Prop} {n : ℕ}
    {l : List α} (hcount : ∀ k, l.countP (fun a => key a = k) ≤ n) (hl : l.Pairwise R)
    (htwo : ∀ a ∈ l, ∀ b ∈ l, ∀ c ∈ l, R a b → R b c → key b ≠ key a → key c ≠ key b →
      key c = key a) : l.length ≤ 2 * n := by
  cases l with
  | nil => simp
  | cons a l =>
    have hfirst := hcount (key a)
    have hsplit := List.length_eq_countP_add_countP (fun d => key d = key a) (l := a :: l)
    have hothers : (a :: l).countP (fun d => ¬ decide (key d = key a) = true) ≤ n := by
      cases hrest : l.filter (fun d => ¬ key d = key a) with
      | nil =>
        have hnone : (a :: l).countP (fun d => ¬ decide (key d = key a) = true) = 0 := by
          have hl' := List.filter_eq_nil_iff.1 hrest
          rw [List.countP_eq_zero]
          intro d hd
          rcases List.mem_cons.1 hd with rfl | hd
          · simp
          · simpa using hl' d hd
        omega
      | cons b rest =>
        -- the second key of the list, and the only other one
        have hpair := (List.pairwise_cons.1 hl).2.filter (fun d => ¬ key d = key a)
        rw [hrest] at hpair
        have hmem : ∀ d ∈ b :: rest, d ∈ l ∧ key d ≠ key a := by
          intro d hd
          rw [← hrest, List.mem_filter] at hd
          exact ⟨hd.1, by simpa using hd.2⟩
        have hb := hmem b List.mem_cons_self
        refine le_trans (List.countP_mono_left fun d hd hne => ?_) (hcount (key b))
        rcases List.mem_cons.1 hd with rfl | hd
        · simp at hne
        have hne : key d ≠ key a := by simpa using hne
        have hd' : d ∈ b :: rest := by
          rw [← hrest, List.mem_filter]
          exact ⟨hd, by simpa using hne⟩
        rcases List.mem_cons.1 hd' with rfl | hd'
        · simp
        have hab : R a b := (List.pairwise_cons.1 hl).1 b hb.1
        have hbd : R b d := (List.pairwise_cons.1 hpair).1 d hd'
        by_contra hdb
        have hdb : key d ≠ key b := by simpa using hdb
        exact hne (htwo a List.mem_cons_self b (List.mem_cons_of_mem _ hb.1) d
          (List.mem_cons_of_mem _ hd) hab hbd hb.2 hdb)
    omega

/-- The calls of a trace in a closed interval of the clock. -/
def callsWithin (start length : ℚ) (calls : List (PassedCall Double)) : List (PassedCall Double) :=
  calls.filter fun c => start ≤ c.reading.value ∧ c.reading.value ≤ start + length

/-- In any interval as long as a window, the calls of at most two windows pass. -/
lemma length_callsWithin {g : CapabilityGateway Double} {readings : List Double}
    (h : Advances g.windowStarted readings) (hzero : 0 ≤ g.windowStarted.value) (start : ℚ) :
    (callsWithin start g.limits.windowSeconds.value (windowTrace g readings)).length ≤
      2 * g.limits.requestLimit := by
  rw [callsWithin]
  apply length_le_two_mul PassedCall.windowStarted (fun started => ?_)
    ((windowTrace_pairwise h hzero).filter _)
  · rintro a ha b - c hc ⟨-, -, hab⟩ ⟨-, hcstart, hbc⟩ hba hcb
    obtain ⟨hlt, hlate, -⟩ := hab.resolve_left hba
    obtain ⟨-, -, hapart⟩ := hbc.resolve_left hcb
    rw [List.mem_filter, decide_eq_true_iff] at ha hc
    obtain ⟨-, hstart, -⟩ := ha
    obtain ⟨-, -, hend⟩ := hc
    have hwindow : b.windowStarted.value + g.limits.windowSeconds.value ≤ c.windowStarted.value :=
      hapart (by linarith)
    linarith
  · have hcount := countP_windowTrace h started
    refine le_trans (List.filter_sublist.countP_le) (hcount.trans ?_)
    split <;> omega

/-- The limits of a gateway, over every sequence of steps whose readings of the clock do not go
backwards: in one window no more calls pass than the request limit, in any interval as long as a
window no more than twice as many if the clock is not below zero, and no more calls of a run reach a
target than its budget. -/
theorem gateway_rate_limits [CharacterDatabase] (w : GatewayWorld Double)
    (actions : List (GatewayAction Double)) (name : ℕ)
    (hclock : Advances (w.gateways name).windowStarted (callReadings name actions)) :
    (∀ started, (w.passed name actions).countP (fun c => c.windowStarted = started) ≤
      (w.gateways name).limits.requestLimit) ∧
    (0 ≤ (w.gateways name).windowStarted.value → ∀ start,
      (callsWithin start (w.gateways name).limits.windowSeconds.value
        (w.passed name actions)).length ≤ 2 * (w.gateways name).limits.requestLimit) ∧
    ∀ runId, (w.reached name runId actions).length ≤ (w.gateways name).limits.runBudget := by
  rw [passed_eq]
  refine ⟨fun started => ?_, fun hzero start => length_callsWithin hclock hzero start,
    fun runId => ?_⟩
  · have hcount := countP_windowTrace hclock started
    split at hcount <;> omega
  · have hlength := reached_length name runId w actions
    omega

/-! ## Below zero -/

/-- A window of a minute, one request in each, and one call for each run. -/
def minuteLimits : GatewayLimits Double where
  requestLimit := 1
  windowSeconds := ⟨60, 60, 0, by norm_num [binary64], by decide, by decide, by norm_num⟩
  runBudget := 1
  requestLimit_pos := by decide
  windowSeconds_valid := ⟨rfl, by decide⟩
  runBudget_pos := by decide

/-- A gateway that was made at a reading of the clock. -/
def minuteGateway (windowStarted : Double) : CapabilityGateway Double where
  targets := []
  limits := minuteLimits
  windowStarted
  windowCount := 0
  runCounts _ := 0

/-- A call without a token. -/
def minuteCall (monotonic : Double) : GatewayAction Double :=
  .call 0 ⟨"01ARZ3NDEKTSV4RRFFQ69G5FA1", ⟨2026, 1, 1, 12, 0, 0, 0, datetimeValid_noon⟩⟩
    { session := ⟨none, "run", "worker", "formal_planner", none⟩
      operation := .text "formal_graph.read"
      payload := []
      requestId := "request"
      monotonic
      now := ⟨2026, 1, 1, 12, 30, 0, 0, datetimeValid_halfPastTwelve⟩ }

lemma callReadings_minuteCall (readings : List Double) :
    callReadings 0 (readings.map minuteCall) = readings := by
  simp [callReadings, minuteCall, List.filterMap_map, Function.comp_def]

/-- The start of a second of the clock. -/
def wholeSecond (n : Fin 60) : Double :=
  ⟨n.val, n.val, 0, by revert n; decide, by decide, by decide, by simp⟩

/-- A store with gateways that were made at a reading of the clock. -/
def minuteWorld (windowStarted : Double) : GatewayWorld Double :=
  ⟨initialTables, fun _ => minuteGateway windowStarted⟩

/-- Calls at the first two seconds of a clock. -/
theorem gateway_rate_limits_sample : letI := asciiDatabase
    (∀ start, (callsWithin start 60 ((minuteWorld (wholeSecond 0)).passed 0
      ([wholeSecond 0, wholeSecond 1].map minuteCall))).length ≤ 2) ∧
    ∀ runId, ((minuteWorld (wholeSecond 0)).reached 0 runId
      ([wholeSecond 0, wholeSecond 1].map minuteCall)).length ≤ 1 := by
  let := asciiDatabase
  have hclock : Advances (wholeSecond 0)
      (callReadings 0 ([wholeSecond 0, wholeSecond 1].map minuteCall)) := by
    rw [callReadings_minuteCall]
    simp [Advances, wholeSecond]
  obtain ⟨-, hinterval, hbudget⟩ := gateway_rate_limits (minuteWorld (wholeSecond 0))
    ([wholeSecond 0, wholeSecond 1].map minuteCall) 0 hclock
  refine ⟨fun start => hinterval ?_ start, hbudget⟩
  simp [minuteWorld, minuteGateway, wholeSecond]

/-- Minus sixty. -/
def minusSixty : Double := ⟨-60, -60, 0, by norm_num [binary64], by decide, by decide, by norm_num⟩

/-- Three readings within one minute: just below -2⁻⁴⁸, -2⁻⁴⁸, and the last double before sixty. -/
def minuteReadings : List Double :=
  [⟨-(2 ^ 52 + 1) * 2 ^ (-100 : ℤ), -(2 ^ 52 + 1), -100, by norm_num [binary64], by decide,
     by decide, by norm_num⟩,
   ⟨-2 ^ (-48 : ℤ), -1, -48, by norm_num [binary64], by decide, by decide, by norm_num⟩,
   ⟨(60 * 2 ^ 47 - 1) * 2 ^ (-47 : ℤ), 60 * 2 ^ 47 - 1, -47, by norm_num [binary64], by decide,
     by decide, by norm_num⟩]

/-- Each of the three readings starts a window by its rounded age. -/
lemma windowTrace_minuteReadings :
    (minusSixty :: minuteReadings).Pairwise (fun a b => a.value ≤ b.value) ∧
      (callsWithin (-(2 ^ 52 + 1) * 2 ^ (-100 : ℤ)) 60
        (windowTrace (minuteGateway minusSixty) minuteReadings)).length = 3 := by
  decide +kernel

/-- Below zero three windows of one call each fit in a minute. -/
theorem three_windows_below_zero : letI := asciiDatabase
    ∃ (w : GatewayWorld Double) (actions : List (GatewayAction Double)),
      Advances (w.gateways 0).windowStarted (callReadings 0 actions) ∧ ∃ start,
        2 * (w.gateways 0).limits.requestLimit <
          (callsWithin start (w.gateways 0).limits.windowSeconds.value
            (w.passed 0 actions)).length := by
  let := asciiDatabase
  obtain ⟨hclock, hthree⟩ := windowTrace_minuteReadings
  refine ⟨minuteWorld minusSixty, minuteReadings.map minuteCall, ?_,
    -(2 ^ 52 + 1) * 2 ^ (-100 : ℤ), ?_⟩
  · rw [callReadings_minuteCall]
    exact hclock
  · rw [passed_eq, callReadings_minuteCall]
    change 2 * 1 < (callsWithin _ 60 (windowTrace (minuteGateway minusSixty) minuteReadings)).length
    rw [hthree]
    decide

end Aizim.Gateway
