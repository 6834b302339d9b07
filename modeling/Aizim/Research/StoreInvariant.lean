import Aizim.Research.Evidence
import Aizim.Research.Progress

/-!
# The invariant of the store

`viewOf` is the project that a store holds.  `StoreInvariant` says that the store is well formed, the
project satisfies `ResearchInvariant`, and the rounds of the attempts of a task grow in the order in
which the log first records them.  A save keeps it if it is a move of the project
(`StoreInvariant.saved`), and so does every change that is not about research records
(`StoreInvariant.unrelated`).
-/

namespace Aizim.Research

open Aizim.JsonValue Aizim.JsonObject State Orchestration

/-- The project that a store holds. -/
def viewOf (t : Tables) : ResearchView := ⟨taskAt t, attemptAt t, PublishedIn t.toEventLog⟩

/-! ## The order of attempts -/

/-- A row records the attempt. -/
def Recorded (rows : List EventRow) (attemptId : String) : Prop :=
  ∃ row ∈ rows, row.eventType = .researchRecordUpdated ∧
    row.field? "record_id" = some (.str (recordId "attempt" attemptId))

lemma recorded_append {rows rows' : List EventRow} {attemptId : String} :
    Recorded (rows ++ rows') attemptId ↔ Recorded rows attemptId ∨ Recorded rows' attemptId := by
  simp [Recorded, or_and_right, exists_or]

/-- The first attempt was recorded when the second was not. -/
def BegunBefore (t : Tables) (first second : String) : Prop :=
  ∃ earlier later, t.events = earlier ++ later ∧ Recorded earlier first ∧ ¬ Recorded earlier second

/-- The log records the attempts, those of a task in the order of their rounds. -/
structure RoundsOrdered (t : Tables) : Prop where
  recorded : ∀ id, Recorded t.events id ↔ ∃ attempt, attemptAt t id = some attempt
  ordered : ∀ i j a b, BegunBefore t i j → attemptAt t i = some a → attemptAt t j = some b →
    a.taskId = b.taskId → a.round < b.round

/-- A change of the store that adds one attempt at most, and rows that record it. -/
lemma RoundsOrdered.step {t t' : Tables} {rows : List EventRow} (h : RoundsOrdered t)
    (hgrows : Grows (viewOf t) (viewOf t')) (hrows : t'.events = t.events ++ rows)
    (hsingle : ∀ i j a b, attemptAt t i = none → attemptAt t j = none →
      attemptAt t' i = some a → attemptAt t' j = some b → i = j)
    (hrecorded : ∀ id, Recorded rows id → ∃ attempt, attemptAt t' id = some attempt)
    (hnew : ∀ id attempt, attemptAt t' id = some attempt → attemptAt t id = none →
      Recorded rows id) : RoundsOrdered t' := by
  have hkept : ∀ id, (∃ attempt, attemptAt t id = some attempt) →
      ∃ attempt, attemptAt t' id = some attempt := by
    rintro id ⟨attempt, hattempt⟩
    obtain ⟨attempt', hattempt', -⟩ := hgrows.attempts id attempt hattempt
    exact ⟨attempt', hattempt'⟩
  refine ⟨fun id => ?_, fun i j a b hbefore ha hb hsame => ?_⟩
  · rw [hrows, recorded_append]
    constructor
    · rintro (hid | hid)
      · exact hkept id ((h.recorded id).1 hid)
      · exact hrecorded id hid
    · rintro ⟨attempt, hattempt⟩
      cases hold : attemptAt t id with
      | none => exact Or.inr (hnew id attempt hattempt hold)
      | some old => exact Or.inl ((h.recorded id).2 ⟨old, hold⟩)
  · obtain ⟨earlier, later, hsplit, hfirst, hsecond⟩ := hbefore
    rw [hrows] at hsplit
    cases hi : attemptAt t i with
    | none =>
      -- the first attempt is new, so the second, which came later, would be the same
      cases hj : attemptAt t j with
      | none => exact absurd (hsingle i j a b hi hj ha hb ▸ hfirst) hsecond
      | some b' =>
        exfalso
        have hin : Recorded t.events j := (h.recorded j).2 ⟨b', hj⟩
        rcases List.append_eq_append_iff.1 hsplit with ⟨l, hl, -⟩ | ⟨l, hl, -⟩
        · rw [hl, recorded_append] at hsecond
          exact hsecond (Or.inl hin)
        · have hmem : Recorded t.events i := by
            rw [hl, recorded_append]
            exact Or.inl hfirst
          obtain ⟨old, hold⟩ := (h.recorded i).1 hmem
          rw [hi] at hold
          cases hold
    | some a' =>
      cases hj : attemptAt t j with
      | none =>
        obtain ⟨a'', ha'', hkeeps⟩ := hgrows.attempts i a' hi
        obtain rfl := Option.some.inj (ha.symm.trans ha'')
        rw [hkeeps.round]
        exact hgrows.newer i j a' b hi hj hb (hkeeps.taskId.symm.trans hsame)
      | some b' =>
        obtain ⟨a'', ha'', hkeeps⟩ := hgrows.attempts i a' hi
        obtain ⟨b'', hb'', hkeeps'⟩ := hgrows.attempts j b' hj
        obtain rfl := Option.some.inj (ha.symm.trans ha'')
        obtain rfl := Option.some.inj (hb.symm.trans hb'')
        rw [hkeeps.round, hkeeps'.round]
        refine h.ordered i j a' b' ?_ hi hj (by rw [← hkeeps.taskId, hsame, hkeeps'.taskId])
        rcases List.append_eq_append_iff.1 hsplit with ⟨l, hl, -⟩ | ⟨l, hl, -⟩
        · exfalso
          have hin : Recorded t.events j := (h.recorded j).2 ⟨b', hj⟩
          rw [hl, recorded_append] at hsecond
          exact hsecond (Or.inl hin)
        · exact ⟨earlier, l, hl, hfirst, hsecond⟩

variable [CharacterDatabase] {t t' : Tables} {kind identity : String} {data : JsonObject}

/-! ## Saves as moves -/

/-- A save adds one row, which names its record. -/
lemma Saved.exists_row (h : Saved t t' kind identity data) (hlog : WellFormedLog t.toEventLog) :
    WellFormedLog t'.toEventLog ∧ ∃ row, t'.events = t.events ++ [row] ∧
      row.eventType = .researchRecordUpdated ∧
      row.field? "record_id" = some (.str (recordId kind identity)) := by
  obtain ⟨event, record, htype, hname, happlied⟩ := h.appended
  obtain ⟨hlog', row, hrow, -, hevents⟩ := rows_of_append hlog happlied
  exact ⟨hlog', row, hevents, hrow.eventType.trans htype, hrow.field?_eq_str.2 hname⟩

/-- A save is no evidence. -/
lemma Saved.evidenceOf_eq (h : Saved t t' kind identity data) (hlog : WellFormedLog t.toEventLog) :
    evidenceOf t'.toEventLog = evidenceOf t.toEventLog := by
  obtain ⟨-, row, hrows, htype, -⟩ := h.exists_row hlog
  funext admitted workerId
  refine propext ⟨fun hpublished => ?_, fun hpublished => PublishedBy.append hpublished hrows⟩
  refine PublishedBy.of_append hpublished hrows fun r hr => ?_
  rw [List.mem_singleton.1 hr, htype]
  exact ⟨by decide, by decide⟩

lemma Saved.publishedIn_eq (h : Saved t t' kind identity data)
    (hlog : WellFormedLog t.toEventLog) :
    PublishedIn t'.toEventLog = PublishedIn t.toEventLog :=
  publishedIn_of_evidence (h.evidenceOf_eq hlog)

lemma Saved.viewOf_task {task : Task} (h : Saved t t' "task" task.taskId task.data)
    (hlog : WellFormedLog t.toEventLog) : viewOf t' = (viewOf t).setTask task := by
  rw [viewOf, h.taskAt_eq, h.attemptAt_of_ne (by decide), h.publishedIn_eq hlog, Task.ofData_data]
  rfl

lemma Saved.viewOf_attempt {attempt : Attempt} (h : Saved t t' "attempt" attempt.id attempt.data)
    (hlog : WellFormedLog t.toEventLog) : viewOf t' = (viewOf t).setAttempt attempt := by
  rw [viewOf, h.taskAt_of_ne (by decide), h.attemptAt_eq, h.publishedIn_eq hlog,
    Attempt.ofData_data]
  rfl

lemma Saved.viewOf_of_ne (h : Saved t t' kind identity data) (hlog : WellFormedLog t.toEventLog)
    (htask : kind ≠ "task") (hattempt : kind ≠ "attempt") : viewOf t' = viewOf t := by
  rw [viewOf, h.taskAt_of_ne htask, h.attemptAt_of_ne hattempt, h.publishedIn_eq hlog]
  rfl

/-! ## The invariant -/

/-- What holds of the store of a research project. -/
structure StoreInvariant (t : Tables) : Prop where
  queue : (ids t.publicationQueue).Nodup
  log : WellFormedLog t.toEventLog
  stored : ResearchStored t
  project : ResearchInvariant (viewOf t)
  order : RoundsOrdered t

/-- A save that is a move of the project, or does not concern it, keeps the invariant. -/
lemma StoreInvariant.saved (h : StoreInvariant t) (hsaved : Saved t t' kind identity data)
    (hmove : viewOf t' = viewOf t ∨ ResearchMove (viewOf t) (viewOf t')) :
    StoreInvariant t' ∧ Grows (viewOf t) (viewOf t') := by
  have hproject : ResearchInvariant (viewOf t') ∧ Grows (viewOf t) (viewOf t') := by
    rcases hmove with hsame | hmove
    · rw [hsame]
      exact ⟨h.project, .refl _⟩
    · exact ⟨hmove.invariant h.project, hmove.grows⟩
  obtain ⟨hlog', row, hrows, htype, hname⟩ := hsaved.exists_row h.log
  have hkinds : kind ∈ kinds := (recordKey_ok hsaved.key).1
  have hnew : ∀ id attempt, attemptAt t' id = some attempt → attemptAt t id = none →
      kind = "attempt" ∧ id = identity := by
    intro id attempt hattempt hnone
    by_cases hkind : kind = "attempt"
    · subst hkind
      rw [hsaved.attemptAt_eq] at hattempt
      by_cases hid : id = identity
      · exact ⟨rfl, hid⟩
      · rw [Function.update_of_ne hid, hnone] at hattempt
        cases hattempt
    · rw [hsaved.attemptAt_of_ne hkind, hnone] at hattempt
      cases hattempt
  refine ⟨⟨hsaved.queue ▸ h.queue, hlog', hsaved.researchStored h.stored, hproject.1,
    h.order.step hproject.2 hrows ?_ ?_ ?_⟩, hproject.2⟩
  · intro i j a b hi hj ha hb
    exact (hnew i a ha hi).2.trans (hnew j b hb hj).2.symm
  · rintro id ⟨r, hr, -, hid⟩
    rw [List.mem_singleton.1 hr, hname, Option.some.injEq, JsonValue.str.injEq] at hid
    obtain ⟨rfl, rfl⟩ := recordId_injective hkinds (by decide) hid
    rw [hsaved.attemptAt_eq]
    exact ⟨_, Function.update_self ..⟩
  · intro id attempt hattempt hnone
    obtain ⟨rfl, rfl⟩ := hnew id attempt hattempt hnone
    exact ⟨row, List.mem_singleton_self row, htype, hname⟩

/-- A change that is not about research records keeps the invariant. -/
lemma StoreInvariant.unrelated (h : StoreInvariant t) (hchange : Unrelated t t') :
    StoreInvariant t' ∧ Grows (viewOf t) (viewOf t') := by
  obtain ⟨rows, hrows, htypes⟩ := hchange.rows
  have hmove : ResearchMove (viewOf t) (viewOf t') := by
    have hview : viewOf t' = { viewOf t with evidence := PublishedIn t'.toEventLog } := by
      rw [viewOf, hchange.taskAt_eq, hchange.attemptAt_eq]
      rfl
    rw [hview]
    exact .publish fun r w hpublished => hpublished.append hrows
  have hnone : ∀ id, ¬ Recorded rows id := by
    rintro id ⟨row, hrow, htype, -⟩
    exact htypes row hrow htype
  refine ⟨⟨hchange.queue, hchange.log, hchange.researchStored h.stored,
    hmove.invariant h.project, h.order.step hmove.grows hrows ?_ ?_ ?_⟩, hmove.grows⟩
  · intro i j a b hi _ ha _
    rw [hchange.attemptAt_eq, hi] at ha
    cases ha
  · exact fun id hid => absurd hid (hnone id)
  · intro id attempt hattempt hno
    rw [hchange.attemptAt_eq, hno] at hattempt
    cases hattempt

end Aizim.Research
