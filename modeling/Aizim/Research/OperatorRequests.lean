import Aizim.Research.StoreInvariant

/-!
# The requests of the operator, and the frontier

`operatorChange_ok` says what a request of the operator does: it adds a task, pauses or resumes one,
or writes a record that is neither a task nor an attempt.  `exists_frontier` says that `frontier`
never raises, and what holds of the tasks that it returns.
-/

namespace Aizim.Research

open Aizim.JsonValue Aizim.JsonObject State

variable [CharacterDatabase] {t t' : Tables}

/-! ## Requests -/

/-- What a request of the operator does to the tasks and the attempts. -/
structure OperatorChange (t t' : Tables) : Prop where
  saved : ∃ kind identity data, Saved t t' kind identity data
  move : viewOf t' = viewOf t ∨ ResearchMove (viewOf t) (viewOf t')
  attempts : attemptAt t' = attemptAt t
  tasks : ∀ id task, taskAt t id = some task → ∃ task', taskAt t' id = some task' ∧
    task'.status = task.status ∧ task'.rounds = task.rounds ∧ task'.failures = task.failures

/-- Writing a record that is neither a task nor an attempt. -/
lemma OperatorChange.of_ne {kind identity : String} {data : JsonObject}
    (hlog : WellFormedLog t.toEventLog) (hsaved : Saved t t' kind identity data)
    (htask : kind ≠ "task") (hattempt : kind ≠ "attempt") : OperatorChange t t' where
  saved := ⟨kind, identity, data, hsaved⟩
  move := Or.inl (hsaved.viewOf_of_ne hlog htask hattempt)
  attempts := hsaved.attemptAt_of_ne hattempt
  tasks := by
    intro id task hid
    rw [hsaved.taskAt_of_ne htask]
    exact ⟨task, hid, rfl, rfl, rfl⟩

omit [CharacterDatabase] in
lemma mapM_checkText_ok {items : List JsonValue} {texts : List String}
    (h : items.mapM (fun item => checkText textLimit false (some item)) = .ok texts) :
    strsOf (some (.list items)) = texts := by
  have hsame := mapM_eq_ok.1 h
  clear h
  induction hsame with
  | nil => rfl
  | cons hitem _ ih =>
    obtain ⟨hvalue, -⟩ := checkText_ok hitem
    cases hvalue
    simpa [strsOf, str?] using ih

omit [CharacterDatabase] in
lemma checkTexts_ok {value : Option JsonValue} {texts : List String}
    (h : checkTexts value = .ok texts) : strsOf value = texts := by
  unfold checkTexts at h
  split at h
  · simp only [bind_eq_ok, require_eq_ok, exists_and_left, exists_const] at h
    exact mapM_checkText_ok h.2
  · cases h

/-- `define_task` -/
lemma defineTask_ok {draw : Draw} {params : JsonObject} {version : ℕ}
    (hlog : WellFormedLog t.toEventLog) (h : defineTask t draw params = .ok (t', version)) :
    OperatorChange t t' := by
  simp only [defineTask, bind_eq_ok, require_eq_ok, exists_and_left, exists_const] at h
  obtain ⟨-, identity, hidentity, found, hfound, hnone, dependencies, hdependencies, -, checked,
    hchecked, author, -, hsave⟩ := h
  obtain ⟨hvalue, -⟩ := checkIdentifier_ok hidentity
  obtain ⟨-, hrecord⟩ := get_ok hfound
  have hnew : taskAt t identity = none := by
    rw [taskAt, hrecord, Option.isNone_iff_eq_none.1 hnone]
    rfl
  have hsaved := save_ok hsave
  generalize hdata : update params _ = data at hsaved
  have hid : (Task.ofData data).taskId = identity := by
    rw [← hdata]
    simp [Task.ofData, hvalue]
  have hstatus : (Task.ofData data).status = .pending := by
    rw [← hdata]
    simp [Task.ofData]
    decide
  have hdepends : (Task.ofData data).dependsOn = dependencies := by
    rw [← checkTexts_ok hdependencies, ← hdata]
    simp [Task.ofData]
  have hview : viewOf t' = (viewOf t).setTask (.ofData data) := by
    rw [viewOf, hsaved.taskAt_eq, hsaved.attemptAt_of_ne (by decide), hsaved.publishedIn_eq hlog,
      ← hid]
    rfl
  refine ⟨⟨_, _, _, hsaved⟩, Or.inr ?_, hsaved.attemptAt_of_ne (by decide), fun id task htask => ?_⟩
  · rw [hview]
    refine .define (hid ▸ hnew) (fun d hd => ?_) hstatus
    rw [hdepends] at hd
    obtain ⟨other, -, hother⟩ := exists_of_forall₂_left (mapM_eq_ok.1 hchecked) hd
    simp only [bind_eq_ok, orThrow_eq_ok] at hother
    obtain ⟨name, hname, old, hold, rfl⟩ := hother
    obtain ⟨hsame, -⟩ := checkIdentifier_ok hname
    cases hsame
    obtain ⟨-, hrecord'⟩ := get_ok hold
    show (taskAt t d).isSome
    rw [taskAt, hrecord']
    rfl
  · have hne : id ≠ identity := by
      rintro rfl
      rw [hnew] at htask
      cases htask
    rw [hsaved.taskAt_eq, Function.update_of_ne hne]
    exact ⟨task, htask, rfl, rfl, rfl⟩

/-- `operator_change` for a request to pause or to resume a task. -/
lemma setPaused_ok {draw : Draw} {action author : String} {body : JsonObject} {version : ℕ}
    (h : StoreInvariant t) (hok : setPaused t draw action author body = .ok (t', version)) :
    OperatorChange t t' := by
  simp only [setPaused, bind_eq_ok, require_eq_ok, exists_and_left, exists_const] at hok
  obtain ⟨-, identity, hidentity, task, htask, -, -, hsave⟩ := hok
  have hfound := requireTask_ok htask
  have hname := h.project.taskNamed identity task hfound
  have hsaved := save_ok hsave
  rw [← hname] at hsaved hfound
  refine ⟨⟨_, _, _, hsaved⟩, Or.inr ?_, hsaved.attemptAt_of_ne (by decide), fun id other hid => ?_⟩
  · have hmove : ResearchMove (viewOf t)
        ((viewOf t).setTask { task with paused := decide (action = "task.pause") }) :=
      .change hfound ⟨rfl, rfl, rfl, rfl, rfl, rfl, rfl, rfl⟩ rfl rfl
    have hview : viewOf t' =
        (viewOf t).setTask { task with paused := decide (action = "task.pause") } :=
      Saved.viewOf_task hsaved h.log
    exact hview ▸ hmove
  · rw [hsaved.taskAt_eq, Task.ofData_data]
    by_cases hsame : id = task.taskId
    · subst hsame
      obtain rfl := Option.some.inj (hfound.symm.trans hid)
      exact ⟨_, Function.update_self .., rfl, rfl, rfl⟩
    · exact ⟨other, by rw [Function.update_of_ne hsame, hid], rfl, rfl, rfl⟩

lemma addedRecord_kind {action taskId kind : String} {body data : JsonObject}
    (h : addedRecord t action taskId body = .ok (kind, data)) :
    kind ≠ "task" ∧ kind ≠ "attempt" := by
  unfold addedRecord at h
  split_ifs at h
  all_goals
    simp only [bind_eq_ok, require_eq_ok, pure_eq_ok, Prod.mk.injEq, exists_and_left,
      exists_const] at h
  · obtain ⟨-, -, -, rfl, -⟩ := h
    decide
  · obtain ⟨-, -, -, rfl, -⟩ := h
    decide
  · obtain ⟨-, -, -, rfl, -⟩ := h
    decide
  · obtain ⟨-, task, -, -, -, -, -, rfl, -⟩ := h
    decide

/-- `operator_change` for a request to add any other record. -/
lemma addRecord_saved {draw : Draw} {action author : String} {body : JsonObject} {version : ℕ}
    (hok : addRecord t draw action author body = .ok (t', version)) :
    ∃ kind identity data, (kind ≠ "task" ∧ kind ≠ "attempt") ∧ Saved t t' kind identity data := by
  have hadd : ∃ identity taskId kind data, addedRecord t action taskId body = .ok (kind, data) ∧
      save t draw kind identity data author none = .ok (t', version) := by
    simp only [addRecord, bind_eq_ok] at hok
    obtain ⟨identity, -, taskId, -, hok⟩ := hok
    split at hok
    all_goals
      simp only [bind_eq_ok, require_eq_ok, exists_and_left, exists_const, Prod.exists] at hok
      obtain ⟨-, -, kind, data, hadded, -, -, -, hsave⟩ := hok
      exact ⟨identity, taskId, kind, data, hadded, hsave⟩
  obtain ⟨identity, taskId, kind, data, hadded, hsave⟩ := hadd
  exact ⟨kind, identity, data, addedRecord_kind hadded, save_ok hsave⟩

/-- **`operator_change`.** -/
lemma operatorChange_ok {draw : Draw} {params : JsonObject} {version : ℕ} (h : StoreInvariant t)
    (hok : operatorChange t draw params = .ok (t', version)) : OperatorChange t t' := by
  simp only [operatorChange, bind_eq_ok, require_eq_ok, exists_and_left, exists_const] at hok
  obtain ⟨action, -, body, -, -, hok⟩ := hok
  split at hok
  · exact defineTask_ok h.log hok
  · simp only [bind_eq_ok] at hok
    obtain ⟨author, -, hok⟩ := hok
    split at hok
    · exact setPaused_ok h hok
    · obtain ⟨kind, identity, data, ⟨htask, hattempt⟩, hsaved⟩ := addRecord_saved hok
      exact .of_ne h.log hsaved htask hattempt

/-! ## The frontier -/

/-- A task of the frontier. -/
structure InFrontier (t : Tables) (task : Task) : Prop where
  found : taskAt t task.taskId = some task
  pending : task.status = .pending
  free : task.rounds < task.maxRounds
  dependencies : ∀ d ∈ task.dependsOn, (viewOf t).IsVerified d

/-- A task can always be judged, and one that is eligible may be attempted. -/
lemma exists_eligible {t : Tables} {tasks : List Task} {task : Task} (h : StoreInvariant t)
    (hmem : ∀ task, task ∈ tasks ↔ taskAt t task.taskId = some task) (htask : task ∈ tasks) :
    ∃ answer, eligible tasks task = .ok answer ∧ (answer = true → InFrontier t task) := by
  unfold eligible
  split
  · rename_i hopen
    have hfound := (hmem task).1 htask
    have hdependency : ∀ d ∈ task.dependsOn, ∃ other, taskAt t d = some other ∧
        tasks.find? (fun task => task.taskId = d) = some other := by
      intro d hd
      obtain ⟨other, hother⟩ := h.project.closed _ d ⟨task, hfound, hd⟩
      have hname := h.project.taskNamed d other hother
      refine ⟨other, hother, ?_⟩
      cases hfind : tasks.find? (fun task => task.taskId = d) with
      | none =>
        have hin : other ∈ tasks := (hmem other).2 (by rw [hname]; exact hother)
        exact absurd hname (by simpa using List.find?_eq_none.1 hfind other hin)
      | some found =>
        have hsome := (hmem found).1 (List.mem_of_find?_eq_some hfind)
        have hnamed : found.taskId = d := by simpa using List.find?_some hfind
        rw [hnamed] at hsome
        exact hsome.symm.trans hother
    refine (exists_allM_eq_ok fun d hd => ?_).imp fun answer hanswer =>
      ⟨hanswer.1, fun htrue => ⟨hfound, hopen.1, hopen.2.1, fun d hd => ?_⟩⟩
    · obtain ⟨other, -, hfind⟩ := hdependency d hd
      exact ⟨decide (other.status = .verified), by rw [hfind]; rfl⟩
    · obtain ⟨other, hother, hfind⟩ := hdependency d hd
      have hverified := hanswer.2 htrue d hd
      rw [hfind] at hverified
      simp only [orThrow, ok_bind, pure_eq_ok, decide_eq_true_iff] at hverified
      exact ⟨other, hother, hverified⟩
  · exact ⟨false, rfl, fun hfalse => by cases hfalse⟩

/-- **`frontier`** never raises. -/
lemma exists_frontier {t : Tables} (h : StoreInvariant t) :
    ∃ ready, frontier t = .ok ready ∧ ∀ task ∈ ready, InFrontier t task := by
  obtain ⟨tasks, htasks, -, hmem⟩ := h.stored.exists_taskRecords
  have hjudge : ∀ task ∈ tasks, ∃ answer,
      (do pure (← eligible tasks task, task) : Except ResearchFailure (Bool × Task)) =
        .ok answer := by
    intro task htask
    obtain ⟨answer, hanswer, -⟩ := exists_eligible h hmem htask
    exact ⟨(answer, task), by rw [hanswer]; rfl⟩
  obtain ⟨answers, hanswers⟩ := exists_mapM_eq_ok hjudge
  refine ⟨(answers.filter (·.1)).map (·.2), ?_, fun task hin => ?_⟩
  · unfold frontier
    rw [htasks, ok_bind, hanswers]
    rfl
  · obtain ⟨⟨answer, task'⟩, hanswer, rfl⟩ := List.mem_map.1 hin
    rw [List.mem_filter] at hanswer
    obtain ⟨task, htask, hjudged⟩ := exists_of_forall₂ (mapM_eq_ok.1 hanswers) hanswer.1
    obtain ⟨answer', hanswer', hready⟩ := exists_eligible h hmem htask
    rw [hanswer', ok_bind, pure_eq_ok, Prod.mk.injEq] at hjudged
    obtain ⟨rfl, rfl⟩ := hjudged
    exact hready hanswer.2

end Aizim.Research
