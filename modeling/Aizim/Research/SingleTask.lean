import Aizim.Research.EngineInvariant

/-!
# A project with a single task

The other modules say what the engine leaves when its saves succeed; here they do.  In a project with
one task, which nobody else writes to, a start of the engine begins the first attempt
(`startRun_begins`), and the answer of the executor ends it (`settleAttempt_ends`).
-/

namespace Aizim.Research

open Aizim.JsonValue Aizim.JsonObject State Orchestration

section Success

variable [CharacterDatabase]

/-! ## Saves that succeed -/

/-- The first draws of a supply can be taken one after the other. -/
structure Supply (supply : ℕ → Draw) (size : ℕ) : Prop where
  ulid : ∀ i < size, isUlid (supply i).stamp.eventId = true
  time : ∀ i < size, validTime (some (.str (supply i).now)) = true
  distinct : ∀ i < size, ∀ j < i, (supply j).stamp.eventId ≠ (supply i).stamp.eventId

/-- The events of a store are the first of a supply. -/
def DrawnFrom (supply : ℕ → Draw) (n : ℕ) (t : Tables) : Prop :=
  t.events.map (·.eventId) = (List.range n).map fun i => (supply i).stamp.eventId

/-- The draws that are left of a supply. -/
def rest (supply : ℕ → Draw) (n : ℕ) : ℕ → Draw := fun i => supply (n + i)

omit [CharacterDatabase] in
lemma Supply.ready {supply : ℕ → Draw} {size n : ℕ} {t : Tables} (h : Supply supply size)
    (hn : n < size) (ht : DrawnFrom supply n t) : DrawReady t (supply n) where
  ulid := h.ulid n hn
  new := by
    rw [show t.events.map (·.eventId) = _ from ht]
    intro hmem
    obtain ⟨i, hi, hsame⟩ := List.mem_map.1 hmem
    exact h.distinct n hn i (List.mem_range.1 hi) hsame
  time := h.time n hn

omit [CharacterDatabase] in
/-- The next draw is taken. -/
lemma DrawnFrom.succ {supply : ℕ → Draw} {n : ℕ} {t t' : Tables} (h : DrawnFrom supply n t)
    (hevents : t'.events.map (·.eventId) =
      t.events.map (·.eventId) ++ [(supply n).stamp.eventId]) : DrawnFrom supply (n + 1) t' := by
  unfold DrawnFrom at h ⊢
  rw [hevents, h, List.range_succ, List.map_append, List.map_singleton]

/-- A store that has used the first draws of a supply, with the declarations that were published. -/
structure Stocked (supply : ℕ → Draw) (published : List EventRow) (n : ℕ) (t : Tables) : Prop where
  stored : ResearchStored t
  log : WellFormedLog t.toEventLog
  drawn : DrawnFrom supply n t
  published : t.events.filter (fun row => row.eventType = .declarationPublished) = published

/-- A process over such a store, which will use the draws that are left. -/
structure Stage (supply : ℕ → Draw) (published : List EventRow) (n : ℕ) (s : EngineState) : Prop
    extends Stocked supply published n s.tables where
  draws : s.draws = rest supply n

variable {supply : ℕ → Draw} {published : List EventRow} {size n : ℕ} {s : EngineState}
  {E : ResearchFailure → EngineState → Prop}

/-- A valid record that keeps its target is saved. -/
lemma Stage.meets_saveRecord (h : Stage supply published n s) (hsupply : Supply supply size) (hn : n < size)
    {kind identity : String} {data : JsonObject} {runId : Option String}
    (hvalid : validRecord (recordPayload (recordId kind identity) kind data) = true)
    (hidentity : getEntry (identityField kind) data = some (.str identity))
    (hkept : kind = "task" → ∀ old, recordAt s.tables kind identity = some old →
      keepsTarget data old = true) (hrun : runId ≠ some "") {Q : Unit → EngineState → Prop}
    (hok : ∀ u : EngineState, u.engine = s.engine → Stage supply published (n + 1) u →
      Saved s.tables u.tables kind identity data → Q () u) :
    (saveRecord kind identity data runId).Meets (fun _ => True) Q E s := by
  have hdraw : s.draws 0 = supply n := by rw [h.draws, rest, Nat.add_zero]
  obtain ⟨t', version, hsave, hevents⟩ := exists_save h.stored (hsupply.ready hn h.drawn) hvalid
    hidentity hkept "research_supervisor" (by rfl) runId hrun
  have hsaved := save_ok hsave
  refine Stretch.meets_save (fun s' a hs' => ?_) fun e he => ?_
  · rw [hdraw, hsave] at hs'
    simp only [ok_bind, pure_eq_ok, Prod.mk.injEq] at hs'
    obtain ⟨rfl, -⟩ := hs'
    obtain ⟨hlog, row, hrows, htype, -⟩ := hsaved.exists_row h.log
    refine ⟨trivial, hok _ rfl ⟨⟨hsaved.researchStored h.stored, hlog, h.drawn.succ hevents, ?_⟩,
      ?_⟩ hsaved⟩
    · rw [hrows, List.filter_append, h.published]
      simp [htype]
    funext i
    show s.draws (i + 1) = supply (n + 1 + i)
    rw [h.draws, rest]
    congr 1
    omega
  · rw [hdraw, hsave] at he
    cases he

/-! ## Records that keep their target -/

omit [CharacterDatabase] in
lemma eq_str_of_text {limit : ℕ} {empty : Bool} {v : Option JsonValue}
    (h : text limit empty v = true) : v = some (.str (strOf v)) := by
  unfold text at h
  split at h
  · rfl
  · cases h

omit [CharacterDatabase] in
lemma eq_textList_of_texts {v : Option JsonValue} (h : texts v = true) :
    v = some (textList (strsOf v)) := by
  unfold texts at h
  split at h
  · rename_i items
    rw [Bool.and_eq_true, List.all_eq_true] at h
    obtain ⟨-, hitems⟩ := h
    congr 1
    show JsonValue.list items = .list _
    congr 1
    unfold strsOf
    clear *- hitems
    induction items with
    | nil => rfl
    | cons item items ih =>
      have hitem := eq_str_of_text (hitems item List.mem_cons_self)
      cases item with
      | str text =>
        have hrest := ih fun i hi => hitems i (List.mem_cons_of_mem _ hi)
        simpa [str?] using hrest
      | _ => cases hitem
  · cases h

/-- The fields of a valid task that are texts, and those that are lists of texts. -/
lemma fields_of_validTask {data : JsonObject} (h : validTask (withoutTimes data) = true) :
    (∀ field ∈ ["statement", "author", "target_hash"],
      getEntry field data = some (.str (strOf (getEntry field data)))) ∧
    ∀ field ∈ ["imports", "depends_on", "source_refs"],
      getEntry field data = some (textList (strsOf (getEntry field data))) := by
  have hread : ∀ field ∈ ["statement", "author", "target_hash", "imports", "depends_on",
      "source_refs"], getEntry field (withoutTimes data) = getEntry field data := by
    intro field hfield
    rw [getEntry_withoutTimes, if_neg]
    revert hfield field
    decide
  simp only [validTask, Bool.and_eq_true, beq_iff_eq] at h
  obtain ⟨⟨⟨⟨⟨⟨⟨⟨⟨⟨⟨⟨⟨⟨⟨⟨⟨⟨-, -⟩, hstatement⟩, -⟩, -⟩, hauthor⟩, himports⟩, -⟩, hdepends⟩, hsources⟩, -⟩, -⟩,
    -⟩, -⟩, -⟩, -⟩, -⟩, -⟩, htarget⟩ := h
  rw [hread "statement" (by decide)] at hstatement
  rw [hread "author" (by decide)] at hauthor
  rw [hread "imports" (by decide)] at himports
  rw [hread "depends_on" (by decide)] at hdepends
  rw [hread "source_refs" (by decide)] at hsources
  rw [hread "target_hash" (by decide), str?_eq_some] at htarget
  refine ⟨?_, ?_⟩
  · simp only [List.forall_mem_cons]
    exact ⟨eq_str_of_text hstatement, eq_str_of_text hauthor, by rw [htarget]; rfl,
      fun _ hfield => absurd hfield List.not_mem_nil⟩
  · simp only [List.forall_mem_cons]
    exact ⟨eq_textList_of_texts himports, eq_textList_of_texts hdepends,
      eq_textList_of_texts hsources, fun _ hfield => absurd hfield List.not_mem_nil⟩

/-- A task that keeps the fields of the stored one keeps its target. -/
lemma ResearchStored.keepsTarget_of_keeps {t : Tables} (h : ResearchStored t) {task task' : Task}
    (htask : taskAt t task.taskId = some task) (hkeeps : task.Keeps task') {old : JsonObject}
    (hold : recordAt t "task" task.taskId = some old) : keepsTarget task'.data old = true := by
  obtain ⟨data, hdata, hof⟩ := taskAt_eq_some.1 htask
  obtain rfl := Option.some.inj (hold.symm.trans hdata)
  obtain ⟨htexts, hlists⟩ := fields_of_validTask (h.valid (by decide) hold).2.1
  have hfields : strOf (getEntry "statement" old) = task'.statement ∧
      strsOf (getEntry "imports" old) = task'.imports ∧
      strsOf (getEntry "depends_on" old) = task'.dependsOn ∧
      strsOf (getEntry "source_refs" old) = task'.sourceRefs ∧
      strOf (getEntry "author" old) = task'.author ∧
      strOf (getEntry "target_hash" old) = task'.targetHash := by
    rw [hkeeps.statement, hkeeps.imports, hkeeps.dependsOn, hkeeps.sourceRefs, hkeeps.author,
      hkeeps.targetHash, ← hof]
    exact ⟨rfl, rfl, rfl, rfl, rfl, rfl⟩
  obtain ⟨hstatement, himports, hdepends, hsources, hauthor, htarget⟩ := hfields
  simp only [keepsTarget, immutableFields, List.all_cons, List.all_nil, Bool.and_eq_true,
    beq_iff_eq, Bool.and_true]
  refine ⟨?_, ?_, ?_, ?_, ?_, ?_⟩
  · rw [htexts _ (by decide), hstatement]
    rfl
  · rw [hlists _ (by decide), himports]
    rfl
  · rw [hlists _ (by decide), hdepends]
    rfl
  · rw [hlists _ (by decide), hsources]
    rfl
  · rw [htexts _ (by decide), hauthor]
    rfl
  · rw [htexts _ (by decide), htarget]
    rfl

/-! ## A project with one task -/

/-- One task, at most one attempt of it, and an empty inbox. -/
structure Single (t : Tables) (task : Task) (attempt : Option Attempt) : Prop where
  tasks : ∀ id, taskAt t id = if id = task.taskId then some task else none
  attempts : ∀ id, attemptAt t id = attempt.filter fun a => a.id = id
  inbox : ∀ id, recordAt t "inbox" id = none

namespace Single

variable {t t' : Tables} {task task' : Task} {attempt : Option Attempt} {attempt' : Attempt}

omit [CharacterDatabase] in
lemma task_eq (h : Single t task attempt) : taskAt t task.taskId = some task := by
  rw [h.tasks, if_pos rfl]

lemma savedTask (h : Single t task attempt) (task' : Task) (hid : task'.taskId = task.taskId)
    (hsaved : Saved t t' "task" task'.taskId task'.data) : Single t' task' attempt where
  tasks := by
    intro id
    rw [hsaved.taskAt_eq, Task.ofData_data]
    by_cases hsame : id = task'.taskId
    · rw [hsame, Function.update_self, if_pos rfl]
    · have hother : id ≠ task.taskId := fun heq => hsame (heq.trans hid.symm)
      rw [Function.update_of_ne hsame, h.tasks, if_neg hsame, if_neg hother]
  attempts := by
    rw [hsaved.attemptAt_of_ne (by decide)]
    exact h.attempts
  inbox := by
    intro id
    rw [hsaved.recordAt_of_ne (by decide) fun hsame => absurd hsame.1 (by decide)]
    exact h.inbox id

lemma savedAttempt (h : Single t task attempt) (attempt' : Attempt)
    (hnew : ∀ a, attempt = some a → a.id = attempt'.id)
    (hsaved : Saved t t' "attempt" attempt'.id attempt'.data) : Single t' task (some attempt') where
  tasks := by
    rw [hsaved.taskAt_of_ne (by decide)]
    exact h.tasks
  attempts := by
    intro id
    rw [hsaved.attemptAt_eq, Attempt.ofData_data]
    by_cases hsame : id = attempt'.id
    · rw [hsame, Function.update_self]
      simp [Option.filter]
    · rw [Function.update_of_ne hsame, h.attempts]
      cases attempt with
      | none => simp [Option.filter, Ne.symm hsame]
      | some a => simp [Option.filter, hnew a rfl, Ne.symm hsame]
  inbox := by
    intro id
    rw [hsaved.recordAt_of_ne (by decide) fun hsame => absurd hsame.1 (by decide)]
    exact h.inbox id

lemma savedOther (h : Single t task attempt) {kind identity : String} {data : JsonObject}
    (hkind : kind ≠ "task" ∧ kind ≠ "attempt" ∧ kind ≠ "inbox")
    (hsaved : Saved t t' kind identity data) : Single t' task attempt where
  tasks := by
    rw [hsaved.taskAt_of_ne hkind.1]
    exact h.tasks
  attempts := by
    rw [hsaved.attemptAt_of_ne hkind.2.1]
    exact h.attempts
  inbox := by
    intro id
    rw [hsaved.recordAt_of_ne (by decide) fun hsame => hkind.2.2 hsame.1.symm]
    exact h.inbox id

lemma unrelated (h : Single t task attempt) (hother : Unrelated t t') :
    Single t' task attempt where
  tasks := by
    rw [hother.taskAt_eq]
    exact h.tasks
  attempts := by
    rw [hother.attemptAt_eq]
    exact h.attempts
  inbox := by
    rw [hother.recordAt_eq]
    exact h.inbox

/-- The task is the only one. -/
lemma taskRecords_eq (h : Single t task attempt) (hs : ResearchStored t) :
    taskRecords t = .ok [task] := by
  obtain ⟨tasks, htasks, hnodup, hmem⟩ := hs.exists_taskRecords
  have hsingle : tasks.Perm [task] := by
    refine (List.perm_ext_iff_of_nodup (.of_map _ hnodup) (List.nodup_singleton _)).2 fun a => ?_
    rw [hmem, List.mem_singleton, h.tasks]
    constructor
    · intro ha
      by_cases hid : a.taskId = task.taskId
      · rw [if_pos hid] at ha
        exact (Option.some.inj ha).symm
      · rw [if_neg hid] at ha
        cases ha
    · rintro rfl
      exact if_pos rfl
  rw [htasks, List.perm_singleton.1 hsingle]

/-- A task that may be attempted and depends on nothing is the frontier. -/
lemma frontier_eq (h : Single t task attempt) (hs : ResearchStored t)
    (hopen : task.status = .pending ∧ task.rounds < task.maxRounds ∧
      task.failures < task.maxFailures ∧ task.paused = false) (hdepends : task.dependsOn = []) :
    frontier t = .ok [task] := by
  have heligible : eligible [task] task = .ok true := by
    rw [eligible, if_pos hopen, hdepends]
    rfl
  simp only [frontier, h.taskRecords_eq hs, ok_bind, List.mapM_cons, List.mapM_nil, heligible]
  rfl

/-- The inbox is empty. -/
lemma inbox_eq (h : Single t task attempt) (hs : ResearchStored t) :
    records t "inbox" = .ok [] := by
  obtain ⟨ids, datas, hrecords, -, hsame, -⟩ :=
    hs.exists_records (show "inbox" ∈ kinds by decide)
  cases hsame with
  | nil => exact hrecords
  | @cons id _ _ _ hfirst _ =>
    rw [h.inbox id] at hfirst
    cases hfirst

end Single

/-! ## The first attempt -/

omit [CharacterDatabase] in
lemma meets_query_of {α : Type} {f : Tables → Except ResearchFailure α} {a : α}
    {I : EngineState → Prop} {Q : α → EngineState → Prop} (h : f s.tables = .ok a) (hok : Q a s) :
    (query f).Meets I Q E s := by
  refine Stretch.meets_read (fun b hb => ?_) fun e he => ?_
  · obtain rfl := Except.ok.inj (h.symm.trans hb)
    exact hok
  · cases h.symm.trans he

/-- Recovery leaves a project alone in which nothing was left running. -/
lemma meets_recover_of_settled (hs : ResearchStored s.tables)
    (hattempts : ∀ id a, attemptAt s.tables id = some a → a.status ≠ .running)
    (htasks : ∀ id task, taskAt s.tables id = some task → task.status ≠ .running)
    {Q : Unit → EngineState → Prop} (hok : Q () s) : recover.Meets (fun _ => True) Q E s := by
  obtain ⟨attempts, hread, -, hattempt⟩ := hs.exists_attemptRecords
  obtain ⟨tasks, hread', -, htask⟩ := hs.exists_taskRecords
  unfold recover
  refine (meets_query_of hread ?_).bind
  refine (meets_query_of hread' ?_).bind
  refine (Stretch.meets_forEach (fun _ u => u = s) (fun passed task rest hsplit u hu => ?_) rfl).mono
    (fun _ h => h) (fun _ u hu => hu ▸ hok) fun _ _ h => h
  subst hu
  have hmem : task ∈ tasks := by
    rw [hsplit]
    exact List.mem_append_right _ List.mem_cons_self
  unfold recoverTask
  split
  · rename_i attempt hlatest
    have hin := (List.mem_filter.1 (List.argmax_mem hlatest)).1
    rw [if_pos ⟨hattempts _ _ ((hattempt attempt).1 hin), htasks _ _ ((htask task).1 hmem)⟩]
    exact Stretch.meets_pure rfl
  · exact Stretch.meets_pure rfl

/-- The task after its first attempt has begun. -/
def Task.begun (task : Task) : Task :=
  { task with status := .running, rounds := task.rounds + 1 }

/-- **The first attempt begins.** -/
lemma Stage.meets_beginAttempt (h : Stage supply published n s) (hsupply : Supply supply size)
    (hn : n + 1 < size) {task : Task} {attempt : Attempt} (hsingle : Single s.tables task none)
    (hattempt : attempt = newAttempt s.engine.config task ("attempt-" ++ s.engine.tokens 0)
      ("worker-" ++ s.engine.tokens 1) []) (hrun : s.engine.config.runId ≠ "")
    (hvalid : validRecord (recordPayload (recordId "attempt" attempt.id) "attempt"
      attempt.data) = true)
    (hvalid' : validRecord (recordPayload (recordId "task" task.taskId) "task"
      task.begun.data) = true) {Q : Attempt → EngineState → Prop}
    (hok : ∀ u : EngineState,
      u.engine = { s.engine with tokens := fun i => s.engine.tokens (i + 2) } →
      Stage supply published (n + 2) u → Single u.tables task.begun (some attempt) → Q attempt u) :
    (beginAttempt task).Meets (fun _ => True) Q E s := by
  have hrun' : some s.engine.config.runId ≠ some "" := fun hsame => hrun (Option.some.inj hsame)
  unfold beginAttempt
  refine (meets_self ?_).bind
  refine (meets_drawToken ?_).bind
  refine (meets_drawToken ?_).bind
  refine (meets_query_of (hsingle.inbox_eq h.stored) ?_).bind
  dsimp only [inboxFor, List.filter_nil]
  generalize hmade : newAttempt _ _ _ _ _ = made
  obtain rfl : attempt = made := hattempt.trans hmade
  have hid : "attempt-" ++ s.engine.tokens 0 = attempt.id := by
    rw [hattempt]
    rfl
  rw [hid]
  have hstage : ∀ engine, Stage supply published n ⟨s.tables, engine, s.draws⟩ :=
    fun _ => ⟨h.toStocked, h.draws⟩
  refine (Stage.meets_saveRecord (hstage _) hsupply (by omega) hvalid (by rfl) nofun hrun'
    fun u hengine hu hsaved => ?_).bind
  have hfirst := hsingle.savedAttempt _ nofun hsaved
  refine (hu.meets_saveRecord hsupply hn hvalid' (by rfl) (fun _ old hold => ?_) hrun'
    fun v hengine' hv hsaved' => ?_).bind
  · exact hu.stored.keepsTarget_of_keeps hfirst.task_eq ⟨rfl, rfl, rfl, rfl, rfl, rfl, rfl, rfl⟩ hold
  · refine Stretch.Meets.bind ?_
    refine Stretch.meets_pure ?_
    refine Stretch.meets_pure ?_
    exact hok v (hengine'.trans hengine) hv (hfirst.savedTask _ rfl hsaved')

/-- What an engine of one worker needs to begin the first attempt of the task. -/
structure Startable (s : EngineState) (task : Task) (attempt : Attempt) : Prop where
  single : Single s.tables task none
  free : task.status = .pending ∧ task.rounds < task.maxRounds ∧
    task.failures < task.maxFailures ∧ task.paused = false
  independent : task.dependsOn = []
  engine : s.engine.config.workers = 1 ∧ s.engine.config.controllerVersion = none ∧
    s.engine.config.runId ≠ "" ∧ s.engine.stop = false ∧ s.engine.active = []
  named : attempt = newAttempt s.engine.config task ("attempt-" ++ s.engine.tokens 0)
    ("worker-" ++ s.engine.tokens 1) []
  run : validRecord (recordPayload (recordId "run" s.engine.config.runId) "run"
    (runData s.engine.config "running" "" "")) = true
  validAttempt : validRecord (recordPayload (recordId "attempt" attempt.id) "attempt"
    attempt.data) = true
  validTask : validRecord (recordPayload (recordId "task" task.taskId) "task"
    task.begun.data) = true

/-- The engine that awaits its first attempt. -/
def Engine.began (engine : Engine) (task : Task) (attempt : Attempt) : Engine :=
  { engine with
    tokens := fun i => engine.tokens (i + 2)
    active := [⟨task, attempt, .created, false⟩]
    phase := .waiting }

/-- **A start begins the first attempt.** -/
lemma Stage.startRun_begins (h : Stage supply published n s) (hsupply : Supply supply size)
    (hn : n + 2 < size) {task : Task} {attempt : Attempt} (hstart : Startable s task attempt) :
    startRun.Meets (fun _ => True)
      (fun _ u => u.engine = s.engine.began task attempt ∧ Stage supply published (n + 3) u ∧
        Single u.tables task.begun (some attempt)) (fun _ _ => False) s := by
  obtain ⟨hworkers, hversion, hrun, hstop, hactive⟩ := hstart.engine
  have hrun' : some s.engine.config.runId ≠ some "" := fun hsame => hrun (Option.some.inj hsame)
  unfold startRun
  refine (meets_self ?_).bind
  refine Stretch.Meets.bind ?_
  refine Stretch.Meets.tryCatch ?_
  refine (h.meets_saveRecord hsupply (by omega) hstart.run (by rfl) nofun hrun'
    fun u hengine hu hsaved => ?_).bind
  have hsingle := hstart.single.savedOther (by decide) hsaved
  refine Stretch.Meets.bind ?_
  refine meets_recover_of_settled hu.stored (fun id a ha => ?_) (fun id other hother => ?_) ?_
  · rw [hsingle.attempts] at ha
    cases ha
  · rw [hsingle.tasks] at hother
    split at hother
    · obtain rfl := Option.some.inj hother
      rw [hstart.free.1]
      decide
    · cases hother
  refine Stretch.meets_pure ?_
  unfold guarded
  refine Stretch.Meets.bind ?_
  refine Stretch.Meets.tryCatch ?_
  unfold turn
  refine (meets_self ?_).bind
  rw [hengine, if_neg (by rw [hstop]; decide)]
  refine (meets_query_of (a := ()) (by rw [validateControl, hversion]; rfl) ?_).bind
  rw [hworkers, hactive]
  refine Stretch.Meets.bind ?_
  show (fill 1).Meets _ _ _ _
  unfold fill
  refine (meets_query_of (hsingle.frontier_eq hu.stored hstart.free hstart.independent) ?_).bind
  refine (hu.meets_beginAttempt hsupply (by omega) hsingle (by rw [hengine]; exact hstart.named)
    (by rw [hengine]; exact hrun) hstart.validAttempt hstart.validTask
    fun v hengine' hv hbegun => ?_).bind
  refine (meets_modifyEngine ?_).bind
  unfold fill
  refine Stretch.meets_pure ?_
  refine (meets_self ?_).bind
  rw [if_neg (by simp)]
  refine Stretch.meets_pure ?_
  refine meets_modifyEngine ⟨?_, ⟨hv.toStocked, hv.draws⟩, hbegun⟩
  rw [hengine', hengine, hactive]
  rfl

/-! ## The end of an attempt -/

/-- What `_finish` needs to end the attempt. -/
structure Endable (t : Tables) (task : Task) (attempt : Attempt) (result : AttemptResult)
    (interrupted : Bool) (accepted : List String) : Prop where
  single : Single t task (some attempt)
  ofTask : attempt.taskId = task.taskId ∧ attempt.targetHash = task.targetHash
  verified : verifiedForWorker t attempt.runId attempt.workerId = .ok accepted
  trusted : ∀ id ∈ result.declarationIds, id ∈ accepted
  run : attempt.runId ≠ ""
  validAttempt : validRecord (recordPayload (recordId "attempt" attempt.id) "attempt"
    (attempt.finished result accepted interrupted).data) = true
  validTask : validRecord (recordPayload (recordId "task" task.taskId) "task"
    (task.finished result accepted interrupted).data) = true
  validMemory : validRecord (recordPayload (recordId "memory" (memoryId attempt.id)) "memory"
    (memoryData attempt (keptFeedback result.feedback) accepted)) = true

/-- **The end of the attempt is saved.** -/
lemma Stage.finishAttempt_ends (h : Stage supply published n s) (hsupply : Supply supply size)
    (hn : n + 2 < size) {task : Task} {attempt : Attempt} {result : AttemptResult}
    {interrupted : Bool} {accepted : List String}
    (hend : Endable s.tables task attempt result interrupted accepted)
    {Q : Unit → EngineState → Prop}
    (hok : ∀ (m : ℕ) (u : EngineState), m ≤ 3 → u.engine = s.engine → Stage supply published (n + m) u →
      Single u.tables (task.finished result accepted interrupted)
        (some (attempt.finished result accepted interrupted)) → Q () u) :
    (finishAttempt attempt result interrupted).Meets (fun _ => True) Q E s := by
  obtain ⟨htask, htarget⟩ := hend.ofTask
  have hrun : some attempt.runId ≠ some "" := fun hsame => hend.run (Option.some.inj hsame)
  have hfound : taskAt s.tables attempt.taskId = some task := by
    rw [htask]
    exact hend.single.task_eq
  unfold finishAttempt
  refine (meets_query_of (h.stored.requireTask_eq hfound) ?_).bind
  refine (meets_query_of (a := accepted) ?_ ?_).bind
  · rw [require_of htarget.symm, ok_bind, hend.verified, ok_bind, require_of hend.trusted]
    rfl
  refine (h.meets_saveRecord hsupply (by omega) hend.validAttempt (by rfl) nofun hrun
    fun u hengine hu hsaved => ?_).bind
  have hfirst := hend.single.savedAttempt (attempt.finished result accepted interrupted)
    (fun a ha => by rw [← Option.some.inj ha]; rfl) hsaved
  rw [htask]
  refine (hu.meets_saveRecord hsupply (by omega) hend.validTask (by rfl) (fun _ old hold => ?_) hrun
    fun v hengine' hv hsaved' => ?_).bind
  · exact hu.stored.keepsTarget_of_keeps hfirst.task_eq (task_keeps_finished ..) hold
  have hsecond := hfirst.savedTask (task.finished result accepted interrupted) rfl hsaved'
  have hkey : recordKey "memory" (memoryId attempt.id) =
      .ok (recordId "memory" (memoryId attempt.id)) := by
    obtain ⟨hkind, -, identity, hname, hidentifier, -⟩ := of_validRecord hend.validMemory
    cases hname
    exact recordKey_of hkind hidentifier
  refine (meets_query_of (hv.stored.get_eq hkey) ?_).bind
  split
  · refine hv.meets_saveRecord hsupply (by omega) hend.validMemory (by rfl) nofun hrun
      fun w hengine'' hw hsaved'' => ?_
    exact hok 3 w le_rfl (hengine''.trans (hengine'.trans hengine)) hw
      (hsecond.savedOther (by decide) hsaved'')
  · exact Stretch.meets_pure (hok 2 v (by omega) (hengine'.trans hengine) hv hsecond)

/-- **The answer of the executor ends the attempt.** -/
lemma Stage.settleAttempt_ends (h : Stage supply published n s) (hsupply : Supply supply size)
    (hn : n + 2 < size) {task : Task} {attempt : Attempt} (execution : Execution)
    {accepted : List String} (hend : Endable s.tables task attempt execution.result
      execution.isCancelled accepted) :
    (settleAttempt attempt execution).Meets (fun _ => True)
      (fun _ u => ∃ m ≤ 3, Stage supply published (n + m) u ∧
        Single u.tables (task.finished execution.result accepted execution.isCancelled)
          (some (attempt.finished execution.result accepted execution.isCancelled)))
      (fun _ _ => False) s := by
  unfold settleAttempt
  refine Stretch.Meets.bind ?_
  refine Stretch.Meets.tryCatch ?_
  refine (h.finishAttempt_ends hsupply hn hend fun m u hm hengine hu hsingle => ?_).bind
  refine Stretch.meets_pure ?_
  exact meets_modifyEngine ⟨m, hm, ⟨hu.toStocked, hu.draws⟩, hsingle⟩

/-! ## Published work -/

/-- An event that is appended by the service. -/
lemma Stocked.appendEvent {t : Tables} (h : Stocked supply published n t)
    (hsupply : Supply supply size) (hn : n < size) (hqueue : (ids t.publicationQueue).Nodup)
    (command : AppendEventCommand) (type : EventType) (htype : command.eventType = type.text)
    (hplain : (type.isOrchestration = false ∧ isLeaseTerminal type = false) ∧
      type ≠ .artifactRegistered ∧ type ≠ .researchRecordUpdated ∧
      type ≠ .environmentTransitionApproved)
    (hcommand : command.actor ≠ "" ∧ command.runId ≠ some "" ∧ command.causationId ≠ some "")
    (hpayload : validatePayload type command.payload = .ok ()) :
    ∃ u row, (StateOp.appendEvent (supply n).stamp command).exec t = u ∧ Unrelated t u ∧
      u.events = t.events ++ [row] ∧ row.eventType = type ∧ row.runId = command.runId ∧
      (∀ field, row.field? field = (getEntry field command.payload).map canonical) ∧
      Stocked supply (published ++ if type = .declarationPublished then [row] else []) (n + 1) u := by
  obtain ⟨u, hexec⟩ : ∃ u, (StateOp.appendEvent (supply n).stamp command).exec t = u := ⟨_, rfl⟩
  obtain ⟨⟨horchestration, hlease⟩, hartifact, hresearch, happroval⟩ := hplain
  obtain ⟨hactor, hrun, hcause⟩ := hcommand
  have hdraw := hsupply.ready hn h.drawn
  obtain ⟨event, hevent⟩ := exists_makeEvent hdraw.ulid hactor hrun hcause htype hpayload
  obtain ⟨hid, hof, -, -, hrunId, -, hfields⟩ := makeEvent_ok hevent
  have hof : event.eventType = type := EventType.text_injective (hof.trans htype)
  obtain ⟨t', record, happend⟩ : ∃ t' record, append t event = .ok (t', record) := exists_append
    (by rw [hid]; exact hdraw.new) (by rw [hof]; exact horchestration)
    (by rw [hof]; exact hlease) (by rw [hof]; exact hartifact)
  have hname : command.eventType ≠ "EnvironmentTransitionApproved" := by
    rw [htype]
    exact fun hsame => happroval (EventType.text_injective hsame)
  have hu : u = t' := by
    have hdone : State.appendEvent t (supply n).stamp command = .ok (t', record) := by
      rw [State.appendEvent, require_of hname, ok_bind, hevent, ok_bind, happend]
    rw [← hexec]
    simp only [StateOp.exec, StateOp.run, hdone]
    rfl
  have hother : Unrelated t u := by
    rw [← hexec]
    refine unrelated_exec h.log hqueue fun hmem => ?_
    rw [StateOp.eventTypes, htype, EventType.ofText?_text] at hmem
    exact hresearch (List.mem_singleton.1 hmem).symm
  obtain ⟨record', hlog⟩ := (append_ok happend).1.of_singleton
  obtain ⟨hlog', row, hrow, -, hevents⟩ := rows_of_append h.log hlog
  have hstamp : row.eventId = (supply n).stamp.eventId := by
    rw [show row = _ from hrow, ← hid]
    rfl
  have hrowType : row.eventType = type := hrow.eventType.trans hof
  have hevents : u.events = t.events ++ [row] := by rw [hu, hevents]
  refine ⟨u, row, hexec, hother, hevents, hrowType, ?_, fun field => ?_,
    hother.researchStored h.stored, hu ▸ hlog', h.drawn.succ ?_, ?_⟩
  · rw [show row = _ from hrow, ← hrunId]
    rfl
  · rw [hrow.field?, hfields]
  · rw [hevents, List.map_append, List.map_singleton, hstamp]
  · rw [hevents, List.filter_append, h.published]
    by_cases hpublished : type = .declarationPublished
    · simp [hrowType, hpublished]
    · simp [hrowType, hpublished]

/-- `verified_for_worker` finds the declaration of each of its publications. -/
lemma Stocked.exists_verifiedForWorker {t : Tables} (h : Stocked supply published n t)
    (declarationId : String) (htext : text textLimit false (some (.str declarationId)) = true)
    (hpublished : ∀ row ∈ published, row.field? "declaration_id" = some (.str declarationId))
    (runId workerId : String) :
    ∃ k ≤ published.length,
      verifiedForWorker t runId workerId = .ok (List.replicate k declarationId) := by
  obtain ⟨records, hrecords, hrows⟩ := exists_queryEvents h.log runId
  have hcount : (records.filter fun record =>
      record.envelope.eventType = .declarationPublished).length ≤ published.length := by
    have hsame : (records.filter fun record =>
        record.envelope.eventType = .declarationPublished).length =
        ((t.events.filter fun row => row.runId == some runId).filter fun row =>
          row.eventType = .declarationPublished).length := by
      clear hrecords
      generalize t.events.filter (fun row => row.runId == some runId) = rows at hrows
      induction hrows with
      | nil => rfl
      | cons hfirst _ ih =>
        rw [List.filter_cons, List.filter_cons, hfirst.1]
        split <;> simp [ih]
    rw [hsame, List.filter_comm, ← h.published]
    exact List.length_filter_le _ _
  simp only [verifiedForWorker, hrecords, Except.mapError, ok_bind]
  generalize hfound : records.filter _ = found
  refine ⟨found.length, ?_, ?_⟩
  · refine le_trans ?_ hcount
    rw [← hfound]
    refine (List.monotone_filter_right _ fun record hrecord => ?_).length_le
    simp only [Bool.and_eq_true, beq_iff_eq] at hrecord
    simpa using hrecord.1
  · have hfields : ∀ record ∈ found,
        getEntry "declaration_id" record.envelope.payload = some (.str declarationId) := by
      intro record hrecord
      rw [← hfound, List.mem_filter, Bool.and_eq_true, beq_iff_eq] at hrecord
      obtain ⟨row, hrow, htype, hfield⟩ := exists_of_forall₂ hrows hrecord.1
      rw [hfield]
      refine hpublished row ?_
      rw [← h.published, List.mem_filter]
      exact ⟨(List.mem_filter.1 hrow).1, by simpa using htype.symm.trans hrecord.2.1⟩
    clear hfound hcount
    induction found with
    | nil => rfl
    | cons record found ih =>
      rw [List.mapM_cons, hfields record List.mem_cons_self,
        ih fun r hr => hfields r (List.mem_cons_of_mem _ hr)]
      simp only [orThrow, ok_bind, checkText, require_of htext, str?]
      rfl

end Success

/-! ## A sample project -/

attribute [local instance] asciiDatabase

/-- The draws of the sample: their event ids end in different digits. -/
def sampleSupply (n : ℕ) : Draw where
  stamp := ⟨"01ARZ3NDEKTSV4RRFFQ69G5FA" ++ String.ofList [Char.ofNat (48 + n)],
    ⟨2026, 1, 1, 12, 0, 0, 0, datetimeValid_noon⟩⟩
  now := "2026-01-01T12:00:00+00:00"

lemma supply_sample : Supply sampleSupply 9 where
  ulid := by decide +kernel
  time := by decide +kernel
  distinct := by decide +kernel

/-- The body of the request that adds the task of the sample. -/
def sampleBody : JsonObject :=
  [("task_id", .str "task-a"), ("title", .str "t"), ("statement", .str "True"),
   ("author", .str "o"), ("imports", .list []), ("depends_on", .list []), ("source_refs", .list []),
   ("max_rounds", .int 2), ("max_failures", .int 2), ("timeout_seconds", .int 60)]

/-- The request. -/
def sampleRequest : JsonObject := [("action", .str "task.add"), ("body", .dict sampleBody)]

/-- The task that it adds. -/
def sampleTask : Task :=
  ⟨"task-a", "t", "True", "o", [], [], [], 2, 2, 60, .pending, 0, 0,
    "ebbcf9bf55ae63853bd09a42bb7ef1136b8848b6b8574bfbf866ab21d5c03528", "", [], false⟩

/-- The fields that are added to it. -/
def sampleFields (targetHash : String) : JsonObject :=
  [("status", .str "pending"), ("rounds", .int 0), ("failures", .int 0),
   ("target_hash", .str targetHash), ("feedback", .str ""), ("verified_declarations", .list []),
   ("paused", .bool false)]

/-- The record that is saved. -/
def sampleData : JsonObject := update sampleBody (sampleFields sampleTask.targetHash)

lemma taskHash_sampleBody : taskHash sampleBody = sampleTask.targetHash := by decide +kernel

lemma ofData_sampleData : Task.ofData sampleData = sampleTask := by rfl

lemma defineTask_sample : defineTask initialTables (sampleSupply 0) sampleBody =
    save initialTables (sampleSupply 0) "task" "task-a" sampleData "o" none := by
  have hid : getEntry "task_id" sampleBody = some (.str "task-a") := rfl
  have hauthor : getEntry "author" sampleBody = some (.str "o") := rfl
  have hdepends : getEntry "depends_on" sampleBody = some (.list []) := rfl
  have hcheck : checkIdentifier (some (.str "task-a")) = .ok "task-a" :=
    checkIdentifier_of (by rfl)
  have htext : checkText textLimit false (some (.str "o")) = .ok "o" := by
    rw [checkText, require_of (by rfl)]
    rfl
  have hget : get initialTables "task" "task-a" = .ok none := by
    rw [get, recordKey_of (by decide) (by rfl)]
    rfl
  have htexts : checkTexts (some (.list [])) = .ok [] := rfl
  rw [defineTask, require_of (by decide), ok_bind, hid, hcheck, ok_bind, hget, ok_bind,
    require_of (by decide), ok_bind, hdepends, htexts, ok_bind, require_of (by decide), ok_bind,
    List.mapM_nil, pure_bind, hauthor, htext, taskHash_sampleBody]
  show (Except.ok "o" >>= fun author =>
    save initialTables (sampleSupply 0) "task" "task-a" sampleData author none) = _
  rw [ok_bind]

lemma length_encode_canonicalJson (v : JsonValue) :
    (encode (canonicalJson v)).length = ((dumps v.canonical).flatMap utf8Char).length := by
  rw [encode, canonicalJson, String.toList_ofList]

/-- The checks of a record that are left to evaluate. -/
lemma validRecord_of {kind identity : String} {data : JsonObject}
    (hidentity : getEntry (identityField kind) data = some (.str identity))
    (hchecks : (text textLimit false (some (.str kind)) && validTime (getEntry "created_at" data) &&
      validTime (getEntry "updated_at" data) && identifier (some (.str identity)) &&
      kinds.contains kind && validData kind (withoutTimes data)) = true)
    (hlength : ((dumps (dict (withoutTimes data)).canonical).flatMap utf8Char).length ≤ 262144) :
    validRecord (recordPayload (recordId kind identity) kind data) = true := by
  simp only [Bool.and_eq_true] at hchecks
  obtain ⟨⟨⟨⟨⟨hkind, hcreated⟩, hupdated⟩, hname⟩, hmember⟩, hdata⟩ := hchecks
  rw [validRecord_iff, hidentity, length_encode_canonicalJson]
  exact ⟨hkind, ⟨⟨⟨⟨⟨hcreated, hupdated⟩, hname⟩, hmember⟩, by simp [str?]⟩, hlength⟩, hdata⟩

/-- The configuration of the engine of the sample. -/
def sampleConfig : EngineConfig := ⟨"run-a", "m", "c", "p", "t", 1, none, false, by decide⟩

/-- Its tokens. -/
def sampleTokens (n : ℕ) : String := String.ofList (List.replicate (n + 1) 'a')

/-- Its first attempt. -/
def sampleAttempt : Attempt := newAttempt sampleConfig sampleTask "attempt-a" "worker-aa" []

/-- The answer to a round that did not wait for its publication. -/
def lateResult : AttemptResult :=
  ⟨"Publication did not finish within the round deadline.", [], none, none⟩

/-- The answer to a round whose publication was seen. -/
def promptResult : AttemptResult := ⟨"Done.", [], none, none⟩

/-- The records of the sample pass their checks. -/
structure SampleRecords : Prop where
  added : validRecord (recordPayload (recordId "task" "task-a") "task" sampleData) = true
  run : validRecord (recordPayload (recordId "run" "run-a") "run"
    (runData sampleConfig "running" "" "")) = true
  attempt : validRecord (recordPayload (recordId "attempt" "attempt-a") "attempt"
    sampleAttempt.data) = true
  begun : validRecord (recordPayload (recordId "task" "task-a") "task" sampleTask.begun.data) = true
  verifiedAttempt : validRecord (recordPayload (recordId "attempt" "attempt-a") "attempt"
    (sampleAttempt.finished promptResult ["d"] false).data) = true
  verifiedTask : validRecord (recordPayload (recordId "task" "task-a") "task"
    (sampleTask.begun.finished promptResult ["d"] false).data) = true
  verifiedMemory : validRecord (recordPayload (recordId "memory" (memoryId "attempt-a")) "memory"
    (memoryData sampleAttempt (keptFeedback promptResult.feedback) ["d"])) = true
  lateAttempt : validRecord (recordPayload (recordId "attempt" "attempt-a") "attempt"
    (sampleAttempt.finished lateResult [] false).data) = true
  lateTask : validRecord (recordPayload (recordId "task" "task-a") "task"
    (sampleTask.begun.finished lateResult [] false).data) = true
  lateMemory : validRecord (recordPayload (recordId "memory" (memoryId "attempt-a")) "memory"
    (memoryData sampleAttempt (keptFeedback lateResult.feedback) [])) = true

lemma sampleRecords : SampleRecords where
  added := validRecord_of (by rfl) (by decide +kernel) (by decide +kernel)
  run := validRecord_of (by rfl) (by decide +kernel) (by decide +kernel)
  attempt := validRecord_of (by rfl) (by decide +kernel) (by decide +kernel)
  begun := validRecord_of (by rfl) (by decide +kernel) (by decide +kernel)
  verifiedAttempt := validRecord_of (by rfl) (by decide +kernel) (by decide +kernel)
  verifiedTask := validRecord_of (by rfl) (by decide +kernel) (by decide +kernel)
  verifiedMemory := validRecord_of (by rfl) (by decide +kernel) (by decide +kernel)
  lateAttempt := validRecord_of (by rfl) (by decide +kernel) (by decide +kernel)
  lateTask := validRecord_of (by rfl) (by decide +kernel) (by decide +kernel)
  lateMemory := validRecord_of (by rfl) (by decide +kernel) (by decide +kernel)

/-- The steps of the sample are admitted: a start without attempts, and whatever is no start. -/
structure AdmitsSample (admitted : ResearchWorld → ResearchAction → Prop) : Prop where
  start : ∀ w config tokens draws, (∀ id, attemptAt w.tables id = none) →
    admitted w (.start config tokens draws)
  other : ∀ w action, (∀ config tokens draws, action ≠ .start config tokens draws) →
    admitted w action

lemma admitsSample_true : AdmitsSample fun _ _ => True :=
  ⟨fun _ _ _ _ _ => trivial, fun _ _ _ => trivial⟩

section

variable {admitted : ResearchWorld → ResearchAction → Prop} (hadmits : AdmitsSample admitted)
include hadmits

/-- The project after the request. -/
lemma AdmitsSample.exists_added : ∃ t, (researchSystem.restrict admitted).Reachable ⟨t, none⟩ ∧
    Stocked sampleSupply [] 1 t ∧ Single t sampleTask none := by
  have hnone : ∀ kind id, recordAt initialTables kind id = none := fun _ _ => rfl
  have hstored : ResearchStored initialTables := nofun
  obtain ⟨t, version, hsave, hevents⟩ := exists_save hstored
    (supply_sample.ready (n := 0) (t := initialTables) (by decide) rfl) sampleRecords.added (by rfl)
    (fun _ old hold => absurd hold (by rw [hnone]; simp)) "o" (by rfl)
    none (by simp)
  have hsaved := save_ok hsave
  have hchange : operatorChange initialTables (sampleSupply 0) sampleRequest =
      .ok (t, version) := by
    have haction : getEntry "action" sampleRequest = some (.str "task.add") := rfl
    have hread : checkText textLimit false (some (.str "task.add")) = .ok "task.add" := by
      rw [checkText, require_of (by rfl)]
      rfl
    have hbody : checkObject (getEntry "body" sampleRequest) = .ok sampleBody := rfl
    rw [operatorChange, haction, hread, ok_bind, hbody, ok_bind, require_of (by decide), ok_bind,
      if_pos rfl, defineTask_sample, hsave]
  have hreach : (researchSystem.restrict admitted).Reachable ⟨t, none⟩ := by
    have hstep := ResearchStep.request (w := ⟨initialTables, none⟩) (sampleSupply 0) sampleRequest
    rw [hchange] at hstep
    exact .step (.of_initial rfl) ⟨hstep, hadmits.other _ _ (by simp)⟩
  obtain ⟨hlog, row, hrows, htype, -⟩ := hsaved.exists_row wellFormedLog_initial
  refine ⟨t, hreach, ⟨hsaved.researchStored hstored, hlog, hevents, ?_⟩, ?_, fun id => ?_, fun id => ?_⟩
  · rw [hrows, show initialTables.events = [] from rfl]
    simp [htype]
  · intro id
    rw [hsaved.taskAt_eq, ofData_sampleData]
    by_cases hid : id = "task-a"
    · rw [hid, Function.update_self]
      rfl
    · rw [Function.update_of_ne hid, if_neg (show id ≠ sampleTask.taskId from hid)]
      rfl
  · rw [hsaved.attemptAt_of_ne (by decide)]
    rfl
  · rw [hsaved.recordAt_of_ne (by decide) fun hsame => absurd hsame.1 (by decide)]
    rfl

end

/-- The engine after the start. -/
def sampleEngine : Engine := (Engine.initial sampleConfig sampleTokens).began sampleTask sampleAttempt

lemma sampleTokens_injective : Function.Injective sampleTokens := by
  intro m n hsame
  have hlength := congrArg (fun s => s.toList.length) hsame
  simp only [sampleTokens, String.toList_ofList, List.length_replicate] at hlength
  omega

/-- The engine while the attempt is executed. -/
def sampleExecuting : Engine :=
  { sampleEngine with active := [⟨sampleTask, sampleAttempt, .executing, false⟩] }

section

variable {admitted : ResearchWorld → ResearchAction → Prop} (hadmits : AdmitsSample admitted)
include hadmits

/-- The start begins the first attempt. -/
lemma AdmitsSample.exists_begun :
    ∃ t, (researchSystem.restrict admitted).Reachable ⟨t, some sampleEngine⟩ ∧
      Stocked sampleSupply [] 4 t ∧ Single t sampleTask.begun (some sampleAttempt) := by
  obtain ⟨t, hreach, hstocked, hsingle⟩ := hadmits.exists_added
  have hfresh : FreshTokens t sampleTokens := by
    refine ⟨sampleTokens_injective, fun n => ?_⟩
    rw [hsingle.attempts]
    rfl
  have hnamed : sampleAttempt = newAttempt sampleConfig sampleTask ("attempt-" ++ sampleTokens 0)
      ("worker-" ++ sampleTokens 1) [] := by rfl
  have hstart : Startable ⟨t, .initial sampleConfig sampleTokens, rest sampleSupply 1⟩ sampleTask
      sampleAttempt :=
    { single := hsingle
      free := by decide
      independent := rfl
      engine := ⟨rfl, rfl, show "run-a" ≠ "" by decide, rfl, rfl⟩
      named := hnamed
      run := sampleRecords.run
      validAttempt := sampleRecords.attempt
      validTask := sampleRecords.begun }
  have hmeets := Stage.startRun_begins ⟨hstocked, rfl⟩ supply_sample (by decide) hstart
  have hleaves : Leaves startRun ⟨t, .initial sampleConfig sampleTokens, rest sampleSupply 1⟩ _ :=
    .done
  have hstep := ResearchStep.start hfresh hleaves
  cases hresult : (startRun ⟨t, .initial sampleConfig sampleTokens, rest sampleSupply 1⟩).result with
  | error e => exact (hmeets.error hresult).elim
  | ok _ =>
    obtain ⟨hengine, hstage, hbegun⟩ := hmeets.ok hresult
    rw [hengine] at hstep
    have hnone : ∀ id, attemptAt t id = none := fun id => by rw [hsingle.attempts]; rfl
    exact ⟨_, .step hreach ⟨hstep, hadmits.start _ _ _ _ hnone⟩, hstage.toStocked, hbegun⟩

/-- The attempt takes its first step. -/
lemma AdmitsSample.exists_executing :
    ∃ t, (researchSystem.restrict admitted).Reachable ⟨t, some sampleExecuting⟩ ∧
      Stocked sampleSupply [] 4 t ∧ Single t sampleTask.begun (some sampleAttempt) := by
  obtain ⟨t, hreach, hstocked, hsingle⟩ := hadmits.exists_begun
  have hstep : ResearchStep ⟨t, some sampleEngine⟩ (.engine (.begin "attempt-a") sampleSupply) _ :=
    .engine rfl ⟨_, List.mem_singleton_self _, rfl, rfl, rfl⟩ .done
  exact ⟨t, .step hreach ⟨hstep, hadmits.other _ _ (by simp)⟩, hstocked, hsingle⟩

end

/-- The same without a restriction of the steps. -/
lemma exists_sampleAdded : ∃ t, researchSystem.Reachable ⟨t, none⟩ ∧
    Stocked sampleSupply [] 1 t ∧ Single t sampleTask none := by
  obtain ⟨t, hreach, hsample⟩ := admitsSample_true.exists_added
  exact ⟨t, hreach.of_restrict, hsample⟩

lemma exists_sampleBegun : ∃ t, researchSystem.Reachable ⟨t, some sampleEngine⟩ ∧
    Stocked sampleSupply [] 4 t ∧ Single t sampleTask.begun (some sampleAttempt) := by
  obtain ⟨t, hreach, hsample⟩ := admitsSample_true.exists_begun
  exact ⟨t, hreach.of_restrict, hsample⟩

lemma exists_sampleExecuting : ∃ t, researchSystem.Reachable ⟨t, some sampleExecuting⟩ ∧
    Stocked sampleSupply [] 4 t ∧ Single t sampleTask.begun (some sampleAttempt) := by
  obtain ⟨t, hreach, hsample⟩ := admitsSample_true.exists_executing
  exact ⟨t, hreach.of_restrict, hsample⟩

/-- The events of the publication. -/
def sampleSubmitted : AppendEventCommand :=
  ⟨"ContributionSubmitted", "worker", some "run-a", none,
    [("contribution_id", .str "c"), ("worker_id", .str "worker-aa")]⟩

def samplePublished : AppendEventCommand :=
  ⟨"DeclarationPublished", "promotion_service", some "run-a", none,
    [("declaration_id", .str "d"), ("contribution_id", .str "c")]⟩

/-- The work of the attempt is published. -/
lemma exists_samplePublished {t : Tables} {process : Option Engine} {n : ℕ} {task : Task}
    {attempt : Option Attempt} (hreach : researchSystem.Reachable ⟨t, process⟩) (hn : n + 1 < 9)
    (hstocked : Stocked sampleSupply [] n t) (hsingle : Single t task attempt) :
    ∃ u row, researchSystem.Reachable ⟨u, process⟩ ∧ Stocked sampleSupply [row] (n + 2) u ∧
      Single u task attempt ∧ row.field? "declaration_id" = some (.str "d") ∧
      PublishedIn u.toEventLog "run-a" "worker-aa" := by
  have hstore := (projectInvariant_of_reachable hreach).store
  obtain ⟨v, submitted, hv, hfirst, hrows, htype, hrun, hfields, hsubmitted⟩ :=
    hstocked.appendEvent supply_sample (by omega) hstore.queue sampleSubmitted
      .contributionSubmitted rfl (by decide) (by decide) (by rfl)
  have hop : EventType.researchRecordUpdated ∉ (EventType.ofText? "ContributionSubmitted").toList :=
    by decide
  have hreach' : researchSystem.Reachable ⟨v, process⟩ :=
    hv ▸ hreach.step (ResearchStep.service hop)
  have hstore' := (projectInvariant_of_reachable hreach').store
  obtain ⟨u, row, hu, hsecond, hrows', htype', hrun', hfields', hpublished⟩ :=
    hsubmitted.appendEvent supply_sample hn hstore'.queue samplePublished
      .declarationPublished rfl (by decide) (by decide) (by rfl)
  have hop' : EventType.researchRecordUpdated ∉ (EventType.ofText? "DeclarationPublished").toList :=
    by decide
  have hreach'' : researchSystem.Reachable ⟨u, process⟩ :=
    hu ▸ hreach'.step (ResearchStep.service hop')
  refine ⟨u, row, hreach'', hpublished, (hsingle.unrelated hfirst).unrelated hsecond, ?_,
    submitted, ?_, row, ?_, "c", hrun, hrun', htype, htype', ?_, ?_, ?_⟩
  · rw [hfields']
    rfl
  · rw [hrows', hrows]
    simp
  · rw [hrows']
    simp
  · rw [hfields]
    rfl
  · rw [hfields]
    rfl
  · rw [hfields']
    rfl

/-- The executor answers. -/
lemma exists_sampleSettled {t : Tables} {n : ℕ} {published : List EventRow} {accepted : List String}
    {result : AttemptResult} (hreach : researchSystem.Reachable ⟨t, some sampleExecuting⟩)
    (hn : n + 2 < 9) (hstocked : Stocked sampleSupply published n t)
    (hend : Endable t sampleTask.begun sampleAttempt result false accepted) :
    ∃ u engine, ∃ m ≤ 3, researchSystem.Reachable ⟨u, some engine⟩ ∧
      Stocked sampleSupply published (n + m) u ∧
      Single u (sampleTask.begun.finished result accepted false)
        (some (sampleAttempt.finished result accepted false)) := by
  have hstage : Stage sampleSupply published n ⟨t, sampleExecuting, rest sampleSupply n⟩ :=
    ⟨hstocked, rfl⟩
  have hmeets := hstage.settleAttempt_ends supply_sample hn (.returned result) hend
  have hstep : ResearchStep ⟨t, some sampleExecuting⟩
      (.engine (.settle sampleAttempt (.returned result)) (rest sampleSupply n)) _ :=
    .engine rfl ⟨_, List.mem_singleton_self _, rfl, rfl⟩ .done
  cases hresult : (settleAttempt sampleAttempt (.returned result)
      ⟨t, sampleExecuting, rest sampleSupply n⟩).result with
  | error e => exact (hmeets.error hresult).elim
  | ok _ =>
    obtain ⟨m, hm, hstage', hsingle⟩ := hmeets.ok hresult
    exact ⟨_, _, m, hm, hreach.step hstep, hstage'.toStocked, hsingle⟩

/-- An answer after the work of the attempt was published: the task is verified. -/
lemma exists_sampleVerified : ∃ t engine task, researchSystem.Reachable ⟨t, some engine⟩ ∧
    taskAt t "task-a" = some task ∧ task.status = .verified := by
  obtain ⟨t, hreach, hstocked, hsingle⟩ := exists_sampleExecuting
  obtain ⟨u, row, hreach', hstocked', hsingle', hfield, hpublished⟩ :=
    exists_samplePublished hreach (by decide) hstocked hsingle
  obtain ⟨k, hk, hverified⟩ := hstocked'.exists_verifiedForWorker "d"
    (by rfl) (fun r hr => by rw [List.mem_singleton.1 hr, hfield]) "run-a" "worker-aa"
  have hk' : k = 1 := by
    have hne := (verifiedForWorker_ok hstocked'.log hverified).2 hpublished
    cases k with
    | zero => exact absurd rfl hne
    | succ k => simpa using hk
  subst hk'
  have hend : Endable u sampleTask.begun sampleAttempt promptResult false ["d"] :=
    { single := hsingle'
      ofTask := ⟨rfl, rfl⟩
      verified := hverified
      trusted := nofun
      run := show "run-a" ≠ "" by decide
      validAttempt := sampleRecords.verifiedAttempt
      validTask := sampleRecords.verifiedTask
      validMemory := sampleRecords.verifiedMemory }
  obtain ⟨v, engine, m, -, hreach'', -, hsettled⟩ :=
    exists_sampleSettled hreach' (by decide) hstocked' hend
  exact ⟨v, engine, _, hreach'', hsettled.task_eq, rfl⟩

/-- An answer before the work of the attempt was published, and a restart: the attempt has failed
and its task is pending. -/
lemma exists_sampleLate : ∃ t task, researchSystem.Reachable ⟨t, none⟩ ∧
    Single t task (some (sampleAttempt.finished lateResult [] false)) ∧
    task.taskId = "task-a" ∧ task.status = .pending ∧
    PublishedIn t.toEventLog "run-a" "worker-aa" := by
  obtain ⟨t, hreach, hstocked, hsingle⟩ := exists_sampleExecuting
  obtain ⟨k, hk, hverified⟩ := hstocked.exists_verifiedForWorker "d"
    (by rfl) (fun r hr => absurd hr List.not_mem_nil) "run-a" "worker-aa"
  have hk' : k = 0 := by simpa using hk
  subst hk'
  have hend : Endable t sampleTask.begun sampleAttempt lateResult false [] :=
    { single := hsingle
      ofTask := ⟨rfl, rfl⟩
      verified := hverified
      trusted := nofun
      run := show "run-a" ≠ "" by decide
      validAttempt := sampleRecords.lateAttempt
      validTask := sampleRecords.lateTask
      validMemory := sampleRecords.lateMemory }
  obtain ⟨u, engine, m, hm, hreach', hstocked', hsettled⟩ :=
    exists_sampleSettled hreach (by decide) hstocked hend
  have hleft : 4 + m + 1 < 9 := by omega
  obtain ⟨v, row, hreach'', -, hsingle', -, hpublished⟩ :=
    exists_samplePublished hreach' hleft hstocked' hsettled
  exact ⟨v, _, hreach''.step .crash, hsingle', rfl, by decide, hpublished⟩

end Aizim.Research
