import Aizim.Orchestration.KnowledgeStream

/-!
# What a worker that keeps reading is given

A worker reads again and again, each time from the last epoch it has seen, while promotions,
recoveries and other users go on.  `Follows` is such a run.  The deltas that it was given are those
of the log up to a point, because the epochs of the log only grow (`EpochChain`).

`knowledge_read_iff` says exactly when the next read is complete: when the deltas that it is to
give were all published by the run of the reader, and no two acknowledgements of the run have one
id.
-/

namespace Aizim.Orchestration

open JsonValue JsonObject Domain State Knowledge TransitionSystem

/-! ## Resuming from the last key -/

section

variable {α : Type} (key : α → ℕ)

/-- The last key that was seen, from a cursor on. -/
def lastKey (cursor : ℕ) (seen : List α) : ℕ :=
  (seen.getLast?.map key).getD cursor

variable {key}

lemma le_lastKey {cursor : ℕ} {old : List α} :
    cursor ≤ lastKey key cursor (old.filter fun x => cursor < key x) := by
  unfold lastKey
  cases hlast : (old.filter fun x => cursor < key x).getLast? with
  | none => simp
  | some x =>
    have hmem := List.mem_of_getLast? hlast
    simp only [List.mem_filter, decide_eq_true_eq] at hmem
    simpa using hmem.2.le

lemma key_le_lastKey {cursor : ℕ} {old : List α} (h : old.Pairwise fun x y => key x < key y) :
    ∀ x ∈ old, key x ≤ lastKey key cursor (old.filter fun x => cursor < key x) := by
  intro x hx
  by_cases hcursor : cursor < key x
  · have hin : x ∈ old.filter fun x => cursor < key x := by simp [hx, hcursor]
    obtain ⟨seen, last, hseen⟩ := List.eq_nil_or_concat'
      (old.filter fun x => cursor < key x) |>.resolve_left (List.ne_nil_of_mem hin)
    have hsorted := h.filter (fun x => cursor < key x)
    rw [hseen] at hin hsorted ⊢
    rw [lastKey, List.getLast?_append_of_ne_nil _ (by simp)]
    rcases List.mem_append.1 hin with hin | hin
    · exact ((List.pairwise_append.1 hsorted).2.2 x hin last (by simp)).le
    · simp [List.mem_singleton.1 hin]
  · exact (not_lt.1 hcursor).trans le_lastKey

/-- Nothing is given twice and nothing is left out when the reading goes on from the last key. -/
lemma filter_resume {cursor : ℕ} {old new : List α}
    (h : (old ++ new).Pairwise fun x y => key x < key y) :
    (old.filter fun x => cursor < key x) ++
      ((old ++ new).filter fun x =>
        lastKey key cursor (old.filter fun x => cursor < key x) < key x) =
      (old ++ new).filter fun x => cursor < key x := by
  obtain ⟨hold, -, hbetween⟩ := List.pairwise_append.1 h
  have hnone : (old.filter fun x =>
      lastKey key cursor (old.filter fun x => cursor < key x) < key x) = [] := by
    rw [List.filter_eq_nil_iff]
    intro x hx
    simpa using key_le_lastKey hold x hx
  have hrest : (new.filter fun x =>
      lastKey key cursor (old.filter fun x => cursor < key x) < key x) =
      new.filter fun x => cursor < key x := by
    refine List.filter_congr fun x hx => ?_
    rw [decide_eq_decide]
    refine ⟨fun hlast => lt_of_le_of_lt le_lastKey hlast, fun hcursor => ?_⟩
    unfold lastKey
    cases hlast : (old.filter fun x => cursor < key x).getLast? with
    | none => exact hcursor
    | some y =>
      exact hbetween y (List.mem_of_mem_filter (List.mem_of_getLast? hlast)) x hx
  rw [List.filter_append, List.filter_append, hnone, hrest, List.nil_append]

end

/-! ## Stores with readers -/

variable [CharacterDatabase]

/-- A store that the service has made, in which the deltas form a chain and nothing is acknowledged
yet. -/
structure KnowledgeStore (start : Except Fault EpochPair) (store : Tables) : Prop where
  made : ∃ ops : List StateOp, (∀ op ∈ ops, .knowledgeDeltaAcknowledged ∉ op.eventTypes) ∧
    store = runOps initialTables ops
  chain : ∃ deltas, KnowledgeReader.publishedDeltas store.toEventLog = .ok deltas ∧
    EpochChain start deltas (currentEpochIn store)

/-- What the others do: any operation that neither sets the epochs nor acknowledges, and
acknowledgements for any worker of any run. -/
def knowledgeUse (t t' : Tables) : Prop :=
  (∃ op : StateOp, (∀ type ∈ op.eventTypes,
    type.setsEpochs = false ∧ type ≠ .knowledgeDeltaAcknowledged) ∧ t' = op.exec t) ∨
  ∃ stamp runId workerId deltaId new,
    KnowledgeReader.acknowledge t stamp runId workerId deltaId = .ok (t', new)

/-- Promotions and readers over one store. -/
def knowledgeSystem (start : Except Fault EpochPair) :
    TransitionSystem PromotionPool (PoolAction ℕ) :=
  poolSystem handlePromotion isPromotion knowledgeUse (KnowledgeStore start)

variable {start : Except Fault EpochPair}

/-- The deltas form a chain, and the acknowledgements are named and unique. -/
structure ReadLog (start : Except Fault EpochPair) (t : Tables) : Prop where
  epochs : EpochLog start t
  acks : AckLog t.toEventLog

/-- Operations that append no acknowledgement keep the acknowledgements. -/
lemma AckLog.exec {t : Tables} (hacks : AckLog t.toEventLog) (hlog : WellFormedLog t.toEventLog)
    (hids : (ids t.publicationQueue).Nodup) {op : StateOp}
    (hop : .knowledgeDeltaAcknowledged ∉ op.eventTypes) : AckLog (op.exec t).toEventLog := by
  obtain ⟨events, hrun, htypes⟩ := StateOp.exists_run_exec hids op
  exact hacks.of_unrelated hlog hrun fun e he htype => hop (htype ▸ htypes e he)

/-- An effect of a promotion keeps chain and acknowledgements. -/
lemma ReadLog.handle {t t' : Tables} {effect : PromotionEffect}
    {r : Option (Except Fault (PromotionAnswer effect))} (hinv : ReadLog start t)
    (h : handlePromotion effect t r t') (hcurrent : effect.ForCurrent t) :
    ReadLog start t' ∧ Overtakes t t' := by
  obtain ⟨hepochs, hover⟩ := hinv.epochs.handle h hcurrent
  refine ⟨⟨hepochs, ?_⟩, hover⟩
  rcases exists_op_of_handle h with rfl | ⟨op, hop, rfl⟩
  · exact hinv.acks
  · exact hinv.acks.exec hinv.epochs.log hinv.epochs.queue.ids_nodup
      (PromotionEffect.Makes.no_acknowledgement hop hcurrent)

/-- The others keep chain and acknowledgements. -/
lemma ReadLog.use {t t' : Tables} (hinv : ReadLog start t) (h : knowledgeUse t t') :
    ReadLog start t' ∧ Overtakes t t' := by
  rcases h with ⟨op, hop, rfl⟩ | ⟨stamp, runId, workerId, deltaId, new, h⟩
  · obtain ⟨hepochs, hover⟩ := hinv.epochs.exec fun type htype => (hop type htype).1
    exact ⟨⟨hepochs, hinv.acks.exec hinv.epochs.log hinv.epochs.queue.ids_nodup
      fun htype => (hop _ htype).2 rfl⟩, hover⟩
  · rcases acknowledge_ok hinv.epochs.log h with rfl | ⟨rfl, hnew, row, hrows, hrow⟩
    · exact ⟨hinv, .refl _⟩
    · have htypes : ∀ type ∈ (StateOp.appendEvent stamp
          (KnowledgeReader.acknowledgement runId workerId deltaId)).eventTypes,
          type.setsEpochs = false := by
        have htext : EventType.ofText? "KnowledgeDeltaAcknowledged" =
            some .knowledgeDeltaAcknowledged := EventType.ofText?_text .knowledgeDeltaAcknowledged
        simp [StateOp.eventTypes, KnowledgeReader.acknowledgement, htext, EventType.setsEpochs]
      obtain ⟨hepochs, hover⟩ := hinv.epochs.exec htypes
      exact ⟨⟨hepochs, hinv.acks.append hrows hrow hnew⟩, hover⟩

/-- A store without acknowledgements. -/
lemma KnowledgeStore.readLog {store : Tables} (h : KnowledgeStore start store) :
    ReadLog start store := by
  obtain ⟨ops, hops, rfl⟩ := h.made
  obtain ⟨hlog, hqueue⟩ := wellFormed_runOps ops
  refine ⟨⟨hlog, hqueue, h.chain⟩, ?_⟩
  clear h hlog hqueue
  induction ops using List.reverseRecOn with
  | nil => exact ackLog_initial
  | append_singleton ops op ih =>
    obtain ⟨hlog, hqueue⟩ := wellFormed_runOps ops
    have hacks := ih fun op' hop' => hops op' (List.mem_append_left _ hop')
    rw [show runOps initialTables (ops ++ [op]) = op.exec (runOps initialTables ops) by
      simp [runOps]]
    exact hacks.exec hlog hqueue.ids_nodup (hops op (by simp))

/-- The invariant of every reachable state, and what its programs still ensure. -/
lemma readLog_of_reachable {w : PromotionPool} (h : (knowledgeSystem start).Reachable w) :
    ReadLog start w.state := by
  refine (pool_invariant (EpochInterference start) (fun effect t _ _ => effect.ForCurrent t)
    EpochInterference.refl EpochInterference.trans ?_ ?_ ?_ ?_ h).1
  · exact fun store hstore => hstore.readLog
  · intro program hprogram t hinv
    exact (hprogram.ensures hinv.epochs).meets
  · intro effect t r t' hinv hhandle hcurrent
    have hkeep := hinv.handle hhandle hcurrent
    exact ⟨hkeep.1, fun _ => ⟨hkeep.1.epochs, hkeep.2⟩⟩
  · intro t t' hinv huse
    have hkeep := hinv.use huse
    exact ⟨hkeep.1, fun _ => ⟨hkeep.1.epochs, hkeep.2⟩⟩

/-! ## The log grows -/

/-- What one step appends to the log. -/
lemma exists_run_of_knowledgeStep {w w' : PromotionPool} {action : PoolAction ℕ}
    (hinv : ReadLog start w.state) (h : (knowledgeSystem start).step w action w') :
    ∃ events, eventLogSystem.Run w.state.toEventLog events w'.state.toEventLog := by
  have hexec : ∀ op : StateOp, w'.state = op.exec w.state →
      ∃ events, eventLogSystem.Run w.state.toEventLog events w'.state.toEventLog := by
    intro op hop
    obtain ⟨events, hrun, -⟩ := StateOp.exists_run_exec hinv.epochs.queue.ids_nodup op
    exact ⟨events, hop ▸ hrun⟩
  have hstay : w'.state = w.state →
      ∃ events, eventLogSystem.Run w.state.toEventLog events w'.state.toEventLog :=
    fun hstate => ⟨[], hstate ▸ .nil _⟩
  rcases PoolStep.state_cases h with hstate | ⟨effect, r, hhandle⟩ | huse
  · exact hstay hstate
  · rcases exists_op_of_handle hhandle with hstate | ⟨op, -, hop⟩
    · exact hstay hstate
    · exact hexec op hop
  · rcases huse with ⟨op, -, hop⟩ | ⟨stamp, runId, workerId, deltaId, new, hack⟩
    · exact hexec op hop
    · rcases acknowledge_ok hinv.epochs.log hack with hstate | ⟨hop, -⟩
      · exact hstay hstate
      · exact hexec _ hop

/-- What a run appends to the log. -/
lemma exists_run_of_knowledgeRun {w w' : PromotionPool} {actions : List (PoolAction ℕ)}
    (hw : (knowledgeSystem start).Reachable w) (h : (knowledgeSystem start).Run w actions w') :
    ∃ events, eventLogSystem.Run w.state.toEventLog events w'.state.toEventLog := by
  refine Run.mono (P := (knowledgeSystem start).Reachable) (R := fun w w' : PromotionPool =>
    ∃ events, eventLogSystem.Run w.state.toEventLog events w'.state.toEventLog)
    (fun _ => ⟨[], .nil _⟩) ?_ ?_ h hw
  · rintro s t u ⟨first, hfirst⟩ ⟨second, hsecond⟩
    exact ⟨first ++ second, hfirst.append hsecond⟩
  · exact fun s action t hs hstep =>
      ⟨hs.step hstep, exists_run_of_knowledgeStep (readLog_of_reachable hs) hstep⟩

/-- The deltas of a reachable store are a start of those of every later one. -/
lemma publishedDeltas_of_knowledgeRun {w w' : PromotionPool} {actions : List (PoolAction ℕ)}
    {all : List PublishedKnowledgeDelta} (hw : (knowledgeSystem start).Reachable w)
    (h : (knowledgeSystem start).Run w actions w')
    (hall : KnowledgeReader.publishedDeltas w.state.toEventLog = .ok all) :
    ∃ more, KnowledgeReader.publishedDeltas w'.state.toEventLog = .ok (all ++ more) := by
  obtain ⟨events, hrun⟩ := exists_run_of_knowledgeRun hw h
  obtain ⟨later, hlater, -⟩ := (readLog_of_reachable (h.reachable hw)).epochs.chain
  have hgrown := publishedDeltas_of_run (readLog_of_reachable hw).epochs.log hrun
  rw [hlater, hall] at hgrown
  cases hnew : deltasOfEvents events with
  | error e =>
    rw [hnew] at hgrown
    simp at hgrown
  | ok more =>
    rw [hnew] at hgrown
    refine ⟨more, hlater.trans ?_⟩
    rw [hgrown]
    rfl

/-! ## Reading on -/

/-- The last epoch that a worker has seen. -/
def lastSeen (cursor : ℕ) (delivered : List PublishedKnowledgeDelta) : ℕ :=
  lastKey (fun delta => delta.newEpoch.knowledgeEpoch) cursor delivered

/-- The deltas after an epoch. -/
def deltasAfter (epoch : ℕ) (deltas : List PublishedKnowledgeDelta) :
    List PublishedKnowledgeDelta :=
  deltas.filter fun delta => epoch < delta.newEpoch.knowledgeEpoch

/-- A worker of a run has read again and again from the last epoch it had seen, beginning at a
cursor, and was given these deltas. -/
inductive Follows (start : Except Fault EpochPair) (runId workerId : String) (cursor : ℕ) :
    PromotionPool → List PublishedKnowledgeDelta → Prop
  | start {w : PromotionPool} (reachable : (knowledgeSystem start).Reachable w) :
      Follows start runId workerId cursor w []
  | others {w w' : PromotionPool} {actions : List (PoolAction ℕ)}
      {delivered : List PublishedKnowledgeDelta}
      (follows : Follows start runId workerId cursor w delivered)
      (run : (knowledgeSystem start).Run w actions w') :
      Follows start runId workerId cursor w' delivered
  | read {w : PromotionPool} {t' : Tables} {stamps : ℕ → Stamp} {wait : Bool}
      {delivered deltas : List PublishedKnowledgeDelta}
      (follows : Follows start runId workerId cursor w delivered)
      (answered : KnowledgeStream.read w.state stamps runId workerId (lastSeen cursor delivered)
        wait = (t', .ok (some deltas))) :
      Follows start runId workerId cursor ⟨t', w.running⟩ (delivered ++ deltas)

/-- What a read answers when there are these deltas. -/
def answer (wait : Bool) (deltas : List PublishedKnowledgeDelta) :
    Option (List PublishedKnowledgeDelta) :=
  if wait = true ∧ deltas = [] then none else some deltas

/-- A read acknowledges the deltas after its epoch, and answers them. -/
lemma read_eq {t : Tables} {all : List PublishedKnowledgeDelta} {runId workerId : String}
    (hrun : runId ≠ "") (hworker : workerId ≠ "")
    (hall : KnowledgeReader.publishedDeltas t.toEventLog = .ok all) (stamps : ℕ → Stamp)
    (epoch : ℕ) (wait : Bool) :
    KnowledgeStream.read t stamps runId workerId epoch wait =
      ((KnowledgeStream.acknowledgeAll t stamps runId workerId (deltasAfter epoch all)).1,
        (KnowledgeStream.acknowledgeAll t stamps runId workerId (deltasAfter epoch all)).2.map
          fun _ => answer wait (deltasAfter epoch all)) := by
  have hrequest : KnowledgeStream.isRequest runId workerId epoch = true := by
    simp [KnowledgeStream.isRequest, hrun, hworker]
  have hread : KnowledgeReader.read t epoch = .ok (deltasAfter epoch all) := by
    simp only [KnowledgeReader.read, hall, ok_bind]
    rw [require_of (by simp)]
    simp [deltasAfter, Nat.cast_lt]
  simp only [KnowledgeStream.read, hrequest, hread]
  cases hdeltas : deltasAfter epoch all with
  | nil => cases wait <;> rfl
  | cons delta deltas => simp [answer]

/-- Acknowledging in turn is a run of the system. -/
lemma run_of_acknowledgeAll (w : PromotionPool) (stamps : ℕ → Stamp) (runId workerId : String)
    (deltas : List PublishedKnowledgeDelta) :
    ∃ actions, (knowledgeSystem start).Run w actions
      ⟨(KnowledgeStream.acknowledgeAll w.state stamps runId workerId deltas).1, w.running⟩ := by
  induction deltas generalizing w stamps with
  | nil => exact ⟨[], .nil _⟩
  | cons delta deltas ih =>
    simp only [KnowledgeStream.acknowledgeAll]
    split
    · exact ⟨[], .nil _⟩
    · rename_i t' new hack
      have hstep : (knowledgeSystem start).step w .environment ⟨t', w.running⟩ :=
        .environment (Or.inr ⟨stamps 0, runId, workerId, delta.deltaId, new, hack⟩)
      obtain ⟨actions, hrest⟩ := ih ⟨t', w.running⟩ fun n => stamps (n + 1)
      exact ⟨_, (Run.single hstep).append hrest⟩

/-- What a worker was given are the deltas after its cursor of a start of the log. -/
lemma Follows.delivered_eq {runId workerId : String} {cursor : ℕ} {w : PromotionPool}
    {delivered : List PublishedKnowledgeDelta} (hrun : runId ≠ "") (hworker : workerId ≠ "")
    (h : Follows start runId workerId cursor w delivered) :
    (knowledgeSystem start).Reachable w ∧
    ∃ before more, KnowledgeReader.publishedDeltas w.state.toEventLog = .ok (before ++ more) ∧
      delivered = deltasAfter cursor before := by
  induction h with
  | start reachable =>
    obtain ⟨all, hall, -⟩ := (readLog_of_reachable reachable).epochs.chain
    exact ⟨reachable, [], all, hall, rfl⟩
  | others follows run ih =>
    obtain ⟨hw, before, more, hall, hdelivered⟩ := ih
    obtain ⟨later, hlater⟩ := publishedDeltas_of_knowledgeRun hw run hall
    exact ⟨run.reachable hw, before, more ++ later, by rw [hlater, List.append_assoc], hdelivered⟩
  | @read w t' stamps wait delivered deltas follows answered ih =>
    obtain ⟨hw, before, more, hall, hdelivered⟩ := ih
    rw [read_eq hrun hworker hall] at answered
    obtain ⟨rfl, hanswer⟩ := Prod.mk.inj answered
    obtain ⟨actions, hread⟩ : ∃ actions, (knowledgeSystem start).Run w actions _ :=
      run_of_acknowledgeAll w stamps runId workerId
        (deltasAfter (lastSeen cursor delivered) (before ++ more))
    obtain ⟨later, hlater⟩ := publishedDeltas_of_knowledgeRun hw hread hall
    refine ⟨hread.reachable hw, before ++ more, later, hlater, ?_⟩
    obtain ⟨-, -, hsome⟩ := map_eq_ok.1 hanswer
    have hdeltas : deltas = deltasAfter (lastSeen cursor delivered) (before ++ more) := by
      unfold answer at hsome
      split at hsome
      · simp at hsome
      · exact (Option.some.inj hsome).symm
    obtain ⟨all, hchain, hsorted⟩ := (readLog_of_reachable hw).epochs.chain
    obtain rfl := Except.ok.inj (hall.symm.trans hchain)
    rw [hdeltas, hdelivered]
    exact filter_resume hsorted.pairwise

/-! ## Complete reads -/

/-- The next read returns exactly the deltas after the last epoch seen, in the order of their
epochs, so that every delta after the cursor was then given once, and the store has exactly one
acknowledgement of each. -/
def CompleteRead (t : Tables) (stamps : ℕ → Stamp) (runId workerId : String) (cursor : ℕ)
    (wait : Bool) (delivered : List PublishedKnowledgeDelta) : Prop :=
  ∃ all deltas t', KnowledgeReader.publishedDeltas t.toEventLog = .ok all ∧
    KnowledgeStream.read t stamps runId workerId (lastSeen cursor delivered) wait =
      (t', .ok (answer wait deltas)) ∧
    deltas = deltasAfter (lastSeen cursor delivered) all ∧
    deltas.Pairwise (fun d e => d.newEpoch.knowledgeEpoch < e.newEpoch.knowledgeEpoch) ∧
    delivered ++ deltas = deltasAfter cursor all ∧
    ∀ delta ∈ deltas,
      (acknowledgements t'.toEventLog runId workerId delta.deltaId).length = 1

/-- The run has published the deltas itself, and what it has acknowledged under the ids of their
acknowledgements are these deltas for this worker. -/
structure Readable (log : EventLog) (runId workerId : String)
    (deltas : List PublishedKnowledgeDelta) : Prop where
  published : ∀ delta ∈ deltas,
    RunHas log runId .knowledgeDeltaPublished "delta_id" delta.deltaId
  recorded : ∀ delta ∈ deltas, ∀ row ∈ log.events,
    row.eventType = .knowledgeDeltaAcknowledged → row.runId = some runId →
    row.field? "acknowledgement_id" =
      some (.str (KnowledgeReader.acknowledgementId runId workerId delta.deltaId)) →
    row.field? "worker_id" = some (.str workerId) ∧
      row.field? "delta_id" = some (.str delta.deltaId)
  distinct : ∀ d ∈ deltas, ∀ e ∈ deltas, KnowledgeReader.acknowledgementId runId workerId d.deltaId =
    KnowledgeReader.acknowledgementId runId workerId e.deltaId → d.deltaId = e.deltaId

omit [CharacterDatabase] in
lemma deltaId_ne_of_deltaOf {payload : JsonObject} {delta : PublishedKnowledgeDelta}
    (h : deltaOf payload = .ok delta) : delta.deltaId ≠ "" := by
  simp only [deltaOf, bind_eq_ok, pure_eq_ok] at h
  obtain ⟨deltaId, hid, _, -, _, -, _, -, _, -, _, -, _, -, _, -, _, -, _, -, _, -, _, -, _, -,
    rfl⟩ := h
  exact textField_ne hid

/-- Deltas that were read from the log have an id. -/
lemma deltaId_ne {log : EventLog} {all : List PublishedKnowledgeDelta}
    (h : KnowledgeReader.publishedDeltas log = .ok all) : ∀ delta ∈ all, delta.deltaId ≠ "" := by
  simp only [KnowledgeReader.publishedDeltas, bind_eq_ok] at h
  obtain ⟨records, -, h⟩ := h
  intro delta hdelta
  obtain ⟨record, -, hread⟩ := exists_of_forall₂ (mapM_eq_ok.1 h) hdelta
  exact deltaId_ne_of_deltaOf hread

/-- After the deltas were acknowledged, each of them has one acknowledgement exactly when no other
was taken for it. -/
lemma Acknowledged.length_eq_one_iff {t t' : Tables} {runId workerId : String}
    {deltas : List PublishedKnowledgeDelta} (h : Acknowledged t t' runId workerId deltas)
    (hpublished : ∀ delta ∈ deltas,
      RunHas t.toEventLog runId .knowledgeDeltaPublished "delta_id" delta.deltaId) :
    (∀ delta ∈ deltas, (acknowledgements t'.toEventLog runId workerId delta.deltaId).length = 1) ↔
      Readable t.toEventLog runId workerId deltas := by
  obtain ⟨rows, hrows, hnamed⟩ := h.grown
  constructor
  · intro hone
    have hrow : ∀ delta ∈ deltas, ∃ row ∈ t'.events, Acknowledges row runId workerId delta.deltaId := by
      intro delta hdelta
      obtain ⟨row, hrow⟩ := List.length_eq_one_iff.1 (hone delta hdelta)
      have hin : row ∈ acknowledgements t'.toEventLog runId workerId delta.deltaId := by simp [hrow]
      simp only [acknowledgements, List.mem_filter, Bool.and_eq_true, beq_iff_eq] at hin
      obtain ⟨hin, ⟨⟨htype, hrun⟩, hworker⟩, hid⟩ := hin
      obtain ⟨run, worker, other, hother⟩ := h.acks.named row hin htype
      obtain rfl : run = runId := Option.some.inj (hother.run_eq.symm.trans hrun)
      obtain rfl : worker = workerId := by simpa [hother.worker_eq] using hworker
      obtain rfl : other = delta.deltaId := by simpa [hother.delta_eq] using hid
      exact ⟨row, hin, hother⟩
    refine ⟨hpublished, fun delta hdelta row hin htype hrun hid => ?_, fun d hd e he hid => ?_⟩
    · obtain ⟨own, hown, hack⟩ := hrow delta hdelta
      obtain rfl := h.acks.unique row (hrows ▸ List.mem_append_left _ hin) own hown htype
        hack.type_eq (hrun.trans hack.run_eq.symm) (hid.trans hack.id_eq.symm)
      exact ⟨hack.worker_eq, hack.delta_eq⟩
    · obtain ⟨r, hr, hrack⟩ := hrow d hd
      obtain ⟨s, hs, hsack⟩ := hrow e he
      obtain rfl := h.acks.unique r hr s hs hrack.type_eq hsack.type_eq
        (hrack.run_eq.trans hsack.run_eq.symm)
        (hrack.id_eq.trans ((congrArg _ (congrArg _ hid)).trans hsack.id_eq.symm))
      simpa using hrack.delta_eq.symm.trans hsack.delta_eq
  · intro hread delta hdelta
    obtain ⟨row, hrow, hrun, htype, hid⟩ := h.present delta hdelta
    have hnames : row.field? "worker_id" = some (.str workerId) ∧
        row.field? "delta_id" = some (.str delta.deltaId) := by
      have hrow' := hrow
      rw [hrows, List.mem_append] at hrow'
      rcases hrow' with hold | hnew
      · exact hread.recorded delta hdelta row hold htype hrun hid
      · obtain ⟨other, hother, hack⟩ := hnamed row hnew
        rw [hack.id_eq, Option.some.injEq, str.injEq] at hid
        exact ⟨hack.worker_eq, hread.distinct other hother delta hdelta hid ▸ hack.delta_eq⟩
    have hin : row ∈ acknowledgements t'.toEventLog runId workerId delta.deltaId := by
      simp [acknowledgements, hrow, hrun, htype, hnames.1, hnames.2]
    have hle := h.acks.length_le h.log runId workerId delta.deltaId
    have hpos := List.length_pos_of_mem hin
    omega

/-- **Knowledge reads.**  A worker that keeps reading has been given every delta after its cursor
once, and its next read is complete exactly when the deltas that are left were all published by its
own run, and nothing else was acknowledged under the ids of their acknowledgements. -/
theorem knowledge_read_iff {runId workerId : String} {cursor : ℕ} {w : PromotionPool}
    {delivered : List PublishedKnowledgeDelta} {stamps : ℕ → Stamp} (hrun : runId ≠ "")
    (hworker : workerId ≠ "") (h : Follows start runId workerId cursor w delivered)
    (hstamps : ∀ all, KnowledgeReader.publishedDeltas w.state.toEventLog = .ok all →
      FreshStamps w.state.toEventLog stamps (deltasAfter (lastSeen cursor delivered) all).length)
    (wait : Bool) :
    CompleteRead w.state stamps runId workerId cursor wait delivered ↔
      ∀ all, KnowledgeReader.publishedDeltas w.state.toEventLog = .ok all →
        Readable w.state.toEventLog runId workerId
          (deltasAfter (lastSeen cursor delivered) all) := by
  obtain ⟨hw, before, more, hall, hdelivered⟩ := h.delivered_eq hrun hworker
  have hinv := readLog_of_reachable hw
  have hsorted : (before ++ more).Pairwise
      fun d e => d.newEpoch.knowledgeEpoch < e.newEpoch.knowledgeEpoch := by
    obtain ⟨all, hchain, hsorted⟩ := hinv.epochs.chain
    obtain rfl := Except.ok.inj (hall.symm.trans hchain)
    exact hsorted.pairwise
  have hrest : delivered ++ deltasAfter (lastSeen cursor delivered) (before ++ more) =
      deltasAfter cursor (before ++ more) := by
    rw [hdelivered]
    exact filter_resume hsorted
  have hids : ∀ delta ∈ deltasAfter (lastSeen cursor delivered) (before ++ more),
      delta.deltaId ≠ "" :=
    fun delta hdelta => deltaId_ne hall delta (List.mem_of_mem_filter hdelta)
  have hread := read_eq hrun hworker hall stamps (lastSeen cursor delivered) wait
  have hstamps := hstamps _ hall
  generalize hdeltas : deltasAfter (lastSeen cursor delivered) (before ++ more) = deltas at *
  have hordered : deltas.Pairwise
      fun d e => d.newEpoch.knowledgeEpoch < e.newEpoch.knowledgeEpoch :=
    hdeltas ▸ hsorted.filter _
  constructor
  · rintro ⟨all, deltas', t', hall', hanswer, hdeltas', -, -, hone⟩ all₁ hall₁
    obtain rfl := Except.ok.inj (hall.symm.trans hall')
    obtain rfl := Except.ok.inj (hall.symm.trans hall₁)
    obtain rfl : deltas' = deltas := hdeltas'.trans hdeltas
    rw [hread] at hanswer
    obtain ⟨rfl, hresult⟩ := Prod.mk.inj hanswer
    obtain ⟨⟨⟩, hok, -⟩ := map_eq_ok.1 hresult
    have hpublished := known_of_acknowledgeAll hrun hworker hinv.epochs.log hstamps hids
      (Prod.ext rfl hok)
    obtain ⟨t', hacks, hacknowledged⟩ :=
      acknowledgeAll_ok hrun hworker hinv.epochs.log hinv.acks hstamps hids hpublished
    rw [hacks] at hone
    rw [hdeltas]
    exact (hacknowledged.length_eq_one_iff hpublished).1 hone
  · intro hreadable
    have hreadable := hreadable _ hall
    rw [hdeltas] at hreadable
    obtain ⟨t', hacks, hacknowledged⟩ := acknowledgeAll_ok hrun hworker hinv.epochs.log hinv.acks
      hstamps hids hreadable.published
    refine ⟨before ++ more, deltas, t', hall, ?_, hdeltas.symm, hordered, hrest, ?_⟩
    · rw [hread, hacks]
      rfl
    · exact (hacknowledged.length_eq_one_iff hreadable.published).2 hreadable

/-! ## Two runs of one project -/

/-- A sample epoch. -/
def sampleEpoch (knowledgeEpoch : ℕ) : EpochPair := ⟨sampleHash, knowledgeEpoch, by decide⟩

/-- The first delta of a project, which the run "run" publishes. -/
def sampleDelta : PublishedKnowledgeDelta :=
  ⟨sampleHash, sampleEpoch 0, sampleEpoch 1, sampleHash, "M.t", "True", "M", [], [], [], [], "c", 1⟩

/-- The run publishes it. -/
def sampleDelivery : List StateOp :=
  sampleProject ++ sampleClaim ++
  [.advancePromotion (sampleStamp '3') sampleTime "c" "owner" .verified,
   .advancePromotion (sampleStamp '4') sampleTime "c" "owner" .materialized,
   .preparePromotion (sampleStamp '5') "c" "owner"
     ⟨"PromotionPrepared", "promotion_service", some "run", none,
      [("contribution_id", .str "c"), ("module", .str "M"), ("content_hash", .str sampleHash),
       ("base_epoch", .str sampleHash), ("knowledge_epoch", .int 1),
       ("declaration_id", .str sampleHash), ("delta_id", .str sampleHash)]⟩,
   .publishPromotion (sampleStamp '6') (sampleStamp '7') (sampleStamp '8') sampleTime "c" "owner"
     ⟨"DeclarationPublished", "promotion_service", some "run", none,
      [("declaration_id", .str sampleHash), ("contribution_id", .str "c"), ("module", .str "M"),
       ("content_hash", .str sampleHash)]⟩
     ⟨"KnowledgeDeltaPublished", "promotion_service", some "run", none,
      [("delta_id", .str sampleHash), ("base_epoch", .str sampleHash), ("knowledge_epoch", .int 1),
       ("declaration_id", .str sampleHash), ("contribution_id", .str "c"),
       ("previous_base_epoch", .str sampleHash), ("previous_knowledge_epoch", .int 0),
       ("fully_qualified_name", .str "M.t"), ("complete_type", .str "True"), ("module", .str "M"),
       ("dependencies", items []), ("assumptions", items []), ("axioms", items []),
       ("evidence_links", items []), ("publication_sequence", .int 1)]⟩]

/-- The project after that. -/
def sampleStore : Tables := runOps initialTables sampleDelivery

lemma sampleStore_eq : sampleStore = runOps initialTables sampleDelivery := rfl

attribute [irreducible] sampleStore

/-- The ids of the events that a read appends. -/
def sampleAcknowledgement : ℕ → Stamp := fun _ => sampleStamp '9'

omit [CharacterDatabase] in
/-- The store has the one delta of the run "run", and no acknowledgements. -/
lemma sampleStore_facts :
    letI := asciiDatabase
    (KnowledgeReader.publishedDeltas sampleStore.toEventLog).toOption = some [sampleDelta] ∧
    (currentEpochIn sampleStore).toOption = some (sampleEpoch 1) ∧
    (sampleStamp '9').eventId ∉ sampleStore.events.map (·.eventId) ∧
    sampleStore.events.any (fun row => row.runId == some "run" &&
      row.eventType == .knowledgeDeltaPublished &&
        row.field? "delta_id" == some (.str sampleHash)) = true ∧
    sampleStore.events.all (fun row => row.eventType != .knowledgeDeltaAcknowledged) = true ∧
    (KnowledgeStream.read sampleStore sampleAcknowledgement "other" "worker"
      0 false).2.toOption.isNone = true := by
  decide +kernel

omit [CharacterDatabase] in
lemma publishedDeltas_sampleStore :
    letI := asciiDatabase
    KnowledgeReader.publishedDeltas sampleStore.toEventLog = .ok [sampleDelta] := by
  let := asciiDatabase
  exact toOption_eq_some.1 sampleStore_facts.1

omit [CharacterDatabase] in
/-- A reader of any run of the project, before its first read. -/
lemma follows_sampleStore (runId workerId : String) :
    letI := asciiDatabase
    Follows (.ok (sampleEpoch 0)) runId workerId 0 ⟨sampleStore, fun _ => none⟩ [] := by
  let := asciiDatabase
  obtain ⟨-, hcurrent, -⟩ := sampleStore_facts
  have hops : ∀ op ∈ sampleDelivery, .knowledgeDeltaAcknowledged ∉ op.eventTypes := by
    decide +kernel
  have hstore : KnowledgeStore (.ok (sampleEpoch 0)) sampleStore := by
    refine ⟨⟨sampleDelivery, hops, sampleStore_eq⟩, [sampleDelta],
      publishedDeltas_sampleStore, rfl, rfl, ?_⟩
    exact toOption_eq_some.1 hcurrent
  exact .start (.of_initial ⟨hstore, fun _ => rfl⟩)

omit [CharacterDatabase] in
lemma freshStamps_sampleStore :
    letI := asciiDatabase
    ∀ all, KnowledgeReader.publishedDeltas sampleStore.toEventLog = .ok all →
      FreshStamps sampleStore.toEventLog sampleAcknowledgement
        (deltasAfter (lastSeen 0 []) all).length := by
  let := asciiDatabase
  intro all hall
  obtain ⟨-, -, hnew, -⟩ := sampleStore_facts
  obtain rfl := Except.ok.inj (publishedDeltas_sampleStore.symm.trans hall)
  have hvalid : isUlid (sampleStamp '9').eventId = true := by decide
  have hone : (deltasAfter (lastSeen 0 []) [sampleDelta]).length = 1 := rfl
  rw [hone]
  exact ⟨fun _ _ => hvalid, fun _ _ => hnew, fun m hm n hn _ => by omega⟩

omit [CharacterDatabase] in
/-- The run that has published the delta can read it. -/
theorem knowledge_read_own_run :
    letI := asciiDatabase
    CompleteRead sampleStore sampleAcknowledgement "run" "worker" 0 false [] := by
  let := asciiDatabase
  obtain ⟨-, -, -, hpublished, hnone, -⟩ := sampleStore_facts
  refine (knowledge_read_iff (by decide) (by decide) (follows_sampleStore "run" "worker")
    freshStamps_sampleStore false).2 fun all hall => ?_
  obtain rfl := Except.ok.inj (publishedDeltas_sampleStore.symm.trans hall)
  have honly : ∀ delta ∈ deltasAfter (lastSeen 0 []) [sampleDelta], delta = sampleDelta :=
    fun delta hdelta => List.mem_singleton.1 (List.mem_of_mem_filter hdelta)
  refine ⟨fun delta hdelta => ?_, fun delta _ row hrow htype => ?_, fun d hd e he _ => ?_⟩
  · rw [honly delta hdelta]
    simp only [List.any_eq_true, Bool.and_eq_true, beq_iff_eq] at hpublished
    obtain ⟨row, hrow, ⟨hrun, htype⟩, hid⟩ := hpublished
    exact ⟨row, hrow, hrun, htype, hid⟩
  · have hother := List.all_eq_true.1 hnone row hrow
    simp [htype] at hother
  · rw [honly d hd, honly e he]

omit [CharacterDatabase] in
/-- Another run of the project cannot read it. -/
theorem knowledge_read_other_run :
    letI := asciiDatabase
    Follows (.ok (sampleEpoch 0)) "other" "worker" 0 ⟨sampleStore, fun _ => none⟩ [] ∧
      (∀ all, KnowledgeReader.publishedDeltas sampleStore.toEventLog = .ok all →
        FreshStamps sampleStore.toEventLog sampleAcknowledgement
          (deltasAfter (lastSeen 0 []) all).length) ∧
      ¬ CompleteRead sampleStore sampleAcknowledgement "other" "worker" 0 false [] := by
  let := asciiDatabase
  obtain ⟨-, -, -, -, -, hfails⟩ := sampleStore_facts
  refine ⟨follows_sampleStore "other" "worker", freshStamps_sampleStore, ?_⟩
  rintro ⟨all, deltas, t', -, hread, -⟩
  have hsome := congrArg (fun result => result.2.toOption.isNone) hread
  have hcontradiction := hfails.symm.trans hsome
  simp [Except.toOption] at hcontradiction

end Aizim.Orchestration
