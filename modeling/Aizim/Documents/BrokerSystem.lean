import Mathlib.Data.List.Sections
import Aizim.Documents.BrokerOperations

/-!
# The brokers of a project

`document_store_safe` carries the invariant over whole runs: any number of brokers work on
the store, the other operations of the state service come between their calls, every call to the
system may fail before or after its effect, and the process may die after any write of any call.  The
runs are those in which no lease is released while an edit of its document is prepared, which
`release_lease` does not check; `idle_of_compensated` says that every run is one as long as no
`compare_and_swap` reports that its compensation has raised.

The other results say what a call does in a world of such a run: recovery settles what the processes
before left, and completes when no call fails; `create_document`, `read_document` and
`compare_and_swap` take effect as a whole or leave the leases and documents as they were.
-/

namespace Aizim.Documents

open Domain State Knowledge Stretch TransitionSystem

variable [CharacterDatabase] {smoke : Bool}

/-! ## Runs -/

/-- A broker runs a stretch. -/
def BrokerWorld.run {α : Type} (w : BrokerWorld) (broker : ℕ) (draws : ℕ → BrokerDraw)
    (x : BrokerM α) : Outcome (Drawing BrokerState BrokerDraw) BrokerFault α :=
  x ⟨⟨w.store, w.brokers broker⟩, draws⟩

/-- The world after a call of a broker. -/
def BrokerWorld.after (smoke : Bool) (w : BrokerWorld) (broker : ℕ) (call : BrokerCall)
    (draws : ℕ → BrokerDraw) : BrokerWorld :=
  let outcome := w.run broker draws (call.stretch smoke)
  ⟨outcome.state.state.store, Function.update w.brokers broker outcome.state.state.memory⟩

lemma BrokerStep.after (w : BrokerWorld) (broker : ℕ) (call : BrokerCall)
    (draws : ℕ → BrokerDraw) :
    BrokerStep smoke w (.call broker call draws) (w.after smoke broker call draws) :=
  .call w broker call draws

/-- No lease is released while an edit of its document is prepared; a broker that has not recovered
does so first. -/
def ReleasesIdle (w : BrokerWorld) : BrokerAction → Prop
  | .call broker (.releaseLease _ _ leaseId) _ | .die broker (.releaseLease _ _ leaseId) =>
    (w.brokers broker).recovered = true → ∀ id d, w.store.view.documents id = some d →
      d.leaseId = leaseId → d.preparedEventId = none
  | _ => True

/-- The runs in which no lease is released while an edit of its document is prepared. -/
def idleBrokerSystem (smoke : Bool) : TransitionSystem BrokerWorld BrokerAction :=
  (brokerSystem smoke).restrict ReleasesIdle

/-- Whether a call is a `compare_and_swap`. -/
def BrokerCall.swaps : BrokerCall → Bool
  | compareAndSwap .. => true
  | _ => false

/-- No `compare_and_swap` reports that its compensation has raised. -/
def Compensates (smoke : Bool) (w : BrokerWorld) : BrokerAction → Prop
  | .call broker call draws => call.swaps = true →
    (w.run broker draws (call.stretch smoke)).result ≠ .error (.broker "DOCUMENT_RECOVERY_FAILED")
  | _ => True

/-- The runs in which every compensation succeeds, unless the process dies first. -/
def compensatedBrokerSystem (smoke : Bool) : TransitionSystem BrokerWorld BrokerAction :=
  (brokerSystem smoke).restrict (Compensates smoke)

/-- Every call keeps the invariant in every state that it saves, and prepares no edit that it leaves
prepared, unless it is a `compare_and_swap` whose compensation raises. -/
lemma ensures_brokerCall {s : BrokerState} (h : BrokerInvariant smoke s.store) (call : BrokerCall)
    (hidle : ∀ runId workerId leaseId, call = .releaseLease runId workerId leaseId →
      s.memory.recovered = true → ∀ id d, s.store.view.documents id = some d →
        d.leaseId = leaseId → d.preparedEventId = none) :
    (call.stretch smoke).Ensures (Ready False) (fun u => BrokerInvariant smoke u.store)
      (fun _ u => BrokerInvariant smoke u.store ∧ Quiet s u)
      (fun e u => BrokerInvariant smoke u.store ∧
        (call.swaps = false ∨ e ≠ .broker "DOCUMENT_RECOVERY_FAILED" → Quiet s u)) s := by
  cases call with
  | recover =>
    refine (ensures_ensureRecovered h (False.elim ·)).mono (fun _ h => h) ?_ ?_
    · rintro _ u ⟨hu, -, hrecovered⟩
      exact ⟨hu, .of_recovered hrecovered (.of_documents rfl)⟩
    · rintro _ u ⟨hu, hs, hfailed, hedits, -⟩
      exact ⟨hu, fun _ => (Unchanged.of_failed hs hfailed hedits).toQuiet⟩
  | createDocument =>
    exact Ensures.bind ((ensures_createDocument h _ _ _ _ _).mono (fun _ h => h)
      (fun _ _ h => ensures_pure ⟨h.1, h.2.1⟩) fun _ _ h => ⟨h.1, fun _ => h.2.toQuiet⟩)
  | readDocument =>
    exact Ensures.bind ((ensures_readDocument h _ _ _ _).mono (fun _ h => h)
      (fun _ _ h => ensures_pure ⟨h.1, h.2.1.1⟩) fun _ _ h => ⟨h.1, fun _ => h.2.1⟩)
  | compareAndSwap =>
    refine Ensures.bind ((ensures_compareAndSwap h _ _ _ _ _ _ _).mono (fun _ h => h)
      (fun _ _ h => ensures_pure ⟨h.1, h.2.1⟩) fun e u hu => ⟨hu.1, fun hcause => ?_⟩)
    exact (hu.2 (hcause.resolve_left (by simp [BrokerCall.swaps]))).toQuiet
  | releaseLease runId workerId leaseId =>
    exact (ensures_releaseLease h (hidle runId workerId leaseId rfl)).mono (fun _ h => h)
      (fun _ _ h => h) fun _ _ h => ⟨h.1, fun _ => h.2⟩
  | trustedRuntimeDocument =>
    exact Ensures.bind ((ensures_trustedRuntimeDocument h _ _ _ _).mono (fun _ h => h)
      (fun _ _ h => ensures_pure ⟨h.1, h.2.toQuiet⟩) fun _ _ h => ⟨h.1, fun _ => h.2.toQuiet⟩)

/-- One step keeps the invariant. -/
lemma BrokerInvariant.step {w w' : BrokerWorld} {a : BrokerAction}
    (h : BrokerInvariant smoke w.store) (hstep : BrokerStep smoke w a w')
    (hidle : ReleasesIdle w a) : BrokerInvariant smoke w'.store := by
  have hready : ∀ (s : BrokerState) (draws : ℕ → BrokerDraw), Ready False s draws :=
    fun _ _ => False.elim
  cases hstep with
  | call broker call draws =>
    have hcall := ensures_brokerCall (s := ⟨w.store, w.brokers broker⟩) h call
      (by rintro _ _ _ rfl; exact hidle)
    cases hresult : (call.stretch smoke ⟨⟨w.store, w.brokers broker⟩, draws⟩).result with
    | ok a => exact (hcall.ok (hready _ _) hresult).1
    | error e => exact (hcall.error (hready _ _) hresult).1
  | dieIdle => exact h
  | die broker call draws saved =>
    have hcall := ensures_brokerCall (s := ⟨w.store, w.brokers broker⟩) h call
      (by rintro _ _ _ rfl; exact hidle)
    exact hcall.saved (hready _ _) saved
  | operation other => exact h.operation other

/-! ## Recovering -/

/-- A new broker recovers when no call fails and there are ids left. -/
lemma recover_of_calm {s : BrokerState} (h : BrokerInvariant smoke s.store)
    (hfresh : s.memory = .fresh) {draws : ℕ → BrokerDraw} (hcalm : Calm draws)
    (hroom : RoomToRecover s.store.tables) : (ensureRecovered smoke ⟨s, draws⟩).result = .ok () := by
  have htidy : Tidy smoke s := by
    refine ⟨h.folded, fun _ _ hpath => ?_⟩
    rw [hfresh] at hpath
    exact absurd hpath List.not_mem_nil
  have hrecover := ensures_ensureRecovered h fun _ : True => ⟨htidy, hroom⟩
  cases hresult : (ensureRecovered smoke ⟨s, draws⟩).result with
  | ok a => rfl
  | error e =>
    obtain ⟨-, -, -, -, hrough⟩ := hrecover.error (fun _ => hcalm) hresult
    exact absurd trivial hrough

/-! ## A sample -/

/-- The first id that is not in the log. -/
def nextUlid (t : Tables) : String :=
  (((List.replicate 26 ulidAlphabet).sections.map String.ofList).find?
    fun id => id ∉ t.events.map (·.eventId)).getD ""

omit [CharacterDatabase] in
lemma mem_sections_ulid {cs : List Char} {n : ℕ} :
    cs ∈ (List.replicate n ulidAlphabet).sections ↔
      cs.length = n ∧ ∀ c ∈ cs, c ∈ ulidAlphabet := by
  rw [List.mem_sections]
  induction n generalizing cs with
  | zero => cases cs <;> simp
  | succ n ih =>
    cases cs with
    | nil => simp [List.replicate_succ]
    | cons c cs =>
      rw [List.replicate_succ, List.forall₂_cons, ih]
      simp only [List.length_cons, Nat.add_right_cancel_iff, List.forall_mem_cons]
      tauto

omit [CharacterDatabase] in
lemma nextUlid_spec {t : Tables} (h : IdLeft t) :
    isUlid (nextUlid t) = true ∧ nextUlid t ∉ t.events.map (·.eventId) := by
  obtain ⟨id, hulid, hnew⟩ := h
  have hmem : id ∈ (List.replicate 26 ulidAlphabet).sections.map String.ofList := by
    refine List.mem_map.2 ⟨id.toList, mem_sections_ulid.2 ?_, String.ofList_toList⟩
    simpa [isUlid] using hulid
  cases hfound : ((List.replicate 26 ulidAlphabet).sections.map String.ofList).find?
      fun id => id ∉ t.events.map (·.eventId) with
  | none =>
    have hall := List.find?_eq_none.1 hfound id hmem
    simp only [decide_eq_true_eq, not_not] at hall
    exact absurd hall hnew
  | some found =>
    have hid : nextUlid t = found := by rw [nextUlid, hfound, Option.getD_some]
    obtain ⟨cs, hcs, rfl⟩ := List.mem_map.1 (List.mem_of_find?_eq_some hfound)
    rw [hid]
    have hleft := List.find?_some hfound
    refine ⟨?_, by simpa using hleft⟩
    obtain ⟨hlength, hchars⟩ := mem_sections_ulid.1 hcs
    simpa [isUlid, hlength] using hchars

/-- The time in the sample. -/
def brokerTime : Datetime := ⟨2026, 1, 1, 12, 0, 0, 0, datetimeValid_noon⟩

omit [CharacterDatabase] in
lemma isSha256_zeros :
    isSha256 "0000000000000000000000000000000000000000000000000000000000000000" = true := by
  decide

/-- The epochs in the sample. -/
def brokerEpoch : EpochPair :=
  ⟨"0000000000000000000000000000000000000000000000000000000000000000", 0, isSha256_zeros⟩

/-- Calm weather at one time. -/
def calmDraws : ℕ → BrokerDraw := fun _ =>
  ⟨.fair, fun t => ⟨nextUlid t, brokerTime⟩, brokerTime, "", brokerTime, [], ""⟩

omit [CharacterDatabase] in
lemma calm_calmDraws : Calm calmDraws :=
  ⟨fun _ => rfl, fun _ _ h => nextUlid_spec h⟩

omit [CharacterDatabase] in
lemma roomToRecover_initial : RoomToRecover BrokerWorld.initial.store.tables := by
  intro documents leases hdocuments hleases
  obtain ⟨documents', hdocuments', hmem, -⟩ :=
    preparedDocuments_eq_ok documentInvariant_initial.decodes
  obtain ⟨leases', hleases', hlmem, -⟩ := activeLeases_eq_ok documentInvariant_initial.decodes
  obtain rfl := Except.ok.inj (hdocuments.symm.trans hdocuments')
  obtain rfl := Except.ok.inj (hleases.symm.trans hleases')
  obtain rfl : documents = [] := List.eq_nil_iff_forall_not_mem.2 fun d hd => by
    have hfound := ((hmem d).1 hd).1
    rw [show documentView initialTables.projections = BrokerWorld.initial.store.view from rfl,
      (view_initial _).1] at hfound
    cases hfound
  obtain rfl : leases = [] := List.eq_nil_iff_forall_not_mem.2 fun l hl => by
    have hfound := ((hlmem l).1 hl).1
    rw [show documentView initialTables.projections = BrokerWorld.initial.store.view from rfl,
      (view_initial _).2] at hfound
    cases hfound
  exact Nat.zero_le _

/-- A new project whose first broker has recovered. -/
def recoveredWorld : BrokerWorld :=
  let outcome := BrokerCall.recover.stretch false ⟨⟨BrokerWorld.initial.store, .fresh⟩, calmDraws⟩
  ⟨outcome.state.state.store,
    Function.update BrokerWorld.initial.brokers 0 outcome.state.state.memory⟩

lemma reachable_recoveredWorld : (idleBrokerSystem false).Reachable recoveredWorld :=
  (Reachable.of_initial (S := idleBrokerSystem false) rfl).step
    ⟨.call .initial 0 .recover calmDraws, trivial⟩

lemma compensated_recoveredWorld : (compensatedBrokerSystem false).Reachable recoveredWorld :=
  (Reachable.of_initial (S := compensatedBrokerSystem false) rfl).step
    ⟨.call .initial 0 .recover calmDraws, by simp [Compensates, BrokerCall.swaps]⟩

/-- What the calls of the sample take: ids for the events by their number, and other ids by the number
of the call. -/
def sampleDraws : ℕ → BrokerDraw := fun n =>
  ⟨.fair, fun t => ⟨String.ofList (List.replicate 25 '0' ++ (ulidAlphabet[t.events.length]?).toList),
    brokerTime⟩, brokerTime, if n % 2 = 1 then "lease" else "document",
    ⟨2026, 1, 2, 12, 0, 0, 0, datetimeValid_noon⟩, [], brokerEpoch.baseEpoch⟩

/-- The start of a project. -/
def startProject : StateOp :=
  .appendEvent ⟨"0000000000000000000000000Z", brokerTime⟩
    ⟨"ProjectInitialized", "operator", none, none, [("project_id", .str "project"),
      ("base_epoch", .str brokerEpoch.baseEpoch), ("knowledge_epoch", .int 0)]⟩

/-- A project that has started, whose first broker has recovered. -/
def startedWorld : BrokerWorld :=
  letI := asciiDatabase
  ⟨⟨startProject.exec recoveredWorld.store.tables, recoveredWorld.store.files,
    recoveredWorld.store.snapshots⟩, recoveredWorld.brokers⟩

/-- The document of the sample. -/
def createSample : BrokerCall :=
  .createDocument "run" "worker" (workerPath false "run" "worker") [] brokerEpoch

/-- A project with a document, whose first broker has recovered. -/
def documentWorld : BrokerWorld :=
  letI := asciiDatabase
  startedWorld.after false 0 createSample sampleDraws

/-- The first edit of the document of the sample. -/
def swapSample : BrokerCall :=
  .compareAndSwap "run" "worker" "lease" "document" 0 (sha256Bytes []) [97]

/-- The project after the edit of its document. -/
def swappedWorld : BrokerWorld :=
  letI := asciiDatabase
  documentWorld.after false 0 swapSample sampleDraws

omit [CharacterDatabase] in
lemma startedWorld_step : letI := asciiDatabase
    BrokerStep false recoveredWorld (.operation startProject) startedWorld :=
  letI := asciiDatabase
  .operation recoveredWorld rfl

omit [CharacterDatabase] in
lemma documentWorld_step : letI := asciiDatabase
    BrokerStep false startedWorld (.call 0 createSample sampleDraws) documentWorld :=
  letI := asciiDatabase
  .after startedWorld 0 createSample sampleDraws

omit [CharacterDatabase] in
lemma reachable_startedWorld : letI := asciiDatabase
    (idleBrokerSystem false).Reachable startedWorld :=
  letI := asciiDatabase
  reachable_recoveredWorld.step ⟨startedWorld_step, trivial⟩

omit [CharacterDatabase] in
lemma reachable_documentWorld : letI := asciiDatabase
    (idleBrokerSystem false).Reachable documentWorld :=
  letI := asciiDatabase
  reachable_startedWorld.step ⟨documentWorld_step, trivial⟩

omit [CharacterDatabase] in
lemma startedWorld_facts : letI := asciiDatabase
    (startedWorld.brokers 0).recovered = true ∧
      (startedWorld.run 0 sampleDraws (createDocument false "run" "worker"
        (workerPath false "run" "worker") [] brokerEpoch)).result.toOption.isSome = true := by
  decide +kernel

omit [CharacterDatabase] in
lemma documentWorld_facts : letI := asciiDatabase
    (documentWorld.brokers 0).recovered = true ∧
      (documentWorld.store.view.documents "document").isSome = true ∧
      (documentWorld.run 0 sampleDraws (readDocument false "run" "worker" "lease"
        "document")).result.toOption.isSome = true ∧
      (documentWorld.run 0 sampleDraws (compareAndSwap false "run" "worker" "lease" "document" 0
        (sha256Bytes []) [97])).result.toOption.isSome = true := by
  decide +kernel

omit [CharacterDatabase] in
lemma swappedWorld_facts : letI := asciiDatabase
    (swappedWorld.brokers 0).recovered = true ∧
      (documentWorld.run 0 sampleDraws (swapSample.stretch false)).result.toOption.isSome = true := by
  decide +kernel

omit [CharacterDatabase] in
lemma reachable_swappedWorld : letI := asciiDatabase
    (compensatedBrokerSystem false).Reachable swappedWorld := by
  let := asciiDatabase
  have hcreated : (compensatedBrokerSystem false).Reachable documentWorld :=
    (compensated_recoveredWorld.step ⟨startedWorld_step, trivial⟩).step
      ⟨documentWorld_step, fun hswaps => by cases hswaps⟩
  refine hcreated.step ⟨.after _ 0 swapSample sampleDraws, fun _ herror => ?_⟩
  have hok := swappedWorld_facts.2
  rw [herror] at hok
  cases hok

attribute [irreducible] startedWorld documentWorld swappedWorld

/-! ## Safety -/

/-- The invariant holds in every world of a run. -/
lemma brokerInvariant_of_reachable {w : BrokerWorld} (h : (idleBrokerSystem smoke).Reachable w) :
    BrokerInvariant smoke w.store := by
  refine Reachable.invariant (S := idleBrokerSystem smoke)
    (P := fun v => BrokerInvariant smoke v.store) ?_ ?_ h
  · rintro _ rfl
    exact brokerInvariant_initial smoke
  · rintro _ _ _ hv ⟨hstep, hidle⟩
    exact hv.step hstep hidle

/-- **Safety of the document store**: however brokers, crashes and other operations interleave, the
content of every document is stored under its hash, and an active lease has its document, with a file
that holds the content unless an edit of the document is prepared. -/
theorem document_store_safe {w : BrokerWorld} (h : (idleBrokerSystem smoke).Reachable w) :
    (∀ id d, w.store.view.documents id = some d →
      ∃ body, w.store.snapshots d.runId d.contentHash = some ⟨body, 0o600⟩ ∧
        sha256Bytes body = d.contentHash) ∧
    ∀ id l, w.store.view.leases id = some l → l.active = true →
      ∃ d file, w.store.view.documents l.documentId = some d ∧ d.leaseId = l.leaseId ∧
        w.store.file d.runId d.relativePath = some file ∧
        (d.preparedEventId = none → sha256Bytes file.body = d.contentHash) := by
  have hinv := brokerInvariant_of_reachable h
  constructor
  · intro id d hd
    obtain ⟨body, hbody, hstored⟩ := hinv.stores id d hd
    exact ⟨body, hstored, hbody⟩
  · intro id l hl hactive
    obtain ⟨d, hd, hkept⟩ := hinv.leased id l hl hactive
    obtain ⟨file, hfile⟩ := Option.isSome_iff_exists.1 hkept.file
    refine ⟨d, file, hd, hkept.leaseId, hfile, fun hidle => ?_⟩
    obtain ⟨file', hfile', hbody⟩ := hkept.holds hidle
    obtain rfl := Option.some.inj (hfile.symm.trans hfile')
    exact hbody

omit [CharacterDatabase] in
/-- The document of the sample has a snapshot. -/
theorem document_store_safe_sample : letI := asciiDatabase
    ∃ d body, documentWorld.store.view.documents "document" = some d ∧
      documentWorld.store.snapshots d.runId d.contentHash = some ⟨body, 0o600⟩ := by
  let := asciiDatabase
  obtain ⟨d, hd⟩ := Option.isSome_iff_exists.1 documentWorld_facts.2.1
  obtain ⟨body, hstored, -⟩ := (document_store_safe reachable_documentWorld).1 _ d hd
  exact ⟨d, body, hd, hstored⟩

/-! ## Prepared edits -/

/-- One step leaves no edit prepared in a process that has a broker that has recovered. -/
lemma idle_step {w w' : BrokerWorld} {a : BrokerAction} (h : BrokerInvariant smoke w.store)
    (hidle : ∀ broker, (w.brokers broker).recovered = true → w.store.Idle)
    (hstep : BrokerStep smoke w a w') (hcompensates : Compensates smoke w a) :
    ∀ broker, (w'.brokers broker).recovered = true → w'.store.Idle := by
  cases hstep with
  | call broker call draws =>
    have hcall := ensures_brokerCall (s := ⟨w.store, w.brokers broker⟩) h call
      fun _ _ _ _ hs id d hd _ => hidle broker hs id d hd
    have hquiet : Quiet ⟨w.store, w.brokers broker⟩
        (w.run broker draws (call.stretch smoke)).state.state := by
      cases hresult : (w.run broker draws (call.stretch smoke)).result with
      | ok a => exact (hcall.ok (False.elim ·) hresult).2
      | error e =>
        refine (hcall.error (False.elim ·) hresult).2 ?_
        cases hswaps : call.swaps with
        | false => exact .inl rfl
        | true => exact .inr fun he => hcompensates hswaps (by rw [hresult, he])
    intro other hother
    by_cases hsame : other = broker
    · subst hsame
      cases hs : (w.brokers other).recovered with
      | true => exact (hidle other hs).of_edits hquiet.edits
      | false => exact hquiet.idle hs (by simpa [BrokerWorld.run] using hother)
    · exact (hidle other (by simpa [hsame] using hother)).of_edits hquiet.edits
  | dieIdle | die =>
    intro other hother
    simp [BrokerMemory.fresh] at hother
  | operation other =>
    intro broker hrecovered id d hd
    have hview := h.view_operation other
    exact hidle broker hrecovered id d (hview ▸ hd)

/-- **No edit stays prepared**: as long as no `compare_and_swap` reports that its compensation has
raised, a process in which some broker has recovered has no prepared edit between two calls, so every
run is one in which leases are released without a prepared edit. -/
theorem idle_of_compensated {w : BrokerWorld} (h : (compensatedBrokerSystem smoke).Reachable w) :
    (idleBrokerSystem smoke).Reachable w ∧
      ∀ broker, (w.brokers broker).recovered = true → w.store.Idle := by
  refine Reachable.invariant (S := compensatedBrokerSystem smoke)
    (P := fun v => (idleBrokerSystem smoke).Reachable v ∧
      ∀ broker, (v.brokers broker).recovered = true → v.store.Idle) ?_ ?_ h
  · rintro _ rfl
    exact ⟨.of_initial rfl, fun _ hrecovered => by cases hrecovered⟩
  · rintro v a v' ⟨hv, hidle⟩ ⟨hstep, hcompensates⟩
    refine ⟨hv.step ⟨hstep, ?_⟩, idle_step (brokerInvariant_of_reachable hv) hidle hstep hcompensates⟩
    cases a with
    | call broker call draws =>
      cases call
      case releaseLease => exact fun hrecovered id d hd _ => hidle broker hrecovered id d hd
      all_goals trivial
    | die broker call =>
      cases call
      case releaseLease => exact fun hrecovered id d hd _ => hidle broker hrecovered id d hd
      all_goals trivial
    | operation => trivial

omit [CharacterDatabase] in
/-- After the edit of the sample no edit is prepared. -/
theorem idle_of_compensated_sample : letI := asciiDatabase
    swappedWorld.store.Idle := by
  let := asciiDatabase
  exact (idle_of_compensated reachable_swappedWorld).2 0 swappedWorld_facts.1

/-! ## Calls -/

/-- **`create_document`** of a broker that has recovered adds a lease at version zero with its
document and a file that holds the content, or it raises and leaves the leases and documents as they
were. -/
theorem createDocument_atomic {w : BrokerWorld} (h : (idleBrokerSystem smoke).Reachable w)
    {broker : ℕ} (hrecovered : (w.brokers broker).recovered = true) (draws : ℕ → BrokerDraw)
    (runId workerId : String) (relative : PosixPath) (content : Bytes)
    (epochPair : EpochPair) :
    let outcome := w.run broker draws
      (createDocument smoke runId workerId relative content epochPair)
    (∀ lease, outcome.result = .ok lease →
      (lease.runId = runId ∧ lease.workerId = workerId ∧ lease.epochPair = epochPair ∧
        lease.fileVersion = 0 ∧ lease.contentHash = sha256Bytes content) ∧
      outcome.state.state.store.file runId relative = some ⟨content, 0o600⟩ ∧
      outcome.state.state.store.view =
        ⟨Function.update w.store.view.leases lease.leaseId (some (grantedLease lease relative)),
          Function.update w.store.view.documents lease.documentId
            (some ((grantedLease lease relative).document none))⟩) ∧
    ∀ e, outcome.result = .error e → outcome.state.state.store.view = w.store.view := by
  intro outcome
  have hcreate := ensures_createDocument (s := ⟨w.store, w.brokers broker⟩)
    (brokerInvariant_of_reachable h) runId workerId relative content epochPair
  constructor
  · intro lease hlease
    obtain ⟨-, -, hmade, hfile, hview⟩ := hcreate.ok (False.elim ·) hlease
    exact ⟨hmade, hfile, hview hrecovered⟩
  · intro e he
    exact (hcreate.error (False.elim ·) he).2.view hrecovered

omit [CharacterDatabase] in
/-- The document of the sample is created. -/
theorem createDocument_atomic_sample : letI := asciiDatabase
    let outcome := startedWorld.run 0 sampleDraws (createDocument false "run" "worker"
      (workerPath false "run" "worker") [] brokerEpoch)
    ∃ lease, outcome.result = .ok lease ∧ lease.fileVersion = 0 ∧
      outcome.state.state.store.file "run" (workerPath false "run" "worker") =
        some ⟨[], 0o600⟩ := by
  let := asciiDatabase
  intro outcome
  obtain ⟨lease, hlease⟩ := Option.isSome_iff_exists.1 startedWorld_facts.2
  obtain ⟨⟨-, -, -, hversion, -⟩, hfile, -⟩ := (createDocument_atomic reachable_startedWorld
    startedWorld_facts.1 sampleDraws "run" "worker" (workerPath false "run" "worker") []
    brokerEpoch).1 lease (toOption_eq_some.1 hlease)
  exact ⟨lease, toOption_eq_some.1 hlease, hversion, hfile⟩

/-- **`compare_and_swap`** of a broker that has recovered replaces the content of the document at the
version and hash that the caller expects and counts the version up, in the tables and in the file; or
it raises and leaves the leases and documents as they were, unless the compensation raises. -/
theorem compareAndSwap_atomic {w : BrokerWorld} (h : (idleBrokerSystem smoke).Reachable w)
    {broker : ℕ} (hrecovered : (w.brokers broker).recovered = true) (draws : ℕ → BrokerDraw)
    (runId workerId leaseId documentId : String) (expectedVersion : Int)
    (expectedHash : String) (replacement : Bytes) :
    let outcome := w.run broker draws (compareAndSwap smoke runId workerId leaseId documentId
      expectedVersion expectedHash replacement)
    (∀ snapshot, outcome.result = .ok snapshot →
      ∃ d, w.store.view.documents documentId = some d ∧ (d.fileVersion : Int) = expectedVersion ∧
        d.contentHash = expectedHash ∧ outcome.state.state.store.view = ⟨w.store.view.leases,
          Function.update w.store.view.documents documentId
            (some (committed d (sha256Bytes replacement)))⟩ ∧
        outcome.state.state.store.file d.runId d.relativePath = some ⟨replacement, 0o600⟩ ∧
        snapshot.content = replacement ∧ snapshot.fileVersion = d.fileVersion + 1) ∧
    ∀ e, outcome.result = .error e → e ≠ .broker "DOCUMENT_RECOVERY_FAILED" →
      outcome.state.state.store.view = w.store.view ∧
        BrokerInvariant smoke outcome.state.state.store := by
  intro outcome
  have hswap := ensures_compareAndSwap (s := ⟨w.store, w.brokers broker⟩)
    (brokerInvariant_of_reachable h) runId workerId leaseId documentId expectedVersion expectedHash
    replacement
  constructor
  · intro snapshot hsnapshot
    exact (hswap.ok (False.elim ·) hsnapshot).2.2 hrecovered
  · intro e he hne
    obtain ⟨hinv, hunchanged⟩ := hswap.error (False.elim ·) he
    exact ⟨(hunchanged hne).view hrecovered, hinv⟩

omit [CharacterDatabase] in
/-- The document of the sample is replaced. -/
theorem compareAndSwap_atomic_sample : letI := asciiDatabase
    let outcome := documentWorld.run 0 sampleDraws (compareAndSwap false "run" "worker" "lease"
      "document" 0 (sha256Bytes []) [97])
    ∃ snapshot d, outcome.result = .ok snapshot ∧ snapshot.content = [97] ∧
      outcome.state.state.store.view.documents "document" =
        some (committed d (sha256Bytes [97])) := by
  let := asciiDatabase
  intro outcome
  obtain ⟨snapshot, hsnapshot⟩ := Option.isSome_iff_exists.1 documentWorld_facts.2.2.2
  obtain ⟨d, -, -, -, hview, -, hcontent, -⟩ := (compareAndSwap_atomic reachable_documentWorld
    documentWorld_facts.1 sampleDraws "run" "worker" "lease" "document" 0 (sha256Bytes []) [97]).1
    snapshot (toOption_eq_some.1 hsnapshot)
  refine ⟨snapshot, d, toOption_eq_some.1 hsnapshot, hcontent, ?_⟩
  change outcome.state.state.store.view = _ at hview
  simp [hview]

end Aizim.Documents
