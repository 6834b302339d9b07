import Mathlib.Data.Fintype.BigOperators
import Aizim.Documents.Broker

/-!
# What the storage does

For each function of the storage one lemma says which file it may change and what it leaves there,
whatever the weather.  `FileStep` is what they all keep: the tables, the files at other paths, the
snapshots that are stored, and that no two names of a directory differ in case only.

When the weather is calm, a function whose document is canonical, registered beside other documents
with files, and stored as a snapshot does not raise: the lemmas that recovery rests on have `¬calm`
in the condition of their exceptions.
-/

namespace Aizim.Documents

open Domain State Knowledge Stretch

/-! ## Paths of documents -/

lemma isIdentifier_chars {value : String} (h : isIdentifier value = true) :
    value.toList ≠ [] ∧ ∀ c ∈ value.toList, isIdentifierRest c || c == '-' := by
  unfold isIdentifier fullmatchIdentifier at h
  cases hv : value.toList with
  | nil => simp [hv] at h
  | cons c cs =>
    rw [hv] at h
    simp only [Bool.and_eq_true, Bool.or_eq_true, decide_eq_true_eq, List.all_eq_true] at h
    refine ⟨by simp, fun d hd => ?_⟩
    rcases List.mem_cons.1 hd with rfl | hd
    · simp only [isIdentifierRest, isIdentifierStart, Bool.or_eq_true]
      rcases h.1.1 with h | h <;> simp [h]
    · simpa using h.2 d hd

/-- An identifier holds none of these characters. -/
lemma notMem_of_isIdentifier {value : String} (h : isIdentifier value = true) {c : Char}
    (hc : (isIdentifierRest c || c == '-') = false) : c ∉ value.toList := by
  intro hmem
  rw [(isIdentifier_chars h).2 c hmem] at hc
  simp at hc

lemma ne_of_isIdentifier {value : String} (h : isIdentifier value = true) : value ≠ "" := by
  rintro rfl
  exact absurd h (by decide)

/-- The components of the path of a worker. -/
def workerParts (smoke : Bool) (runId workerId : String) : List (List Char) :=
  [(if smoke then "AizimSmoke" else "AizimResearch").toList, "Workers".toList, runId.toList,
    workerId.toList ++ ".lean".toList]

lemma isPathPart_of_chars {part : List Char} (hne : part ≠ []) (hslash : '/' ∉ part)
    (hdot : part ≠ ['.']) : isPathPart part = true := by
  simp [isPathPart, hne, hslash, hdot]

lemma workerParts_valid {smoke : Bool} {runId workerId : String} (hrun : isIdentifier runId = true)
    (hworker : isIdentifier workerId = true) :
    ∀ part ∈ workerParts smoke runId workerId, isPathPart part = true := by
  have hrunSlash : '/' ∉ runId.toList := notMem_of_isIdentifier hrun (by decide)
  have hrunDot : '.' ∉ runId.toList := notMem_of_isIdentifier hrun (by decide)
  have hworkerSlash : '/' ∉ workerId.toList := notMem_of_isIdentifier hworker (by decide)
  have hrunPart : isPathPart runId.toList = true :=
    isPathPart_of_chars (isIdentifier_chars hrun).1 hrunSlash fun h => by simp [h] at hrunDot
  have hworkerPart : isPathPart (workerId.toList ++ ".lean".toList) = true := by
    refine isPathPart_of_chars (by simp) (by simpa using hworkerSlash) fun h => ?_
    have hlength := congrArg List.length h
    simp at hlength
  intro part hpart
  simp only [workerParts, List.mem_cons, List.not_mem_nil, or_false] at hpart
  rcases hpart with rfl | rfl | rfl | rfl
  · cases smoke <;> decide
  · decide
  · exact hrunPart
  · exact hworkerPart

/-- The path of a worker is relative and has these components. -/
lemma workerPath_eq {smoke : Bool} {runId workerId : String} (hrun : isIdentifier runId = true)
    (hworker : isIdentifier workerId = true) :
    workerPath smoke runId workerId =
      ⟨.relative, workerParts smoke runId workerId, workerParts_valid hrun hworker⟩ := by
  have htext : PosixPath.asPosix
      ⟨.relative, workerParts smoke runId workerId, workerParts_valid hrun hworker⟩ =
      String.intercalate "/" [if smoke then "AizimSmoke" else "AizimResearch", "Workers", runId,
        workerId ++ ".lean"] := by
    rw [PosixPath.asPosix, PosixPath.posixChars, if_neg (by simp [workerParts])]
    refine String.toList_inj.1 ?_
    simp [workerParts, PathRoot.chars]
  rw [workerPath, ← htext, PosixPath.ofText_asPosix]

/-- The document has the path of its worker. -/
structure Canonical (smoke : Bool) (runId workerId : String) (path : PosixPath) : Prop where
  runId_valid : isIdentifier runId = true
  workerId_valid : isIdentifier workerId = true
  path_eq : path = workerPath smoke runId workerId

namespace Canonical

variable {smoke : Bool} {runId workerId : String} {path : PosixPath}

lemma path_parts (h : Canonical smoke runId workerId path) :
    path = ⟨.relative, workerParts smoke runId workerId,
      workerParts_valid h.runId_valid h.workerId_valid⟩ :=
  h.path_eq.trans (workerPath_eq h.runId_valid h.workerId_valid)

lemma validateRelativePath_eq (h : Canonical smoke runId workerId path) :
    validateRelativePath path = .ok path := by
  have hrunDot : '.' ∉ runId.toList := notMem_of_isIdentifier h.runId_valid (by decide)
  have hrunNul : '\x00' ∉ runId.toList := notMem_of_isIdentifier h.runId_valid (by decide)
  have hworkerNul : '\x00' ∉ workerId.toList := notMem_of_isIdentifier h.workerId_valid (by decide)
  have hparts : ∀ part ∈ path.parts, part ≠ ['.', '.'] ∧ '\x00' ∉ part := by
    rw [h.path_parts]
    intro part hpart
    simp only [workerParts, List.mem_cons, List.not_mem_nil, or_false] at hpart
    rcases hpart with rfl | rfl | rfl | rfl
    · cases smoke <;> decide
    · decide
    · exact ⟨fun hdots => by simp [hdots] at hrunDot, hrunNul⟩
    · refine ⟨fun hdots => ?_, by simpa using hworkerNul⟩
      have hlength := congrArg List.length hdots
      simp at hlength
  have hroot : path.root = .relative := by rw [h.path_parts]
  have hne : path.parts ≠ [] := by rw [h.path_parts]; simp [workerParts]
  simp only [validateRelativePath, require_of hroot, require_of hne, require_of hparts, ok_bind]
  rfl

lemma canonicalDocument_eq (h : Canonical smoke runId workerId path) :
    canonicalDocument smoke runId workerId path = .ok path := by
  simp only [canonicalDocument, identifier, require_of h.runId_valid, require_of h.workerId_valid,
    h.validateRelativePath_eq, require_of h.path_eq, ok_bind]
  rfl

end Canonical

/-- Only the path of its worker is canonical. -/
lemma canonicalDocument_ok {smoke : Bool} {runId workerId : String} {relative path : PosixPath}
    (h : canonicalDocument smoke runId workerId relative = .ok path) :
    Canonical smoke runId workerId path := by
  simp only [canonicalDocument, identifier, bind_eq_ok, require_eq_ok, pure_eq_ok, exists_and_left,
    exists_const] at h
  obtain ⟨hrun, hworker, canonical, -, hpath, rfl⟩ := h
  exact ⟨hrun, hworker, hpath⟩

lemma validateDocument_eq {smoke : Bool} {document : DocumentState}
    (h : Canonical smoke document.runId document.workerId document.relativePath) :
    validateDocument smoke document = .ok () := by
  rw [validateDocument, h.canonicalDocument_eq]
  rfl

lemma casefold_append (cs ds : List Char) : casefold (cs ++ ds) = casefold cs ++ casefold ds :=
  List.map_append

/-- The characters of a canonical path: those of its directory and those of its name. -/
lemma Canonical.posixChars_eq {smoke : Bool} {runId workerId : String} {path : PosixPath}
    (h : Canonical smoke runId workerId path) :
    path.posixChars = ((if smoke then "AizimSmoke" else "AizimResearch").toList ++
      "/Workers/".toList ++ runId.toList ++ ['/']) ++ (workerId.toList ++ ".lean".toList) := by
  rw [h.path_parts, PosixPath.posixChars, if_neg fun hnil => by simp [workerParts] at hnil]
  simp [workerParts, PathRoot.chars, List.intercalate, List.intersperse]

/-- Two documents of a run whose paths differ in case only have names in one directory that do. -/
lemma Canonical.name_of_casefold {smoke : Bool} {runId v w : String} {p q : PosixPath}
    (hp : Canonical smoke runId v p) (hq : Canonical smoke runId w q)
    (h : casefold p.posixChars = casefold q.posixChars) :
    p.parts.dropLast = q.parts.dropLast ∧
      p.parts.getLast?.map casefold = q.parts.getLast?.map casefold := by
  rw [hp.posixChars_eq, hq.posixChars_eq] at h
  have hname : casefold (v.toList ++ ".lean".toList) = casefold (w.toList ++ ".lean".toList) := by
    rw [casefold_append _ (v.toList ++ _), casefold_append _ (w.toList ++ _)] at h
    exact List.append_cancel_left h
  rw [hp.path_parts, hq.path_parts]
  exact ⟨by simp [workerParts], by simpa [workerParts] using hname⟩

/-- Two canonical paths with one name are one path. -/
lemma Canonical.eq_of_name {smoke : Bool} {runId v w : String} {p q : PosixPath}
    (hp : Canonical smoke runId v p) (hq : Canonical smoke runId w q)
    (h : p.parts.getLast? = q.parts.getLast?) : p = q := by
  rw [hp.path_parts, hq.path_parts] at h ⊢
  have hname : v.toList ++ ".lean".toList = w.toList ++ ".lean".toList := by
    simpa [workerParts] using h
  have hworker : v = w := String.toList_inj.1 (List.append_cancel_right hname)
  subst hworker
  rfl

/-! ## Calm weather -/

/-- Some id of an event is not in the log. -/
def IdLeft (t : Tables) : Prop :=
  ∃ id, isUlid id = true ∧ id ∉ t.events.map (·.eventId)

/-- How many ids of events there are. -/
def ulidCount : ℕ := 32 ^ 26

/-- The id with these digits. -/
def ulidOf (digits : Fin 26 → Fin 32) : String :=
  String.ofList (List.ofFn fun i => ulidAlphabet.get (digits i))

lemma isUlid_ulidOf (digits : Fin 26 → Fin 32) : isUlid (ulidOf digits) = true := by
  simp only [isUlid, ulidOf, String.toList_ofList, List.length_ofFn, beq_self_eq_true,
    Bool.true_and, List.all_eq_true, List.contains_iff_mem]
  intro c hc
  obtain ⟨i, rfl⟩ := (List.mem_ofFn' _ _).1 hc
  exact List.get_mem ..

lemma ulidOf_injective : Function.Injective ulidOf := by
  have hdigits : Function.Injective ulidAlphabet.get :=
    List.nodup_iff_injective_get.1 (by decide)
  intro d e h
  have hchars := List.ofFn_injective (String.ofList_injective h)
  exact funext fun i => hdigits (congrFun hchars i)

/-- A log with fewer events than there are ids leaves one. -/
lemma idLeft_of_length {t : Tables} (h : t.events.length < ulidCount) : IdLeft t := by
  by_contra hnone
  have hall : ∀ digits, ulidOf digits ∈ (t.events.map (·.eventId)).toFinset := fun digits => by
    by_contra hnot
    exact hnone ⟨_, isUlid_ulidOf digits, fun hmem => hnot (List.mem_toFinset.2 hmem)⟩
  have hcard : Fintype.card (Fin 26 → Fin 32) ≤ (t.events.map (·.eventId)).toFinset.card :=
    Finset.card_le_card_of_injOn ulidOf (fun digits _ => hall digits) ulidOf_injective.injOn
  have hlength := List.toFinset_card_le (t.events.map (·.eventId))
  rw [List.length_map] at hlength
  simp only [Fintype.card_fun, Fintype.card_fin] at hcard
  exact absurd (hcard.trans hlength) (not_le.2 h)

/-- No call to the system fails, and an event gets a new id as long as one is left. -/
structure Calm (draws : ℕ → BrokerDraw) : Prop where
  fair : ∀ n, (draws n).weather = .fair
  stamped : ∀ n t, IdLeft t → isUlid ((draws n).stamp t).eventId = true ∧
    ((draws n).stamp t).eventId ∉ t.events.map (·.eventId)

/-- What the code takes from outside: anything, or what it takes in calm weather. -/
def Ready (calm : Prop) (_ : BrokerState) (draws : ℕ → BrokerDraw) : Prop :=
  calm → Calm draws

variable {calm : Prop}

lemma Ready.later {s u : BrokerState} {draws : ℕ → BrokerDraw} (h : Ready calm s draws) :
    Ready calm u (laterDraws draws) :=
  fun hcalm => ⟨fun n => (h hcalm).fair (n + 1), fun n => (h hcalm).stamped (n + 1)⟩

/-! ## Rules of the calls -/

section

variable {α : Type} {I : BrokerState → Prop} {Q : α → BrokerState → Prop}
  {E : BrokerFault → BrokerState → Prop} {s : BrokerState}

lemma ensures_check {x : Except BrokerFault α} (hok : ∀ a, x = .ok a → Q a s)
    (herror : ∀ e, x = .error e → E e s) : (check x).Ensures (Ready calm) I Q E s :=
  ensures_look hok herror

/-- A check that passes. -/
lemma ensures_check_of {x : Except BrokerFault α} {a : α} (hx : x = .ok a) (h : Q a s) :
    (check x).Ensures (Ready calm) I Q E s :=
  ensures_check (fun b hb => by rwa [← Except.ok.inj (hx.symm.trans hb)])
    fun e he => by rw [hx] at he; cases he

lemma ensures_observe {f : BrokerDraw → ProjectStore → Except BrokerFault α}
    (hok : ∀ draw a, f draw s.store = .ok a → Q a s)
    (herror : ∀ draw e, f draw s.store = .error e → E e s) (hweather : ¬ calm → ∀ e, E e s) :
    (observe f).Ensures (Ready calm) I Q E s := by
  refine ensures_call fun draws hdraws written result hreply => ?_
  have hlater : Ready calm s (laterDraws draws) := hdraws.later
  split at hreply
  · obtain ⟨rfl, rfl⟩ := Prod.mk.inj hreply
    refine ⟨by simp, hlater, ?_⟩
    cases hf : f (draws 0) s.store with
    | ok a => exact hok _ a hf
    | error e => exact herror _ e hf
  all_goals
    rename_i fault hfault
    obtain ⟨rfl, rfl⟩ := Prod.mk.inj hreply
    have hrough : ¬ calm := fun hcalm => by simpa [hfault] using (hdraws hcalm).fair 0
    exact ⟨by simp, hlater, hweather hrough _⟩

lemma ensures_effect {f : BrokerDraw → ProjectStore → Except BrokerFault ProjectStore}
    {Q : Unit → BrokerState → Prop}
    (hok : ∀ draw store, f draw s.store = .ok store → I ⟨store, s.memory⟩ ∧ Q () ⟨store, s.memory⟩ ∧ (¬ calm → ∀ e, E e ⟨store, s.memory⟩))
    (herror : ∀ draw e, f draw s.store = .error e → E e s) (hweather : ¬ calm → ∀ e, E e s) :
    (effect f).Ensures (Ready calm) I Q E s := by
  refine ensures_call fun draws hdraws written result hreply => ?_
  have hlater : Ready calm s (laterDraws draws) := hdraws.later
  have hrough : ∀ fault, (draws 0).weather = .refused fault ∨ (draws 0).weather = .late fault →
      ¬ calm := by
    rintro fault (hfault | hfault) hcalm <;> simpa [hfault] using (hdraws hcalm).fair 0
  split at hreply <;> obtain ⟨rfl, rfl⟩ := Prod.mk.inj hreply
  · rename_i store hfair hf
    obtain ⟨hI, hQ, -⟩ := hok _ store hf
    exact ⟨by simpa using hI, hlater, hQ⟩
  · rename_i fault hfair hf
    exact ⟨by simp, hlater, herror _ fault hf⟩
  · rename_i fault hfault
    exact ⟨by simp, hlater, hweather (hrough fault (.inl hfault)) _⟩
  · rename_i fault store hfault hf
    obtain ⟨hI, -, hE⟩ := hok _ store hf
    exact ⟨by simpa using hI, hlater, hE (hrough fault (.inr hfault)) _⟩
  · rename_i fault e hfault hf
    exact ⟨by simp, hlater, hweather (hrough fault (.inr hfault)) _⟩

lemma ensures_stateQuery {f : BrokerDraw → Tables → Except StoreError α}
    (hok : ∀ draw a, f draw s.store.tables = .ok a → Q a s)
    (herror : ∀ draw e, f draw s.store.tables = .error e → E (storeFault e) s)
    (hweather : ¬ calm → E .other s) : (stateQuery f).Ensures (Ready calm) I Q E s := by
  refine ensures_call fun draws hdraws written result hreply => ?_
  have hlater : Ready calm s (laterDraws draws) := hdraws.later
  split at hreply <;> obtain ⟨rfl, rfl⟩ := Prod.mk.inj hreply
  · refine ⟨by simp, hlater, ?_⟩
    cases hf : f (draws 0) s.store.tables with
    | ok a => exact hok _ a hf
    | error e => exact herror _ e hf
  · rename_i hfault
    exact ⟨by simp, hlater, hweather fun hcalm => hfault ((hdraws hcalm).fair 0)⟩

lemma ensures_stateCall {f : BrokerDraw → Tables → Except StoreError (Tables × α)}
    (hok : ∀ draw t a, f draw s.store.tables = .ok (t, a) →
      I ⟨⟨t, s.store.files, s.store.snapshots⟩, s.memory⟩ ∧
        Q a ⟨⟨t, s.store.files, s.store.snapshots⟩, s.memory⟩)
    (herror : ∀ draw e, (calm → IdLeft s.store.tables →
      isUlid (draw.stamp s.store.tables).eventId = true ∧
        (draw.stamp s.store.tables).eventId ∉ s.store.tables.events.map (·.eventId)) →
      f draw s.store.tables = .error e → E (storeFault e) s)
    (hweather : ¬ calm → E .other s) : (stateCall f).Ensures (Ready calm) I Q E s := by
  refine ensures_call fun draws hdraws written result hreply => ?_
  have hlater : Ready calm s (laterDraws draws) := hdraws.later
  split at hreply <;> obtain ⟨rfl, rfl⟩ := Prod.mk.inj hreply
  · rename_i t a hfair hf
    obtain ⟨hI, hQ⟩ := hok _ t a hf
    exact ⟨by simpa using hI, hdraws.later, hQ⟩
  · rename_i e hfair hf
    exact ⟨by simp, hlater,
      herror _ e (fun hcalm => (hdraws hcalm).stamped 0 _) hf⟩
  · rename_i hnone herror
    refine ⟨by simp, hlater, hweather fun hcalm => ?_⟩
    have hfair := (hdraws hcalm).fair 0
    cases hf : f (draws 0) s.store.tables with
    | ok r => exact hnone r.1 r.2 hfair hf
    | error e => exact herror e hfair hf

end

/-! ## What a function of the storage keeps -/

/-- No two names in a directory of a run differ in case only. -/
def ProjectStore.Folded (store : ProjectStore) : Prop :=
  ∀ runId p q, (store.file runId p).isSome → (store.file runId q).isSome →
    p.parts.dropLast = q.parts.dropLast →
    p.parts.getLast?.map casefold = q.parts.getLast?.map casefold →
    p.parts.getLast? = q.parts.getLast?

@[simp] lemma file_write (store : ProjectStore) (runId r : String) (path p : PosixPath)
    (file : StoredFile) : (store.write runId path file).file r p =
      if r = runId ∧ p = path then some file else store.file r p := by
  unfold ProjectStore.file ProjectStore.write
  by_cases hr : r = runId
  · subst hr
    by_cases hp : p = path
    · subst hp
      simp
    · simp [hp]
  · simp [hr]

@[simp] lemma file_remove (store : ProjectStore) (runId r : String) (path p : PosixPath) :
    (store.remove runId path).file r p =
      if r = runId ∧ p = path then none else store.file r p := by
  unfold ProjectStore.file ProjectStore.remove
  by_cases hr : r = runId
  · subst hr
    by_cases hp : p = path
    · subst hp
      simp
    · simp [hp]
  · simp [hr]

/-- What changed is at most the file of the run at the path, and new snapshots. -/
structure FileStep (runId : String) (path : PosixPath) (s u : ProjectStore) : Prop where
  tables : u.tables = s.tables
  files : ∀ r p, ¬ (r = runId ∧ p = path) → u.file r p = s.file r p
  snapshots : ∀ r h file, s.snapshots r h = some file → u.snapshots r h = some file
  folded : s.Folded → u.Folded

namespace FileStep

variable {runId : String} {path : PosixPath} {s t u : ProjectStore}

lemma refl (runId : String) (path : PosixPath) (s : ProjectStore) : FileStep runId path s s :=
  ⟨rfl, fun _ _ _ => rfl, fun _ _ _ h => h, id⟩

lemma trans (h : FileStep runId path s t) (h' : FileStep runId path t u) :
    FileStep runId path s u :=
  ⟨h'.tables.trans h.tables, fun r p hne => (h'.files r p hne).trans (h.files r p hne),
    fun r d file hfile => h'.snapshots r d file (h.snapshots r d file hfile),
    fun hs => h'.folded (h.folded hs)⟩

/-- Writing a file that is there. -/
lemma write (file : StoredFile) (hfile : (s.file runId path).isSome) :
    FileStep runId path s (s.write runId path file) := by
  refine ⟨rfl, fun r p hne => by simp [hne], fun r h file hfile => hfile, fun hs r p q hp hq => ?_⟩
  have hold : ∀ p, ((s.write runId path file).file r p).isSome → (s.file r p).isSome := by
    intro p hp
    rw [file_write] at hp
    split at hp
    · rename_i heq
      rw [heq.1, heq.2]
      exact hfile
    · exact hp
  exact hs r p q (hold p hp) (hold q hq)

/-- Writing a file whose name differs from the others in more than case. -/
lemma create (file : StoredFile) (h : rejectCasefoldCollision s runId path = .ok ()) :
    FileStep runId path s (s.write runId path file) := by
  rw [rejectCasefoldCollision, require_eq_ok] at h
  have hkeys : ∀ p, (s.file runId p).isSome → p ∈ (s.files runId).keys := fun p hp =>
    AList.mem_keys.1 (AList.lookup_isSome.1 hp)
  refine ⟨rfl, fun r p hne => by simp [hne], fun r h file hfile => hfile, fun hs r p q hp hq => ?_⟩
  intro hdir hname
  rw [file_write] at hp hq
  by_cases hpath : r = runId ∧ p = path
  · obtain ⟨rfl, rfl⟩ := hpath
    by_cases hqpath : q = p
    · rw [hqpath]
    · rw [if_neg fun heq => hqpath heq.2] at hq
      exact (h q (hkeys q hq) hdir.symm hname.symm).symm
  · rw [if_neg hpath] at hp
    by_cases hqpath : r = runId ∧ q = path
    · obtain ⟨rfl, rfl⟩ := hqpath
      exact h p (hkeys p hp) hdir hname
    · rw [if_neg hqpath] at hq
      exact hs r p q hp hq hdir hname

lemma remove : FileStep runId path s (s.remove runId path) := by
  refine ⟨rfl, fun r p hne => by simp [hne], fun r h file hfile => hfile, fun hs r p q hp hq => ?_⟩
  have hold : ∀ p, ((s.remove runId path).file r p).isSome → (s.file r p).isSome := by
    intro p hp
    rw [file_remove] at hp
    split at hp
    · simp at hp
    · exact hp
  exact hs r p q (hold p hp) (hold q hq)

/-- Storing a snapshot where there is none. -/
lemma storeSnapshot {r contentHash : String} {file : StoredFile}
    (hnone : s.snapshots r contentHash = none) :
    FileStep runId path s (s.storeSnapshot r contentHash file) := by
  refine ⟨rfl, fun _ _ _ => rfl, fun r' h file' hfile => ?_, id⟩
  unfold ProjectStore.storeSnapshot
  by_cases hr : r' = r
  · subst hr
    by_cases hh : h = contentHash
    · subst hh
      simp [hnone] at hfile
    · simpa [hh] using hfile
  · simpa [hr] using hfile

end FileStep

/-! ## The allowed paths -/

@[simp] lemma mapAllowed_store (s : BrokerState) (runId : String)
    (f : List PosixPath → List PosixPath) : (s.mapAllowed runId f).store = s.store := rfl

@[simp] lemma mapAllowed_allowed (s : BrokerState) (runId : String)
    (f : List PosixPath → List PosixPath) :
    (s.mapAllowed runId f).memory.allowed runId = f (s.memory.allowed runId) :=
  Function.update_self ..

lemma mapAllowed_allowed_of_ne (s : BrokerState) {runId r : String} (h : r ≠ runId)
    (f : List PosixPath → List PosixPath) :
    (s.mapAllowed runId f).memory.allowed r = s.memory.allowed r :=
  Function.update_of_ne h ..

/-- The allowed paths are those of documents with files, and no names differ in case only. -/
structure Tidy (smoke : Bool) (s : BrokerState) : Prop where
  folded : s.store.Folded
  allowed : ∀ runId, ∀ path ∈ s.memory.allowed runId,
    (∃ workerId, Canonical smoke runId workerId path) ∧ (s.store.file runId path).isSome

namespace Tidy

variable {smoke : Bool} {s : BrokerState} {runId : String}

/-- Two documents with files do not differ in case only. -/
lemma eq_of_casefold (h : s.store.Folded) {p q : PosixPath}
    (hp : (∃ workerId, Canonical smoke runId workerId p) ∧ (s.store.file runId p).isSome)
    (hq : (∃ workerId, Canonical smoke runId workerId q) ∧ (s.store.file runId q).isSome)
    (hfold : casefold p.posixChars = casefold q.posixChars) : p = q := by
  obtain ⟨⟨v, hv⟩, hpfile⟩ := hp
  obtain ⟨⟨w, hw⟩, hqfile⟩ := hq
  obtain ⟨hdir, hname⟩ := hv.name_of_casefold hw hfold
  exact hv.eq_of_name hw (h runId p q hpfile hqfile hdir hname)

/-- A document with a file can be registered. -/
lemma rejectCollision_eq (h : Tidy smoke s) {path : PosixPath}
    (hpath : (∃ workerId, Canonical smoke runId workerId path) ∧
      (s.store.file runId path).isSome) :
    rejectCollision (s.memory.allowed runId) path = .ok () :=
  require_of (fun item hitem => eq_of_casefold h.folded (h.allowed runId item hitem) hpath) _

/-- After it is registered. -/
lemma allow (h : Tidy smoke s) {path : PosixPath}
    (hpath : (∃ workerId, Canonical smoke runId workerId path) ∧
      (s.store.file runId path).isSome) :
    Tidy smoke (s.mapAllowed runId fun allowed => allowed.insert path) := by
  refine ⟨h.folded, fun r p hp => ?_⟩
  by_cases hr : r = runId
  · subst hr
    rw [mapAllowed_allowed, List.mem_insert_iff] at hp
    rcases hp with rfl | hp
    · exact hpath
    · exact h.allowed r p hp
  · rw [mapAllowed_allowed_of_ne s hr] at hp
    exact h.allowed r p hp

/-- A policy can be opened for the allowed paths of a run. -/
lemma exists_registerPaths (h : Tidy smoke s) :
    ∃ registered, (s.memory.allowed runId).foldlM registerPath [] = .ok registered := by
  have hall := h.allowed runId
  generalize s.memory.allowed runId = paths at hall
  have hloop : ∀ registered : List PosixPath,
      (∀ p ∈ registered, (∃ workerId, Canonical smoke runId workerId p) ∧
        (s.store.file runId p).isSome) →
      ∃ registered', paths.foldlM registerPath registered = .ok registered' := by
    induction paths with
    | nil => exact fun registered _ => ⟨registered, rfl⟩
    | cons path paths ih =>
      intro registered hregistered
      have hpath := hall path List.mem_cons_self
      obtain ⟨w, hw⟩ := hpath.1
      have hregister : registerPath registered path = .ok (registered.insert path) := by
        simp only [registerPath, hw.validateRelativePath_eq, ok_bind, rejectCollision]
        rw [require_of fun item hitem => eq_of_casefold h.folded (hregistered item hitem) hpath]
        rfl
      rw [List.foldlM_cons, hregister, ok_bind]
      refine ih (fun p hp => hall p (List.mem_cons_of_mem _ hp)) _ fun p hp => ?_
      rcases List.mem_insert_iff.1 hp with rfl | hp
      · exact hpath
      · exact hregistered p hp
  exact hloop [] (by simp)

/-- Changes of files that stay. -/
lemma of_files (h : Tidy smoke s) {u : BrokerState} (hmemory : u.memory.allowed = s.memory.allowed)
    (hfolded : u.store.Folded)
    (hfiles : ∀ r p, (s.store.file r p).isSome → (u.store.file r p).isSome) : Tidy smoke u :=
  ⟨hfolded, fun r p hp => ⟨(h.allowed r p (hmemory ▸ hp)).1,
    hfiles r p (h.allowed r p (hmemory ▸ hp)).2⟩⟩

end Tidy

/-- What changed is at most new snapshots. -/
structure SnapshotStep (s u : ProjectStore) : Prop where
  tables : u.tables = s.tables
  files : u.files = s.files
  snapshots : ∀ r h file, s.snapshots r h = some file → u.snapshots r h = some file

namespace SnapshotStep

variable {s t u : ProjectStore}

lemma refl (s : ProjectStore) : SnapshotStep s s := ⟨rfl, rfl, fun _ _ _ h => h⟩

lemma trans (h : SnapshotStep s t) (h' : SnapshotStep t u) : SnapshotStep s u :=
  ⟨h'.tables.trans h.tables, h'.files.trans h.files,
    fun r d file hfile => h'.snapshots r d file (h.snapshots r d file hfile)⟩

lemma file (h : SnapshotStep s u) (runId : String) (path : PosixPath) :
    u.file runId path = s.file runId path := by
  rw [ProjectStore.file, h.files, ProjectStore.file]

lemma fileStep (h : SnapshotStep s u) (runId : String) (path : PosixPath) :
    FileStep runId path s u := by
  refine ⟨h.tables, fun r p _ => h.file r p, h.snapshots, fun hs r p q hp hq => ?_⟩
  rw [h.file] at hp hq
  exact hs r p q hp hq

end SnapshotStep

/-! ## Functions of the storage -/

section

variable {I : BrokerState → Prop} {s : BrokerState}

/-- `_policy` changes nothing. -/
lemma ensures_openPolicy {runId : String} {allowed : List PosixPath}
    (hcalm : calm → isIdentifier runId = true ∧
      ∃ registered, allowed.foldlM registerPath [] = .ok registered) :
    (openPolicy runId allowed).Ensures (Ready calm) I (fun _ u => u = s)
      (fun _ u => u = s ∧ ¬ calm) s := by
  refine Ensures.bind (ensures_check (fun _ _ => ?_) fun e he => ⟨rfl, fun hc => ?_⟩)
  · refine Ensures.bind (ensures_observe (fun _ _ _ => ?_) (by simp) fun hc e => ⟨rfl, hc⟩)
    refine ensures_check (fun _ _ => rfl) fun e he => ⟨rfl, fun hc => ?_⟩
    obtain ⟨registered, hregistered⟩ := (hcalm hc).2
    rw [hregistered] at he
    cases he
  · rw [identifier, require_of (hcalm hc).1] at he
    cases he

/-- `_policy` for any paths. -/
lemma ensures_openPolicy_any {runId : String} {allowed : List PosixPath} :
    (openPolicy runId allowed).Ensures (Ready calm) I (fun _ u => u = s) (fun _ u => u = s) s := by
  refine Ensures.bind (ensures_check (fun _ _ => ?_) fun _ _ => rfl)
  refine Ensures.bind (ensures_observe (fun _ _ _ => ?_) (by simp) fun _ _ => rfl)
  exact ensures_check (fun _ _ => rfl) fun _ _ => rfl

/-- `read_relative` of a snapshot. -/
lemma ensures_readSnapshot {runId contentHash : String} :
    (readSnapshot runId contentHash).Ensures (Ready calm) I
      (fun body u => u = s ∧ ∃ file, s.store.snapshots runId contentHash = some file ∧
        file.body = body)
      (fun _ u => u = s ∧ (calm → s.store.snapshots runId contentHash = none)) s := by
  refine ensures_observe (fun _ body hbody => ?_) (fun _ e he => ⟨rfl, fun _ => ?_⟩)
    fun hc e => ⟨rfl, fun hcalm => absurd hcalm hc⟩
  · rw [map_eq_ok] at hbody
    obtain ⟨file, hfile, rfl⟩ := hbody
    exact ⟨rfl, file, orThrow_eq_ok.1 hfile, rfl⟩
  · cases hfile : s.store.snapshots runId contentHash with
    | none => rfl
    | some file =>
      rw [hfile] at he
      cases he

/-- `mode_relative` of a snapshot. -/
lemma ensures_modeSnapshot {runId contentHash : String} :
    (modeSnapshot runId contentHash).Ensures (Ready calm) I
      (fun mode u => u = s ∧ ∃ file, s.store.snapshots runId contentHash = some file ∧
        file.mode = mode)
      (fun _ u => u = s ∧ (calm → s.store.snapshots runId contentHash = none)) s := by
  refine ensures_observe (fun _ mode hmode => ?_) (fun _ e he => ⟨rfl, fun _ => ?_⟩)
    fun hc e => ⟨rfl, fun hcalm => absurd hcalm hc⟩
  · rw [map_eq_ok] at hmode
    obtain ⟨file, hfile, rfl⟩ := hmode
    exact ⟨rfl, file, orThrow_eq_ok.1 hfile, rfl⟩
  · cases hfile : s.store.snapshots runId contentHash with
    | none => rfl
    | some file =>
      rw [hfile] at he
      cases he

/-- `_artifact_descriptor` changes nothing. -/
lemma ensures_artifactDescriptor {runId : String} (hrun : calm → isIdentifier runId = true) :
    (artifactDescriptor runId).Ensures (Ready calm) I (fun _ u => u = s)
      (fun _ u => u = s ∧ ¬ calm) s := by
  refine Ensures.bind (ensures_check (fun _ _ => ?_) fun e he => ⟨rfl, fun hc => ?_⟩)
  · exact ensures_observe (fun _ _ _ => rfl) (by simp) fun hc e => ⟨rfl, hc⟩
  · rw [identifier, require_of (hrun hc)] at he
    cases he

/-- `create_content_addressed` stores the snapshot unless there is one. -/
lemma ensures_createContentAddressed {runId contentHash : String} {body : Bytes}
    (hI : ∀ u, SnapshotStep s.store u.store → I u) :
    (createContentAddressed runId contentHash body).Ensures (Ready calm) I
      (fun _ u => SnapshotStep s.store u.store ∧ u.memory = s.memory)
      (fun _ u => SnapshotStep s.store u.store ∧ u.memory = s.memory) s := by
  refine ensures_effect (fun _ store hstore => ?_) (by simp [pure, Except.pure])
    fun _ e => ⟨.refl _, rfl⟩
  obtain rfl := pure_eq_ok.1 hstore
  have hstep : SnapshotStep s.store (if (s.store.snapshots runId contentHash).isSome then s.store
      else s.store.storeSnapshot runId contentHash ⟨body, 0o600⟩) := by
    split
    · exact .refl _
    · rename_i hnone
      have hadded : FileStep runId (.ofText "") s.store
          (s.store.storeSnapshot runId contentHash ⟨body, 0o600⟩) :=
        .storeSnapshot (Option.not_isSome_iff_eq_none.1 hnone)
      exact ⟨rfl, rfl, hadded.snapshots⟩
  exact ⟨hI _ hstep, ⟨hstep, rfl⟩, fun _ _ => ⟨hstep, rfl⟩⟩

/-- `store_snapshot` ends with the content under its hash. -/
lemma ensures_storeSnapshot {runId contentHash : String} {body : Bytes}
    (hrun : isIdentifier runId = true) (hI : ∀ u, SnapshotStep s.store u.store → I u) :
    (storeSnapshot runId contentHash body).Ensures (Ready calm) I
      (fun _ u => SnapshotStep s.store u.store ∧ u.memory = s.memory ∧
        u.store.snapshots runId contentHash = some ⟨body, 0o600⟩)
      (fun _ u => SnapshotStep s.store u.store ∧ u.memory = s.memory) s := by
  refine Ensures.bind (ensures_check (fun _ _ => ?_) fun e he => ⟨.refl _, rfl⟩)
  refine Ensures.bind ((ensures_artifactDescriptor fun _ => hrun).mono (fun _ h => h) ?_ ?_)
  swap
  · rintro _ _ ⟨rfl, -⟩
    exact ⟨.refl _, rfl⟩
  rintro _ s rfl
  -- what is stored under the hash, now or before, is compared with the content
  have hcompare : ∀ (existing : Bytes) (u : BrokerState), SnapshotStep s.store u.store ∧
      u.memory = s.memory → (∃ file, u.store.snapshots runId contentHash = some file ∧
        file.body = existing) →
      (do
        check (require (existing = body ∧ sha256Bytes existing = contentHash) snapshotMismatch)
        let mode ← modeSnapshot runId contentHash
        check (require (mode = 0o600) snapshotMismatch) : BrokerM Unit).Ensures (Ready calm) I
          (fun _ u => SnapshotStep s.store u.store ∧ u.memory = s.memory ∧
            u.store.snapshots runId contentHash = some ⟨body, 0o600⟩)
          (fun _ u => SnapshotStep s.store u.store ∧ u.memory = s.memory) u := by
    rintro existing u hstep ⟨file, hfile, hbody⟩
    refine Ensures.bind (ensures_check (fun _ hsame => ?_) fun _ _ => hstep)
    rw [require_eq_ok] at hsame
    refine Ensures.bind (ensures_modeSnapshot.mono (fun _ h => h) ?_ ?_)
    · rintro mode _ ⟨rfl, file', hfile', hmode⟩
      refine ensures_check (fun _ hprivate => ⟨hstep.1, hstep.2, ?_⟩) fun _ _ => hstep
      rw [require_eq_ok] at hprivate
      obtain rfl := Option.some.inj (hfile.symm.trans hfile')
      rw [hfile, ← hsame.1, ← hbody, ← hprivate, ← hmode]
    · rintro _ _ ⟨rfl, -⟩
      exact hstep
  refine Ensures.bind (Ensures.tryCatch (ensures_readSnapshot.mono (fun _ h => h) ?_ ?_))
  · rintro existing _ ⟨rfl, hfile⟩
    exact hcompare existing _ ⟨.refl _, rfl⟩ hfile
  · rintro fault _ ⟨rfl, -⟩
    cases fault
    case io =>
      refine Ensures.bind ((ensures_createContentAddressed hI).mono (fun _ h => h) ?_
        fun _ _ h => h)
      rintro _ u hstep
      refine ensures_readSnapshot.mono (fun _ h => h) ?_ ?_
      · rintro existing _ ⟨rfl, hfile⟩
        exact hcompare existing _ hstep hfile
      · rintro _ _ ⟨rfl, -⟩
        exact hstep
    all_goals exact ensures_throw ⟨.refl _, rfl⟩

end

section

variable {smoke : Bool} {document : DocumentState} {I : BrokerState → Prop} {s : BrokerState}
  (hdocument : Canonical smoke document.runId document.workerId document.relativePath)

include hdocument

/-- `register` allows the document. -/
lemma ensures_register (hcalm : calm → Tidy smoke s ∧
    (s.store.file document.runId document.relativePath).isSome) :
    (register smoke document).Ensures (Ready calm) I
      (fun _ u => u.store = s.store ∧ (calm → Tidy smoke u)) (fun _ u => u = s ∧ ¬ calm) s := by
  refine Ensures.bind (ensures_check_of (validateDocument_eq hdocument) ?_)
  refine Ensures.bind (ensures_look (fun allowed hallowed => ?_) (by simp))
  obtain rfl := Except.ok.inj hallowed
  refine Ensures.bind (ensures_check (fun _ _ => ?_) fun e he => ⟨rfl, fun hc => ?_⟩)
  · refine ensures_assign ⟨rfl, fun hc => ?_⟩ fun draws hdraws => hdraws
    exact (hcalm hc).1.allow ⟨⟨_, hdocument⟩, (hcalm hc).2⟩
  · rw [(hcalm hc).1.rejectCollision_eq ⟨⟨_, hdocument⟩, (hcalm hc).2⟩] at he
    cases he

/-- What the functions on a document begin with allows it. -/
lemma ensures_openDocument (hcalm : calm → Tidy smoke s ∧
    (s.store.file document.runId document.relativePath).isSome) :
    (openDocument smoke document).Ensures (Ready calm) I
      (fun _ u => u.store = s.store ∧ (calm → Tidy smoke u))
      (fun _ u => u.store = s.store ∧ ¬ calm) s := by
  refine Ensures.bind ((ensures_register hdocument hcalm).mono (fun _ h => h) ?_ ?_)
  swap
  · rintro _ _ ⟨rfl, hc⟩
    exact ⟨rfl, hc⟩
  rintro _ u ⟨hstore, htidy⟩
  refine Ensures.bind (ensures_look (fun allowed hallowed => ?_) (by simp))
  obtain rfl := Except.ok.inj hallowed
  refine (ensures_openPolicy fun hc => ⟨hdocument.runId_valid,
    (htidy hc).exists_registerPaths⟩).mono (fun _ h => h) ?_ ?_
  · rintro _ _ rfl
    exact ⟨hstore, htidy⟩
  · rintro _ _ ⟨rfl, hc⟩
    exact ⟨hstore, hc⟩

/-- `read` returns the content of the file. -/
lemma ensures_readDocumentFile (hcalm : calm → Tidy smoke s ∧
    (s.store.file document.runId document.relativePath).isSome) :
    (readDocumentFile smoke document).Ensures (Ready calm) I
      (fun body u => u.store = s.store ∧ ∃ file,
        s.store.file document.runId document.relativePath = some file ∧ file.body = body)
      (fun _ u => u.store = s.store) s := by
  refine Ensures.bind ((ensures_openDocument hdocument hcalm).mono (fun _ h => h) ?_
    fun _ _ h => h.1)
  rintro registered u ⟨hstore, -⟩
  have hresolve : (resolve document.runId registered document.relativePath).Ensures (Ready calm) I
      (fun _ v => v = u) (fun _ v => v = u) u := by
    refine Ensures.bind (ensures_check (fun _ _ => ?_) fun _ _ => rfl)
    refine Ensures.bind (ensures_check (fun _ _ => ?_) fun _ _ => rfl)
    exact ensures_observe (fun _ _ _ => rfl) (fun _ _ _ => rfl) fun _ _ => rfl
  refine Ensures.bind (hresolve.mono (fun _ h => h) ?_ ?_)
  · rintro _ _ rfl
    refine ensures_observe (fun _ body hbody => ⟨hstore, ?_⟩) (fun _ _ _ => hstore)
      fun _ _ => hstore
    rw [map_eq_ok] at hbody
    obtain ⟨file, hfile, hbody⟩ := hbody
    exact ⟨file, hstore ▸ orThrow_eq_ok.1 hfile, hbody⟩
  · rintro _ _ rfl
    exact hstore

/-- `replace` writes the file of the document. -/
lemma ensures_replaceDocumentFile {body : Bytes}
    (hfile : (s.store.file document.runId document.relativePath).isSome)
    (hcalm : calm → Tidy smoke s)
    (hI : ∀ u, FileStep document.runId document.relativePath s.store u.store →
      (u.store.file document.runId document.relativePath).isSome → I u) :
    (replaceDocumentFile smoke document body).Ensures (Ready calm) I
      (fun _ u => FileStep document.runId document.relativePath s.store u.store ∧
        u.store.file document.runId document.relativePath = some ⟨body, 0o600⟩ ∧
        (calm → Tidy smoke u))
      (fun _ u => FileStep document.runId document.relativePath s.store u.store ∧
        (u.store.file document.runId document.relativePath).isSome ∧ ¬ calm) s := by
  refine Ensures.bind ((ensures_openDocument hdocument fun hc => ⟨hcalm hc, hfile⟩).mono
    (fun _ h => h) ?_ ?_)
  swap
  · rintro _ u ⟨hstore, hc⟩
    exact ⟨hstore ▸ .refl .., hstore ▸ hfile, hc⟩
  rintro _ u ⟨hstore, htidy⟩
  rw [← hstore] at hfile hI ⊢
  refine ensures_effect (fun _ store hok => ?_) (fun _ e he => ?_) fun hc e => ⟨.refl .., hfile, hc⟩
  · simp only [Functor.discard, bind_eq_ok, pure_eq_ok] at hok
    obtain ⟨-, -, rfl⟩ := hok
    have hstep : FileStep document.runId document.relativePath u.store
        (u.store.write document.runId document.relativePath ⟨body, 0o600⟩) := .write _ hfile
    have hwritten : (u.store.write document.runId document.relativePath ⟨body, 0o600⟩).file
        document.runId document.relativePath = some ⟨body, 0o600⟩ := by simp
    refine ⟨hI _ hstep (by simp [hwritten]), ⟨hstep, hwritten, fun hc => ?_⟩,
      fun hc _ => ⟨hstep, by simp [hwritten], hc⟩⟩
    refine (htidy hc).of_files rfl (hstep.folded (htidy hc).folded) fun r p hp => ?_
    simp only [file_write]
    split
    · rfl
    · exact hp
  · obtain ⟨file, hsome⟩ := Option.isSome_iff_exists.1 hfile
    rw [hsome] at he
    cases he

/-- `restore` brings back the content whose hash the document has. -/
lemma ensures_restore (hfile : (s.store.file document.runId document.relativePath).isSome)
    (hcalm : calm → Tidy smoke s ∧ ∃ body, sha256Bytes body = document.contentHash ∧
      s.store.snapshots document.runId document.contentHash = some ⟨body, 0o600⟩)
    (hI : ∀ u, FileStep document.runId document.relativePath s.store u.store →
      (u.store.file document.runId document.relativePath).isSome → I u) :
    (restore smoke document).Ensures (Ready calm) I
      (fun _ u => FileStep document.runId document.relativePath s.store u.store ∧
        (∃ file, s.store.snapshots document.runId document.contentHash = some file ∧
          sha256Bytes file.body = document.contentHash ∧
          u.store.file document.runId document.relativePath = some ⟨file.body, 0o600⟩) ∧
        (calm → Tidy smoke u))
      (fun _ u => FileStep document.runId document.relativePath s.store u.store ∧
        (u.store.file document.runId document.relativePath).isSome ∧ ¬ calm) s := by
  have hnone : (calm → s.store.snapshots document.runId document.contentHash = none) → ¬ calm := by
    intro h hc
    obtain ⟨-, body, -, hbody⟩ := hcalm hc
    rw [h hc] at hbody
    cases hbody
  refine Ensures.bind (ensures_check_of (validateDocument_eq hdocument) ?_)
  refine Ensures.bind ((ensures_artifactDescriptor fun _ => hdocument.runId_valid).mono
    (fun _ h => h) ?_ ?_)
  swap
  · rintro _ _ ⟨rfl, hc⟩
    exact ⟨.refl .., hfile, hc⟩
  rintro _ s rfl
  refine Ensures.bind (ensures_readSnapshot.mono (fun _ h => h) ?_ ?_)
  swap
  · rintro _ _ ⟨rfl, h⟩
    exact ⟨.refl .., hfile, hnone h⟩
  rintro _ s ⟨rfl, file, hsnapshot, rfl⟩
  refine Ensures.bind (ensures_modeSnapshot.mono (fun _ h => h) ?_ ?_)
  swap
  · rintro _ _ ⟨rfl, h⟩
    exact ⟨.refl .., hfile, hnone h⟩
  rintro _ s ⟨rfl, file', hsnapshot', rfl⟩
  obtain rfl := Option.some.inj (hsnapshot.symm.trans hsnapshot')
  refine Ensures.bind (ensures_check (fun _ hsame => ?_) fun e he => ⟨.refl .., hfile, fun hc => ?_⟩)
  · rw [require_eq_ok] at hsame
    refine (ensures_replaceDocumentFile hdocument hfile (fun hc => (hcalm hc).1) hI).mono
      (fun _ h => h) ?_ fun _ _ h => h
    rintro _ u ⟨hstep, hwritten, htidy⟩
    exact ⟨hstep, ⟨file, hsnapshot, hsame.1, hwritten⟩, htidy⟩
  · obtain ⟨-, body, hbody, hstored⟩ := hcalm hc
    obtain rfl := Option.some.inj (hsnapshot.symm.trans hstored)
    rw [require_of ⟨hbody, rfl⟩] at he
    cases he

end

section

variable {runId : String} {path : PosixPath} {I : BrokerState → Prop} {s : BrokerState}

/-- `set.discard` keeps the store. -/
lemma ensures_disallow {Q : Unit → BrokerState → Prop} {E : BrokerFault → BrokerState → Prop}
    (h : ∀ u, u.store = s.store → Q () u) :
    (disallow runId path).Ensures (Ready calm) I Q E s :=
  ensures_assign (h _ rfl) fun _ hdraws => hdraws

/-- `discard` changes at most the file. -/
lemma ensures_discardDocumentFile (hI : ∀ u, FileStep runId path s.store u.store → I u) :
    (discardDocumentFile runId path).Ensures (Ready calm) I
      (fun _ u => FileStep runId path s.store u.store)
      (fun _ u => FileStep runId path s.store u.store) s := by
  have hunlink : ∀ u : BrokerState, u = s → (unlinkRelative runId path).Ensures (Ready calm) I
      (fun _ v => FileStep runId path s.store v.store)
      (fun _ v => FileStep runId path s.store v.store) u := by
    rintro u rfl
    refine ensures_effect (fun _ store hstore => ?_) (fun _ _ _ => .refl ..) fun _ _ => .refl ..
    simp only [Functor.discard, bind_eq_ok, pure_eq_ok] at hstore
    obtain ⟨-, -, rfl⟩ := hstore
    exact ⟨hI _ .remove, .remove, fun _ _ => .remove⟩
  have hopened : (do
      let _ ← openPolicy runId [path]
      unlinkRelative runId path).Ensures (Ready calm) I
        (fun _ v => FileStep runId path s.store v.store)
        (fun _ v => FileStep runId path s.store v.store) s := by
    exact Ensures.bind (ensures_openPolicy_any.mono (fun _ h => h) (fun _ u hu => hunlink u hu)
      fun _ u hu => hu ▸ .refl ..)
  refine Ensures.bind (Ensures.tryCatch (hopened.mono (fun _ h => h) ?_ ?_))
  · rintro _ u hstep
    exact ensures_disallow fun v hv => hv ▸ hstep
  · rintro fault u hstep
    cases fault
    case io | path => exact ensures_pure (ensures_disallow fun v hv => hv ▸ hstep)
    all_goals
      refine Ensures.bind (ensures_disallow fun v hv => ?_)
      exact ensures_throw (hv ▸ hstep)

/-- `create_relative` writes a file where there was none. -/
lemma ensures_createRelative {body : Bytes}
    (hI : ∀ u, FileStep runId path s.store u.store → s.store.file runId path = none → I u) :
    (createRelative runId path body).Ensures (Ready calm) I
      (fun _ u => FileStep runId path s.store u.store ∧ s.store.file runId path = none ∧
        u.store.file runId path = some ⟨body, 0o600⟩)
      (fun _ u => FileStep runId path s.store u.store ∧
        (s.store.file runId path = none ∨ u.store = s.store)) s := by
  refine Ensures.bind (ensures_effect (fun _ store hstore => ?_) (fun _ _ _ => ⟨.refl .., .inr rfl⟩)
    fun _ _ => ⟨.refl .., .inr rfl⟩)
  simp only [bind_eq_ok, require_eq_ok, pure_eq_ok, exists_and_left, exists_const] at hstore
  obtain ⟨_, hcollision, hnone, rfl⟩ := hstore
  have hopened : FileStep runId path s.store (s.store.write runId path ⟨[], 0o600⟩) :=
    .create ⟨[], 0o600⟩ hcollision
  refine ⟨hI _ hopened hnone, ?_, fun _ _ => ⟨hopened, .inl hnone⟩⟩
  -- from here on the file is there, and whatever is written to it is a step
  have hwrite : ∀ (u : BrokerState) (file : StoredFile),
      FileStep runId path s.store u.store ∧ (u.store.file runId path).isSome →
      FileStep runId path s.store (u.store.write runId path file) ∧
        ((u.store.write runId path file).file runId path).isSome :=
    fun u file hu => ⟨hu.1.trans (.write file hu.2), by simp⟩
  have hrewritten : ∀ (u : BrokerState) (f : BrokerDraw → Bytes),
      FileStep runId path s.store u.store ∧ (u.store.file runId path).isSome →
      (effect fun draw store => pure (store.write runId path ⟨f draw, 0o600⟩)).Ensures
        (Ready calm) I (fun _ v => (FileStep runId path s.store v.store ∧
          (v.store.file runId path).isSome) ∧ ∃ draw, v.store.file runId path = some ⟨f draw, 0o600⟩)
        (fun _ v => FileStep runId path s.store v.store ∧ (v.store.file runId path).isSome) u := by
    intro u f hu
    refine ensures_effect (fun draw store hstore => ?_) (by simp [pure, Except.pure]) fun _ _ => hu
    obtain rfl := pure_eq_ok.1 hstore
    have hwritten := hwrite u ⟨f draw, 0o600⟩ hu
    exact ⟨hI _ hwritten.1 hnone,
      ⟨hwritten, draw, by simp⟩, fun _ _ => hwritten⟩
  -- the handler of an exception may unlink the file again
  have hundo : ∀ (fault : BrokerFault) (u : BrokerState),
      FileStep runId path s.store u.store ∧ (u.store.file runId path).isSome →
      (do
        if fault ≠ .other then
          tryCatchThe BrokerFault
            (effect fun _ store => pure (store.remove runId path)) fun _ => pure ()
        throw fault : BrokerM Unit).Ensures (Ready calm) I
          (fun _ v => FileStep runId path s.store v.store ∧ s.store.file runId path = none ∧
            v.store.file runId path = some ⟨body, 0o600⟩)
          (fun _ v => FileStep runId path s.store v.store ∧
            (s.store.file runId path = none ∨ v.store = s.store)) u := by
    intro fault u hu
    split
    · refine Ensures.bind (Ensures.tryCatch ?_)
      refine ensures_effect (fun _ store hstore => ?_) (by simp [pure, Except.pure])
        fun _ _ => ensures_pure (ensures_throw ⟨hu.1, .inl hnone⟩)
      obtain rfl := pure_eq_ok.1 hstore
      have hremoved : FileStep runId path s.store (u.store.remove runId path) := hu.1.trans .remove
      exact ⟨hI _ hremoved hnone,
        ensures_throw ⟨hremoved, .inl hnone⟩,
        fun _ _ => ensures_pure (ensures_throw ⟨hremoved, .inl hnone⟩)⟩
    · exact Ensures.bind (ensures_pure (ensures_throw ⟨hu.1, .inl hnone⟩))
  have hbegun : FileStep runId path s.store (s.store.write runId path ⟨[], 0o600⟩) ∧
      ((s.store.write runId path ⟨[], 0o600⟩).file runId path).isSome := ⟨hopened, by simp⟩
  refine Ensures.tryCatch (Ensures.bind ?_)
  refine ensures_observe (fun _ _ _ => ?_) (fun _ fault _ => hundo fault _ hbegun)
    fun _ fault => hundo fault _ hbegun
  refine Ensures.bind ((hrewritten _ (·.written) hbegun).mono (fun _ h => h) ?_ hundo)
  rintro _ u ⟨hu, -⟩
  refine (hrewritten u (fun _ => body) hu).mono (fun _ h => h) ?_ hundo
  rintro _ v ⟨hv, _, hwritten⟩
  exact ⟨hv.1, hnone, hwritten⟩

/-- `create` leaves the content in a new file and among the snapshots. -/
lemma ensures_createDocumentFile {body : Bytes} (hrun : isIdentifier runId = true)
    (hI : ∀ u, FileStep runId path s.store u.store →
      s.store.file runId path = none ∨ u.store = s.store → I u) :
    (createDocumentFile runId path body).Ensures (Ready calm) I
      (fun contentHash u => FileStep runId path s.store u.store ∧
        s.store.file runId path = none ∧ contentHash = sha256Bytes body ∧
        u.store.file runId path = some ⟨body, 0o600⟩ ∧
        u.store.snapshots runId contentHash = some ⟨body, 0o600⟩)
      (fun _ u => FileStep runId path s.store u.store ∧
        (s.store.file runId path = none ∨ u.store = s.store)) s := by
  refine Ensures.bind (ensures_look (fun allowed hallowed => ?_) (by simp))
  refine Ensures.bind (ensures_check (fun _ _ => ?_) fun _ _ => ⟨.refl .., .inr rfl⟩)
  refine Ensures.bind (ensures_check (fun _ _ => ?_) fun _ _ => ⟨.refl .., .inr rfl⟩)
  refine Ensures.bind (ensures_assign ?_ fun _ hdraws => hdraws)
  -- an exception before the file is there
  have hforget : ∀ (fault : BrokerFault) (u : BrokerState),
      FileStep runId path s.store u.store ∧
        (s.store.file runId path = none ∨ u.store = s.store) →
      (do
        disallow runId path
        throw fault : BrokerM Unit).Ensures (Ready calm) I
          (fun _ v => (FileStep runId path s.store v.store ∧ s.store.file runId path = none ∧
            v.store.file runId path = some ⟨body, 0o600⟩))
          (fun _ v => FileStep runId path s.store v.store ∧
            (s.store.file runId path = none ∨ v.store = s.store)) u :=
    fun fault u hu => Ensures.bind (ensures_disallow fun v hv => ensures_throw (by rwa [hv]))
  have hcreated : (tryCatchThe BrokerFault
      (do
        let _ ← openPolicy runId (allowed.insert path)
        createRelative runId path body)
      fun fault => do
        disallow runId path
        throw fault).Ensures (Ready calm) I
          (fun _ v => FileStep runId path s.store v.store ∧ s.store.file runId path = none ∧
            v.store.file runId path = some (⟨body, 0o600⟩ : StoredFile))
          (fun _ v => FileStep runId path s.store v.store ∧
            (s.store.file runId path = none ∨ v.store = s.store))
          (s.mapAllowed runId fun allowed => allowed.insert path) := by
    refine Ensures.tryCatch (Ensures.bind (ensures_openPolicy_any.mono (fun _ h => h) ?_ ?_))
    · rintro _ _ rfl
      exact (ensures_createRelative (s := s.mapAllowed runId fun allowed => allowed.insert path)
        fun u hu hnone => hI u hu (.inl hnone)).mono (fun _ h => h) (fun _ _ h => h) hforget
    · rintro fault _ rfl
      exact hforget fault _ ⟨.refl .., .inr rfl⟩
  refine Ensures.bind (hcreated.mono (fun _ h => h) ?_ fun _ _ h => h)
  rintro _ u ⟨hstep, hnone, hwritten⟩
  refine Ensures.bind (Ensures.tryCatch ((ensures_storeSnapshot hrun fun v hv =>
    hI v (hstep.trans (hv.fileStep ..)) (.inl hnone)).mono (fun _ h => h) ?_ ?_))
  · rintro _ v ⟨hsnapshot, -, hstored⟩
    refine ensures_pure ⟨hstep.trans (hsnapshot.fileStep ..), hnone, rfl, ?_, hstored⟩
    rw [hsnapshot.file, hwritten]
  · rintro fault v ⟨hsnapshot, -⟩
    have hv := hstep.trans (hsnapshot.fileStep runId path)
    refine Ensures.bind ((ensures_discardDocumentFile fun w hw =>
      hI w (hv.trans hw) (.inl hnone)).mono (fun _ h => h) ?_ ?_)
    · rintro _ w hw
      exact ensures_throw ⟨hv.trans hw, .inl hnone⟩
    · rintro _ w hw
      exact ⟨hv.trans hw, .inl hnone⟩

end

end Aizim.Documents
