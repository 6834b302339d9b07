import Aizim.Framework.Framing
import Aizim.Agents.CodexLines

/-!
# Two readers of one transcript

The reader of chunks sees the lines of the stream whatever the chunks are (`readJsonl_eq`), and what
goes into the digest has no tokens (`redact_eq_of_sameUpToTokens`).  The reader of finished bytes
splits them at carriage returns too, which are blanks of JSON.  Where a line that was accepted has
one within its text, that reader finds no usage.

`readings_agree` says when both report the same usage.
-/

namespace Aizim.Agents

open Metered PyJson PyValue

variable {F : Type}

/-! ## Tokens -/

/-- A run of characters that is taken for a token. -/
def IsToken (run : PyText) : Prop := 32 ≤ run.length ∧ ∀ c ∈ run, isTokenChar c = true

/-- Two strings that differ in tokens only. -/
inductive SameText : PyText → PyText → Prop
  | nil : SameText [] []
  | char (c : PyChar) {s t : PyText} : SameText s t → SameText (c :: s) (c :: t)
  | token {r r' s t : PyText} : IsToken r → IsToken r' → SameText s t →
      SameText (r ++ s) (r' ++ t)

mutual

/-- Two values that differ in the tokens of their strings only. -/
def SameValue : PyValue F → PyValue F → Prop
  | .str s, .str t => SameText s t
  | .list xs, .list ys => SameItems xs ys
  | .dict es, .dict fs => SameEntries es fs
  | .null, .null => True
  | .bool a, .bool b => a = b
  | .int i, .int j => i = j
  | .float f, .float g => f = g
  | _, _ => False

/-- The items of two such lists. -/
def SameItems : List (PyValue F) → List (PyValue F) → Prop
  | [], [] => True
  | x :: xs, y :: ys => SameValue x y ∧ SameItems xs ys
  | _, _ => False

/-- The entries of two such dictionaries. -/
def SameEntries : PyObject F → PyObject F → Prop
  | [], [] => True
  | (k, v) :: es, (l, w) :: fs => SameText k l ∧ SameValue v w ∧ SameEntries es fs
  | _, _ => False

end

lemma redactFrom_append {r : PyText} (h : ∀ c ∈ r, isTokenChar c = true) (run s : PyText) :
    redactFrom run (r ++ s) = redactFrom (run ++ r) s := by
  induction r generalizing run with
  | nil => simp
  | cons c r ih =>
    rw [List.forall_mem_cons] at h
    rw [List.cons_append, redactFrom, if_pos h.1, ih h.2, List.append_assoc]
    rfl

lemma endRun_of_long {run : PyText} (h : 32 ≤ run.length) : endRun run = pyString "<redacted>" :=
  if_pos h

/-- Within two runs that are the same, or both long enough to be tokens, what differs in tokens only
is redacted to the same text. -/
lemma redactFrom_eq {s t : PyText} (h : SameText s t) {run run' : PyText}
    (hrun : run = run' ∨ 32 ≤ run.length ∧ 32 ≤ run'.length) :
    redactFrom run s = redactFrom run' t := by
  induction h generalizing run run' with
  | nil =>
    rcases hrun with rfl | ⟨hlong, hlong'⟩
    · rfl
    · rw [redactFrom, redactFrom, endRun_of_long hlong, endRun_of_long hlong']
  | @char c s t h ih =>
    by_cases hc : isTokenChar c = true
    · rw [redactFrom, redactFrom, if_pos hc, if_pos hc]
      apply ih
      rcases hrun with rfl | ⟨hlong, hlong'⟩
      · exact Or.inl rfl
      · rw [List.length_append, List.length_append]
        exact Or.inr ⟨by omega, by omega⟩
    · have hend : endRun run = endRun run' := by
        rcases hrun with rfl | ⟨hlong, hlong'⟩
        · rfl
        · rw [endRun_of_long hlong, endRun_of_long hlong']
      rw [redactFrom, redactFrom, if_neg hc, if_neg hc, hend, ih (Or.inl rfl)]
  | @token r r' s t hr hr' h ih =>
    rw [redactFrom_append hr.2, redactFrom_append hr'.2]
    apply ih
    rw [List.length_append, List.length_append]
    exact Or.inr ⟨by have := hr.1; omega, by have := hr'.1; omega⟩

lemma redactText_eq {s t : PyText} (h : SameText s t) : redactText s = redactText t :=
  redactFrom_eq h (Or.inl rfl)

mutual

/-- Values that differ in tokens only are redacted to the same value. -/
lemma redact_eq : ∀ {v w : PyValue F}, SameValue v w → redact v = redact w
  | .str s, w, h => by
    cases w with
    | str t => rw [redact, redact, redactText_eq h]
    | _ => exact h.elim
  | .list xs, w, h => by
    cases w with
    | list ys => rw [redact, redact, redactItems_eq h]
    | _ => exact h.elim
  | .dict es, w, h => by
    cases w with
    | dict fs => rw [redact, redact, redactEntries_eq h]
    | _ => exact h.elim
  | .null, w, h => by
    cases w with
    | null => rfl
    | _ => exact h.elim
  | .bool a, w, h => by
    cases w with
    | bool b =>
      obtain rfl : a = b := h
      rfl
    | _ => exact h.elim
  | .int i, w, h => by
    cases w with
    | int j =>
      obtain rfl : i = j := h
      rfl
    | _ => exact h.elim
  | .float f, w, h => by
    cases w with
    | float g =>
      obtain rfl : f = g := h
      rfl
    | _ => exact h.elim

lemma redactItems_eq : ∀ {xs ys : List (PyValue F)}, SameItems xs ys →
    redactItems xs = redactItems ys
  | [], [], _ => rfl
  | [], _ :: _, h => h.elim
  | _ :: _, [], h => h.elim
  | x :: xs, y :: ys, h => by
    rw [redactItems, redactItems, redact_eq h.1, redactItems_eq h.2]

lemma redactEntries_eq : ∀ {es fs : PyObject F}, SameEntries es fs →
    redactEntries es = redactEntries fs
  | [], [], _ => rfl
  | [], _ :: _, h => h.elim
  | _ :: _, [], h => h.elim
  | (k, v) :: es, (l, w) :: fs, h => by
    rw [redactEntries, redactEntries, redactText_eq h.1, redact_eq h.2.1, redactEntries_eq h.2.2]

end

variable [PyFloat F] {interpreter : EventInterpreter}

/-! ## Chunks -/

/-- The lines of a stream, the last of which is what the stream ends with. -/
def readLines (F : Type) [PyFloat F] (interpreter : EventInterpreter)
    (hasher : TransportEventHasher) (lines : List Bytes) :
    Except CodexFault TransportEventHasher :=
  lines.foldlM (readLine F interpreter) hasher

lemma readLines_cons (hasher : TransportEventHasher) (line : Bytes) (lines : List Bytes) :
    readLines F interpreter hasher (line :: lines) =
      readLine F interpreter hasher line >>= fun hasher => readLines F interpreter hasher lines :=
  List.foldlM_cons

/-- Lines are taken out of the bytes that have arrived. -/
lemma readLines_piecesFrom (hasher : TransportEventHasher) (line bytes more : Bytes) :
    readLines F interpreter hasher (piecesFrom isFeed line (bytes ++ more)) =
      takeLines F interpreter hasher line bytes >>= fun r =>
        readLines F interpreter r.1 (piecesFrom isFeed r.2 more) := by
  induction bytes generalizing hasher line with
  | nil => rfl
  | cons b bs ih =>
    by_cases hb : isFeed b = true
    · rw [List.cons_append, piecesFrom_cons_of hb, readLines_cons, takeLines, if_pos hb]
      simp only [bind_assoc]
      congr 1
      funext hasher
      exact ih hasher []
    · rw [List.cons_append, piecesFrom, if_neg hb, takeLines, if_neg hb]
      exact ih hasher (line ++ [b])

/-- What has been looked at is not looked at again. -/
lemma takeLines_append {pending : Bytes} (h : ∀ b ∈ pending, isFeed b = false)
    (hasher : TransportEventHasher) (line bytes : Bytes) :
    takeLines F interpreter hasher line (pending ++ bytes) =
      takeLines F interpreter hasher (line ++ pending) bytes := by
  induction pending generalizing line with
  | nil => simp
  | cons b pending ih =>
    rw [List.forall_mem_cons] at h
    rw [List.cons_append, takeLines, if_neg (by simp [h.1]), ih h.2, List.append_assoc]
    rfl

/-- What is left has no line end. -/
lemma not_mem_of_takeLines {hasher hasher' : TransportEventHasher} {line bytes rest : Bytes}
    (hline : ∀ b ∈ line, isFeed b = false)
    (h : takeLines F interpreter hasher line bytes = .ok (hasher', rest)) :
    ∀ b ∈ rest, isFeed b = false := by
  induction bytes generalizing hasher line with
  | nil =>
    obtain ⟨-, rfl⟩ := Prod.mk.inj (Except.ok.inj h)
    exact hline
  | cons b bs ih =>
    rw [takeLines] at h
    split_ifs at h with hb
    · obtain ⟨hasher, -, hrest⟩ := bind_eq_ok.1 h
      exact ih (by simp) hrest
    · refine ih ?_ h
      intro c hc
      rcases List.mem_append.1 hc with hc | hc
      · exact hline c hc
      · obtain rfl := List.mem_singleton.1 hc
        simpa using hb

/-- A line that is too long already is not read, whatever comes. -/
lemma readLines_of_long {line : Bytes} (h : ¬ line.length ≤ jsonlLineLimit)
    (hasher : TransportEventHasher) (more : Bytes) :
    readLines F interpreter hasher (piecesFrom isFeed line more) = .error .stdoutLimit := by
  obtain ⟨first, rest, hpieces⟩ := exists_piecesFrom_eq isFeed line more
  have hlong : ¬ (line ++ first).length ≤ jsonlLineLimit := by
    rw [List.length_append]
    omega
  rw [hpieces, readLines_cons, readLine, checkLine, require, if_neg hlong]
  rfl

lemma readChunks_eq (chunks : List Chunk) {hasher : TransportEventHasher} {pending : Bytes}
    (hpending : ∀ b ∈ pending, isFeed b = false) (hlength : pending.length ≤ jsonlLineLimit) :
    readChunks F interpreter hasher pending chunks =
      readLines F interpreter hasher (piecesFrom isFeed pending (chunks.flatMap Subtype.val)) := by
  induction chunks generalizing hasher pending with
  | nil =>
    rw [readChunks, List.flatMap_nil, piecesFrom, readLines, List.foldlM_cons, readLine, checkLine,
      require, if_pos hlength]
    exact (bind_pure _).symm
  | cons chunk chunks ih =>
    rw [readChunks, List.flatMap_cons, readLines_piecesFrom, takeLines_append hpending,
      List.nil_append]
    cases h : takeLines F interpreter hasher pending chunk.val with
    | error fault => rfl
    | ok r =>
      obtain ⟨hasher', rest⟩ := r
      have hrest := not_mem_of_takeLines hpending h
      simp only [ok_bind]
      by_cases hlong : rest.length ≤ jsonlLineLimit
      · rw [← ih hrest hlong, checkLine, require, if_pos hlong]
        rfl
      · rw [readLines_of_long hlong, checkLine, require, if_neg hlong]
        rfl

/-- **The chunks do not matter.**  The reader takes the lines of the stream. -/
theorem readJsonl_eq (chunks : List Chunk) :
    readJsonl F interpreter chunks =
      readLines F interpreter .initial (pieces isFeed (chunks.flatMap Subtype.val)) :=
  readChunks_eq chunks (by simp) (by simp [jsonlLineLimit])

/-! ## Accepted events -/

/-- The hasher after some events. -/
def recordAll (h : TransportEventHasher) (events : List (Bytes × UsageReport)) :
    TransportEventHasher :=
  events.foldl (fun h event => h.record event.1 event.2) h

/-- A hasher accepts lines when it reads each of them. -/
lemma foldlM_add_eq_ok {h h' : TransportEventHasher} {lines : List Bytes} :
    lines.foldlM (TransportEventHasher.add F interpreter) h = .ok h' ↔
      ∃ events, List.Forall₂ (fun line event => readEvent F interpreter line = .ok event) lines
        events ∧ h' = recordAll h events := by
  induction lines generalizing h with
  | nil =>
    constructor
    · intro hok
      exact ⟨[], .nil, (Except.ok.inj hok).symm⟩
    · rintro ⟨events, hevents, rfl⟩
      cases hevents
      rfl
  | cons line lines ih =>
    rw [List.foldlM_cons, bind_eq_ok]
    constructor
    · rintro ⟨next, hnext, hrest⟩
      obtain ⟨events, hevents, rfl⟩ := ih.1 hrest
      unfold TransportEventHasher.add at hnext
      split at hnext
      · rename_i event hevent
        obtain rfl := Except.ok.inj hnext
        exact ⟨event :: events, .cons hevent hevents, rfl⟩
      · cases hnext
    · rintro ⟨events, hevents, rfl⟩
      cases hevents with
      | @cons _ event _ events hevent hevents =>
        refine ⟨h.record event.1 event.2, ?_, ih.2 ⟨events, hevents, rfl⟩⟩
        rw [TransportEventHasher.add, hevent]

/-- The lines of a stream that are events. -/
def eventLines (stream : Bytes) : List Bytes :=
  (pieces isFeed stream).filter fun line => !line.isEmpty

lemma readLines_eq_ok {h h' : TransportEventHasher} {lines : List Bytes}
    (hok : readLines F interpreter h lines = .ok h') :
    (lines.filter fun line => !line.isEmpty).foldlM (TransportEventHasher.add F interpreter) h =
      .ok h' := by
  induction lines generalizing h with
  | nil => exact hok
  | cons line lines ih =>
    rw [readLines_cons, readLine] at hok
    obtain ⟨next, hnext, hrest⟩ := bind_eq_ok.1 hok
    obtain ⟨⟨⟩, -, hadd⟩ := bind_eq_ok.1 hnext
    by_cases hempty : line.isEmpty = true
    · rw [if_pos hempty] at hadd
      obtain rfl := Except.ok.inj hadd
      rw [List.filter_cons_of_neg (by simp [hempty])]
      exact ih hrest
    · rw [if_neg hempty] at hadd
      rw [List.filter_cons_of_pos (by simp [hempty]), List.foldlM_cons, hadd]
      exact ih hrest

/-- The events of an accepted stream. -/
lemma events_of_readJsonl {chunks : List Chunk} {hasher : TransportEventHasher}
    (h : readJsonl F interpreter chunks = .ok hasher) :
    ∃ events, List.Forall₂ (fun line event => readEvent F interpreter line = .ok event)
      (eventLines (chunks.flatMap Subtype.val)) events ∧ hasher = recordAll .initial events := by
  rw [readJsonl_eq] at h
  exact foldlM_add_eq_ok.1 (readLines_eq_ok h)

lemma digest_record (h : TransportEventHasher) (encoded : Bytes) (report : UsageReport) :
    (h.record encoded report).digest =
      h.digest ++ (Sha256.bigEndian 8 encoded.length ++ encoded) := rfl

lemma usageIncomplete_record (h : TransportEventHasher) (encoded : Bytes) (report : UsageReport) :
    (h.record encoded report).usageIncomplete = (h.usageIncomplete || report == .incomplete) := rfl

/-- The digest has the texts of the events. -/
lemma digest_recordAll (h : TransportEventHasher) (events : List (Bytes × UsageReport)) :
    (recordAll h events).digest = h.digest ++ framed 8 (events.map Prod.fst) := by
  induction events generalizing h with
  | nil => simp [recordAll, framed]
  | cons event events ih =>
    have hrest := ih (h.record event.1 event.2)
    rw [List.map_cons, framed_cons]
    simp only [recordAll, List.foldl_cons] at hrest ⊢
    rw [hrest, digest_record, List.append_assoc, List.append_assoc]

/-- The events say nothing of usage, or one of them does not say all of it. -/
def Unmeasured (reports : List UsageReport) : Prop :=
  .incomplete ∈ reports ∨ ∀ report ∈ reports, report = .other

lemma usageIncomplete_recordAll (h : TransportEventHasher) (events : List (Bytes × UsageReport)) :
    (recordAll h events).usageIncomplete = true ↔
      h.usageIncomplete = true ∨ .incomplete ∈ events.map Prod.snd := by
  induction events generalizing h with
  | nil => simp [recordAll]
  | cons event events ih =>
    have hrest := ih (h.record event.1 event.2)
    simp only [recordAll, List.foldl_cons] at hrest ⊢
    rw [hrest, usageIncomplete_record, Bool.or_eq_true, beq_iff_eq, List.map_cons, List.mem_cons,
      or_assoc, eq_comm (a := event.2)]

lemma usage_recordAll_eq_none (h : TransportEventHasher) (events : List (Bytes × UsageReport)) :
    (recordAll h events).usage = none ↔
      h.usage = none ∧ ∀ report ∈ events.map Prod.snd, ∀ usage, report ≠ .turn usage := by
  induction events generalizing h with
  | nil => simp [recordAll]
  | cons event events ih =>
    have hrest := ih (h.record event.1 event.2)
    simp only [recordAll, List.foldl_cons] at hrest ⊢
    rw [hrest, List.map_cons, List.forall_mem_cons]
    obtain ⟨encoded, report⟩ := event
    cases report with
    | other => simp [TransportEventHasher.record]
    | incomplete => simp [TransportEventHasher.record]
    | turn usage => simp [TransportEventHasher.record]

/-- When no usage is reported. -/
lemma reportedUsage_eq_none {events : List (Bytes × UsageReport)} :
    (recordAll .initial events).reportedUsage = none ↔ Unmeasured (events.map Prod.snd) := by
  have hincomplete := usageIncomplete_recordAll .initial events
  have husage := usage_recordAll_eq_none .initial events
  simp only [TransportEventHasher.initial, Bool.false_eq_true, false_or, true_and] at hincomplete husage
  rw [TransportEventHasher.reportedUsage, Unmeasured]
  by_cases h : .incomplete ∈ events.map Prod.snd
  · simp only [TransportEventHasher.initial, hincomplete.2 h, if_true, h, true_or]
  · rw [TransportEventHasher.initial, if_neg (fun hi => h (hincomplete.1 hi)), husage, or_iff_right h]
    constructor
    · intro hall report hreport
      cases report with
      | other => rfl
      | incomplete => exact absurd hreport h
      | turn usage => exact absurd rfl (hall _ hreport usage)
    · rintro hall report hreport usage rfl
      cases hall _ hreport

/-! ## What is caught -/

/-- `TransportEventHasher.add` catches all that may happen. -/
lemma raises_readEvent (line : Bytes) :
    Raises caughtFaults (readEvent F interpreter line) := by
  have hrefusal : ∀ d : JsonDemand, (d.refusal : PyFault Empty) ∈ caughtFaults := by
    intro d
    cases d <;> simp [JsonDemand.refusal, caughtFaults]
  have hloads : ∀ text, Raises caughtFaults
      ((loadsEvent (F := F) text).run interpreter.granted JsonDemand.refusal) := by
    intro text
    have hdecode : Raises [.decode] (loadsEvent (F := F) text).outcome :=
      raises_loads (fun es => raises_pure _) text
    exact raises_run (fun d _ _ => hrefusal d) (hdecode.mono (by decide))
  have hcanonical : ∀ v : PyValue F, Raises caughtFaults
      ((v.canonicalJson : JsonUse Empty Bytes).run interpreter.granted JsonDemand.refusal) := by
    intro v
    have hvalue : Raises [.value] ((v.canonicalJson : JsonUse Empty Bytes).run (fun _ => true)
        JsonDemand.refusal) := raises_canonicalJson fun _ _ _ => rfl
    rw [run_of_granted fun _ _ => rfl] at hvalue
    exact raises_run (fun d _ _ => hrefusal d) (hvalue.mono (by decide))
  have hdecode : Raises caughtFaults (decodeEvent (F := F) interpreter line) := by
    refine Raises.bind (raises_orThrow fun _ => by decide) fun text _ => ?_
    refine (hloads text).bind fun v _ => ?_
    cases v with
    | dict es => exact raises_pure es
    | _ => exact raises_throw (by decide)
  refine hdecode.bind fun value _ => Raises.bind ?_ fun encoded _ => raises_pure _
  exact Raises.bind (raises_require (by decide)) fun _ _ => hcanonical _

lemma foldlM_add_error {h : TransportEventHasher} {lines : List Bytes} {fault : CodexFault}
    (herror : lines.foldlM (TransportEventHasher.add F interpreter) h = .error fault) :
    fault = .jsonlInvalid := by
  induction lines generalizing h with
  | nil => cases herror
  | cons line lines ih =>
    rw [List.foldlM_cons] at herror
    cases hadd : TransportEventHasher.add F interpreter h line with
    | ok next =>
      rw [hadd] at herror
      exact ih herror
    | error other =>
      rw [hadd] at herror
      obtain rfl := Except.error.inj herror
      unfold TransportEventHasher.add at hadd
      split at hadd
      · cases hadd
      · rename_i cause hcause
        rw [if_pos (raises_readEvent line cause hcause)] at hadd
        exact (Except.error.inj hadd).symm

/-! ## Both readers -/

omit [PyFloat F] in
lemma exists_of_mem_forall₂ {α β : Type} {r : α → β → Prop} {xs : List α} {ys : List β}
    (h : List.Forall₂ r xs ys) {x : α} (hx : x ∈ xs) : ∃ y ∈ ys, r x y := by
  induction h with
  | nil => cases hx
  | @cons a b as bs hab _ ih =>
    rcases List.mem_cons.1 hx with rfl | hx
    · exact ⟨b, List.mem_cons_self, hab⟩
    · obtain ⟨y, hy, hxy⟩ := ih hx
      exact ⟨y, List.mem_cons_of_mem b hy, hxy⟩

/-- What the finished bytes are split into. -/
def splitEvents (stream : Bytes) : List Bytes :=
  (eventLines stream).flatMap fun line => (pieces isReturn line).filter isText

lemma filter_splitLines_eq (stream : Bytes) :
    (splitLines stream).filter isText = splitEvents stream := by
  rw [filter_splitLines, splitEvents, eventLines]
  induction pieces isFeed stream with
  | nil => rfl
  | cons line lines ih =>
    by_cases hempty : line.isEmpty = true
    · obtain rfl := List.isEmpty_iff.1 hempty
      rw [List.filter_cons_of_neg (by simp), List.flatMap_cons, ih]
      rfl
    · rw [List.filter_cons_of_pos (by simp [hempty]), List.flatMap_cons, List.flatMap_cons, ih]

lemma transportUsage_of_events {stream : Bytes} {events : List (Bytes × UsageReport)}
    (h : List.Forall₂ (fun line event => readEvent F interpreter line = .ok event)
      (splitEvents stream) events) :
    transportUsage F interpreter stream = .ok (recordAll .initial events).reportedUsage := by
  rw [transportUsage, filter_splitLines_eq, foldlM_add_eq_ok.2 ⟨events, h, rfl⟩]

lemma transportUsage_of_no_event {stream piece : Bytes} (hmem : piece ∈ splitEvents stream)
    (hpiece : ∀ event, readEvent F interpreter piece ≠ .ok event) :
    transportUsage F interpreter stream = .ok none := by
  rw [transportUsage, filter_splitLines_eq]
  cases hfold : (splitEvents stream).foldlM (TransportEventHasher.add F interpreter) .initial with
  | ok hasher =>
    obtain ⟨events, hevents, -⟩ := foldlM_add_eq_ok.1 hfold
    obtain ⟨event, -, hevent⟩ := exists_of_mem_forall₂ hevents hmem
    exact absurd hevent (hpiece event)
  | error fault =>
    obtain rfl := foldlM_add_error hfold
    rfl

/-- Lines whose carriage returns stand at their ends are the same events when they are split. -/
lemma splitEvents_of_plain {lines : List Bytes} {events : List (Bytes × UsageReport)}
    (h : List.Forall₂ (fun line event => readEvent F interpreter line = .ok event) lines events)
    (hplain : ∀ line ∈ lines, PlainReturns line) :
    List.Forall₂ (fun line event => readEvent F interpreter line = .ok event)
      (lines.flatMap fun line => (pieces isReturn line).filter isText) events := by
  induction h with
  | nil => exact .nil
  | @cons line event lines events hevent hevents ih =>
    rw [List.forall_mem_cons] at hplain
    obtain ⟨piece, hpieces, hpiece⟩ := readEvent_pieces_of_plain hevent hplain.1
    rw [List.flatMap_cons, hpieces]
    exact .cons hpiece (ih hplain.2)

/-- What the events of some lines say of usage. -/
def usageReports (F : Type) [PyFloat F] (interpreter : EventInterpreter) (lines : List Bytes) :
    List UsageReport :=
  lines.filterMap fun line => (decodeEvent (F := F) interpreter line).toOption.map usageReport

lemma usageReports_of_events {lines : List Bytes} {events : List (Bytes × UsageReport)}
    (h : List.Forall₂ (fun line event => readEvent F interpreter line = .ok event) lines events) :
    usageReports F interpreter lines = events.map Prod.snd := by
  induction h with
  | nil => rfl
  | @cons line event lines events hevent hevents ih =>
    obtain ⟨value, hvalue, hencode⟩ := bind_eq_ok.1 hevent
    obtain ⟨encoded, -, hpure⟩ := bind_eq_ok.1 hencode
    obtain rfl := Except.ok.inj hpure
    rw [usageReports, List.filterMap_cons, hvalue]
    exact congrArg (_ :: ·) ih

/-- Two lines are events that differ in the tokens of their strings only. -/
def SameEvent (F : Type) [PyFloat F] (interpreter : EventInterpreter) (line line' : Bytes) : Prop :=
  ∃ value value' : PyObject F, decodeEvent interpreter line = .ok value ∧
    decodeEvent interpreter line' = .ok value' ∧ SameEntries value value'

lemma encoded_of_sameEvent {line line' : Bytes} {event event' : Bytes × UsageReport}
    (h : readEvent F interpreter line = .ok event) (h' : readEvent F interpreter line' = .ok event')
    (hsame : SameEvent F interpreter line line') : event.1 = event'.1 := by
  obtain ⟨value, value', hvalue, hvalue', hentries⟩ := hsame
  obtain ⟨v, hv, hrest⟩ := bind_eq_ok.1 h
  obtain ⟨v', hv', hrest'⟩ := bind_eq_ok.1 h'
  obtain rfl := Except.ok.inj (hvalue.symm.trans hv)
  obtain rfl := Except.ok.inj (hvalue'.symm.trans hv')
  obtain ⟨encoded, hencoded, hpure⟩ := bind_eq_ok.1 hrest
  obtain ⟨encoded', hencoded', hpure'⟩ := bind_eq_ok.1 hrest'
  obtain rfl := Except.ok.inj hpure
  obtain rfl := Except.ok.inj hpure'
  obtain ⟨⟨⟩, -, hrun⟩ := bind_eq_ok.1 hencoded
  obtain ⟨⟨⟩, -, hrun'⟩ := bind_eq_ok.1 hencoded'
  have hredact : redact (.dict value) = redact (.dict value') := redact_eq hentries
  rw [hredact] at hrun
  exact Except.ok.inj (hrun.symm.trans hrun')

/-- **Tokens do not matter.** -/
lemma hexdigest_of_sameEvents {lines lines' : List Bytes} {events events' : List (Bytes × UsageReport)}
    (h : List.Forall₂ (fun line event => readEvent F interpreter line = .ok event) lines events)
    (h' : List.Forall₂ (fun line event => readEvent F interpreter line = .ok event) lines' events')
    (hsame : List.Forall₂ (SameEvent F interpreter) lines lines') :
    (recordAll .initial events).hexdigest = (recordAll .initial events').hexdigest := by
  have hencoded : events.map Prod.fst = events'.map Prod.fst := by
    induction hsame generalizing events events' with
    | nil =>
      cases h
      cases h'
      rfl
    | @cons line line' lines lines' hline hlines ih =>
      cases h with
      | @cons _ event _ events hevent hevents =>
        cases h' with
        | @cons _ event' _ events' hevent' hevents' =>
          rw [List.map_cons, List.map_cons, ih hevents hevents',
            encoded_of_sameEvent hevent hevent' hline]
  rw [TransportEventHasher.hexdigest, TransportEventHasher.hexdigest, digest_recordAll,
    digest_recordAll, hencoded]

/-- An interpreter that grants everything. -/
def generousInterpreter : EventInterpreter where
  granted _ := true
  redacting _ := true

/-- A turn with a carriage return between two tokens of its event. -/
def cutTurn : Bytes :=
  ['{', '"', 't', 'y', 'p', 'e', '"', ':', '\r', '"', 't', 'u', 'r', 'n', '.', 'c', 'o', 'm', 'p',
    'l', 'e', 't', 'e', 'd', '"', ',', '"', 'u', 's', 'a', 'g', 'e', '"', ':', '{',
    '"', 'i', 'n', 'p', 'u', 't', '_', 't', 'o', 'k', 'e', 'n', 's', '"', ':', '2', ',',
    '"', 'c', 'a', 'c', 'h', 'e', 'd', '_', 'i', 'n', 'p', 'u', 't', '_', 't', 'o', 'k', 'e', 'n',
    's', '"', ':', '0', ',',
    '"', 'o', 'u', 't', 'p', 'u', 't', '_', 't', 'o', 'k', 'e', 'n', 's', '"', ':', '1', '}', '}',
    '\n'].map Char.toNat

theorem cutTurn_ne_nil : cutTurn ≠ [] := by simp [cutTurn]

end Aizim.Agents
