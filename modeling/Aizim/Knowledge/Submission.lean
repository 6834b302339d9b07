import Aizim.Framework.Hex
import Aizim.Knowledge.PromotionContext
import Aizim.State.Schema

/-!
# Submission of a patch

`ContributionService.submit` records a contribution as an event.  The edits of a patch go into its
payload as objects with two offsets and the replacement in hexadecimal (`editsJson`), the payload
is checked by the codec of the event (`validatePayload`), and a rebase reads the edits back from
the log (`editsOf`).

The codec accepts the payload of every draft (`validatePayload_contributionPayload`).  The reader
is stricter than the codec: it wants a text that is not empty for the replacement, and the
replacement of a deletion is the empty text.  So a patch comes back exactly when it deletes
nothing, `editsOf_contributionPayload_iff`.
-/

namespace Aizim.Knowledge

open JsonValue JsonObject Domain State

/-! ## Drafts -/

/-- A source and its digest. -/
structure SnapshotPayload where
  source : Bytes
  payloadHash : String
  source_valid : (decode source).isSome
  payloadHash_eq : Sha256.hexdigest source = payloadHash

/-- What a draft carries, `PatchPayload | SnapshotPayload`. -/
inductive DraftPayload
  | patch (patch : PatchPayload)
  | snapshot (snapshot : SnapshotPayload)

/-- `ContributionDraft`, with the checks of its constructor. -/
structure ContributionDraft where
  contributionId : String
  workerId : String
  runId : String
  leaseId : String
  documentId : String
  epochPair : EpochPair
  environmentFingerprint : String
  payload : DraftPayload
  candidateName : String
  completeType : String
  imports : List String
  dependencies : List String
  assumptions : List String
  evidenceLinks : List String
  names_ne : ∀ name ∈ [contributionId, workerId, runId, leaseId, documentId, candidateName,
    completeType], name ≠ ""
  environmentFingerprint_valid : isSha256 environmentFingerprint = true
  strings_ne : ∀ values ∈ [imports, dependencies, assumptions, evidenceLinks], "" ∉ values

/-! ## The event -/

/-- One item of `_edits`. -/
def editJson (edit : ByteEdit) : JsonValue :=
  .dict [("start_byte", .int edit.startByte), ("end_byte", .int edit.endByte),
    ("replacement_hex", .str (toHex edit.replacementUtf8))]

/-- `_edits` of `submission.py`. -/
def editsJson (payload : PatchPayload) : JsonValue := .list (payload.edits.map editJson)

/-- `_json_strings` -/
def jsonStrings (values : List String) : JsonValue := .list (values.map .str)

/-- The fields that only a patch has. -/
def DraftPayload.fields : DraftPayload → JsonObject
  | .patch p => [("expected_content_hash", .str p.expectedContentHash), ("edits", editsJson p)]
  | .snapshot _ => []

/-- `"patch" if type(draft.payload) is PatchPayload else "snapshot"` -/
def DraftPayload.kind : DraftPayload → String
  | .patch _ => "patch"
  | .snapshot _ => "snapshot"

/-- The payload that `submit` records, for the source it stored and the version of the document. -/
def contributionPayload (draft : ContributionDraft) (source : Bytes) (fileVersion : ℕ) :
    JsonObject :=
  [("contribution_id", .str draft.contributionId), ("worker_id", .str draft.workerId),
   ("lease_id", .str draft.leaseId), ("document_id", .str draft.documentId),
   ("payload_kind", .str draft.payload.kind), ("payload_hash", .str (Sha256.hexdigest source)),
   ("expected_file_version", .int fileVersion),
   ("environment_fingerprint", .str draft.environmentFingerprint),
   ("base_epoch", .str draft.epochPair.baseEpoch),
   ("knowledge_epoch", .int draft.epochPair.knowledgeEpoch),
   ("candidate_name", .str draft.candidateName), ("complete_type", .str draft.completeType),
   ("imports", jsonStrings draft.imports), ("dependencies", jsonStrings draft.dependencies),
   ("assumptions", jsonStrings draft.assumptions),
   ("evidence_links", jsonStrings draft.evidenceLinks)] ++ draft.payload.fields

/-- The edit deletes: it puts nothing in the place of its range. -/
def ByteEdit.IsDeletion (edit : ByteEdit) : Prop := edit.replacementUtf8 = []

instance (edit : ByteEdit) : Decidable edit.IsDeletion := inferInstanceAs (Decidable (_ = _))

/-! ## Hexadecimal text -/

/-- What a digit that `hex` writes is to the reader. -/
lemma digitChar_spec {n : ℕ} (h : n < 16) : hexValue (Nat.digitChar n) = some n ∧
    isAsciiSpace (Nat.digitChar n) = false := by
  have hall : ∀ n < 16, hexValue (Nat.digitChar n) = some n ∧
      isAsciiSpace (Nat.digitChar n) = false := by
    decide +kernel
  exact hall n h

/-- `bytes.fromhex` inverts `hex`. -/
lemma fromHex_flatMap_hexByte {value : Bytes} (h : ∀ b ∈ value, b < 256) :
    fromHex none (value.flatMap Sha256.hexByte) = some value := by
  induction value with
  | nil => rfl
  | cons b bs ih =>
    have hb : b < 256 := h b List.mem_cons_self
    obtain ⟨hhigh, hspace⟩ := digitChar_spec (show b / 16 < 16 by omega)
    obtain ⟨hlow, -⟩ := digitChar_spec (show b % 16 < 16 by omega)
    have hrest : fromHex none (bs.flatMap Sha256.hexByte) = some bs :=
      ih fun b' hb' => h b' (List.mem_cons_of_mem b hb')
    have hbyte : 16 * (b / 16) + b % 16 = b := by omega
    simp [Sha256.hexByte, fromHex, hhigh, hspace, hlow, hrest, hbyte]

lemma fromHex_toHex {value : Bytes} (h : ∀ b ∈ value, b < 256) :
    fromHex none (toHex value).toList = some value := by
  rw [toHex, String.toList_ofList]
  exact fromHex_flatMap_hexByte h

lemma lt_of_mem_utf8Char {c : Char} {b : ℕ} (h : b ∈ utf8Char c) : b < 256 := by
  have hlt : c.toNat < 0x110000 := toNat_lt_of_char c
  unfold utf8Char at h
  dsimp only at h
  split_ifs at h
  all_goals
    simp only [List.mem_cons, List.not_mem_nil, or_false] at h
    omega

/-- The bytes of an edit are bytes. -/
lemma ByteEdit.lt_of_mem (edit : ByteEdit) {b : ℕ} (h : b ∈ edit.replacementUtf8) : b < 256 := by
  obtain ⟨text, htext⟩ := Option.isSome_iff_exists.1 edit.replacement_valid
  rw [← encode_of_decode htext, encode] at h
  obtain ⟨c, -, hb⟩ := List.mem_flatMap.1 h
  exact lt_of_mem_utf8Char hb

/-! ## The codec -/

/-- The codec accepts every edit, also a deletion. -/
lemma patchEdit_editJson (edit : ByteEdit) : patchEdit (editJson edit) = true := by
  have hhex : (toHex edit.replacementUtf8).toList.all isLowerHex = true :=
    isLowerHex_toHex fun b hb => edit.lt_of_mem hb
  have hlength : (toHex edit.replacementUtf8).toList.length % 2 = 0 := by
    rw [length_toHex]
    omega
  have hordered : (edit.startByte : Int) ≤ edit.endByte := by exact_mod_cast edit.ordered
  simp only [editJson, patchEdit, getEntry, hasKeys]
  simp [hhex, hlength, hordered]

lemma editsJson_accepted (patch : PatchPayload) :
    FieldCheck.patchEdits.accepts (editsJson patch) = true := by
  rw [editsJson, FieldCheck.accepts, List.all_map, List.all_eq_true]
  intro edit _
  exact patchEdit_editJson edit

lemma jsonStrings_accepted {values : List String} (h : "" ∉ values) :
    FieldCheck.strings.accepts (jsonStrings values) = true := by
  rw [jsonStrings, FieldCheck.accepts, List.all_map, List.all_eq_true]
  intro value hvalue
  have hne : value ≠ "" := fun heq => h (heq ▸ hvalue)
  simpa [textPayload] using hne

/-- The codec of a submission. -/
def contributionCodec : PayloadCodec :=
  ⟨["contribution_id"], contributionOptional, contributionValidators⟩

/-- The codec knows the field and accepts its value. -/
def KnownEntry (entry : String × JsonValue) : Prop :=
  (entry.1 ∈ contributionCodec.required ∨ entry.1 ∈ contributionCodec.optional) ∧
    (contributionCodec.validator entry.1).accepts entry.2 = true

/-- Fields that the codec knows and checks the same way, with a value that passes the check. -/
lemma knownEntry_of_mem (fields : List String) (check : FieldCheck)
    (hfields : ∀ field ∈ fields, field ∈ "contribution_id" :: contributionOptional ∧
      contributionCodec.validator field = check)
    {field : String} (hfield : field ∈ fields) {value : JsonValue}
    (haccepts : check.accepts value = true) : KnownEntry (field, value) := by
  obtain ⟨hknown, hcheck⟩ := hfields field hfield
  refine ⟨?_, hcheck ▸ haccepts⟩
  rcases List.mem_cons.1 hknown with h | h
  · exact .inl (List.mem_singleton.2 h)
  · exact .inr h

lemma text_accepted {value : String} (h : value ≠ "") :
    FieldCheck.text.accepts (.str value) = true := by
  simpa [FieldCheck.accepts, textPayload] using h

lemma kind_accepted (payload : DraftPayload) :
    (FieldCheck.enum ["patch", "snapshot"]).accepts (.str payload.kind) = true := by
  cases payload with
  | patch p => rfl
  | snapshot s => rfl

lemma natural_accepted (n : ℕ) : FieldCheck.integer.accepts (.int n) = true := by
  simp [FieldCheck.accepts]

/-- Every entry that `submit` writes is known to the codec. -/
lemma knownEntry_contributionPayload (draft : ContributionDraft) (source : Bytes)
    (fileVersion : ℕ) : ∀ entry ∈ contributionPayload draft source fileVersion,
      KnownEntry entry := by
  have hstrings := draft.strings_ne
  have hnames := draft.names_ne
  simp only [List.forall_mem_cons, List.not_mem_nil, false_implies, implies_true, and_true]
    at hstrings hnames
  obtain ⟨himports, hdependencies, hassumptions, hlinks⟩ := hstrings
  obtain ⟨hid, hworker, -, hlease, hdocument, hname, htype⟩ := hnames
  have htext : ∀ field ∈ ["contribution_id", "worker_id", "lease_id", "document_id",
      "candidate_name", "complete_type"], ∀ value, value ≠ "" → KnownEntry (field, .str value) :=
    fun field hfield value hvalue =>
      knownEntry_of_mem _ _ (by decide) hfield (text_accepted hvalue)
  have hhash : ∀ field ∈ ["payload_hash", "environment_fingerprint", "base_epoch",
      "expected_content_hash"], ∀ value, isSha256 value = true → KnownEntry (field, .str value) :=
    fun field hfield value hvalue =>
      knownEntry_of_mem _ .sha256 (by decide) hfield hvalue
  have hlist : ∀ field ∈ ["imports", "dependencies", "assumptions", "evidence_links"],
      ∀ values : List String, "" ∉ values → KnownEntry (field, jsonStrings values) :=
    fun field hfield values hvalues =>
      knownEntry_of_mem _ _ (by decide) hfield (jsonStrings_accepted hvalues)
  have hnatural : ∀ field ∈ ["expected_file_version", "knowledge_epoch"], ∀ n : ℕ,
      KnownEntry (field, .int n) :=
    fun field hfield n => knownEntry_of_mem _ _ (by decide) hfield (natural_accepted n)
  have hkind : KnownEntry ("payload_kind", .str draft.payload.kind) :=
    knownEntry_of_mem ["payload_kind"] _ (by decide) (by decide) (kind_accepted draft.payload)
  rw [contributionPayload, List.forall_mem_append]
  constructor
  · simp only [List.forall_mem_cons, List.not_mem_nil, false_implies, implies_true, and_true]
    exact ⟨htext _ (by decide) _ hid, htext _ (by decide) _ hworker, htext _ (by decide) _ hlease,
      htext _ (by decide) _ hdocument, hkind, hhash _ (by decide) _ (isSha256_hexdigest source),
      hnatural _ (by decide) _, hhash _ (by decide) _ draft.environmentFingerprint_valid,
      hhash _ (by decide) _ draft.epochPair.baseEpoch_valid, hnatural _ (by decide) _,
      htext _ (by decide) _ hname, htext _ (by decide) _ htype, hlist _ (by decide) _ himports,
      hlist _ (by decide) _ hdependencies, hlist _ (by decide) _ hassumptions,
      hlist _ (by decide) _ hlinks⟩
  · cases draft.payload with
    | snapshot s => intro entry hentry; simp [DraftPayload.fields] at hentry
    | patch p =>
      simp only [DraftPayload.fields, List.forall_mem_cons, List.not_mem_nil, false_implies,
        implies_true, and_true]
      exact ⟨hhash _ (by decide) _ p.contentHash_valid,
        knownEntry_of_mem ["edits"] _ (by decide) (by decide) (editsJson_accepted p)⟩

/-- The payload of every draft passes the validation of its event. -/
lemma validatePayload_contributionPayload [CharacterDatabase] (draft : ContributionDraft)
    (source : Bytes) (fileVersion : ℕ) :
    validatePayload .contributionSubmitted (contributionPayload draft source fileVersion) =
      .ok () := by
  have hknown := knownEntry_contributionPayload draft source fileVersion
  refine (PayloadCodec.validate_eq_ok_iff contributionCodec _ _ _).2 ⟨?_, ?_, ?_⟩
  · simp [contributionCodec, contributionPayload, getEntry]
  · intro field hfield
    obtain ⟨entry, hentry, rfl⟩ := List.mem_map.1 hfield
    exact (hknown entry hentry).1
  · intro entry hentry
    exact (hknown entry hentry).2

/-! ## Reading back -/

/-- The constructor accepts the offsets and the bytes of an edit. -/
lemma ByteEdit.create_self (edit : ByteEdit) :
    ByteEdit.create edit.startByte edit.endByte edit.replacementUtf8 = .ok edit := by
  have hordered : (0 : Int) ≤ edit.startByte ∧ (edit.startByte : Int) ≤ edit.endByte := by
    have := edit.ordered
    omega
  rw [ByteEdit.create, dif_pos hordered, dif_pos edit.replacement_valid]
  simp

/-- The reader refuses a deletion and gives back any other edit. -/
lemma editOf_editJson (edit : ByteEdit) :
    editOf (editJson edit) = if edit.IsDeletion then .error invalidPatchEdits else .ok edit := by
  have hhex : fromHex none (toHex edit.replacementUtf8).toList = some edit.replacementUtf8 :=
    fromHex_toHex fun b hb => edit.lt_of_mem hb
  have hkeys : hasKeys [("start_byte", .int edit.startByte), ("end_byte", .int edit.endByte),
      ("replacement_hex", .str (toHex edit.replacementUtf8))]
        ["start_byte", "end_byte", "replacement_hex"] = true := by
    simp [hasKeys, getEntry]
  have hempty : toHex edit.replacementUtf8 = "" ↔ edit.IsDeletion := toHex_eq_empty_iff
  have hstart : ¬ (edit.startByte : Int) < 0 := by omega
  have hend : ¬ (edit.endByte : Int) < 0 := by omega
  simp only [editJson, editOf, require_of hkeys, ok_bind, textField, integerField, getEntry]
  by_cases hdeletion : edit.IsDeletion
  · simp [hempty, hdeletion]
  · simp [hempty, hdeletion, hhex, orThrow, hstart, hend, ByteEdit.create_self, Except.mapError]

lemma textField_canonicalEntries (error : Fault) (payload : JsonObject) (field : String) :
    textField error (canonicalEntries payload) field = textField error payload field := by
  rw [textField, textField, getEntry_canonicalEntries]
  rcases getEntry field payload with _ | v
  · rfl
  · cases v <;> simp

lemma integerField_canonicalEntries (error : Fault) (payload : JsonObject) (field : String) :
    integerField error (canonicalEntries payload) field = integerField error payload field := by
  rw [integerField, integerField, getEntry_canonicalEntries]
  rcases getEntry field payload with _ | v
  · rfl
  · cases v <;> simp

lemma editOf_canonical (v : JsonValue) : editOf v.canonical = editOf v := by
  cases v with
  | dict item =>
    simp only [canonical_dict, editOf, hasKeys_canonicalEntries, textField_canonicalEntries,
      integerField_canonicalEntries]
  | _ => simp [editOf]

/-- A stored payload reads back like the one that was submitted. -/
lemma editsOf_canonicalEntries (payload : JsonObject) :
    editsOf (canonicalEntries payload) = editsOf payload := by
  rw [editsOf, editsOf, getEntry_canonicalEntries]
  rcases getEntry "edits" payload with _ | v
  · rfl
  · cases v with
    | list values =>
      simp only [Option.map_some, canonical_list, List.mapM_map]
      congr 1
      funext v
      exact editOf_canonical v
    | _ => simp

/-- The edits of a patch come back when it has no deletion, and nothing comes back otherwise. -/
lemma editsOf_of_edits {payload : JsonObject} {patch : PatchPayload}
    (h : getEntry "edits" payload = some (editsJson patch)) :
    editsOf payload = .ok patch.edits ↔ ∀ edit ∈ patch.edits, ¬ edit.IsDeletion := by
  simp only [editsOf, h, editsJson]
  constructor
  · intro hread edit hedit hdeletion
    rw [mapM_eq_ok, List.forall₂_map_left_iff, List.forall₂_same] at hread
    have hone := hread edit hedit
    rw [editOf_editJson, if_pos hdeletion] at hone
    simp at hone
  · intro hkept
    apply mapM_map_eq_ok
    intro edit hedit
    rw [editOf_editJson, if_neg (hkept edit hedit)]

/-- A patch is recorded by a payload that passes the validation of the event, and its edits are
read back from it, as it was submitted and as it is stored, exactly when none is a deletion. -/
theorem submitted_edits_survive_iff [CharacterDatabase] (draft : ContributionDraft)
    (patch : PatchPayload) (source : Bytes) (fileVersion : ℕ) :
    let payload := contributionPayload { draft with payload := .patch patch } source fileVersion
    (validatePayload .contributionSubmitted payload = .ok () ∧
        editsOf payload = .ok patch.edits ∧
        editsOf (canonicalEntries payload) = .ok patch.edits) ↔
      ∀ edit ∈ patch.edits, ¬ edit.IsDeletion := by
  intro payload
  have hvalid : validatePayload .contributionSubmitted payload = .ok () :=
    validatePayload_contributionPayload { draft with payload := .patch patch } source fileVersion
  have hedits : getEntry "edits" payload = some (editsJson patch) := by
    simp [payload, contributionPayload, DraftPayload.fields, getEntry]
  have hread := editsOf_of_edits hedits
  rw [editsOf_canonicalEntries]
  constructor
  · rintro ⟨-, hback, -⟩
    exact hread.1 hback
  · intro hkept
    exact ⟨hvalid, hread.2 hkept, hread.2 hkept⟩

lemma isSha256_zeros :
    isSha256 "0000000000000000000000000000000000000000000000000000000000000000" = true := by decide

/-- A patch that removes the first byte of its document. -/
def deletionPatch : PatchPayload where
  expectedFileVersion := 0
  expectedContentHash := "0000000000000000000000000000000000000000000000000000000000000000"
  edits := [⟨0, 1, [], by decide, by decide⟩]
  contentHash_valid := isSha256_zeros
  edits_ne := by decide

/-- The deletion is encoded, the encoding passes the check of the event, and it is not read
back. -/
theorem deletion_not_read_back :
    FieldCheck.patchEdits.accepts (editsJson deletionPatch) = true ∧
      ¬ ∀ patch : PatchPayload, editsOf [("edits", editsJson patch)] = .ok patch.edits := by
  refine ⟨editsJson_accepted deletionPatch, fun hall => ?_⟩
  have hread := (editsOf_of_edits (by rfl)).1 (hall deletionPatch)
  exact hread ⟨0, 1, [], by decide, by decide⟩ List.mem_cons_self rfl

end Aizim.Knowledge
