import Aizim.Framework.Framing
import Aizim.Framework.JsonRoundTrip

/-!
# Base epochs

A base epoch is the hash of a byte string that is made of the fingerprint of the environment and of the
modules that were promoted: the fingerprint, the sorted names as one JSON text, and the content hash of
each name, framed one after the other.  `baseEpochInput_perm` says that the order in which the modules were
inserted does not matter, and `base_epoch_identifies` that the byte string determines the fingerprint and
the modules.
-/

namespace Aizim.Domain

open JsonValue

/-! ## The byte string -/

/-- A dictionary from module names to content hashes, in insertion order.  A name that no byte string
encodes has no place in it: `canonical_json` refuses it. -/
structure PromotedModules where
  entries : List (String × String)
  nodup : (entries.map Prod.fst).Nodup

namespace PromotedModules

/-- `sorted(promoted_modules)` -/
def names (modules : PromotedModules) : List String :=
  (modules.entries.map Prod.fst).mergeSort fun a b => decide (a ≤ b)

/-- `promoted_modules[name]` -/
def hashOf (modules : PromotedModules) (name : String) : String :=
  (modules.entries.lookup name).getD ""

end PromotedModules

/-- What `compute_base_epoch` raises: a value that is not a hash, or a part that is too long. -/
inductive BaseEpochError
  | fingerprint
  | contentHash
  | overflow

/-- The parts that are hashed. -/
def baseEpochParts (fingerprint : String) (modules : PromotedModules) : List Bytes :=
  encode fingerprint :: encode (canonicalJson (.list (modules.names.map .str))) ::
    modules.names.map fun name => encode (modules.hashOf name)

/-- The byte string that `compute_base_epoch` hashes. -/
def baseEpochInput (fingerprint : String) (modules : PromotedModules) :
    Except BaseEpochError Bytes := do
  require (isSha256 fingerprint = true) .fingerprint
  require (modules.entries.all (fun e => isSha256 e.2) = true) .contentHash
  require (∀ part ∈ baseEpochParts fingerprint modules, part.length < 256 ^ 8) .overflow
  pure (framed 8 (baseEpochParts fingerprint modules))

/-- `compute_base_epoch` -/
def computeBaseEpoch (fingerprint : String) (modules : PromotedModules) :
    Except BaseEpochError String :=
  Sha256.hexdigest <$> baseEpochInput fingerprint modules

/-! ## The text of the names -/

/-- A printed text ends where its closing quote stands. -/
lemma quote_append_inj {s t : String} {xs ys : List Char} (h : quote s ++ xs = quote t ++ ys) :
    s = t ∧ xs = ys := by
  have hbody : s.toList.flatMap escape ++ '"' :: xs = t.toList.flatMap escape ++ '"' :: ys := by
    unfold quote at h
    simpa using h
  have hlong : s.toList.length < s.toList.length + t.toList.length + 1 ∧
      t.toList.length < s.toList.length + t.toList.length + 1 := by omega
  have hleft := readText_flatMap s.toList hlong.1 xs
  have hright := readText_flatMap t.toList hlong.2 ys
  rw [hbody, hright, Option.some.injEq, Prod.mk.injEq] at hleft
  exact ⟨String.toList_injective (pyText_injective hleft.1).symm, (pyText_injective hleft.2).symm⟩

/-- The texts of two rows of names that go on with a bracket. -/
lemma dumpsItems_inj {ns ms : List String}
    (h : dumpsItems (ns.map .str) ++ [']'] = dumpsItems (ms.map .str) ++ [']']) : ns = ms := by
  induction ns generalizing ms with
  | nil =>
    cases ms with
    | nil => rfl
    | cons m ms => cases ms <;> simp [dumpsItems, dumps, quote] at h
  | cons n ns ih =>
    cases ms with
    | nil => cases ns <;> simp [dumpsItems, dumps, quote] at h
    | cons m ms =>
      cases ns with
      | nil =>
        cases ms with
        | nil =>
          have hquotes : quote n ++ [']'] = quote m ++ [']'] := h
          obtain ⟨rfl, -⟩ := quote_append_inj hquotes
          rfl
        | cons m' ms =>
          have hsplit : quote n ++ [']'] = quote m ++ (',' :: (dumpsItems ((m' :: ms).map .str) ++
              [']'])) := by
            simpa [dumpsItems, dumps] using h
          obtain ⟨-, hend⟩ := quote_append_inj hsplit
          simp at hend
      | cons n' ns =>
        cases ms with
        | nil =>
          have hsplit : quote n ++ (',' :: (dumpsItems ((n' :: ns).map .str) ++ [']'])) =
              quote m ++ [']'] := by
            simpa [dumpsItems, dumps] using h
          obtain ⟨-, hend⟩ := quote_append_inj hsplit
          simp at hend
        | cons m' ms =>
          have hsplit : quote n ++ (',' :: (dumpsItems ((n' :: ns).map .str) ++ [']'])) =
              quote m ++ (',' :: (dumpsItems ((m' :: ms).map .str) ++ [']'])) := by
            simpa [dumpsItems, dumps] using h
          obtain ⟨rfl, hend⟩ := quote_append_inj hsplit
          rw [ih (List.cons.inj hend).2]

/-- The text of a row of names determines it. -/
lemma names_injective {ns ms : List String}
    (h : canonicalJson (.list (ns.map .str)) = canonicalJson (.list (ms.map .str))) : ns = ms := by
  have hcanonical : ∀ ks : List String, canonical (.list (ks.map .str)) = .list (ks.map .str) := by
    intro ks
    simp [Function.comp_def]
  unfold canonicalJson at h
  rw [hcanonical, hcanonical, String.ofList_inj] at h
  exact dumpsItems_inj (by simpa [dumps] using h)

/-! ## The modules -/

namespace PromotedModules

variable {modules modules' : PromotedModules}

lemma hashOf_eq {name hash : String} (h : (name, hash) ∈ modules.entries) :
    modules.hashOf name = hash := by
  obtain ⟨entries, hnodup⟩ := modules
  unfold hashOf
  dsimp only at h ⊢
  induction entries with
  | nil => cases h
  | cons e entries ih =>
    rw [List.map_cons, List.nodup_cons] at hnodup
    rcases List.mem_cons.1 h with rfl | h
    · rw [List.lookup_cons_self]
      rfl
    · have hne : name ≠ e.1 := by
        rintro rfl
        exact hnodup.1 (List.mem_map.2 ⟨_, h, rfl⟩)
      rw [List.lookup_cons, beq_false_of_ne hne]
      exact ih hnodup.2 h

lemma names_perm (modules : PromotedModules) : modules.names.Perm (modules.entries.map Prod.fst) :=
  List.mergeSort_perm _ _

/-- The dictionary in the order of its names. -/
lemma entries_perm (modules : PromotedModules) :
    modules.entries.Perm (modules.names.map fun name => (name, modules.hashOf name)) := by
  have hself : modules.entries = (modules.entries.map Prod.fst).map
      fun name => (name, modules.hashOf name) := by
    rw [List.map_map]
    conv_lhs => rw [← List.map_id modules.entries]
    refine List.map_congr_left fun e he => ?_
    simp only [id_eq, Function.comp_apply]
    have hmem : (e.1, e.2) ∈ modules.entries := he
    rw [hashOf_eq hmem]
  conv_lhs => rw [hself]
  exact (modules.names_perm.map _).symm

lemma names_eq_of_perm (h : modules.entries.Perm modules'.entries) : modules.names = modules'.names := by
  have hsorted : ∀ m : PromotedModules, m.names.Pairwise (· ≤ ·) := by
    intro m
    have htrans : ∀ a b c : String, decide (a ≤ b) = true → decide (b ≤ c) = true →
        decide (a ≤ c) = true := by
      intro a b c hab hbc
      rw [decide_eq_true_eq] at hab hbc ⊢
      exact le_trans hab hbc
    have htotal : ∀ a b : String, (decide (a ≤ b) || decide (b ≤ a)) = true := by
      intro a b
      rw [Bool.or_eq_true, decide_eq_true_eq, decide_eq_true_eq]
      exact le_total a b
    have h := List.pairwise_mergeSort htrans htotal (m.entries.map Prod.fst)
    unfold names
    simpa using h
  have hperm : modules.names.Perm modules'.names :=
    modules.names_perm.trans ((h.map Prod.fst).trans modules'.names_perm.symm)
  exact hperm.eq_of_pairwise (fun a b _ _ hab hba => le_antisymm hab hba) (hsorted _) (hsorted _)

lemma hashOf_eq_of_perm (h : modules.entries.Perm modules'.entries) {name : String}
    (hname : name ∈ modules.names) : modules.hashOf name = modules'.hashOf name := by
  have hmem := modules.names_perm.mem_iff.1 hname
  obtain ⟨⟨name', hash⟩, hentry, rfl⟩ := List.mem_map.1 hmem
  rw [hashOf_eq hentry, hashOf_eq (h.mem_iff.1 hentry)]

end PromotedModules

/-! ## Base epochs -/

variable {fingerprint fingerprint' : String} {modules modules' : PromotedModules}

lemma baseEpochParts_perm (fingerprint : String) (h : modules.entries.Perm modules'.entries) :
    baseEpochParts fingerprint modules = baseEpochParts fingerprint modules' := by
  have hhashes : modules.names.map (fun name => encode (modules.hashOf name)) =
      modules'.names.map fun name => encode (modules'.hashOf name) := by
    rw [← PromotedModules.names_eq_of_perm h]
    refine List.map_congr_left fun name hname => ?_
    rw [PromotedModules.hashOf_eq_of_perm h hname]
  rw [baseEpochParts, baseEpochParts, hhashes, PromotedModules.names_eq_of_perm h]

/-- The order of insertion does not matter. -/
lemma baseEpochInput_perm (fingerprint : String) (h : modules.entries.Perm modules'.entries) :
    baseEpochInput fingerprint modules = baseEpochInput fingerprint modules' := by
  have hall : modules.entries.all (fun e => isSha256 e.2) =
      modules'.entries.all fun e => isSha256 e.2 := by
    rw [Bool.eq_iff_iff, List.all_eq_true, List.all_eq_true]
    exact forall_congr' fun e => by rw [h.mem_iff]
  rw [baseEpochInput, baseEpochInput, hall, baseEpochParts_perm fingerprint h]

/-- The parts determine the fingerprint and the modules. -/
lemma baseEpochParts_inj (h : baseEpochParts fingerprint modules = baseEpochParts fingerprint' modules') :
    fingerprint = fingerprint' ∧ modules.entries.Perm modules'.entries := by
  obtain ⟨hfingerprint, htail⟩ := List.cons.inj h
  obtain ⟨htext, hhashes⟩ := List.cons.inj htail
  have hnames := names_injective (encode_injective htext)
  refine ⟨encode_injective hfingerprint, ?_⟩
  rw [hnames] at hhashes
  have hpairs : modules.names.map (fun name => (name, modules.hashOf name)) =
      modules'.names.map fun name => (name, modules'.hashOf name) := by
    rw [hnames]
    refine List.map_congr_left fun name hname => ?_
    rw [encode_injective (List.map_inj_left.1 hhashes name hname)]
  refine modules.entries_perm.trans ?_
  rw [hpairs]
  exact modules'.entries_perm.symm

/-- **The base epoch identifies the environment.**  The order of insertion changes nothing, and two
accepted inputs have one byte string exactly when they have one fingerprint and equal dictionaries. -/
theorem base_epoch_identifies :
    (∀ fingerprint modules modules', modules.entries.Perm modules'.entries →
      baseEpochInput fingerprint modules = baseEpochInput fingerprint modules') ∧
    ∀ fingerprint fingerprint' modules modules' bytes bytes',
      baseEpochInput fingerprint modules = .ok bytes →
      baseEpochInput fingerprint' modules' = .ok bytes' →
      (bytes = bytes' ↔ fingerprint = fingerprint' ∧ modules.entries.Perm modules'.entries) := by
  refine ⟨fun fingerprint _ _ h => baseEpochInput_perm fingerprint h,
    fun fingerprint fingerprint' modules modules' bytes bytes' h h' => ⟨fun hsame => ?_, ?_⟩⟩
  · simp only [baseEpochInput, bind_eq_ok, require_eq_ok, pure_eq_ok, exists_const] at h h'
    obtain ⟨-, -, hshort, rfl⟩ := h
    obtain ⟨-, -, hshort', rfl⟩ := h'
    exact baseEpochParts_inj (framed_injective (by omega) hshort hshort' hsame)
  · rintro ⟨rfl, hperm⟩
    rw [baseEpochInput_perm fingerprint hperm, h'] at h
    exact (Except.ok.inj h).symm

/-- A fingerprint, which is the hash of a module as well. -/
def sampleEpochHash : String := "ebbcf9bf55ae63853bd09a42bb7ef1136b8848b6b8574bfbf866ab21d5c03528"

/-- No modules, and one. -/
def noModules : PromotedModules := ⟨[], by decide⟩
def oneModule : PromotedModules := ⟨[("Aizim.A", sampleEpochHash)], by decide⟩

lemma exists_baseEpochInput_sample : (∃ bytes, baseEpochInput sampleEpochHash noModules = .ok bytes) ∧
    ∃ bytes, baseEpochInput sampleEpochHash oneModule = .ok bytes := by
  have hnone : baseEpochParts sampleEpochHash noModules =
      [encode sampleEpochHash, encode (canonicalJson (.list []))] := by
    simp [baseEpochParts, PromotedModules.names, noModules]
  have hone : baseEpochParts sampleEpochHash oneModule =
      [encode sampleEpochHash, encode (canonicalJson (.list [.str "Aizim.A"])), encode sampleEpochHash] := by
    simp [baseEpochParts, PromotedModules.names, oneModule, PromotedModules.hashOf]
  have hshort : (∀ part ∈ baseEpochParts sampleEpochHash noModules, part.length < 256 ^ 8) ∧
      ∀ part ∈ baseEpochParts sampleEpochHash oneModule, part.length < 256 ^ 8 := by
    rw [hnone, hone]
    decide +kernel
  refine ⟨⟨framed 8 (baseEpochParts sampleEpochHash noModules), ?_⟩,
    framed 8 (baseEpochParts sampleEpochHash oneModule), ?_⟩
  · rw [baseEpochInput, require_of (by decide), ok_bind, require_of (by decide), ok_bind,
      require_of hshort.1, ok_bind]
    rfl
  · rw [baseEpochInput, require_of (by decide), ok_bind, require_of (by decide), ok_bind,
      require_of hshort.2, ok_bind]
    rfl

/-- A module that is promoted changes the byte string. -/
theorem base_epoch_identifies_sample : ∃ bytes bytes',
    baseEpochInput sampleEpochHash noModules = .ok bytes ∧
      baseEpochInput sampleEpochHash oneModule = .ok bytes' ∧ bytes ≠ bytes' := by
  obtain ⟨⟨bytes, h⟩, bytes', h'⟩ := exists_baseEpochInput_sample
  refine ⟨bytes, bytes', h, h', fun hsame => ?_⟩
  have hperm := ((base_epoch_identifies.2 _ _ _ _ _ _ h h').1 hsame).2
  exact absurd hperm.length_eq (by decide)

end Aizim.Domain
