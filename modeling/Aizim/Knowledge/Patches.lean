import Aizim.Framework.Splice
import Aizim.Knowledge.Contributions

/-!
# Patches as splices

`PatchPayload.apply` walks once over the source.  `patch_apply` says when it returns, and that what it
returns is the source with all the edits made at once, read off the offsets of the source.
-/

namespace Aizim.Knowledge

/-- The edit as a replacement of a range. -/
def ByteEdit.toSplice (edit : ByteEdit) : Splice ℕ :=
  ⟨edit.startByte, edit.endByte, edit.replacementUtf8, edit.ordered⟩

/-- The edits are ordered and do not overlap, and lie within the source on boundaries of its
characters. -/
structure Applicable (source : Bytes) (edits : List ByteEdit) : Prop where
  apart : edits.Pairwise fun earlier later => earlier.endByte ≤ later.startByte
  within : ∀ edit ∈ edits, edit.endByte ≤ source.length
  boundaries : ∀ edit ∈ edits, IsCharBoundary source edit.startByte ∧
    IsCharBoundary source edit.endByte

/-- The check of one edit. -/
lemma edit_checked_iff {source : Bytes} {cursor : ℕ} (edit : ByteEdit) :
    (cursor ≤ edit.startByte ∧ edit.endByte ≤ source.length ∧
      boundary source edit.startByte = true ∧ boundary source edit.endByte = true) ↔
    cursor ≤ edit.startByte ∧ edit.endByte ≤ source.length ∧
      IsCharBoundary source edit.startByte ∧ IsCharBoundary source edit.endByte := by
  have hordered := edit.ordered
  constructor
  · rintro ⟨hcursor, hwithin, hstart, hend⟩
    simp only [boundary, Bool.and_eq_true] at hstart hend
    exact ⟨hcursor, hwithin, (isCharBoundary_iff (by omega)).2 hstart,
      (isCharBoundary_iff hwithin).2 hend⟩
  · rintro ⟨hcursor, hwithin, hstart, hend⟩
    simp only [boundary, Bool.and_eq_true]
    exact ⟨hcursor, hwithin, (isCharBoundary_iff hstart.le_length).1 hstart,
      (isCharBoundary_iff hwithin).1 hend⟩

/-- What the loop checks, from a position in the source. -/
def EditsChecked (source : Bytes) (cursor : ℕ) (edits : List ByteEdit) : Prop :=
  Applicable source edits ∧ ∀ edit ∈ edits, cursor ≤ edit.startByte

lemma editsChecked_cons {source : Bytes} {cursor : ℕ} {edit : ByteEdit} {edits : List ByteEdit} :
    EditsChecked source cursor (edit :: edits) ↔
      (cursor ≤ edit.startByte ∧ edit.endByte ≤ source.length ∧
        IsCharBoundary source edit.startByte ∧ IsCharBoundary source edit.endByte) ∧
      EditsChecked source edit.endByte edits := by
  have hordered := edit.ordered
  constructor
  · rintro ⟨h, hcursor⟩
    obtain ⟨hfirst, hrest⟩ := List.pairwise_cons.1 h.apart
    have hin : edit ∈ edit :: edits := List.mem_cons_self
    exact ⟨⟨hcursor edit hin, h.within edit hin, h.boundaries edit hin⟩,
      ⟨hrest, fun e he => h.within e (List.mem_cons_of_mem _ he),
        fun e he => h.boundaries e (List.mem_cons_of_mem _ he)⟩, hfirst⟩
  · rintro ⟨⟨hcursor, hwithin, hboundaries⟩, h, hfirst⟩
    refine ⟨⟨List.pairwise_cons.2 ⟨hfirst, h.apart⟩, ?_, ?_⟩, ?_⟩
    · exact List.forall_mem_cons.2 ⟨hwithin, h.within⟩
    · exact List.forall_mem_cons.2 ⟨hboundaries, h.boundaries⟩
    · refine List.forall_mem_cons.2 ⟨hcursor, fun e he => ?_⟩
      have hafter := hfirst e he
      omega

/-- **The loop of `apply`** returns when its checks hold, with the result of one pass. -/
lemma applyEdits_eq_ok {source : Bytes} {cursor : ℕ} {edits : List ByteEdit} {result : Bytes} :
    applyEdits source cursor edits = .ok result ↔ EditsChecked source cursor edits ∧
      result = spliceFrom source cursor (edits.map ByteEdit.toSplice) := by
  induction edits generalizing cursor result with
  | nil =>
    have hchecked : EditsChecked source cursor [] := by
      refine ⟨⟨List.Pairwise.nil, ?_, ?_⟩, ?_⟩
      · exact fun _ h => absurd h List.not_mem_nil
      · exact fun _ h => absurd h List.not_mem_nil
      · exact fun _ h => absurd h List.not_mem_nil
    simp only [applyEdits, pure_eq_ok, hchecked, true_and, List.map_nil, spliceFrom]
    exact eq_comm
  | cons edit edits ih =>
    simp only [applyEdits, bind_eq_ok, require_eq_ok, pure_eq_ok, exists_and_left, exists_const,
      edit_checked_iff, ih, editsChecked_cons, List.map_cons, spliceFrom]
    constructor
    · rintro ⟨hedit, rest, ⟨hedits, rfl⟩, rfl⟩
      exact ⟨⟨hedit, hedits⟩, rfl⟩
    · rintro ⟨⟨hedit, hedits⟩, rfl⟩
      exact ⟨hedit, _, ⟨hedits, rfl⟩, rfl⟩

/-- The edits follow each other. -/
lemma EditsChecked.inOrder {source : Bytes} {cursor : ℕ} {edits : List ByteEdit}
    (h : EditsChecked source cursor edits) :
    InOrder source.length cursor (edits.map ByteEdit.toSplice) := by
  induction edits generalizing cursor with
  | nil => trivial
  | cons edit edits ih =>
    obtain ⟨⟨hcursor, hwithin, -⟩, hrest⟩ := editsChecked_cons.1 h
    exact ⟨hcursor, hwithin, ih hrest⟩

/-- The result of one pass is the encoding of a text. -/
lemma EditsChecked.isSome_decode {source : Bytes} {cursor : ℕ} {edits : List ByteEdit}
    (h : EditsChecked source cursor edits) (hcursor : IsCharBoundary source cursor) :
    (decode (spliceFrom source cursor (edits.map ByteEdit.toSplice))).isSome = true := by
  induction edits generalizing cursor with
  | nil => exact ((isCharBoundary_iff hcursor.le_length).1 hcursor).2
  | cons edit edits ih =>
    obtain ⟨⟨hle, -, hstart, hend⟩, hrest⟩ := editsChecked_cons.1 h
    obtain ⟨kept, hkept⟩ := isSome_decode_iff.1 (hcursor.slice hstart hle)
    obtain ⟨made, hmade⟩ := isSome_decode_iff.1 edit.replacement_valid
    obtain ⟨rest, hafter⟩ := isSome_decode_iff.1 (ih hrest hend)
    rw [isSome_decode_iff]
    refine ⟨kept ++ made ++ rest, ?_⟩
    rw [List.flatMap_append, List.flatMap_append, ← hkept, ← hmade, ← hafter]
    rfl

/-- **Applying a patch** returns exactly when the source is valid, its hash is the expected one and
the edits are applicable; the result is the source with every edit made at once, and it is valid. -/
theorem patch_apply (patch : PatchPayload) (source : Bytes) :
    ((∃ result, patch.apply source = .ok result) ↔ (∃ text, source = encode text) ∧
      Sha256.hexdigest source = patch.expectedContentHash ∧ Applicable source patch.edits) ∧
    ∀ result, patch.apply source = .ok result →
      Splices 0 (patch.edits.map ByteEdit.toSplice) source result ∧ ∃ text, result = encode text := by
  have hvalid : ∀ bs : Bytes, (∃ text, utf8 bs = .ok text) ↔ ∃ text, bs = encode text := by
    intro bs
    simp only [utf8, orThrow_eq_ok]
    constructor
    · rintro ⟨text, htext⟩
      exact ⟨text, (encode_of_decode htext).symm⟩
    · rintro ⟨text, rfl⟩
      exact ⟨text, decode_encode text⟩
  have hchecked : EditsChecked source 0 patch.edits ↔ Applicable source patch.edits :=
    ⟨fun h => h.1, fun h => ⟨h, fun _ _ => Nat.zero_le _⟩⟩
  have happly : ∀ result, patch.apply source = .ok result ↔ ((∃ text, source = encode text) ∧
      Sha256.hexdigest source = patch.expectedContentHash ∧ Applicable source patch.edits ∧
      ∃ text, result = encode text) ∧
      result = spliceFrom source 0 (patch.edits.map ByteEdit.toSplice) := by
    intro result
    simp only [PatchPayload.apply, bind_eq_ok, require_eq_ok, pure_eq_ok, exists_and_left,
      exists_const, applyEdits_eq_ok, hchecked, ← hvalid]
    constructor
    · rintro ⟨text, htext, hhash, _, ⟨hedits, rfl⟩, text', htext', rfl⟩
      exact ⟨⟨⟨text, htext⟩, hhash, hedits, text', htext'⟩, rfl⟩
    · rintro ⟨⟨⟨text, htext⟩, hhash, hedits, text', htext'⟩, rfl⟩
      exact ⟨text, htext, hhash, _, ⟨hedits, rfl⟩, text', htext', rfl⟩
  refine ⟨?_, fun result hresult => ?_⟩
  · constructor
    · rintro ⟨result, hresult⟩
      obtain ⟨⟨htext, hhash, hedits, -⟩, -⟩ := (happly result).1 hresult
      exact ⟨htext, hhash, hedits⟩
    · rintro ⟨⟨text, rfl⟩, hhash, hedits⟩
      have hstart : IsCharBoundary (encode text) 0 := ⟨[], text.toList, rfl, rfl⟩
      have hdecode := (hchecked.2 hedits).isSome_decode hstart
      obtain ⟨text', htext'⟩ := Option.isSome_iff_exists.1 hdecode
      exact ⟨_, (happly _).2 ⟨⟨⟨text, rfl⟩, hhash, hedits, text', (encode_of_decode htext').symm⟩,
        rfl⟩⟩
  · obtain ⟨⟨-, -, hedits, htext⟩, rfl⟩ := (happly result).1 hresult
    exact ⟨splices_spliceFrom (hchecked.2 hedits).inOrder, htext⟩

end Aizim.Knowledge
