import Aizim.Agents.CodexEvents

/-!
# Carriage returns in a line

A carriage return is a blank of JSON, so a line with one may be an event.  Cut at its carriage
returns, a line has one piece with text and is the same event if they stand at its ends, in UTF-8
(`readEvent_pieces_of_plain`).  A carriage return within the text of a line in UTF-8 cuts the object
in two, and the first half is no event (`readEvent_pieces_of_not_plain`).
-/

namespace Aizim.Agents

open Metered PyJson PyValue

variable {F : Type}

/-! ## Blanks and bytes -/

/-- A small byte is a character. -/
lemma eq_of_mem_charBytes {c : PyChar} {b : ℕ} (hb : b < 0x80) (h : b ∈ charBytes c) :
    ∃ d, c = .char d ∧ charBytes c = [b] ∧ d.toNat = b := by
  cases c with
  | surrogate n =>
    simp only [charBytes, List.mem_cons, List.not_mem_nil, or_false] at h
    omega
  | char d =>
    refine ⟨d, rfl, ?_⟩
    simp only [charBytes, utf8Char] at h ⊢
    split_ifs at h ⊢ with h₁ h₂ h₃
    · rw [List.mem_singleton.1 h]
      exact ⟨rfl, rfl⟩
    all_goals
      simp only [List.mem_cons, List.not_mem_nil, or_false] at h
      omega

lemma charBytes_char {d : Char} (h : d.toNat < 0x80) : charBytes (.char d) = [d.toNat] := by
  rw [charBytes, utf8Char, if_pos h]

/-- A blank of JSON is white space. -/
lemma charBytes_of_isBlank {c : PyChar} (h : PyJson.isBlank c = true) :
    ∃ d : Char, c = .char d ∧ 0 < d.toNat ∧ d.toNat < 0x80 ∧ isSpaceByte d.toNat = true := by
  cases c with
  | surrogate n => cases h
  | char d =>
    refine ⟨d, rfl, ?_⟩
    change JsonValue.isJsonBlank d = true at h
    simp only [JsonValue.isJsonBlank, Bool.or_eq_true, beq_iff_eq] at h
    rcases h with ((rfl | rfl) | rfl) | rfl <;> decide

lemma isSpaceByte_of_mem_textBytes {a : PyText} (ha : ∀ c ∈ a, PyJson.isBlank c = true) :
    ∀ b ∈ textBytes a, isSpaceByte b = true := by
  intro b hb
  obtain ⟨c, hc, hb⟩ := List.mem_flatMap.1 hb
  obtain ⟨d, rfl, -, hlt, hspace⟩ := charBytes_of_isBlank (ha c hc)
  rw [charBytes_char hlt, List.mem_singleton] at hb
  rw [hb]
  exact hspace

/-- Bytes of blanks are those of some blanks. -/
lemma exists_blanks {a : PyText} (ha : ∀ c ∈ a, PyJson.isBlank c = true) {bytes : Bytes}
    (h : ∀ b ∈ bytes, b ∈ textBytes a) :
    ∃ text, bytes = textBytes text ∧ ∀ c ∈ text, PyJson.isBlank c = true := by
  induction bytes with
  | nil => exact ⟨[], rfl, by simp⟩
  | cons b bytes ih =>
    rw [List.forall_mem_cons] at h
    obtain ⟨text, rfl, htext⟩ := ih h.2
    obtain ⟨c, hc, hb⟩ := List.mem_flatMap.1 h.1
    obtain ⟨d, rfl, -, hlt, -⟩ := charBytes_of_isBlank (ha c hc)
    refine ⟨.char d :: text, ?_, ?_⟩
    · rw [charBytes_char hlt, List.mem_singleton] at hb
      rw [textBytes_cons, charBytes_char hlt, hb]
      rfl
    · rw [List.forall_mem_cons]
      exact ⟨ha _ hc, htext⟩

/-- The first carriage return of a text. -/
lemma exists_cut {text : PyText} (h : 13 ∈ textBytes text) :
    ∃ u v, text = u ++ .char '\r' :: v ∧ 13 ∉ textBytes u := by
  induction text with
  | nil => cases h
  | cons c cs ih =>
    by_cases hc : 13 ∈ charBytes c
    · obtain ⟨d, rfl, -, hd⟩ := eq_of_mem_charBytes (by omega) hc
      obtain rfl : d = '\r' := Char.toNat_inj.1 hd
      exact ⟨[], cs, rfl, by simp [textBytes]⟩
    · rw [textBytes_cons, List.mem_append, or_iff_right hc] at h
      obtain ⟨u, v, rfl, hu⟩ := ih h
      refine ⟨c :: u, v, rfl, ?_⟩
      rw [textBytes_cons, List.mem_append, not_or]
      exact ⟨hc, hu⟩

section

variable [PyFloat F] {interpreter : EventInterpreter}

/-! ## Events and texts -/

/-- The reader of the objects of events. -/
abbrev loadsEvent (text : PyText) : JsonUse Empty (PyValue F) :=
  PyJson.loads (fun es => .ok (pyDict es)) text

/-- The text of an event is an object. -/
lemma exists_of_readEvent {line : Bytes} {event : Bytes × UsageReport}
    (h : readEvent F interpreter line = .ok event) :
    ∃ text ds es, decodeBytes line = some text ∧
      loadsEvent (F := F) text = ⟨ds, .ok (.dict es)⟩ := by
  obtain ⟨value, hvalue, -⟩ := bind_eq_ok.1 h
  obtain ⟨text, htext, hload⟩ := bind_eq_ok.1 hvalue
  obtain ⟨v, hv, hdict⟩ := bind_eq_ok.1 hload
  obtain ⟨-, houtcome⟩ := run_eq_ok_iff.1 hv
  rw [orThrow_eq_ok] at htext
  cases v with
  | dict es =>
    refine ⟨text, (loadsEvent (F := F) text).demands, es, htext, ?_⟩
    rw [← houtcome]
  | _ => cases hdict

/-- An event is determined by what its text is read as. -/
lemma readEvent_congr {line line' : Bytes} {text text' : PyText} (h : decodeBytes line = some text)
    (h' : decodeBytes line' = some text')
    (hload : loadsEvent (F := F) text = loadsEvent text') :
    readEvent F interpreter line = readEvent F interpreter line' := by
  simp only [loadsEvent] at hload
  simp only [readEvent, decodeEvent, h, h', hload, orThrow, ok_bind]

/-- A blank before an object, or the brace of the object, is a character of ASCII. -/
lemma exists_head {a r : PyText} (ha : ∀ c ∈ a, PyJson.isBlank c = true) :
    ∃ d cs, a ++ .char '{' :: r = .char d :: cs ∧ 0 < d.toNat ∧ d.toNat < 0x80 := by
  cases a with
  | nil => exact ⟨'{', r, rfl, by decide, by decide⟩
  | cons c a =>
    obtain ⟨d, rfl, hpos, hlt, -⟩ := charBytes_of_isBlank (ha c List.mem_cons_self)
    exact ⟨d, _, rfl, hpos, hlt⟩

/-- The line holds an object in UTF-8: blanks, the object and blanks, after a byte order mark or
none. -/
structure ObjectLine (F : Type) [PyFloat F] (line : Bytes) where
  mark : Bytes
  before : PyText
  object : PyText
  after : PyText
  demands : List JsonDemand
  entries : PyObject F
  mark_eq : mark = [] ∨ mark = utf8Mark
  before_blank : ∀ c ∈ before, PyJson.isBlank c = true
  after_blank : ∀ c ∈ after, PyJson.isBlank c = true
  object_last : object.getLast? = some (.char '}')
  line_eq : line = mark ++ textBytes (before ++ .char '{' :: (object ++ after))
  decode_eq : decodeBytes line = some (before ++ .char '{' :: (object ++ after))
  loads_eq : ∀ b r, (∀ c ∈ b, PyJson.isBlank c = true) →
    loadsEvent (b ++ .char '{' :: (object ++ r)) =
      ⟨demands, if skipBlanks r = [] then .ok (.dict entries) else .error .decode⟩

/-- An event without zeros is such a line. -/
lemma nonempty_objectLine {line : Bytes} {event : Bytes × UsageReport}
    (h : readEvent F interpreter line = .ok event) (h0 : 0 ∉ line) :
    Nonempty (ObjectLine F line) := by
  obtain ⟨text, ds, es, hdecode, hload⟩ := exists_of_readEvent h
  obtain ⟨a, t, b, rfl, ha, hb, hlast, hextent⟩ := loads_extent hload
  obtain ⟨d, cs, htext, hpos, hlt⟩ := exists_head (r := t ++ b) ha
  rw [htext] at hdecode
  have hline := textBytes_of_decodeBytes h0 hdecode hpos hlt
  rw [← htext] at hdecode hline
  rcases hline with hline | hline
  · exact ⟨⟨utf8Mark, a, t, b, ds, es, Or.inr rfl, ha, hb, hlast, hline, hdecode, hextent⟩⟩
  · exact ⟨⟨[], a, t, b, ds, es, Or.inl rfl, ha, hb, hlast, hline, hdecode, hextent⟩⟩

namespace ObjectLine

variable {line : Bytes} (o : ObjectLine F line)

/-- The bytes of the line without the white space at its ends. -/
def core : Bytes :=
  if o.mark = [] then textBytes (.char '{' :: o.object)
  else o.mark ++ textBytes (o.before ++ .char '{' :: o.object)

/-- The white space before them. -/
def lead : Bytes := if o.mark = [] then textBytes o.before else []

lemma line_eq_core : line = o.lead ++ (o.core ++ textBytes o.after) := by
  apply o.line_eq.trans
  rw [lead, core]
  split_ifs with hmark
  · simp only [hmark, textBytes_append, textBytes_cons, List.append_assoc, List.nil_append]
  · simp only [textBytes_append, textBytes_cons, List.append_assoc, List.nil_append]

variable {o} in
lemma lead_of_mark (h : o.mark = []) : o.lead = textBytes o.before := if_pos h

variable {o} in
lemma lead_of_not_mark (h : o.mark ≠ []) : o.lead = [] := if_neg h

lemma lead_space : ∀ b ∈ o.lead, isSpaceByte b = true := by
  rw [lead]
  split_ifs
  · exact isSpaceByte_of_mem_textBytes o.before_blank
  · simp

lemma head?_core : ∃ first, o.core.head? = some first ∧ isSpaceByte first = false := by
  rw [core]
  split_ifs with hmark
  · exact ⟨123, by rw [textBytes_cons]; rfl, by decide⟩
  · rw [o.mark_eq.resolve_left hmark]
    exact ⟨0xef, rfl, by decide⟩

lemma getLast?_core : o.core.getLast? = some 125 := by
  have hlast : ∀ text : PyText, text.getLast? = some (.char '}') →
      (textBytes text).getLast? = some 125 := by
    intro text htext
    obtain ⟨t, rfl⟩ := List.getLast?_eq_some_iff.1 htext
    rw [textBytes_append]
    exact List.getLast?_append_of_ne_nil _ (by decide)
  have hwhole := hlast (o.before ++ .char '{' :: o.object)
    (by simp [List.getLast?_cons, o.object_last])
  rw [core]
  split_ifs
  · exact hlast _ (by simp [List.getLast?_cons, o.object_last])
  · rw [List.getLast?_append, hwhole]
    rfl

lemma stripBytes_eq : stripBytes line = o.core := by
  obtain ⟨first, hfirst, hspace⟩ := o.head?_core
  rw [congrArg stripBytes o.line_eq_core]
  exact stripBytes_padded o.lead_space (isSpaceByte_of_mem_textBytes o.after_blank) hfirst hspace
    o.getLast?_core (by decide)

lemma isText_core : isText o.core = true := by
  obtain ⟨first, hfirst, hspace⟩ := o.head?_core
  exact isText_of_mem (List.mem_of_mem_head? hfirst) hspace

lemma isText_line (o : ObjectLine F line) : isText line = true := by
  rw [congrArg isText o.line_eq_core, isText_append, isText_append, o.isText_core]
  simp

/-- The object between other blanks is the same event. -/
lemma readEvent_eq {a b : Bytes} (h0 : 0 ∉ line) (ha : ∀ c ∈ a, c ∈ o.lead)
    (hb : ∀ c ∈ b, c ∈ textBytes o.after) :
    readEvent F interpreter (a ++ (o.core ++ b)) = readEvent F interpreter line := by
  obtain ⟨after, rfl, hafter⟩ := exists_blanks o.after_blank hb
  have hzero : 0 ∉ a ++ (o.core ++ textBytes after) := by
    intro hmem
    apply h0
    rw [o.line_eq_core]
    simp only [List.mem_append] at hmem ⊢
    rcases hmem with hmem | hmem | hmem
    · exact Or.inl (ha 0 hmem)
    · exact Or.inr (Or.inl hmem)
    · exact Or.inr (Or.inr (hb 0 hmem))
  have hload : ∀ before : PyText, (∀ c ∈ before, PyJson.isBlank c = true) →
      loadsEvent (F := F) (o.before ++ .char '{' :: (o.object ++ o.after)) =
        loadsEvent (before ++ .char '{' :: (o.object ++ after)) := by
    intro before hbefore
    rw [o.loads_eq _ _ o.before_blank, o.loads_eq _ _ hbefore,
      if_pos (skipBlanks_eq_nil.2 o.after_blank), if_pos (skipBlanks_eq_nil.2 hafter)]
  symm
  by_cases hmark : o.mark = []
  · rw [lead, if_pos hmark] at ha
    obtain ⟨before, rfl, hbefore⟩ := exists_blanks o.before_blank ha
    have htext : textBytes before ++ (o.core ++ textBytes after) =
        textBytes (before ++ .char '{' :: (o.object ++ after)) := by
      rw [core, if_pos hmark]
      simp only [textBytes_append, textBytes_cons, List.append_assoc]
    obtain ⟨d, cs, hhead, -, hlt⟩ := exists_head (r := o.object ++ after) hbefore
    rw [htext, hhead] at hzero ⊢
    refine readEvent_congr o.decode_eq (decodeBytes_textBytes hzero hlt) ?_
    rw [← hhead]
    exact hload before hbefore
  · rw [lead, if_neg hmark] at ha
    obtain rfl : a = [] := List.eq_nil_iff_forall_not_mem.2 fun c hc => by cases ha c hc
    have htext : o.core ++ textBytes after =
        utf8Mark ++ textBytes (o.before ++ .char '{' :: (o.object ++ after)) := by
      rw [core, if_neg hmark, o.mark_eq.resolve_left hmark]
      simp only [textBytes_append, textBytes_cons, List.append_assoc]
    rw [List.nil_append, htext] at hzero ⊢
    rw [List.mem_append, not_or] at hzero
    exact readEvent_congr o.decode_eq (decodeBytes_utf8Mark hzero.2) (hload _ o.before_blank)

end ObjectLine

/-! ## Cutting at carriage returns -/

lemma isText_of_readEvent {line : Bytes} {event : Bytes × UsageReport}
    (h : readEvent F interpreter line = .ok event) : isText line = true := by
  rw [← Bool.not_eq_false, isText_eq_false]
  intro hspace
  have h0 : 0 ∉ line := fun h0 => absurd (hspace 0 h0) (by decide)
  obtain ⟨o⟩ := nonempty_objectLine h h0
  have htext := o.isText_line
  rw [isText_eq_false.2 hspace] at htext
  cases htext

/-- The carriage returns of a line stand in the white space at its ends, and not in a text of
UTF-16 or UTF-32. -/
def PlainReturns (line : Bytes) : Prop := 13 ∉ line ∨ 0 ∉ line ∧ 13 ∉ stripBytes line

lemma isReturn_eq_false {b : ℕ} : isReturn b = false ↔ b ≠ 13 := by simp [isReturn]

lemma not_isReturn_of_not_mem {bytes : Bytes} (h : 13 ∉ bytes) : ∀ b ∈ bytes, isReturn b = false := by
  intro b hb
  rw [isReturn_eq_false]
  rintro rfl
  exact h hb

/-- A line with such carriage returns is the same event without them. -/
theorem readEvent_pieces_of_plain {line : Bytes} {event : Bytes × UsageReport}
    (h : readEvent F interpreter line = .ok event) (hplain : PlainReturns line) :
    ∃ piece, (pieces isReturn line).filter isText = [piece] ∧
      readEvent F interpreter piece = .ok event := by
  rcases hplain with hnone | ⟨h0, hstrip⟩
  · refine ⟨line, ?_, h⟩
    have hpieces := piecesFrom_append (not_isReturn_of_not_mem hnone) [] []
    rw [List.append_nil, List.nil_append] at hpieces
    rw [pieces, hpieces, piecesFrom, List.filter_cons_of_pos (isText_of_readEvent h),
      List.filter_nil]
  · obtain ⟨o⟩ := nonempty_objectLine h h0
    rw [o.stripBytes_eq] at hstrip
    obtain ⟨a, b, ha, hb, hfilter⟩ := filter_pieces_padded isReturn o.lead_space
      (not_isReturn_of_not_mem hstrip) o.isText_core (isSpaceByte_of_mem_textBytes o.after_blank)
    rw [← o.line_eq_core] at hfilter
    exact ⟨_, hfilter, (o.readEvent_eq h0 ha hb).trans h⟩

/-- An object that is followed by something besides blanks is not read. -/
lemma loadsEvent_append {a a' x r : PyText} {ds : List JsonDemand} {es : PyObject F}
    (h : loadsEvent (a ++ x) = ⟨ds, .ok (.dict es)⟩) (ha : ∀ c ∈ a, PyJson.isBlank c = true)
    (ha' : ∀ c ∈ a', PyJson.isBlank c = true) {c : PyChar} (hc : c ∈ r)
    (hblank : PyJson.isBlank c = false) :
    (loadsEvent (a' ++ (x ++ r)) : JsonUse Empty (PyValue F)).outcome = .error .decode := by
  obtain ⟨u, t, b, heq, hu, hb, -, hextent⟩ := loads_extent h
  have hx : ∃ u', (∀ c ∈ u', PyJson.isBlank c = true) ∧ x = u' ++ .char '{' :: (t ++ b) := by
    rcases List.append_eq_append_iff.1 heq with ⟨u', rfl, hx⟩ | ⟨v, rfl, hx⟩
    · exact ⟨u', fun c hc => hu c (List.mem_append_right a hc), hx⟩
    · cases v with
      | nil => exact ⟨[], by simp, by simpa using hx.symm⟩
      | cons d v =>
        obtain ⟨rfl, -⟩ := List.cons.inj hx
        exact absurd (ha (.char '{') (by simp)) (by decide)
  obtain ⟨u', hu', rfl⟩ := hx
  have hread := hextent (a' ++ u') (b ++ r) (by
    intro d hd
    rcases List.mem_append.1 hd with hd | hd
    · exact ha' d hd
    · exact hu' d hd)
  have hskip : ¬ skipBlanks (b ++ r) = [] := by
    rw [skipBlanks_eq_nil]
    intro hall
    rw [hall c (List.mem_append_right b hc)] at hblank
    cases hblank
  rw [if_neg hskip] at hread
  have htext : a' ++ (u' ++ .char '{' :: (t ++ b) ++ r) =
      a' ++ u' ++ .char '{' :: (t ++ (b ++ r)) := by
    simp only [List.append_assoc, List.cons_append]
  rw [htext, loadsEvent, hread]

/-- The brace that ends an object stands after each carriage return in it. -/
lemma brace_mem_of_cut {x u v : PyText} (hx : x = u ++ .char '\r' :: v)
    (hlast : x.getLast? = some (.char '}')) : .char '}' ∈ v := by
  rw [hx, List.getLast?_append, List.getLast?_cons] at hlast
  cases hv : v.getLast? with
  | none =>
    rw [hv] at hlast
    exact absurd (PyChar.char.inj (Option.some.inj hlast)) (by decide)
  | some c =>
    rw [hv] at hlast
    obtain rfl : c = .char '}' := Option.some.inj hlast
    exact List.mem_of_getLast? hv

/-- The first piece of a line that is cut within its object. -/
lemma ObjectLine.not_readEvent_of_cut {line : Bytes} (o : ObjectLine F line) {b u r : PyText}
    (hb : ∀ c ∈ b, PyJson.isBlank c = true) (hr : .char '}' ∈ r)
    (htext : decodeBytes line = some (b ++ (u ++ r))) {piece : Bytes} {a : PyText}
    (ha : ∀ c ∈ a, PyJson.isBlank c = true) (hpiece : decodeBytes piece = some (a ++ u))
    (other : Bytes × UsageReport) : readEvent F interpreter piece ≠ .ok other := by
  intro h
  obtain ⟨text, ds, es, hdecode, hload⟩ := exists_of_readEvent h
  obtain rfl := Option.some.inj (hpiece.symm.trans hdecode)
  have herror := loadsEvent_append hload ha hb hr (by decide)
  rw [Option.some.inj (htext.symm.trans o.decode_eq), o.loads_eq _ _ o.before_blank,
    if_pos (skipBlanks_eq_nil.2 o.after_blank)] at herror
  cases herror

/-- A carriage return in the text of a line in UTF-8 ends a piece that is no event. -/
theorem readEvent_pieces_of_cut {line : Bytes} {event : Bytes × UsageReport}
    (h : readEvent F interpreter line = .ok event) (h0 : 0 ∉ line) (hcut : 13 ∈ stripBytes line) :
    ∃ piece ∈ (pieces isReturn line).filter isText, ∀ other,
      readEvent F interpreter piece ≠ .ok other := by
  obtain ⟨o⟩ := nonempty_objectLine h h0
  rw [o.stripBytes_eq] at hcut
  by_cases hmark : o.mark = []
  · have hcore : o.core = textBytes (.char '{' :: o.object) := if_pos hmark
    rw [hcore] at hcut
    obtain ⟨u, v, hobject, hu⟩ := exists_cut hcut
    have hv := brace_mem_of_cut hobject (by simp [List.getLast?_cons, o.object_last])
    obtain ⟨u, rfl⟩ : ∃ w, u = .char '{' :: w := by
      cases u with
      | nil => exact absurd (PyChar.char.inj (List.cons.inj hobject).1) (by decide)
      | cons c w => exact ⟨w, by rw [(List.cons.inj hobject).1]⟩
    have hline : line = o.lead ++ (textBytes (.char '{' :: u) ++
        13 :: (textBytes v ++ textBytes o.after)) := by
      apply o.line_eq_core.trans
      rw [hcore, hobject, textBytes_append, textBytes_cons (.char '\r'), List.append_assoc]
      rfl
    obtain ⟨a, ha, hmem⟩ := mem_filter_pieces_of_cut isReturn (z := textBytes v ++ textBytes o.after)
      o.lead_space (not_isReturn_of_not_mem hu)
      (isText_of_mem (b := 123) (by rw [textBytes_cons]; exact List.mem_cons_self) (by decide))
      (s := 13) (by decide)
    rw [← hline] at hmem
    have ha' := ha
    rw [ObjectLine.lead_of_mark hmark] at ha'
    obtain ⟨before, rfl, hbefore⟩ := exists_blanks o.before_blank ha'
    refine ⟨_, hmem, ?_⟩
    have hzero : 0 ∉ textBytes (before ++ .char '{' :: u) := by
      intro hmem
      rw [textBytes_append, List.mem_append] at hmem
      apply h0
      rw [hline, List.mem_append, List.mem_append]
      rcases hmem with hmem | hmem
      · exact Or.inl (ha 0 hmem)
      · exact Or.inr (Or.inl hmem)
    obtain ⟨d, cs, hhead, -, hlt⟩ := exists_head (r := u) hbefore
    have hpiece : decodeBytes (textBytes before ++ textBytes (.char '{' :: u)) =
        some (before ++ .char '{' :: u) := by
      rw [← textBytes_append]
      rw [hhead] at hzero ⊢
      exact decodeBytes_textBytes hzero hlt
    apply o.not_readEvent_of_cut o.before_blank (u := .char '{' :: u)
      (r := .char '\r' :: (v ++ o.after)) (by simp [hv]) _ hbefore hpiece
    rw [o.decode_eq, ← List.cons_append, hobject]
    simp only [List.cons_append, List.append_assoc]
  · have hcore : o.core = utf8Mark ++ textBytes (o.before ++ .char '{' :: o.object) := by
      rw [ObjectLine.core, if_neg hmark, o.mark_eq.resolve_left hmark]
    rw [hcore, List.mem_append, or_iff_right (by decide)] at hcut
    obtain ⟨u, v, htext, hu⟩ := exists_cut hcut
    have hv := brace_mem_of_cut htext (by simp [List.getLast?_cons, o.object_last])
    have hline : line = o.lead ++ ((utf8Mark ++ textBytes u) ++
        13 :: (textBytes v ++ textBytes o.after)) := by
      apply o.line_eq_core.trans
      rw [hcore, htext, textBytes_append, textBytes_cons]
      simp only [List.append_assoc]
      rfl
    have hfirst : ∀ b ∈ utf8Mark ++ textBytes u, isReturn b = false := by
      apply not_isReturn_of_not_mem
      rw [List.mem_append, not_or]
      exact ⟨by decide, hu⟩
    obtain ⟨a, ha, hmem⟩ := mem_filter_pieces_of_cut isReturn (z := textBytes v ++ textBytes o.after)
      o.lead_space hfirst (isText_of_mem (b := 0xef) (by simp [utf8Mark]) (by decide)) (s := 13)
      (by decide)
    rw [← hline] at hmem
    rw [ObjectLine.lead_of_not_mark hmark] at ha
    obtain rfl : a = [] := List.eq_nil_iff_forall_not_mem.2 fun c hc => by cases ha c hc
    refine ⟨_, hmem, ?_⟩
    have hzero : 0 ∉ textBytes u := by
      intro hmem
      apply h0
      rw [hline]
      simp [hmem]
    apply o.not_readEvent_of_cut (b := []) (by simp) (u := u)
      (r := .char '\r' :: (v ++ o.after)) (by simp [hv]) _ (a := []) (by simp)
      (decodeBytes_utf8Mark hzero)
    have hwhole : o.before ++ .char '{' :: (o.object ++ o.after) =
        (o.before ++ .char '{' :: o.object) ++ o.after := by simp
    rw [o.decode_eq, hwhole, htext]
    simp only [List.nil_append, List.cons_append, List.append_assoc]

end

end Aizim.Agents
