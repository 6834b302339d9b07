import Aizim.Framework.Html
import Aizim.Framework.JsonDumps
import Aizim.Framework.Replace
import Aizim.Research.DashboardPage

/-!
# The exported record

`exposition` puts a report snapshot into the page of the dashboard: the snapshot as JSON into its
script, with the characters that mean something in a page written as escapes, and the name of the
project into its title, with references for them.

`exposition_inert` says that a browser finds the tags of the template in the page, with the two texts
in their places, and that the text in the script reads back as the snapshot.
-/

namespace Aizim.Research

open Metered PyValue Html

variable {ε F : Type}

/-! ## The page -/

/-- `html.escape` -/
def htmlEscape (s : PyText) : PyText :=
  let s := replaceAll [.char '&'] (pyString "&amp;") s
  let s := replaceAll [.char '<'] (pyString "&lt;") s
  let s := replaceAll [.char '>'] (pyString "&gt;") s
  let s := replaceAll [.char '"'] (pyString "&quot;") s
  replaceAll [.char '\''] (pyString "&#x27;") s

/-- The replacements of `document` in the text of the snapshot. -/
def escapeMarkup (encoded : PyText) : PyText :=
  let encoded := replaceAll [.char '<'] (pyString "\\u003c") encoded
  let encoded := replaceAll [.char '>'] (pyString "\\u003e") encoded
  replaceAll [.char '&'] (pyString "\\u0026") encoded

/-- A snapshot of the report: a JSON object with the name of a project. -/
structure ReportSnapshot (F : Type) [PyFloat F] where
  entries : PyObject F
  project : PyText
  project_eq : entries.get? (pyString "project") = some (.str project)
  isJson : (PyValue.dict entries).isJson = true

section

variable [PyFloat F]

/-- `document` -/
def document (data : PyValue F) : JsonUse ε PyText := do
  demandAll (((data.parts 1).filterMap containerDepth).map .printing)
  demandAll (((data.parts 1).filterMap integerDigits).map .digits)
  pure (replaceAll (pyString "__SNAPSHOT__") (escapeMarkup (PyJson.dumps data)) page)

/-- `exposition` -/
def exposition (data : ReportSnapshot F) : JsonUse ε PyText := do
  let text ← document (.dict data.entries)
  pure (replaceAll (pyString "<title>Aizim Research</title>")
    (pyString "<title>" ++ htmlEscape data.project ++ pyString " — Research record</title>") text)

end

/-! ## Characters -/

/-- The reference that is written for a character in the title. -/
def reference (c : PyChar) : PyText :=
  if c = .char '&' then pyString "&amp;"
  else if c = .char '<' then pyString "&lt;"
  else if c = .char '>' then pyString "&gt;"
  else if c = .char '"' then pyString "&quot;"
  else if c = .char '\'' then pyString "&#x27;"
  else [c]

lemma is_of_mem {s : PyText} {d : Char} (h : s.all (fun c => !c.is d) = true) {c : PyChar}
    (hc : c ∈ s) : c.is d = false := by
  simpa using List.all_eq_true.1 h c hc

/-- No reference opens a tag. -/
lemma reference_no_lt {c d : PyChar} (h : d ∈ reference c) : d.is '<' = false := by
  unfold reference at h
  split_ifs at h with hamp hlt hgt hquot hapos
  · exact is_of_mem (by decide) h
  · exact is_of_mem (by decide) h
  · exact is_of_mem (by decide) h
  · exact is_of_mem (by decide) h
  · exact is_of_mem (by decide) h
  · obtain rfl := List.mem_singleton.1 h
    rw [← Bool.not_eq_true, PyChar.is_iff]
    exact hlt

/-- The escape that is written for a character in the script. -/
def markupEscape (c : PyChar) : PyText :=
  if c = .char '<' then pyString "\\u003c"
  else if c = .char '>' then pyString "\\u003e"
  else if c = .char '&' then pyString "\\u0026"
  else [c]

/-- The replacements of the title come to one for each character. -/
lemma htmlEscape_eq (s : PyText) : htmlEscape s = s.flatMap reference := by
  simp only [htmlEscape, replaceAll_singleton, List.flatMap_assoc]
  congr 1
  funext c
  unfold reference
  split_ifs with hamp hlt hgt hquot hapos
  · rfl
  · subst hlt
    rfl
  · subst hgt
    rfl
  · subst hquot
    rfl
  · subst hapos
    rfl
  · simp [hlt, hgt, hquot, hapos]

/-- The replacements of the script come to one for each character. -/
lemma escapeMarkup_eq (s : PyText) : escapeMarkup s = s.flatMap markupEscape := by
  simp only [escapeMarkup, replaceAll_singleton, List.flatMap_assoc]
  congr 1
  funext c
  unfold markupEscape
  split_ifs with hlt hgt hamp
  · rfl
  · subst hgt
    rfl
  · subst hamp
    rfl
  · simp [hgt, hamp]

/-- The characters that mean something in a page. -/
def isMarkup (c : PyChar) : Bool := c.is '<' || c.is '>' || c.is '&'

lemma isMarkup_eq_false {c : PyChar} :
    isMarkup c = false ↔ c ≠ .char '<' ∧ c ≠ .char '>' ∧ c ≠ .char '&' := by
  rw [← Bool.not_eq_true]
  simp [isMarkup, and_assoc]

lemma markupEscape_of_plain {c : PyChar} (h : isMarkup c = false) : markupEscape c = [c] := by
  obtain ⟨hlt, hgt, hamp⟩ := isMarkup_eq_false.1 h
  rw [markupEscape, if_neg hlt, if_neg hgt, if_neg hamp]

lemma isMarkup_of_mem {s : PyText} (h : s.all (fun c => !isMarkup c) = true) {c : PyChar}
    (hc : c ∈ s) : isMarkup c = false := by
  simpa using List.all_eq_true.1 h c hc

/-- The escapes have none of them. -/
lemma isMarkup_of_mem_markupEscape {c d : PyChar} (h : d ∈ markupEscape c) : isMarkup d = false := by
  unfold markupEscape at h
  split_ifs at h with hlt hgt hamp
  · exact isMarkup_of_mem (by decide) h
  · exact isMarkup_of_mem (by decide) h
  · exact isMarkup_of_mem (by decide) h
  · obtain rfl := List.mem_singleton.1 h
    exact isMarkup_eq_false.2 ⟨hlt, hgt, hamp⟩

/-- The digits of an escape. -/
lemma all_hexByte {n : ℕ} (hn : n < 32) :
    (pyText (Sha256.hexByte n)).all (fun c => !isMarkup c) = true := by
  revert n
  decide

/-- The printer adds none of them. -/
lemma isMarkup_of_mem_escape {c : Char} {d : PyChar} (hc : isMarkup (.char c) = false)
    (h : d ∈ pyText (JsonValue.escape c)) : isMarkup d = false := by
  unfold JsonValue.escape at h
  split_ifs at h with hquote hslash hn hr ht hf hb hlow
  · exact isMarkup_of_mem (by decide) h
  · exact isMarkup_of_mem (by decide) h
  · exact isMarkup_of_mem (by decide) h
  · exact isMarkup_of_mem (by decide) h
  · exact isMarkup_of_mem (by decide) h
  · exact isMarkup_of_mem (by decide) h
  · exact isMarkup_of_mem (by decide) h
  · rw [pyText_append, List.mem_append] at h
    rcases h with h | h
    · exact isMarkup_of_mem (by decide) h
    · exact isMarkup_of_mem (all_hexByte hlow) h
  · rw [List.mem_singleton.1 h]
    exact hc

lemma flatMap_markupEscape {s : PyText} (h : ∀ c ∈ s, isMarkup c = false) :
    s.flatMap markupEscape = s := by
  induction s with
  | nil => rfl
  | cons c s ih =>
    rw [List.forall_mem_cons] at h
    rw [List.flatMap_cons, markupEscape_of_plain h.1, ih h.2]
    rfl

/-- The escapes of the script are undone by the reader. -/
def markupGuard : Guard where
  write := markupEscape
  write_ne c := by
    unfold markupEscape
    split_ifs <;> simp [pyString, pyText]
  outside c h := by
    apply markupEscape_of_plain
    rcases h with h | h
    · exact isMarkup_of_mem (s := pyText structuralChars) (by decide) (List.mem_map_of_mem h)
    · rw [isMarkup_eq_false]
      refine ⟨?_, ?_, ?_⟩
      all_goals
        rintro ⟨rfl⟩
        revert h
        decide
  within n c rest := by
    cases c with
    | surrogate m =>
      rw [show (PyJson.escape (.surrogate m)).flatMap markupEscape = [.surrogate m] from rfl]
      rfl
    | char c =>
      by_cases hmarkup : isMarkup (.char c) = false
      · have hplain : ∀ d ∈ PyJson.escape (.char c), isMarkup d = false := by
          intro d hd
          exact isMarkup_of_mem_escape hmarkup hd
        rw [flatMap_markupEscape hplain]
        exact readText_escape n c rest
      · have hcases : c = '<' ∨ c = '>' ∨ c = '&' := by
          rw [isMarkup_eq_false] at hmarkup
          simp only [ne_eq, PyChar.char.injEq] at hmarkup
          tauto
        rcases hcases with rfl | rfl | rfl
        · rfl
        · rfl
        · rfl

/-! ## The parts of the page -/

lemma Literal.pyString_text (l : Literal) : pyString l.text = pyText l.chars := by
  rw [pyString, ← l.eq, String.toList_ofList]

/-- The page up to its title. -/
def headText : PyText := unlines headLines

/-- The page between its title and its snapshot. -/
def bodyText : PyText :=
  .char '\n' :: (unlines (styleLines ++ bodyLines) ++ pyText ['c', 'o', 'n', 's', 't', ' ', 'i', 'n',
    'i', 't', 'i', 'a', 'l', '='])

/-- The page after its snapshot. -/
def tailText : PyText := .char ';' :: .char '\n' :: unlines scriptLines

/-- `__SNAPSHOT__` -/
def placeholder : Literal := ⟨"__SNAPSHOT__", _, rfl⟩

lemma unlines_append (ls ms : List Literal) : unlines (ls ++ ms) = unlines ls ++ unlines ms :=
  List.flatMap_append

lemma unlines_cons (l : Literal) (ls : List Literal) :
    unlines (l :: ls) = pyText l.chars ++ .char '\n' :: unlines ls := by
  rw [unlines, List.flatMap_cons, List.append_assoc]
  rfl

lemma page_eq : page =
    headText ++ (pyText titleLine.chars ++ (bodyText ++ (pyText placeholder.chars ++ tailText))) := by
  have hsnapshot : pyText snapshotLine.chars = pyText ['c', 'o', 'n', 's', 't', ' ', 'i', 'n', 'i',
      't', 'i', 'a', 'l', '='] ++ (pyText placeholder.chars ++ [.char ';']) := rfl
  simp only [page, headText, bodyText, tailText, unlines_append, unlines_cons, hsnapshot,
    List.append_assoc, List.cons_append, List.nil_append]

/-- A text without line ends that is in none of the lines misses them. -/
lemma misses_unlines {chars : List Char} (hline : '\n' ∉ chars) {lines : List Literal}
    (h : ∀ l ∈ lines, ¬ chars <:+: l.chars) (ds : PyText) :
    misses (pyText chars) (unlines lines ++ ds) = misses (pyText chars) ds := by
  have hchar : PyChar.char '\n' ∉ pyText chars := by simpa [pyText] using hline
  induction lines with
  | nil => rfl
  | cons l ls ih =>
    have hl : ¬ pyText chars <:+: pyText l.chars := by
      rw [pyText, pyText, List.infix_map_iff]
      rintro ⟨cs, hcs, heq⟩
      obtain rfl := List.map_injective_iff.2 (fun a b h => PyChar.char.inj h) heq
      exact h l List.mem_cons_self hcs
    rw [unlines_cons, List.append_assoc, List.cons_append, misses_append_cons hchar hl,
      ih fun m hm => h m (List.mem_cons_of_mem _ hm)]

/-- A text that begins with a character of this code does not occur: it is looked for where a
character has the code. -/
def absent (text : List Char) (code : ℕ) : List Char → Bool
  | [] => true
  | c :: cs => bif c.toNat.beq code then !text.isPrefixOf (c :: cs) && absent text code cs
    else absent text code cs

lemma notIn_of_absent {c : Char} {text cs : List Char} (h : absent (c :: text) c.toNat cs = true) :
    ¬ c :: text <:+: cs := by
  induction cs with
  | nil => simp
  | cons d ds ih =>
    rw [List.infix_cons_iff, not_or]
    rw [absent] at h
    cases hcode : d.toNat.beq c.toNat with
    | true =>
      rw [hcode, cond_true, Bool.and_eq_true, Bool.not_eq_true', Bool.eq_false_iff, Ne,
        List.isPrefixOf_iff_prefix] at h
      exact ⟨h.1, ih h.2⟩
    | false =>
      rw [hcode, cond_false] at h
      refine ⟨fun hbegins => ?_, ih h⟩
      rw [(List.cons_prefix_cons.1 hbegins).1, Nat.beq_refl] at hcode
      exact nomatch hcode

/-- No line of the page but their own has the title or the placeholder. -/
lemma absent_lines :
    (headLines ++ (styleLines ++ bodyLines) ++ scriptLines).all (fun l =>
      absent placeholder.chars 95 l.chars && absent titleLine.chars 60 l.chars) = true := by
  decide +kernel

lemma notIn_lines {l : Literal} (h : l ∈ headLines ++ (styleLines ++ bodyLines) ++ scriptLines) :
    ¬ placeholder.chars <:+: l.chars ∧ ¬ titleLine.chars <:+: l.chars := by
  have hl := List.all_eq_true.1 absent_lines l h
  rw [Bool.and_eq_true] at hl
  exact ⟨notIn_of_absent hl.1, notIn_of_absent hl.2⟩

/-- The scripts that follow the snapshot begin with the end of a line. -/
lemma misses_tailText {chars : List Char} (hline : '\n' ∉ chars)
    (hstart : ¬ pyText chars <:+: [.char ';'])
    (hscript : ∀ l ∈ scriptLines, ¬ chars <:+: l.chars) :
    misses (pyText chars) tailText = true := by
  have hchar : PyChar.char '\n' ∉ pyText chars := by simpa [pyText] using hline
  have hlines := misses_unlines hline hscript []
  rw [List.append_nil] at hlines
  exact (misses_append_cons hchar hstart _).trans hlines

lemma placeholder_misses : misses (pyText placeholder.chars)
      (headText ++ (pyText titleLine.chars ++ bodyText)) = true ∧
    misses (pyText placeholder.chars) tailText = true := by
  have hline : '\n' ∉ placeholder.chars := by decide
  have hchar : PyChar.char '\n' ∉ pyText placeholder.chars := by simpa [pyText] using hline
  obtain ⟨hhead, hpage⟩ := List.forall_mem_append.1 fun l hl =>
    (notIn_lines (List.mem_append_left _ hl)).1
  refine ⟨?_, misses_tailText hline (by decide) fun l hl =>
    (notIn_lines (List.mem_append_right _ hl)).1⟩
  rw [headText, misses_unlines hline hhead, bodyText, misses_append_cons hchar (by decide),
    misses_unlines hline hpage]
  decide

lemma title_misses : misses (pyText titleLine.chars) headText = true ∧
    misses (pyText titleLine.chars) bodyText = true ∧
    misses (pyText titleLine.chars) tailText = true := by
  have hline : '\n' ∉ titleLine.chars := by decide
  have hchar : PyChar.char '\n' ∉ pyText titleLine.chars := by simpa [pyText] using hline
  obtain ⟨hhead, hpage⟩ := List.forall_mem_append.1 fun l hl =>
    (notIn_lines (List.mem_append_left _ hl)).2
  refine ⟨?_, ?_, misses_tailText hline (by decide) fun l hl =>
    (notIn_lines (List.mem_append_right _ hl)).2⟩
  · have hlines := misses_unlines hline hhead []
    rwa [List.append_nil] at hlines
  · have hbody : misses (pyText titleLine.chars) bodyText = misses (pyText titleLine.chars) _ :=
      misses_append_cons hchar (show ¬ pyText titleLine.chars <:+: [] by decide) _
    rw [hbody, misses_unlines hline hpage]
    decide

/-- A browser reads the title as the text of an element, and the snapshot as a script. -/
lemma part_states :
    endState (.text .data) (headText ++ pyString "<title>") = .text (.raw (pyString "title")) ∧
    endState (.text (.raw (pyString "title"))) (pyString "</title>" ++ bodyText) =
      .text (.script .plain) := by
  decide +kernel

/-! ## The exported page -/

/-- What a browser reads in the page, with these texts for its title and its snapshot. -/
def pageTokens (title snapshot : PyText) : List Token :=
  (run (.text .data) (headText ++ pyString "<title>")).2 ++ chars title ++
    (run (.text (.raw (pyString "title"))) (pyString "</title>" ++ bodyText)).2 ++ chars snapshot ++
    (run (.text (.script .plain)) tailText).2

/-- The page with these texts. -/
def pageWith (title snapshot : PyText) : PyText :=
  headText ++ pyString "<title>" ++ title ++ (pyString "</title>" ++ bodyText) ++ snapshot ++ tailText

lemma run_parts {head body tail title snapshot : PyText} {name : PyText}
    (hhead : endState (.text .data) head = .text (.raw name))
    (hbody : endState (.text (.raw name)) body = .text (.script .plain))
    (htitle : ∀ c ∈ title, c.is '<' = false) (hsnapshot : ∀ c ∈ snapshot, c.is '<' = false) :
    run (.text .data) (head ++ title ++ body ++ snapshot ++ tail) =
      (endState (.text (.script .plain)) tail,
        (run (.text .data) head).2 ++ chars title ++ (run (.text (.raw name)) body).2 ++
          chars snapshot ++ (run (.text (.script .plain)) tail).2) := by
  have hhead' : run (.text .data) head = (.text (.raw name), (run (.text .data) head).2) :=
    Prod.fst_eq_iff.1 (by rw [run_fst, hhead])
  have hbody' : run (.text (.raw name)) body =
      (.text (.script .plain), (run (.text (.raw name)) body).2) :=
    Prod.fst_eq_iff.1 (by rw [run_fst, hbody])
  rw [List.append_assoc, List.append_assoc, List.append_assoc, run_append_of hhead',
    run_append_of (run_raw _ htitle), run_append_of hbody', run_append_of (run_script hsnapshot),
    run_fst]
  simp only [List.append_assoc]

/-- Texts without a `<` change nothing but themselves. -/
lemma run_pageWith {title snapshot : PyText} (htitle : ∀ c ∈ title, c.is '<' = false)
    (hsnapshot : ∀ c ∈ snapshot, c.is '<' = false) :
    run (.text .data) (pageWith title snapshot) =
      (endState (.text (.script .plain)) tailText, pageTokens title snapshot) :=
  run_parts part_states.1 part_states.2 htitle hsnapshot

lemma titleLine_chars : pyText titleLine.chars =
    pyString "<title>" ++ (pyString "Aizim Research" ++ pyString "</title>") := by
  have hopening := Literal.pyString_text ⟨"<title>", _, rfl⟩
  have hname := Literal.pyString_text ⟨"Aizim Research", _, rfl⟩
  have hclosing := Literal.pyString_text ⟨"</title>", _, rfl⟩
  simp only at hopening hname hclosing
  rw [hopening, hname, hclosing]
  rfl

/-- The template is the page with the texts that are replaced. -/
lemma page_eq_pageWith : page = pageWith (pyString "Aizim Research") (pyString "__SNAPSHOT__") := by
  rw [page_eq, titleLine_chars, pageWith, show pyString "__SNAPSHOT__" = pyText placeholder.chars from
    placeholder.pyString_text]
  simp only [List.append_assoc]

section

variable [PyFloat F]

/-- The text in the script. -/
def embedded (data : ReportSnapshot F) : PyText := markupGuard.dumps (.dict data.entries)

/-- The text in the title. -/
def exportedTitle (data : ReportSnapshot F) : PyText :=
  data.project.flatMap reference ++ pyString " — Research record"

lemma isMarkup_of_mem_embedded {data : ReportSnapshot F} {c : PyChar} (h : c ∈ embedded data) :
    isMarkup c = false := by
  obtain ⟨d, -, hd⟩ := List.mem_flatMap.1 h
  exact isMarkup_of_mem_markupEscape hd

/-- The snapshot is put where the template has its placeholder. -/
lemma document_eq (data : ReportSnapshot F) :
    (document (.dict data.entries) : JsonUse ε PyText).outcome = .ok
      (headText ++ (pyText titleLine.chars ++ (bodyText ++ (embedded data ++ tailText)))) := by
  have hencoded : escapeMarkup (PyJson.dumps (.dict data.entries)) = embedded data :=
    escapeMarkup_eq _
  have hpage : page = (headText ++ (pyText titleLine.chars ++ bodyText)) ++
      (pyText placeholder.chars ++ tailText) := by
    rw [page_eq]
    simp only [List.append_assoc]
  have hplaceholder : pyString "__SNAPSHOT__" = pyText placeholder.chars := placeholder.pyString_text
  show Except.ok (replaceAll (pyString "__SNAPSHOT__") (escapeMarkup _) page) = _
  rw [hencoded, hplaceholder, hpage, replaceAll_append_of_misses placeholder_misses.1,
    replaceAll_append_self (by simp [placeholder, pyText]), replaceAll_of_misses placeholder_misses.2]
  simp only [List.append_assoc]

/-- The exported page is the template with the name of the project and the snapshot. -/
lemma exposition_eq (data : ReportSnapshot F) :
    (exposition data : JsonUse ε PyText).outcome =
      .ok (pageWith (exportedTitle data) (embedded data)) := by
  have hembedded : misses (pyText titleLine.chars) (embedded data) = true := by
    apply misses_of_head
    intro hmem
    exact absurd (isMarkup_of_mem_embedded hmem) (by decide)
  have htitle : pyString "<title>Aizim Research</title>" = pyText titleLine.chars :=
    titleLine.pyString_text
  have hclosing : pyString " — Research record</title>" =
      pyString " — Research record" ++ pyString "</title>" := by
    rw [show " — Research record</title>" = " — Research record" ++ "</title>" from rfl, pyString,
      String.toList_append, pyText, List.map_append]
    rfl
  refine outcome_bind_eq_ok.2 ⟨_, document_eq data, ?_⟩
  show Except.ok (replaceAll (pyString "<title>Aizim Research</title>") _ _) = _
  rw [htitle, replaceAll_append_of_misses title_misses.1,
    replaceAll_append_self (by simp [titleLine, pyText]),
    replaceAll_append_of_misses title_misses.2.1, replaceAll_append_of_misses hembedded,
    replaceAll_of_misses title_misses.2.2, htmlEscape_eq, hclosing, pageWith, exportedTitle]
  simp only [List.append_assoc]

lemma exportedTitle_no_lt (data : ReportSnapshot F) :
    ∀ c ∈ exportedTitle data, c.is '<' = false := by
  intro c hc
  rcases List.mem_append.1 hc with hc | hc
  · obtain ⟨d, -, hd⟩ := List.mem_flatMap.1 hc
    exact reference_no_lt hd
  · exact is_of_mem (by decide) hc

/-- The tags, comments and declarations of a page. -/
def tagStructure (page : PyText) : List Token :=
  (run (.text .data) page).2.filter fun token => !token.isChar

lemma filter_chars (s : PyText) : (chars s).filter (fun token => !token.isChar) = [] := by
  rw [List.filter_eq_nil_iff]
  intro token htoken
  obtain ⟨c, -, rfl⟩ := List.mem_map.1 htoken
  simp [Token.isChar]

lemma filter_pageTokens (title snapshot title' snapshot' : PyText) :
    (pageTokens title snapshot).filter (fun token => !token.isChar) =
      (pageTokens title' snapshot').filter fun token => !token.isChar := by
  simp only [pageTokens, List.filter_append, filter_chars]

/-- **The exported record is inert and faithful.** A browser finds the tags of the template in the
page, the title and the snapshot as the characters in their places, and the text of the snapshot
reads back as the snapshot. -/
theorem exposition_inert (data : ReportSnapshot F) :
    (exposition data : JsonUse ε PyText).outcome =
        .ok (pageWith (exportedTitle data) (embedded data)) ∧
      run (.text .data) page = (endState (.text (.script .plain)) tailText,
        pageTokens (pyString "Aizim Research") (pyString "__SNAPSHOT__")) ∧
      run (.text .data) (pageWith (exportedTitle data) (embedded data)) =
        (endState (.text (.script .plain)) tailText,
          pageTokens (exportedTitle data) (embedded data)) ∧
      tagStructure (pageWith (exportedTitle data) (embedded data)) = tagStructure page ∧
      (∀ c ∈ embedded data, isMarkup c = false) ∧
      (PyJson.loads (fun es => .ok (pyDict es)) (embedded data) : JsonUse ε _).outcome =
        .ok (.dict data.entries) := by
  have htemplate : run (.text .data) page = (endState (.text (.script .plain)) tailText,
      pageTokens (pyString "Aizim Research") (pyString "__SNAPSHOT__")) := by
    rw [page_eq_pageWith]
    exact run_pageWith (fun c hc => is_of_mem (by decide) hc) fun c hc => is_of_mem (by decide) hc
  have hpage : run (.text .data) (pageWith (exportedTitle data) (embedded data)) =
      (endState (.text (.script .plain)) tailText,
        pageTokens (exportedTitle data) (embedded data)) := by
    apply run_pageWith (exportedTitle_no_lt data)
    intro c hc
    obtain ⟨hlt, -, -⟩ := isMarkup_eq_false.1 (isMarkup_of_mem_embedded hc)
    rw [← Bool.not_eq_true, PyChar.is_iff]
    exact hlt
  refine ⟨exposition_eq data, htemplate, hpage, ?_, fun c hc => isMarkup_of_mem_embedded hc, ?_⟩
  · rw [tagStructure, tagStructure, hpage, htemplate]
    apply filter_pageTokens
  · have hhook : ∀ es : PyObject F, (es.map Prod.fst).Nodup →
        (Except.ok (pyDict es) : Except ε (PyObject F)) = .ok es := by
      intro es hes
      rw [pyDict_of_nodup hes]
    rw [embedded, markupGuard.loads_guarded hhook data.isJson]

end

end Aizim.Research
