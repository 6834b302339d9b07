import Aizim.Framework.JsonRoundTrip

/-!
# The tags of a page

A browser cuts the text of a page into tags, comments and characters before it looks at anything
else.  `Html.step` is its machine: the text of a page, of a title, of a script or of a style, each
with its own way out of it, and the states inside a tag, a comment or a declaration.  A script has
states of its own after a `<!--`, in which another `<script` may be opened and closed.

Character references are left as they stand: they are read within a text or a value, where they open
nothing.  A text of a title, a style or a script has only one way out, which begins with a `<`:
`run_raw` and `run_script` say that a text without it leaves the machine where it is.
-/

namespace Aizim

/-- The character is this one. -/
def PyChar.is (d : Char) : PyChar → Bool
  | char c => c == d
  | surrogate _ => false

@[simp]
lemma PyChar.is_iff {c : PyChar} {d : Char} : c.is d = true ↔ c = .char d := by
  cases c with
  | char c => simp [PyChar.is]
  | surrogate n => simp [PyChar.is]

namespace Html

/-! ## Tokens -/

/-- A token of a page. -/
inductive Token
  | char (c : PyChar)
  | startTag (name : PyText) (attributes : List (PyText × PyText)) (selfClosing : Bool)
  | endTag (name : PyText)
  | comment (text : PyText)
  | doctype (text : PyText)
  deriving DecidableEq

/-- The token is a character of a text. -/
def Token.isChar : Token → Bool
  | char _ => true
  | _ => false

/-- The characters of a text as tokens. -/
def chars (text : PyText) : List Token := text.map Token.char

/-- A tag that is being read. -/
structure Tag where
  closing : Bool
  name : PyText
  attributes : List (PyText × PyText)
  deriving DecidableEq

/-- Start another attribute. -/
def Tag.addAttribute (tag : Tag) (name : PyText) : Tag :=
  { tag with attributes := tag.attributes ++ [(name, [])] }

/-- Go on with the value of the last attribute. -/
def Tag.addValue (tag : Tag) (c : PyChar) : Tag :=
  { tag with attributes := tag.attributes.modifyLast fun a => (a.1, a.2 ++ [c]) }

/-! ## States -/

/-- How much of a script is behind a `<!--`; the number counts the dashes just read. -/
inductive ScriptMode
  | plain
  | escaped (dashes : ℕ)
  | doubleEscaped (dashes : ℕ)
  deriving DecidableEq

/-- The kind of a text: one between tags, the text of an element up to its end tag, or a script. -/
inductive TextKind
  | data
  | raw (name : PyText)
  | script (mode : ScriptMode)
  | plaintext
  deriving DecidableEq

/-- How far the opening or the closing dashes of a comment are read. -/
inductive CommentPhase
  | start
  | startDash
  | inside
  | endDash
  | ended
  | endBang
  deriving DecidableEq

/-- The states of the machine. -/
inductive State
  | text (kind : TextKind)
  | tagOpen
  | endTagOpen
  | tagName (tag : Tag)
  | beforeAttribute (tag : Tag)
  | attributeName (tag : Tag) (name : PyText)
  | afterAttribute (tag : Tag)
  | beforeValue (tag : Tag)
  | value (tag : Tag) (delimiter : Option Char)
  | afterValue (tag : Tag)
  | selfClosing (tag : Tag)
  | bogusComment (text : PyText)
  | markup (seen : PyText)
  | comment (phase : CommentPhase) (text : PyText)
  | doctype (text : PyText)
  /-- after a `<` in the text of an element -/
  | lessThan (kind : TextKind)
  /-- after a `</` in the text of an element -/
  | closing (kind : TextKind)
  | closingName (kind : TextKind) (seen : PyText)
  /-- after a `<!` in a script -/
  | escapeStart (dashes : ℕ)
  | doubleEscapeStart (seen : PyText)
  | doubleEscapedLessThan
  | doubleEscapeEnd (seen : PyText)
  deriving DecidableEq

/-! ## Characters -/

/-- A blank within a tag. -/
def isSpace (c : PyChar) : Bool :=
  c.is ' ' || c.is '\n' || c.is '\t' || c.is '\r' || c.is '\x0c'

/-- A letter, which may begin the name of a tag. -/
def isLetter : PyChar → Bool
  | .char c => isAsciiLetter c
  | .surrogate _ => false

/-- A letter in lower case. -/
def lower : PyChar → PyChar
  | .char c => .char c.toLower
  | .surrogate n => .surrogate n

/-! ## The machine -/

/-- The elements whose text ends only at their end tag. -/
def rawElements : List PyText :=
  ["title", "textarea", "style", "xmp", "iframe", "noembed", "noframes", "noscript"].map pyString

/-- The kind of the text after a start tag. -/
def kindOf (name : PyText) : TextKind :=
  if rawElements.contains name then .raw name
  else if name = pyString "script" then .script .plain
  else if name = pyString "plaintext" then .plaintext
  else .data

/-- The end of a tag. -/
def emitTag (tag : Tag) (selfClosing : Bool) : State × List Token :=
  if tag.closing then (.text .data, [.endTag tag.name])
  else (.text (kindOf tag.name), [.startTag tag.name tag.attributes selfClosing])

/-- A character in a text. -/
def textStep (kind : TextKind) (c : PyChar) : State × List Token :=
  match kind with
  | .data => if c.is '<' then (.tagOpen, []) else (.text .data, [.char c])
  | .raw name => if c.is '<' then (.lessThan (.raw name), []) else (.text (.raw name), [.char c])
  | .plaintext => (.text .plaintext, [.char c])
  | .script .plain =>
    if c.is '<' then (.lessThan (.script .plain), []) else (.text (.script .plain), [.char c])
  | .script (.escaped dashes) =>
    if c.is '-' then (.text (.script (.escaped (min 2 (dashes + 1)))), [.char c])
    else if c.is '<' then (.lessThan (.script (.escaped 0)), [])
    else if c.is '>' && dashes == 2 then (.text (.script .plain), [.char c])
    else (.text (.script (.escaped 0)), [.char c])
  | .script (.doubleEscaped dashes) =>
    if c.is '-' then (.text (.script (.doubleEscaped (min 2 (dashes + 1)))), [.char c])
    else if c.is '<' then (.doubleEscapedLessThan, [.char c])
    else if c.is '>' && dashes == 2 then (.text (.script .plain), [.char c])
    else (.text (.script (.doubleEscaped 0)), [.char c])

/-- Characters that turn out to be text, before a character that is read again. -/
def rereadText (text : List PyChar) (kind : TextKind) (c : PyChar) : State × List Token :=
  ((textStep kind c).1, chars text ++ (textStep kind c).2)

/-- A character in a comment that is none of a tag or a declaration. -/
def bogusStep (text : PyText) (c : PyChar) : State × List Token :=
  if c.is '>' then (.text .data, [.comment text]) else (.bogusComment (text ++ [c]), [])

/-- A character in the name of a tag. -/
def tagNameStep (tag : Tag) (c : PyChar) : State × List Token :=
  if isSpace c then (.beforeAttribute tag, [])
  else if c.is '/' then (.selfClosing tag, [])
  else if c.is '>' then emitTag tag false
  else (.tagName { tag with name := tag.name ++ [lower c] }, [])

/-- A character after an attribute. -/
def afterAttributeStep (tag : Tag) (c : PyChar) : State × List Token :=
  if isSpace c then (.afterAttribute tag, [])
  else if c.is '/' then (.selfClosing tag, [])
  else if c.is '=' then (.beforeValue tag, [])
  else if c.is '>' then emitTag tag false
  else (.attributeName tag [lower c], [])

/-- A character in the name of an attribute. -/
def attributeNameStep (tag : Tag) (name : PyText) (c : PyChar) : State × List Token :=
  if isSpace c || c.is '/' || c.is '>' then afterAttributeStep (tag.addAttribute name) c
  else if c.is '=' then (.beforeValue (tag.addAttribute name), [])
  else (.attributeName tag (name ++ [lower c]), [])

/-- A character where an attribute may begin. -/
def beforeAttributeStep (tag : Tag) (c : PyChar) : State × List Token :=
  if isSpace c then (.beforeAttribute tag, [])
  else if c.is '/' || c.is '>' then afterAttributeStep tag c
  else if c.is '=' then (.attributeName tag [c], [])
  else attributeNameStep tag [] c

/-- A character in a value, which ends with its quotation mark or, if it has none, before a blank. -/
def valueStep (tag : Tag) (delimiter : Option Char) (c : PyChar) : State × List Token :=
  match delimiter with
  | some quote =>
    if c.is quote then (.afterValue tag, []) else (.value (tag.addValue c) (some quote), [])
  | none =>
    if isSpace c then (.beforeAttribute tag, [])
    else if c.is '>' then emitTag tag false
    else (.value (tag.addValue c) none, [])

/-- A character where a value may begin. -/
def beforeValueStep (tag : Tag) (c : PyChar) : State × List Token :=
  if isSpace c then (.beforeValue tag, [])
  else if c.is '"' then (.value tag (some '"'), [])
  else if c.is '\'' then (.value tag (some '\''), [])
  else if c.is '>' then emitTag tag false
  else valueStep tag none c

/-- The declarations that may follow a `<!`. -/
def declarations : List PyText := ["--", "doctype"].map pyString

/-- A character after a `<!` and the beginning of a declaration. -/
def markupStep (seen : PyText) (c : PyChar) : State × List Token :=
  let next := seen ++ [lower c]
  if next = pyString "--" then (.comment .start [], [])
  else if next = pyString "doctype" then (.doctype [], [])
  else if declarations.any next.isPrefixOf then (.markup (seen ++ [c]), [])
  else bogusStep seen c

/-- A character in a comment. -/
def commentStep (text : PyText) (c : PyChar) : CommentPhase → State × List Token
  | .start =>
    if c.is '-' then (.comment .startDash text, [])
    else if c.is '>' then (.text .data, [.comment text])
    else (.comment .inside (text ++ [c]), [])
  | .startDash =>
    if c.is '-' then (.comment .ended text, [])
    else if c.is '>' then (.text .data, [.comment text])
    else (.comment .inside (text ++ pyString "-" ++ [c]), [])
  | .inside =>
    if c.is '-' then (.comment .endDash text, []) else (.comment .inside (text ++ [c]), [])
  | .endDash =>
    if c.is '-' then (.comment .ended text, [])
    else (.comment .inside (text ++ pyString "-" ++ [c]), [])
  | .ended =>
    if c.is '>' then (.text .data, [.comment text])
    else if c.is '!' then (.comment .endBang text, [])
    else if c.is '-' then (.comment .ended (text ++ [c]), [])
    else (.comment .inside (text ++ pyString "--" ++ [c]), [])
  | .endBang =>
    if c.is '-' then (.comment .endDash (text ++ pyString "--!"), [])
    else if c.is '>' then (.text .data, [.comment text])
    else (.comment .inside (text ++ pyString "--!" ++ [c]), [])

/-- A character in the name of what may be the end tag of an element or of a script. -/
def closingNameStep (kind : TextKind) (seen : PyText) (c : PyChar) : State × List Token :=
  let name := seen.map lower
  let ends := match kind with
    | .raw element => name == element
    | .script _ => name == pyString "script"
    | _ => false
  if isSpace c && ends then (.beforeAttribute ⟨true, name, []⟩, [])
  else if c.is '/' && ends then (.selfClosing ⟨true, name, []⟩, [])
  else if c.is '>' && ends then emitTag ⟨true, name, []⟩ false
  else if isLetter c then (.closingName kind (seen ++ [c]), [])
  else rereadText (pyString "</" ++ seen) kind c

/-- A character in a name that may double the escape of a script, or undo that. -/
def doubleEscapeStep (seen : PyText) (c : PyChar) (next : PyText → State)
    (here there : ScriptMode) : State × List Token :=
  if isSpace c || c.is '/' || c.is '>' then
    (.text (.script (if seen.map lower = pyString "script" then there else here)), [.char c])
  else if isLetter c then (next (seen ++ [c]), [.char c])
  else textStep (.script here) c

/-- What a character does. -/
def step : State → PyChar → State × List Token
  | .text kind, c => textStep kind c
  | .tagOpen, c =>
    if c.is '!' then (.markup [], [])
    else if c.is '/' then (.endTagOpen, [])
    else if isLetter c then tagNameStep ⟨false, [], []⟩ c
    else if c.is '?' then bogusStep [] c
    else rereadText (pyString "<") .data c
  | .endTagOpen, c =>
    if isLetter c then tagNameStep ⟨true, [], []⟩ c
    else if c.is '>' then (.text .data, [])
    else bogusStep [] c
  | .tagName tag, c => tagNameStep tag c
  | .beforeAttribute tag, c => beforeAttributeStep tag c
  | .attributeName tag name, c => attributeNameStep tag name c
  | .afterAttribute tag, c => afterAttributeStep tag c
  | .beforeValue tag, c => beforeValueStep tag c
  | .value tag delimiter, c => valueStep tag delimiter c
  | .afterValue tag, c =>
    if isSpace c then (.beforeAttribute tag, [])
    else if c.is '/' then (.selfClosing tag, [])
    else if c.is '>' then emitTag tag false
    else beforeAttributeStep tag c
  | .selfClosing tag, c => if c.is '>' then emitTag tag true else beforeAttributeStep tag c
  | .bogusComment text, c => bogusStep text c
  | .markup seen, c => markupStep seen c
  | .comment phase text, c => commentStep text c phase
  | .doctype text, c =>
    if c.is '>' then (.text .data, [.doctype text]) else (.doctype (text ++ [c]), [])
  | .lessThan kind, c =>
    if c.is '/' then (.closing kind, [])
    else if c.is '!' && kind == .script .plain then (.escapeStart 0, chars (pyString "<!"))
    else if isLetter c && kind == .script (.escaped 0) then
      let (s, ts) := doubleEscapeStep [] c .doubleEscapeStart (.escaped 0) (.doubleEscaped 0)
      (s, chars (pyString "<") ++ ts)
    else rereadText (pyString "<") kind c
  | .closing kind, c =>
    if isLetter c then (.closingName kind [c], []) else rereadText (pyString "</") kind c
  | .closingName kind seen, c => closingNameStep kind seen c
  | .escapeStart dashes, c =>
    if c.is '-' then
      (if dashes = 0 then .escapeStart 1 else .text (.script (.escaped 2)), [.char c])
    else textStep (.script .plain) c
  | .doubleEscapeStart seen, c =>
    doubleEscapeStep seen c .doubleEscapeStart (.escaped 0) (.doubleEscaped 0)
  | .doubleEscapedLessThan, c =>
    if c.is '/' then (.doubleEscapeEnd [], [.char c]) else textStep (.script (.doubleEscaped 0)) c
  | .doubleEscapeEnd seen, c =>
    doubleEscapeStep seen c .doubleEscapeEnd (.doubleEscaped 0) (.escaped 0)

/-- What a text does, character by character. -/
def run : State → PyText → State × List Token
  | s, [] => (s, [])
  | s, c :: cs => ((run (step s c).1 cs).1, (step s c).2 ++ (run (step s c).1 cs).2)

/-! ## Runs -/

@[simp] lemma run_nil (s : State) : run s [] = (s, []) := rfl

lemma run_append (s : State) (cs ds : PyText) :
    run s (cs ++ ds) = ((run (run s cs).1 ds).1, (run s cs).2 ++ (run (run s cs).1 ds).2) := by
  induction cs generalizing s with
  | nil => rfl
  | cons c cs ih =>
    rw [List.cons_append, run, ih]
    simp only [run, List.append_assoc]

/-- The state after a text, one step after the other. -/
def endState : State → PyText → State
  | s, [] => s
  | s, c :: cs =>
    match step s c with
    | (t, _) => endState t cs

lemma run_fst (s : State) (cs : PyText) : (run s cs).1 = endState s cs := by
  induction cs generalizing s with
  | nil => rfl
  | cons c cs ih => exact ih (step s c).1

/-- A text before another one, by where the first ends. -/
lemma run_append_of {s t : State} {cs ds : PyText} {ts : List Token} (h : run s cs = (t, ts)) :
    run s (cs ++ ds) = ((run t ds).1, ts ++ (run t ds).2) := by
  rw [run_append, h]

/-- The text of an element goes on as long as there is no `<`. -/
lemma run_text {kind : TextKind} {cs : PyText}
    (hstay : ∀ c, c.is '<' = false → step (.text kind) c = (.text kind, [.char c]))
    (h : ∀ c ∈ cs, c.is '<' = false) : run (.text kind) cs = (.text kind, chars cs) := by
  induction cs with
  | nil => rfl
  | cons c cs ih =>
    rw [List.forall_mem_cons] at h
    rw [run, hstay c h.1, ih h.2]
    rfl

lemma run_raw (name : PyText) {cs : PyText} (h : ∀ c ∈ cs, c.is '<' = false) :
    run (.text (.raw name)) cs = (.text (.raw name), chars cs) := by
  refine run_text (fun c hc => ?_) h
  simp [step, textStep, hc]

lemma run_script {cs : PyText} (h : ∀ c ∈ cs, c.is '<' = false) :
    run (.text (.script .plain)) cs = (.text (.script .plain), chars cs) := by
  refine run_text (fun c hc => ?_) h
  simp [step, textStep, hc]

end Html

end Aizim
