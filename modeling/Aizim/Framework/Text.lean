import Mathlib.Data.String.Basic
import Mathlib.Tactic.Lemma

/-!
# Texts as the program reads them

Character classes, whitespace trimming and the few regular expressions that validators match, on
lists of characters.

The word characters of a regular expression are the alphanumeric characters of the interpreter's
Unicode database and the underscore.  That database grows with each version of the interpreter,
so it is a class here, `CharacterDatabase`, with the one fact that all versions share: on ASCII it
is the usual letters and digits.  `asciiDatabase` is the least such database, used to evaluate the
model on texts without other alphanumeric characters.
-/

namespace Aizim

/-! ## Character classes -/

/-- The interpreter's table of alphanumeric characters (`str.isalnum` on one character). -/
class CharacterDatabase where
  isAlnum : Char → Bool
  isAlnum_ascii : ∀ c : Char, c.toNat < 128 → isAlnum c = c.isAlphanum

/-- The database without alphanumeric characters beyond ASCII. -/
@[reducible] def asciiDatabase : CharacterDatabase where
  isAlnum c := c.toNat < 128 && c.isAlphanum
  isAlnum_ascii c h := by simp [h]

/-- `\w` of a regular expression. -/
def isWordChar [CharacterDatabase] (c : Char) : Bool :=
  CharacterDatabase.isAlnum c || c == '_'

/-- Whitespace, as `str.isspace` and `\s` have it. -/
def isSpace (c : Char) : Bool :=
  let n := c.toNat
  (9 ≤ n && n ≤ 13) || (28 ≤ n && n ≤ 32) || n == 0x85 || n == 0xa0 || n == 0x1680 ||
    (0x2000 ≤ n && n ≤ 0x200a) || n == 0x2028 || n == 0x2029 || n == 0x202f || n == 0x205f ||
    n == 0x3000

/-- `[A-Za-z]` -/
def isAsciiLetter (c : Char) : Bool := ('a' ≤ c && c ≤ 'z') || ('A' ≤ c && c ≤ 'Z')

/-- `[0-9]` -/
def isAsciiDigit (c : Char) : Bool := '0' ≤ c && c ≤ '9'

/-- `[A-Za-z_]` -/
def isIdentifierStart (c : Char) : Bool := isAsciiLetter c || c == '_'

/-- `[A-Za-z0-9_]` -/
def isIdentifierRest (c : Char) : Bool := isIdentifierStart c || isAsciiDigit c

/-! ## Patterns -/

/-- `value.strip()` is empty. -/
def isBlank (value : String) : Bool := value.toList.all isSpace

/-- `value.strip()` -/
def strip (value : String) : String :=
  String.ofList ((value.toList.dropWhile isSpace).reverse.dropWhile isSpace).reverse

/-- `value.removeprefix(part)` of a value that starts with it (`value.startswith(part)`). -/
def removePrefix? (part value : String) : Option String :=
  if part.toList.isPrefixOf value.toList then
    some (String.ofList (value.toList.drop part.toList.length))
  else none

/-- `[0-9a-f]` -/
def isLowerHex (c : Char) : Bool := isAsciiDigit c || ('a' ≤ c && c ≤ 'f')

/-- `re.fullmatch(r"[0-9a-f]{64}", value)` -/
def isSha256 (value : String) : Bool :=
  value.toList.length == 64 && value.toList.all isLowerHex

/-- The whole text is one character of the first class and at most `limit` of the second. -/
def fullmatchIdentifier (first rest : Char → Bool) (limit : ℕ) (value : String) : Bool :=
  match value.toList with
  | [] => false
  | c :: cs => first c && cs.length ≤ limit && cs.all rest

/-- `[A-Za-z_][A-Za-z0-9_]*(?:\.[A-Za-z_][A-Za-z0-9_]*)*`, from inside a component or at its
start. -/
def fullmatchModule (atStart : Bool) : List Char → Bool
  | [] => !atStart
  | c :: cs =>
    if atStart then isIdentifierStart c && fullmatchModule false cs
    else if c == '.' then fullmatchModule true cs
    else isIdentifierRest c && fullmatchModule false cs

/-- The token stands here as a whole word, after the character before it. -/
def wordAt [CharacterDatabase] (before : Option Char) (token cs : List Char) : Bool :=
  token.isPrefixOf cs && !before.any isWordChar && !(cs.drop token.length).head?.any isWordChar

/-- `re.search(rf"\b{token}\b", ...)` on the text that follows a character. -/
def searchWord [CharacterDatabase] (token : List Char) : Option Char → List Char → Bool
  | _, [] => false
  | before, c :: cs => wordAt before token (c :: cs) || searchWord token (some c) cs

/-- Some of the tokens occurs in the text as a whole word. -/
def hasWord [CharacterDatabase] (tokens : List String) (value : String) : Bool :=
  tokens.any fun token => searchWord token.toList none value.toList

/-- `len(re.findall(rf"\b{token}\b", ...))` on the text that follows a character. -/
def countWord [CharacterDatabase] (token : List Char) : Option Char → List Char → ℕ
  | _, [] => 0
  | before, c :: cs =>
    (if wordAt before token (c :: cs) then 1 else 0) + countWord token (some c) cs

/-- `re.search(rf"(?m)^\s*...", ...)`: after some line start and the whitespace that follows it,
the text satisfies the test. -/
def searchLine (test : List Char → Bool) : (atStart : Bool) → List Char → Bool
  | _, [] => false
  | atStart, c :: cs =>
    (atStart && test ((c :: cs).dropWhile isSpace)) || searchLine test (c == '\n') cs

/-- `re.sub(r"\s+", " ", ...)`; `inSpace` says that the last character was whitespace. -/
def collapseSpaces : (inSpace : Bool) → List Char → List Char
  | _, [] => []
  | inSpace, c :: cs =>
    if isSpace c then (if inSpace then [] else [' ']) ++ collapseSpaces true cs
    else c :: collapseSpaces false cs

/-- The first text occurs in the second (`part in value`). -/
def hasInfix (part : List Char) : List Char → Bool
  | [] => part.isEmpty
  | c :: cs => part.isPrefixOf (c :: cs) || hasInfix part cs

section

attribute [local instance] asciiDatabase

example : hasWord ["sorry"] "sorryAx, by sorry" = true := by decide

end

end Aizim
