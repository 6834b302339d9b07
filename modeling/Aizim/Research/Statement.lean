import Aizim.Framework.Text
import Aizim.Framework.Utf8

/-!
# Statements

The document that a worker starts from: the statement of a task as a theorem without a proof.
-/

namespace Aizim.Research

/-- `ResearchError`, by its code. -/
abbrev ResearchError := String

/-- The statement starts with a binder (`statement.startswith(("(", "{", "["))`). -/
def startsWithBinder (statement : String) : Bool :=
  statement.toList.head?.any fun c => c == '(' || c == '{' || c == '['

/-- The text of `statement_source`. -/
def statementText (name statement : String) (imports : List String) : String :=
  let separator := if startsWithBinder statement then "" else ": "
  String.join (imports.map fun module => "import " ++ module ++ "\n") ++
    ("\ntheorem " ++ name ++ " " ++ separator ++ statement ++ " := by\n  sorry\n")

/-- `statement_source` -/
def statementSource (name statement : String) (imports : List String) :
    Except ResearchError Bytes :=
  if hasInfix ":=".toList statement.toList then .error "STATEMENT_MUST_NOT_CONTAIN_A_PROOF"
  else .ok (encode (statementText name statement imports))

end Aizim.Research
