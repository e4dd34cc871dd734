import SchemaChange.Text.Casing

/-!
# How names are folded

A database stores a name that is not quoted in capitals, in small letters or as it is written. The
rule covers all of Unicode, not only ASCII.
-/

namespace SchemaChange

/-- How a database folds names that are not quoted. -/
inductive CaseRule where
  | upper | lower | verbatim
  deriving DecidableEq, Repr

namespace CaseRule

/-- The characters of a name as the database stores them. -/
def fold : CaseRule → List Char → List Char
  | upper, s => Text.toCapitals s
  | lower, s => Text.toSmall s
  | verbatim, s => s

/-- A name as the database stores it. -/
def apply (rule : CaseRule) (name : String) : String :=
  String.ofList (rule.fold name.toList)

/-- The name of the rule. -/
def name : CaseRule → String
  | upper => "Upper"
  | lower => "Lower"
  | verbatim => "Verbatim"

/-- All rules. -/
def all : List CaseRule :=
  [upper, lower, verbatim]

end CaseRule

end SchemaChange
