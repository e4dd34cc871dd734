import SchemaChange.Text.Basic

/-!
# Scripts

A script is split into statements line by line: a statement ends at a line that ends with a
semicolon. Lines are taken without the blanks around them, blank lines and lines that begin with
`--` or `//` are skipped, and the lines of one statement are joined by spaces. What follows the last
semicolon is a statement too.
-/

namespace SchemaChange.Script

/-- Whether a trimmed line is skipped: it is empty or a comment. -/
def isSkipped (line : List Char) : Bool :=
  line.isEmpty || "--".toList.isPrefixOf line || "//".toList.isPrefixOf line

/-- The statement in a text: its text without surrounding blanks, and none if nothing is left. -/
def statementOf (text : List Char) : List (List Char) :=
  let s := Text.trim text
  if s.isEmpty then [] else [s]

/-- The statements of the lines to come, given the text of the statement that is under way. -/
def splitLines (current : List Char) : List (List Char) → List (List Char)
  | [] => statementOf current
  | line :: lines =>
    let line := Text.trim line
    if isSkipped line then splitLines current lines
    else match Text.stripLast? ';' line with
      | some body => statementOf (current ++ body) ++ splitLines [] lines
      | none => splitLines (current ++ line ++ [' ']) lines

/-- The statements of a script, in order. -/
def split (script : String) : List String :=
  (splitLines [] (script.toList.splitOn '\n')).map String.ofList

end SchemaChange.Script
