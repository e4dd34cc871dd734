import SchemaChange.Text.Casing.Table
import SchemaChange.Text.Property

/-!
# Capital and small letters

The full case mappings of Unicode that depend on no language. A character may become several
(`ß` becomes `SS`), and one mapping looks at its surroundings: a capital sigma at the end of a word
becomes a final sigma.
-/

namespace SchemaChange.Text

/-- Maps one character: ASCII by a function of its own, the others by expansions and runs. -/
def mapCase (ascii : Char → Char) (expansions : List (Nat × List Nat)) (runs : List CaseRun)
    (c : Char) : List Char :=
  if c.toNat < 128 then [ascii c]
  else match expansions.lookup c.toNat with
    | some codes => codes.map Char.ofNat
    | none => match runs.find? (·.holds c.toNat) with
      | some r => [Char.ofNat (c.toNat + r.shift).toNat]
      | none => [c]

/-- The capital form of one character. -/
def capital : Char → List Char :=
  mapCase Char.toUpper capitalExpansions capitalRuns

/-- The small form of one character, its surroundings apart. -/
def small : Char → List Char :=
  mapCase Char.toLower smallExpansions smallRuns

/-- The text in capitals. -/
def toCapitals (s : List Char) : List Char :=
  s.flatMap capital

/-- Whether the first character that is not looked through is a cased letter. -/
def meetsCased (s : List Char) : Bool :=
  match s.dropWhile isCaseIgnorable with
  | [] => false
  | c :: _ => isCased c

/-- Whether a letter between `before` (read backwards) and `after` ends a word. -/
def endsWord (before after : List Char) : Bool :=
  meetsCased before && !meetsCased after

/-- The text in small letters, given what precedes it, read backwards. -/
def toSmallAfter (before : List Char) : List Char → List Char
  | [] => []
  | c :: after =>
    (if c = 'Σ' then [if endsWord before after then 'ς' else 'σ'] else small c) ++
      toSmallAfter (c :: before) after

/-- The text in small letters. -/
def toSmall (s : List Char) : List Char :=
  toSmallAfter [] s

end SchemaChange.Text
