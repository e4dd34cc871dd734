import SchemaChange.Proofs.Script.Splitting
import SchemaChange.Proofs.Statement.Lined

/-!
# Columns that are added by a script

A column is added by one statement, and by a second one if it has a default. Written as a script and split
again they are the same statements, whatever stands in quotes: a semicolon is looked for at the end of a line
only, and a comment at its start. But a line feed in quotes ends a line too, so where one is written, other
statements come back.

* `Script.split_addColumn_iff`: when the statements come back;
* `Script.split_addColumn_lines`: a default on two lines, which comes back on one.
-/

namespace SchemaChange

/-- The texts that a column is added with: the names, and a default that is a text. -/
def ColumnSpec.addedTexts (table : String) (column : ColumnSpec) : List String :=
  table :: column.name :: column.default?.toList.flatMap Value.writtenTexts

theorem Value.mem_writtenTexts {v : Value} {s : String} : s ∈ v.writtenTexts ↔ v = .text s := by
  cases v <;> simp [writtenTexts, eq_comm]

namespace Script

variable {b : Builder} {table sql : String} {column : ColumnSpec} {batch : Batch} {texts : List String}

/-- A statement that begins with a letter is carried by a script unless it has a line feed in it. -/
theorem wellFormed_iff (h : Lined texts sql) (hletter : ∃ c ∈ sql.toList.head?, c.isAlpha = true) :
    WellFormed sql.toList ↔ ∀ t ∈ texts, '\n' ∉ t.toList := by
  obtain ⟨c, hc, hletter⟩ := hletter
  obtain ⟨d, hd, hblank⟩ := h.ends
  have hbreaks : (∀ t ∈ texts, '\n' ∉ t.toList) ↔ '\n' ∉ sql.toList := by
    rw [h.breaks_iff]
    simp
  rw [hbreaks]
  refine ⟨WellFormed.oneLine, fun hline => ⟨?_, ?_, hline, ?_⟩⟩
  · intro hnil
    rw [hnil] at hc
    cases hc
  · refine Text.trim_eq_self_iff.2 ⟨fun c' hc' => ?_, fun d' hd' => ?_⟩
    · rw [Option.mem_unique hc' hc]
      exact Text.isBlank_of (by decide) hletter
    · rwa [Option.mem_unique hd' hd]
  · -- A comment begins with signs, and the statement with a letter.
    intro hcomment
    have hsign {s : List Char} (h : s <+: sql.toList) (hs : s.head?.any Char.isAlpha = false) :
        s = [] := by
      cases s with
      | nil => rfl
      | cons a s =>
        obtain ⟨t, ht⟩ := h
        rw [← ht, List.cons_append, List.head?_cons, Option.mem_some_iff] at hc
        rw [List.head?_cons, Option.any_some, hc, hletter] at hs
        cases hs
    rcases hcomment with hcomment | hcomment <;> cases hsign hcomment rfl

/-- The statements that add a column begin with a letter, and break where one of the given texts does. -/
theorem addColumn_lined (h : b.addColumn table column = .ok batch) :
    ∀ sql ∈ batch.statements,
      Lined (column.addedTexts table) sql ∧ ∃ c ∈ sql.toList.head?, c.isAlpha = true := by
  have hadd (spec : ColumnSpec) {sql : String} (h : b.addClause table spec = .ok sql) :
      Lined (spec.addedTexts table) sql ∧ ∃ c ∈ sql.toList.head?, c.isAlpha = true := by
    refine ⟨Builder.addClause_lined h, 'A', ?_, rfl⟩
    obtain ⟨tableName, -, h⟩ := Builder.bind_ok h
    obtain ⟨definition, -, h⟩ := Builder.bind_ok h
    cases h
    simp
  rw [Builder.addColumn] at h
  split at h
  · obtain ⟨add, hclause, h⟩ := Builder.bind_ok h
    cases h
    exact List.forall_mem_singleton.2 (hadd column hclause)
  · rename_i value hdefault
    obtain ⟨add, hclause, h⟩ := Builder.bind_ok h
    obtain ⟨fill, hfill, h⟩ := Builder.bind_ok h
    cases h
    -- Until the rows have the default the column may be NULL, which does not change its texts.
    refine List.forall_mem_cons.2 ⟨hadd { column with nullable := true } hclause,
      List.forall_mem_singleton.2 ⟨?_, 'U', ?_, rfl⟩⟩
    · have hlined := Builder.backfill_lined hfill
      simpa [ColumnSpec.addedTexts, hdefault] using hlined
    · obtain ⟨tableName, -, h⟩ := Builder.bind_ok hfill
      obtain ⟨columnName, -, h⟩ := Builder.bind_ok h
      obtain ⟨literal, -, h⟩ := Builder.bind_ok h
      cases h
      simp

theorem addColumn_ne_nil (h : b.addColumn table column = .ok batch) : batch.statements ≠ [] := by
  rw [Builder.addColumn] at h
  split at h
  · obtain ⟨add, -, h⟩ := Builder.bind_ok h
    cases h
    exact List.cons_ne_nil _ _
  · obtain ⟨add, -, h⟩ := Builder.bind_ok h
    obtain ⟨fill, -, h⟩ := Builder.bind_ok h
    cases h
    exact List.cons_ne_nil _ _

/-- The statements that add a column come back from their script if and only if there is no line feed in
    the name of the table, in that of the column, and in a default that is a text. -/
theorem split_addColumn_iff (h : b.addColumn table column = .ok batch) :
    split batch.script = batch.statements ↔
      '\n' ∉ table.toList ∧ '\n' ∉ column.name.toList ∧
        ∀ s, column.default? = some (.text s) → '\n' ∉ s.toList := by
  have htexts : (∀ t ∈ column.addedTexts table, '\n' ∉ t.toList) ↔
      '\n' ∉ table.toList ∧ '\n' ∉ column.name.toList ∧
        ∀ s, column.default? = some (.text s) → '\n' ∉ s.toList := by
    simp [ColumnSpec.addedTexts, Value.mem_writtenTexts]
  have hlined := addColumn_lined h
  rw [← htexts]
  constructor
  · intro hsplit
    obtain ⟨sql, hsql⟩ := List.exists_mem_of_ne_nil _ (addColumn_ne_nil h)
    obtain ⟨hlines, hletter⟩ := hlined sql hsql
    exact (wellFormed_iff hlines hletter).1 (split_wellFormed (hsplit ▸ hsql))
  · intro hnone
    refine split_script_of_wellFormed fun sql hsql => ?_
    obtain ⟨hlines, hletter⟩ := hlined sql hsql
    exact (wellFormed_iff hlines hletter).2 hnone

/-- A column with comments in its name and statements in its default. -/
def strangeColumn : ColumnSpec where
  name := "-- c;"
  type := .string
  length? := some 9
  default? := some (.text "a;\r-- b;")

/-- What looks like the end of a statement or like a comment comes back as it is. -/
theorem split_addColumn_strange :
    let b : Builder := ⟨.generic, { quoted := true }⟩
    ∃ batch, b.addColumn "// t;" strangeColumn = .ok batch ∧ split batch.script = batch.statements := by
  intro b
  obtain ⟨batch, hbatch⟩ : ∃ batch, b.addColumn "// t;" strangeColumn = .ok batch := ⟨_, rfl⟩
  refine ⟨batch, hbatch, (split_addColumn_iff hbatch).2 ⟨by decide, by decide, ?_⟩⟩
  rintro s ⟨⟩
  decide

/-- A column whose default has two lines. -/
def brokenColumn : ColumnSpec where
  name := "C"
  type := .string
  length? := some 9
  default? := some (.text "a\nb")

/-- The default is on one line when it comes back. -/
theorem split_addColumn_lines :
    let b : Builder := ⟨.generic, {}⟩
    ∃ batch, b.addColumn "T" brokenColumn = .ok batch ∧
      batch.statements =
        ["ALTER TABLE T ADD COLUMN C VARCHAR(9) DEFAULT 'a\nb'", "UPDATE T SET C = 'a\nb'"] ∧
      split batch.script =
        ["ALTER TABLE T ADD COLUMN C VARCHAR(9) DEFAULT 'a b'", "UPDATE T SET C = 'a b'"] := by
  refine ⟨_, rfl, by decide, by decide⟩

end Script
end SchemaChange
