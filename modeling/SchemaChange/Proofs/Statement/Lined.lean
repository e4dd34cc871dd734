import SchemaChange.Build.Columns
import SchemaChange.Proofs.Number.Shortest
import SchemaChange.Proofs.Statement.Uncommented

/-!
# Line feeds in a statement

A statement is words and parts by turns, and the words have no line feeds. Quoted names keep theirs, as no
folding takes any away or makes one, and so do texts; bare names, types, numbers, bytes and timestamps have
none. None of the parts ends in a blank, so a statement that adds a column or fills it does not either.

* `Lined`: a text that ends in no blank, and the texts that its line feeds come from;
* `Builder.addClause_lined`, `Builder.backfill_lined`: the statements of a column that is added.
-/

namespace SchemaChange

open Text (isBlank)

/-! ## Texts -/

/-- The text ends in a character that is no blank, and has a line feed in it just if one of the given
    texts has. -/
structure Lined (texts : List String) (s : String) : Prop where
  ends : ∃ c ∈ s.toList.getLast?, isBlank c = false
  breaks_iff : '\n' ∈ s.toList ↔ ∃ t ∈ texts, '\n' ∈ t.toList

namespace Lined

variable {texts texts' : List String} {s t : String} {w : List Char}

/-- A text without blanks. -/
theorem of_noBlank (hne : s.toList ≠ []) (h : ∀ c ∈ s.toList, isBlank c = false) : Lined [] s where
  ends := ⟨_, List.getLast?_eq_some_getLast hne, h _ (List.getLast_mem hne)⟩
  breaks_iff := iff_of_false (fun hmem => by cases h _ hmem) (by simp)

/-- What stands before a text does not matter for how it ends. -/
theorem ends_append (s : String) (h : ∃ c ∈ t.toList.getLast?, isBlank c = false) :
    ∃ c ∈ (s ++ t).toList.getLast?, isBlank c = false := by
  obtain ⟨c, hc, hblank⟩ := h
  refine ⟨c, ?_, hblank⟩
  rw [String.toList_append, List.getLast?_append, Option.mem_def.1 hc]
  rfl

theorem append (h : Lined texts s) (h' : Lined texts' t) : Lined (texts ++ texts') (s ++ t) where
  ends := ends_append s h'.ends
  breaks_iff := by
    rw [String.toList_append, List.mem_append, h.breaks_iff, h'.breaks_iff]
    simp only [List.mem_append, or_and_right, exists_or]

/-- A text begins with words. -/
theorem begins (hw : '\n' ∉ w) (h : Lined texts s) : Lined texts (String.ofList w ++ s) where
  ends := ends_append _ h.ends
  breaks_iff := by
    rw [String.toList_append, List.mem_append, String.toList_ofList, or_iff_right hw, h.breaks_iff]

/-- A text goes on with words and another one. -/
theorem clause (h : Lined texts s) (hw : '\n' ∉ w) (h' : Lined texts' t) :
    Lined (texts ++ texts') (s ++ String.ofList w ++ t) := by
  rw [String.append_assoc]
  exact h.append (h'.begins hw)

/-- A text ends with words. -/
theorem finish (h : Lined texts s) (hw : Lined [] t) : Lined texts (s ++ t) := by
  rw [← List.append_nil texts]
  exact h.append hw

theorem congr (h : Lined texts s)
    (hbreaks : (∃ t ∈ texts, '\n' ∈ t.toList) ↔ ∃ t ∈ texts', '\n' ∈ t.toList) : Lined texts' s :=
  ⟨h.ends, h.breaks_iff.trans hbreaks⟩

/-- A text between quotes. -/
theorem quoted {q : Char} (hq : isBlank q = false) (s : String) :
    Lined [s] (String.ofList (Text.quoted q s.toList)) where
  ends := by
    refine ⟨q, ?_, hq⟩
    rw [String.toList_ofList, Text.quoted, ← List.cons_append, List.getLast?_concat]
    rfl
  breaks_iff := by
    have hne : '\n' ≠ q := by
      rintro rfl
      cases hq
    have hdoubled (s : List Char) : '\n' ∈ Text.doubled q s ↔ '\n' ∈ s := by
      induction s with
      | nil => exact Iff.rfl
      | cons c s ih =>
        rw [Text.doubled]
        split <;> simp_all
    rw [String.toList_ofList, Text.quoted]
    simp [hne, hdoubled]

/-- A list of texts with words between them. -/
theorem intercalate {lists : List (List String)} {xs : List String} (hw : '\n' ∉ w) (hne : xs ≠ [])
    (h : List.Forall₂ Lined lists xs) :
    Lined lists.flatten (String.intercalate (String.ofList w) xs) := by
  induction h with
  | nil => exact absurd rfl hne
  | @cons names x lists xs hx hxs ih =>
    cases hxs with
    | nil =>
      rw [String.intercalate_singleton, List.flatten_singleton]
      exact hx
    | cons hy hys =>
      rw [String.intercalate_cons_cons, List.flatten_cons]
      exact hx.clause hw (ih (List.cons_ne_nil _ _))

end Lined

/-! ## Parts of statements -/

theorem isBlank_of_isNumberChar {c : Char} (h : isNumberChar c = true) : isBlank c = false :=
  Text.isBlank_of (by decide +kernel) h

theorem isBlank_of_isNameChar {c : Char} (h : isNameChar c = true) : isBlank c = false :=
  Text.isBlank_of (by decide +kernel) h

namespace Lined

variable {s : String}

theorem number (hne : s.toList ≠ []) (h : ∀ c ∈ s.toList, isNumberChar c = true) : Lined [] s :=
  of_noBlank hne fun c hc => isBlank_of_isNumberChar (h c hc)

theorem textLiteral (s : String) : Lined [s] (Dialect.textLiteral s) :=
  quoted rfl s

/-- A text literal of a text without line feeds. -/
theorem textLiteral_of_notMem (h : '\n' ∉ s.toList) : Lined [] (Dialect.textLiteral s) :=
  (textLiteral s).congr (iff_of_false (by simpa using h) (by simp))

end Lined

/-- A word, which has no blanks. -/
theorem Lined.word {s : String} (hne : s.toList ≠ []) (hs : s.toList.all (!isBlank ·) = true) :
    Lined [] s :=
  .of_noBlank hne fun c hc => by simpa using List.all_eq_true.1 hs c hc

theorem Dialect.bytesLiteral_lined (d : Dialect) (bs : List UInt8) : Lined [] (d.bytesLiteral bs) := by
  have hdigits : '\n' ∉ (String.ofList (Text.hexPairs bs)).toList := by
    rw [String.toList_ofList]
    exact fun h => absurd ((Text.hexPairs_spec bs).2 _ h) (by decide)
  rw [bytesLiteral_eq]
  extract_lets hex
  have hhex : Lined [] hex := .textLiteral_of_notMem hdigits
  clear_value hex
  have hclose : Lined [] ")" := .word (by decide) rfl
  split
  · exact .begins (w := "HEXTORAW".toList) (by decide)
      (.finish (.begins (w := ['(']) (by decide) hhex) hclose)
  · have hencoding : Lined [] ", 'hex'" :=
      .begins (w := ", ".toList) (by decide) (.textLiteral_of_notMem (s := "hex") (by decide))
    exact .begins (w := "decode".toList) (by decide)
      (.finish (.begins (w := ['(']) (by decide) (hhex.append hencoding)) hclose)
  all_goals exact .begins (w := ['X']) (by decide) hhex

theorem Dialect.timestampLiteral_lined (d : Dialect) (t : Timestamp) :
    Lined [] (d.timestampLiteral t) := by
  have htext : Lined [] (textLiteral t.text) := .textLiteral_of_notMem (t.not_mem_text rfl (by decide))
  have hclose : Lined [] ")" := .word (by decide) rfl
  rw [timestampLiteral_eq]
  split
  · exact .begins (w := "TIMESTAMP".toList) (by decide)
      (.finish (.begins (w := ['(']) (by decide) htext) hclose)
  · exact htext
  all_goals exact .begins (w := "TIMESTAMP ".toList) (by decide) htext

/-- The texts that a value is written with as they are. -/
def Value.writtenTexts : Value → List String
  | text s => [s]
  | _ => []

namespace Builder

variable {b : Builder} {name written sql table : String} {value : Value} {spec : ColumnSpec}

/-- A literal breaks just if it is that of a text that does. -/
theorem literal_lined (h : b.literal value = .ok written) : Lined value.writtenTexts written := by
  unfold literal at h
  split at h
  · rename_i hliteral
    cases h
    cases value with
    | null =>
      cases hliteral
      exact .word (by decide) rfl
    | bool v =>
      cases hliteral
      unfold Dialect.boolLiteral
      split <;> split <;> exact .number (by decide) (List.all_eq_true.1 rfl)
    | int32 n | int64 n =>
      cases hliteral
      obtain ⟨c, s, htext, -⟩ := Text.exists_intText n.toInt
      exact .number (htext ▸ List.cons_ne_nil c s) (Value.isNumberChar_intText _)
    | float64 x =>
      rw [Dialect.literal?] at hliteral
      split at hliteral
      · cases hliteral
        exact .number x.text_ne_nil x.isNumberChar_text
      · cases hliteral
    | decimal text =>
      rw [Dialect.literal?, Dialect.decimalLiteral?] at hliteral
      split at hliteral
      · rename_i hread
        cases hliteral
        have hne : Text.trim text.toList ≠ [] := by
          intro hnil
          rw [hnil] at hread
          cases hread
        refine .number ?_ ?_ <;> rw [String.toList_ofList]
        · exact hne
        · exact Binary64.isNumberChar_of_read? hread
      · cases hliteral
    | text v =>
      cases hliteral
      exact .textLiteral v
    | bytes bs =>
      cases hliteral
      exact b.dialect.bytesLiteral_lined bs
    | timestamp t =>
      cases hliteral
      exact b.dialect.timestampLiteral_lined t
  · cases h

/-- A default is written after a text, if there is one. -/
theorem defaultClause_lined {texts : List String} {default? : Option Value} {s : String}
    (hs : Lined texts s) (h : b.defaultClause default? = .ok written) :
    Lined (texts ++ default?.toList.flatMap Value.writtenTexts) (s ++ written) := by
  cases default? with
  | none =>
    cases h
    rw [String.append_empty]
    simpa using hs
  | some value =>
    obtain ⟨text, htext, h⟩ := bind_ok h
    cases h
    have hlined := hs.clause (w := " DEFAULT ".toList) (by decide) (literal_lined htext)
    rw [String.append_assoc] at hlined
    simpa using hlined

/-- No type has a blank in it. -/
theorem nativeType_lined (h : b.nativeType spec = .ok written) : Lined [] written := by
  obtain ⟨_, -, h⟩ := bind_ok h
  split at h
  · rename_i htype
    cases h
    cases hkind : spec.type with
    | string =>
      rw [hkind] at htype
      obtain ⟨n, -, rfl⟩ := Option.map_eq_some_iff.1 htype
      have hopen : Lined [] (if b.dialect = .oracle then "VARCHAR2(" else "VARCHAR(") := by
        split <;> exact .word (by decide) rfl
      have hlength : Lined [] n.toNat.repr := by
        obtain ⟨c, s, htext, -⟩ := Text.exists_repr n.toNat
        exact .number (htext ▸ List.cons_ne_nil c s) (isNumberChar_repr _)
      exact (hopen.append hlength).append (.word (by decide) rfl)
    | integer | long | boolean | timestamp | blob | clob | charArray =>
      rw [hkind] at htype
      cases hd : b.dialect <;> rw [hd] at htype <;> cases htype <;> exact .word (by decide) rfl
  · cases h

/-- A quoted name keeps its line feeds, and a bare one has none. -/
theorem ident_lined (h : b.ident name = .ok written) : Lined [name] written := by
  cases hquoted : b.options.quoted with
  | true =>
    have hquote : isBlank b.dialect.quoteChar = false := by cases b.dialect <;> rfl
    have hne : nameParts name ≠ [] := by simp [nameParts]
    have hparts : (∃ part ∈ nameParts name, '\n' ∈ part.toList) ↔ '\n' ∈ name.toList := by
      have hpoint : '\n' ≠ '.' := by decide
      rw [← Text.exists_mem_splitOn_iff hpoint]
      simp [nameParts]
    rw [ident_eq_intercalate hquoted h]
    have hlined : List.Forall₂ Lined ((nameParts name).map ([b.caseRule.apply ·]))
        ((nameParts name).map fun part =>
          String.ofList (Text.quoted b.dialect.quoteChar (b.caseRule.apply part).toList)) :=
      List.forall₂_map_left_iff.2 <| List.forall₂_map_right_iff.2 <|
        List.forall₂_same.2 fun _ _ => .quoted hquote _
    refine (Lined.intercalate (w := ['.']) (by decide) (by simpa using hne) hlined).congr ?_
    have hfold (part : String) : '\n' ∈ (b.caseRule.apply part).toList ↔ '\n' ∈ part.toList :=
      b.caseRule.mem_apply_iff (by decide) (by decide)
    rw [← List.flatMap_def]
    simpa [hfold] using hparts
  | false =>
    obtain ⟨hparts, rfl⟩ := (ident_of_bare hquoted).1 h
    have hblank : ∀ c ∈ written.toList, isBlank c = false := fun c hc => by
      rcases isNameChar_of_bareParts hparts c hc with hname | rfl
      · exact isBlank_of_isNameChar hname
      · rfl
    have hne : written.toList ≠ [] := by
      intro hnil
      have hbare := hparts "" (by simp [nameParts, hnil])
      cases hbare
    -- A line feed is a blank.
    refine (Lined.of_noBlank hne hblank).congr (iff_of_false (by simp) ?_)
    rintro ⟨t, ht, hnewline⟩
    rw [List.mem_singleton.1 ht] at hnewline
    cases hblank _ hnewline

theorem columnDefinition_lined (h : b.columnDefinition spec = .ok written) :
    Lined (spec.name :: spec.default?.toList.flatMap Value.writtenTexts) written := by
  obtain ⟨name, hname, h⟩ := bind_ok h
  obtain ⟨typeName, htype, h⟩ := bind_ok h
  obtain ⟨default, hdefault, h⟩ := bind_ok h
  cases h
  have hcolumn := (ident_lined hname).clause (w := [' ']) (by decide) (nativeType_lined htype)
  have hdefined := defaultClause_lined hcolumn hdefault
  split
  · rw [String.append_empty]
    exact hdefined
  · exact hdefined.finish
      (.begins (w := " NOT ".toList) (by decide) (.word (s := "NULL") (by decide) rfl))

theorem addClause_lined (h : b.addClause table spec = .ok sql) :
    Lined (table :: spec.name :: spec.default?.toList.flatMap Value.writtenTexts) sql := by
  obtain ⟨tableName, htable, h⟩ := bind_ok h
  obtain ⟨definition, hdefinition, h⟩ := bind_ok h
  cases h
  have hkeyword : Lined [] b.addKeyword := by
    unfold addKeyword
    split
    · exact .word (by decide) rfl
    · exact .begins (w := "ADD ".toList) (by decide) (.word (s := "COLUMN") (by decide) rfl)
  exact Lined.begins (w := "ALTER TABLE ".toList) (by decide) (ident_lined htable)
    |>.clause (w := [' ']) (by decide) hkeyword
    |>.clause (w := [' ']) (by decide) (columnDefinition_lined hdefinition)

theorem backfill_lined {column : String} (h : b.backfill table column value = .ok sql) :
    Lined (table :: column :: value.writtenTexts) sql := by
  obtain ⟨tableName, htable, h⟩ := bind_ok h
  obtain ⟨columnName, hcolumn, h⟩ := bind_ok h
  obtain ⟨literal, hliteral, h⟩ := bind_ok h
  cases h
  exact Lined.begins (w := "UPDATE ".toList) (by decide) (ident_lined htable)
    |>.clause (w := " SET ".toList) (by decide) (ident_lined hcolumn)
    |>.clause (w := " = ".toList) (by decide) (literal_lined hliteral)

end Builder

end SchemaChange
