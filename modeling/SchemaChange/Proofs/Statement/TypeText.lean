import Mathlib.Data.List.ModifyLast
import SchemaChange.Proofs.Statement.Points

/-!
# Types written as they are

To allow or forbid NULL in a column, MySQL states its type anew, and the builder writes the type as the
catalog has it. Such a text is accepted by its characters alone, which keep it out of quotes and comments
(`isPlain_of_isTypeText`). Brackets and commas are among them, and nobody looks at how they stand: the
statement is whole if the text closes its brackets, and has one clause if there is also no comma outside
of them. Each further comma begins one more clause.

* `Builder.setNullable_restatesType`: the statement of a type that is accepted;
* `Builder.nativeType_isTypeName`: the types that the builder writes itself leave it at one clause.
-/

namespace SchemaChange

open Glyph (top)

variable {d : Dialect}

/-- The brackets of a text, wherever they stand, close each other. -/
def ClosesBrackets (text : String) : Prop :=
  openBrackets? 0 (text.toList.map some) = some 0

instance : DecidablePred ClosesBrackets := fun _ =>
  inferInstanceAs (Decidable (_ = _))

/-- The clauses of a change of a table, cut at the commas between them. The words that name the table
    stand before the first one. -/
def clauses (d : Dialect) (sql : String) : List String :=
  pieces d ',' sql

/-- A text that can be a type within a clause: it closes its brackets and has its commas within them. -/
structure IsTypeName (d : Dialect) (text : String) : Prop where
  closesBrackets : ClosesBrackets text
  comma_notMem : top ',' ∉ view d text

/-! ## Brackets -/

/-- Brackets are counted through one text and on through the other. -/
theorem openBrackets?_append {n : Nat} {s t : List (Option Char)} :
    openBrackets? n (s ++ t) = (openBrackets? n s).bind (openBrackets? · t) := by
  induction s generalizing n with
  | nil => rfl
  | cons c s ih =>
    rw [List.cons_append, openBrackets?_cons, openBrackets?_cons (s := s), Option.bind_assoc]
    exact congrArg _ (funext fun _ => ih)

/-- Of plain characters a scan sees the brackets only. -/
theorem Stage.walk?_of_isPlain {s : List Char} (h : ∀ c ∈ s, isPlain c = true) (n : Nat) :
    ready.walk? n s = (openBrackets? n (s.map some)).map (ready, ·) := by
  induction s generalizing n with
  | nil => rfl
  | cons c s ih =>
    obtain ⟨hc, hs⟩ := List.forall_mem_cons.1 h
    have hne : c ≠ '\x27' ∧ c ≠ '-' := by
      constructor <;> rintro rfl <;> cases hc
    rw [walk?, step?, if_neg hne.1, if_neg hne.2, if_pos hc, List.map_cons,
      openBrackets?_cons (s := s.map some)]
    cases openBrackets? n [some c] with
    | none => rfl
    | some m => exact ih hs m

theorem ClosesBrackets.phrase {text : String} (h : ClosesBrackets text)
    (hplain : ∀ c ∈ text.toList, isPlain c = true) : Phrase d text := by
  rw [← String.ofList_toList (s := text)]
  refine .text (B := .ready) ?_ (.inl rfl)
  rw [Stage.walk?_of_isPlain hplain, h]
  rfl

/-- Between words that close their brackets, a plain text has to close its own. -/
theorem ClosesBrackets.of_contained {s text t : String} (hs : Contained d.quoteChar s)
    (hplain : ∀ c ∈ text.toList, isPlain c = true) (ht : Contained d.quoteChar t)
    (h : Contained d.quoteChar (s ++ (text ++ t))) : ClosesBrackets text := by
  have hbalanced := h.balanced
  rw [hs.outer_append, openBrackets?_append, hs.balanced, Option.bind_some, String.toList_append,
    Place.outer_of_isPlain hplain, openBrackets?_append] at hbalanced
  obtain ⟨n, hn, hrest⟩ := Option.bind_eq_some_iff.1 hbalanced
  -- What follows leaves as many brackets open as the text does.
  have hsame := openBrackets?_add ht.balanced n
  rw [Nat.add_zero, hrest] at hsame
  rw [ClosesBrackets, hn, ← hsame]

/-! ## Clauses -/

section SplitOn

variable {α : Type} [DecidableEq α] {a : α} {xs ys : List α}

theorem splitOn_append_left (h : a ∉ xs) :
    (xs ++ ys).splitOn a = (ys.splitOn a).modifyHead (xs ++ ·) := by
  by_cases ha : a ∈ ys
  · obtain ⟨before, behind, rfl, hbefore⟩ := List.eq_append_cons_of_mem ha
    rw [← List.append_assoc, List.splitOn_append_cons_self_of_not_mem (by simp [h, hbefore]),
      List.splitOn_append_cons_self_of_not_mem hbefore]
    rfl
  · rw [List.splitOn_eq_singleton (by simp [h, ha]), List.splitOn_eq_singleton ha]
    rfl

theorem splitOn_append_right (h : a ∉ ys) :
    (xs ++ ys).splitOn a = (xs.splitOn a).modifyLast (· ++ ys) := by
  induction xs with
  | nil => rw [List.nil_append, List.splitOn_eq_singleton h]; rfl
  | cons x xs ih =>
    rw [List.cons_append, List.splitOn_cons_eq_if_modifyHead, ih, List.splitOn_cons_eq_if_modifyHead]
    split
    · exact (List.modifyLast_append_of_right_ne_nil _ [[]] _ (List.splitOn_ne_nil a xs)).symm
    · -- The first piece may be the last one too.
      obtain ⟨before, last, hpieces⟩ :=
        (List.eq_nil_or_concat (xs.splitOn a)).resolve_left (List.splitOn_ne_nil a xs)
      rw [hpieces, List.concat_eq_append, List.modifyLast_concat]
      cases before with
      | nil => rfl
      | cons first before =>
        exact (List.modifyLast_concat (· ++ ys) last ((x :: first) :: before)).symm

theorem length_splitOn (xs : List α) : (xs.splitOn a).length = xs.count a + 1 := by
  induction xs with
  | nil => rfl
  | cons x xs ih =>
    rw [List.splitOn_cons_eq_if_modifyHead, List.count_cons]
    split
    · rw [List.length_cons, ih]
    · rw [List.length_modifyHead, ih, Nat.add_zero]

end SplitOn

theorem Glyph.text_append (gs hs : List Glyph) : text (gs ++ hs) = text gs ++ text hs := by
  rw [text, List.map_append, String.ofList_append, text, text]

section Pieces

variable {c : Char} {s t : String}

/-- What is not cut goes to the first piece of what follows it. -/
theorem pieces_append_left (hs : Contained d.quoteChar s) (h : top c ∉ view d s) :
    pieces d c (s ++ t) = (pieces d c t).modifyHead (s ++ ·) := by
  rw [pieces, hs.view_append, splitOn_append_left h, pieces]
  cases (view d t).splitOn (top c) with
  | nil => rfl
  | cons piece rest =>
    rw [List.modifyHead_cons, List.map_cons, List.map_cons, List.modifyHead_cons, Glyph.text_append,
      text_view]

/-- What is not cut goes to the last piece of what stands before it. -/
theorem pieces_append_right (hs : Contained d.quoteChar s) (h : top c ∉ view d t) :
    pieces d c (s ++ t) = (pieces d c s).modifyLast (· ++ t) := by
  rw [pieces, hs.view_append, splitOn_append_right h, pieces]
  obtain ⟨before, last, hpieces⟩ := (List.eq_nil_or_concat ((view d s).splitOn (top c))).resolve_left
    (List.splitOn_ne_nil _ _)
  rw [hpieces, List.concat_eq_append, List.modifyLast_concat, List.map_append, List.map_append,
    List.map_singleton, List.map_singleton, List.modifyLast_concat, Glyph.text_append, text_view]

theorem length_pieces (d : Dialect) (c : Char) (s : String) :
    (pieces d c s).length = (view d s).count (top c) + 1 := by
  rw [pieces, List.length_map, length_splitOn]

end Pieces

/-! ## Statements -/

/-- What a type may consist of neither opens a region nor begins a comment. -/
theorem isPlain_of_isTypeText {text : String} (h : isTypeText text = true) :
    ∀ c ∈ text.toList, isPlain c = true := by
  intro c hc
  have hkind := List.all_eq_true.1 (Bool.and_eq_true_iff.1 h).2 c hc
  rw [isPlain, Bool.not_eq_true', ← Bool.not_eq_true]
  intro hmem
  simp only [List.contains_cons, List.contains_nil, Bool.or_eq_true, beq_iff_eq, Bool.or_false]
    at hmem
  rcases hmem with rfl | rfl | rfl | rfl | rfl | rfl <;> cases hkind

namespace Builder

variable {b : Builder} {table column typeName tableName columnName sql : String} {nullable : Bool}

/-- What is written before a type that is stated anew. -/
def typeLead (tableName columnName : String) : String :=
  "ALTER TABLE " ++ tableName ++ " MODIFY " ++ columnName ++ " "

/-- What is written behind it. -/
def typeEnd (nullable : Bool) : String :=
  if nullable then " NULL" else " NOT NULL"

/-- The statement states the type of a column anew. -/
structure RestatesType (b : Builder) (table column typeName : String) (nullable : Bool)
    (sql : String) : Prop where
  accepted : isTypeText typeName = true
  /-- It begins with the change of the column. If the type closes its brackets, the clauses are those of
      its text, between the words before it and behind it. -/
  alters : ∃ tableName columnName, b.ident table = .ok tableName ∧ b.ident column = .ok columnName ∧
    ["ALTER", "TABLE", tableName, "MODIFY", columnName] <+: words b.dialect sql ∧
    (ClosesBrackets typeName → clauses b.dialect sql =
      ((clauses b.dialect typeName).modifyLast (· ++ typeEnd nullable)).modifyHead
        (typeLead tableName columnName ++ ·))
  contained_iff : Contained b.dialect.quoteChar sql ↔ ClosesBrackets typeName
  /-- Only the column changes if the text can be a type. -/
  single_iff : Contained b.dialect.quoteChar sql ∧ (clauses b.dialect sql).length = 1 ↔
    IsTypeName b.dialect typeName

/-- What a statement that states a type anew consists of. -/
theorem setNullable_eq (hd : b.dialect = .mySql)
    (h : b.setNullable table column (some typeName) nullable = .ok sql) :
    isTypeText typeName = true ∧ ∃ tableName columnName,
      b.ident table = .ok tableName ∧ b.ident column = .ok columnName ∧
      sql = typeLead tableName columnName ++ (typeName ++ typeEnd nullable) := by
  obtain ⟨tableName, htable, h⟩ := bind_ok h
  obtain ⟨columnName, hcolumn, h⟩ := bind_ok h
  rw [hd] at h
  dsimp only at h
  by_cases htype : isTypeText typeName = true
  · rw [if_pos htype] at h
    cases h
    refine ⟨htype, tableName, columnName, htable, hcolumn, String.toList_injective ?_⟩
    cases nullable <;> simp [typeLead, typeEnd]
  · rw [if_neg htype] at h
    cases h

theorem typeLead_contained (htable : b.ident table = .ok tableName)
    (hcolumn : b.ident column = .ok columnName) :
    Contained b.dialect.quoteChar (typeLead tableName columnName) :=
  Takes.begins (by rfl) (ident_phrase htable) |>.clause (by rfl) (ident_phrase hcolumn)
    |>.ends (by rfl)

theorem typeLead_comma_notMem (htable : b.ident table = .ok tableName)
    (hcolumn : b.ident column = .ok columnName) :
    top ',' ∉ view b.dialect (typeLead tableName columnName) := by
  simp only [typeLead, String.append_assoc]
  exact top_notMem_word_append rfl (by decide) <|
    top_notMem_append (ident_phrase htable).contained (ident_comma_notMem htable) <|
    top_notMem_word_append rfl (by decide) <|
    top_notMem_append (ident_phrase hcolumn).contained (ident_comma_notMem hcolumn) <|
    top_notMem_of_notMem (by decide)

theorem typeLead_words (htable : b.ident table = .ok tableName)
    (hcolumn : b.ident column = .ok columnName) (rest : String) :
    words b.dialect (typeLead tableName columnName ++ rest) =
      "ALTER" :: "TABLE" :: tableName :: "MODIFY" :: columnName :: words b.dialect rest := by
  have heq : typeLead tableName columnName ++ rest =
      "ALTER TABLE " ++ tableName ++ " " ++ ("MODIFY" ++ " " ++ (columnName ++ " " ++ rest)) :=
    String.toList_injective (by simp [typeLead])
  rw [heq, words_alter htable, words_word_append rfl (by decide), ident_words hcolumn]

theorem typeEnd_contained (nullable : Bool) : Contained d.quoteChar (typeEnd nullable) := by
  cases nullable <;> exact contained_of_words rfl

theorem typeEnd_comma_notMem (nullable : Bool) : top ',' ∉ view d (typeEnd nullable) := by
  cases nullable <;> exact top_notMem_of_notMem (by decide)

/-- What MySQL is sent restates the type that was given. -/
theorem setNullable_restates (hd : b.dialect = .mySql)
    (h : b.setNullable table column (some typeName) nullable = .ok sql) :
    b.RestatesType table column typeName nullable sql := by
  obtain ⟨haccepted, tableName, columnName, htable, hcolumn, hsql⟩ := setNullable_eq hd h
  have hplain := isPlain_of_isTypeText haccepted
  have hlead := typeLead_contained htable hcolumn
  have hleadComma := typeLead_comma_notMem htable hcolumn
  have hendComma := typeEnd_comma_notMem (d := b.dialect) nullable
  have hcontained : Contained b.dialect.quoteChar sql ↔ ClosesBrackets typeName := by
    constructor
    · intro hsql'
      rw [hsql] at hsql'
      exact .of_contained hlead hplain (typeEnd_contained nullable) hsql'
    · intro hclosed
      refine setNullable_contained (fun _ text htext => ?_) h
      cases htext
      exact hclosed.phrase hplain
  refine ⟨haccepted, ⟨tableName, columnName, htable, hcolumn, ?_, fun hclosed => ?_⟩, hcontained, ?_⟩
  · rw [hsql, typeLead_words htable hcolumn]
    exact ⟨_, rfl⟩
  · have htype : Contained b.dialect.quoteChar typeName := (hclosed.phrase hplain).contained
    rw [hsql, clauses, pieces_append_left hlead hleadComma, pieces_append_right htype hendComma, clauses]
  · -- The commas that count in the statement are those of the type.
    have hlength (hclosed : ClosesBrackets typeName) :
        (clauses b.dialect sql).length = (view b.dialect typeName).count (top ',') + 1 := by
      have htype : Contained b.dialect.quoteChar typeName := (hclosed.phrase hplain).contained
      rw [clauses, length_pieces, hsql, hlead.view_append, htype.view_append, List.count_append,
        List.count_append, List.count_eq_zero.2 hleadComma, List.count_eq_zero.2 hendComma,
        Nat.zero_add, Nat.add_zero]
    rw [hcontained]
    constructor
    · rintro ⟨hclosed, hone⟩
      rw [hlength hclosed, Nat.add_eq_right, List.count_eq_zero] at hone
      exact ⟨hclosed, hone⟩
    · intro htype
      exact ⟨htype.closesBrackets, by
        rw [hlength htype.closesBrackets, List.count_eq_zero.2 htype.comma_notMem]⟩

/-! ## Native types -/

theorem isTypeText_textType (d : Dialect) (length : UInt32) : isTypeText (d.textType length) = true := by
  have hdigits : ∀ c ∈ Nat.toDigits 10 length.toNat, Text.isAlphanumeric c = true := fun _ hc =>
    Text.isAlphanumeric_of_isDigit (isDigit_of_mem_toDigits hc)
  have hopen : isTypeText (if d = .oracle then "VARCHAR2(" else "VARCHAR(") = true := by
    split <;> decide
  obtain ⟨hblank, hchars⟩ := Bool.and_eq_true_iff.1 hopen
  simp_all [isTypeText, Dialect.textType, Text.isBlankText]

/-- Every type of a dialect is the text of a type. -/
theorem nativeType?_isTypeText {type : ColumnType} {length? : Option UInt32}
    (h : d.nativeType? type length? = some typeName) : isTypeText typeName = true := by
  cases type with
  | string =>
    obtain ⟨length, -, rfl⟩ := Option.map_eq_some_iff.1 h
    exact isTypeText_textType d length
  | integer | long | boolean | timestamp | blob | clob | charArray =>
    cases d <;> cases h <;> decide

/-- Each type that a builder writes for a column can be stated anew in one clause. -/
theorem nativeType_isTypeName {column : ColumnSpec} (h : b.nativeType column = .ok typeName) :
    isTypeText typeName = true ∧ IsTypeName b.dialect typeName := by
  have hcontained := (nativeType_phrase h).contained
  have hcomma := nativeType_comma_notMem h
  obtain ⟨_, -, h⟩ := bind_ok h
  split at h
  · cases h
    have htext := nativeType?_isTypeText ‹_›
    refine ⟨htext, ?_, hcomma⟩
    have hbalanced := hcontained.balanced
    rwa [Place.outer_eq_map_of_isPlain (isPlain_of_isTypeText htext)] at hbalanced
  · cases h

/-- A type that is accepted leaves the statement at one clause exactly if it closes its brackets and has
    no comma outside of them, and the types that the builder writes itself are such. -/
theorem setNullable_restatesType (b : Builder) (hd : b.dialect = .mySql) :
    (∀ table column typeName nullable sql,
      b.setNullable table column (some typeName) nullable = .ok sql →
        b.RestatesType table column typeName nullable sql) ∧
    ∀ column typeName, b.nativeType column = .ok typeName →
      isTypeText typeName = true ∧ IsTypeName b.dialect typeName :=
  ⟨fun _ _ _ _ _ h => setNullable_restates hd h, fun _ _ h => nativeType_isTypeName h⟩

/-- A type with a comma between brackets. -/
theorem setNullable_restatesType_decimal :
    let sql := "ALTER TABLE \x60T\x60 MODIFY \x60C\x60 DECIMAL(10,2) NOT NULL"
    (quoting .mySql).dialect = .mySql ∧
      ((quoting .mySql).setNullable "T" "C" (some "DECIMAL(10,2)") false = .ok sql ∧
        (quoting .mySql).RestatesType "T" "C" "DECIMAL(10,2)" false sql) ∧
      (quoting .mySql).nativeType { name := "C", type := .string, length? := some 3 } =
        .ok "VARCHAR(3)" ∧ IsTypeName .mySql "VARCHAR(3)" :=
  ⟨rfl, ⟨rfl, (setNullable_restatesType (quoting .mySql) rfl).1 _ _ _ _ _ rfl⟩, rfl,
    ((setNullable_restatesType (quoting .mySql) rfl).2
      { name := "C", type := .string, length? := some 3 } _ rfl).2⟩

/-- With a comma outside of brackets the type changes another column, and with a bracket too many it is
    accepted although the statement is none. -/
theorem setNullable_addsClause :
    let sql := "ALTER TABLE T MODIFY C INT, MODIFY D INT NULL"
    let broken := "ALTER TABLE T MODIFY C INT) NULL"
    (Builder.mk .mySql {}).setNullable "T" "C" (some "INT, MODIFY D INT") true = .ok sql ∧
      clauses .mySql sql = ["ALTER TABLE T MODIFY C INT", " MODIFY D INT NULL"] ∧
      (Builder.mk .mySql {}).setNullable "T" "C" (some "INT)") true = .ok broken ∧
      ¬ClosesBrackets "INT)" ∧ ¬Contained '\x60' broken := by
  refine ⟨rfl, rfl, rfl, ?_, ?_⟩ <;> decide

end Builder

end SchemaChange
