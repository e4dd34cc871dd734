import SchemaChange.Catalog
import SchemaChange.Proofs.Statement.TypeText

/-!
# What a change of a column leaves as it is

A statement on a column is read from its words (`Builder.Alters`). In most dialects it says whether NULL is
allowed and nothing else, and all else is kept. MySQL has the column defined anew, and what the definition
does not say is lost: without DEFAULT the column has no default any more.

* `Builder.setNullable_alters`: what allows or forbids NULL states the type on MySQL, and no default;
* `Builder.changeColumnInPlace_alters`: what changes the type there states the default with it.
-/

namespace SchemaChange

open Glyph (top)

/-- Whether a word begins something else than the type of a column. -/
def isAttributeWord (word : String) : Bool :=
  ["DEFAULT", "NOT", "NULL"].any (Text.sameName word)

/-- What a catalog reports of a column and a statement can change. -/
structure ColumnAttributes where
  declared : String
  nullable : Bool := true
  default? : Option String := none
  deriving DecidableEq

/-- The attributes of a column that a catalog reports. -/
def ColumnInfo.attributes (info : ColumnInfo) : ColumnAttributes :=
  ⟨info.declared, info.nullable, info.default?⟩

namespace ColumnAttributes

/-- The attributes with those that words state one after the other. A default is the word behind DEFAULT,
    even if that is NULL, and what follows it up to the next attribute. -/
def stating : ColumnAttributes → List String → ColumnAttributes
  | a, word :: next :: rest =>
    if Text.sameName word "DEFAULT" then
      let default := " ".intercalate (next :: rest.takeWhile (!isAttributeWord ·))
      stating { a with default? := some default } rest
    else if Text.sameName word "NOT" && Text.sameName next "NULL" then
      stating { a with nullable := false } rest
    else stating a (next :: rest)
  | a, _ => a

/-- The attributes that the words of a definition state, its type before the others. -/
def ofWords (ws : List String) : ColumnAttributes :=
  stating { declared := " ".intercalate (ws.takeWhile (!isAttributeWord ·)) }
    (ws.dropWhile (!isAttributeWord ·))

end ColumnAttributes

/-- What a statement does to a column. -/
inductive Alteration where
  /-- NULL is allowed or forbidden, and nothing else is said. -/
  | nullability (nullable : Bool)
  /-- The column is defined anew. -/
  | definition (stated : ColumnAttributes)
  deriving DecidableEq

/-- The words that allow or forbid NULL. -/
def nullabilityWords (d : Dialect) (nullable : Bool) : List String :=
  match d with
  | .postgres | .generic => [if nullable then "DROP" else "SET", "NOT", "NULL"]
  | .oracle | .mySql | .derby => if nullable then ["NULL"] else ["NOT", "NULL"]

namespace Alteration

/-- The column after it was altered. Of the definition that it had before, a new one keeps nothing. -/
def apply : Alteration → ColumnAttributes → ColumnAttributes
  | nullability nullable, a => { a with nullable }
  | definition stated, _ => stated

/-- What is done to a column by the words behind its name. -/
def ofWords? (d : Dialect) (ws : List String) : Option Alteration :=
  if d = .mySql then some (.definition (.ofWords ws))
  else if ws = nullabilityWords d true then some (.nullability true)
  else if ws = nullabilityWords d false then some (.nullability false)
  else none

end Alteration

/-- The words that say that a column of a table is to be changed. -/
def alterVerb : Dialect → List String
  | .oracle | .mySql => ["MODIFY"]
  | .postgres | .derby | .generic => ["ALTER", "COLUMN"]

/-- The statement is whole, has one clause, and says that a column is to be altered. -/
structure Builder.Alters (b : Builder) (table column sql : String) (a : Alteration) : Prop where
  contained : Contained b.dialect.quoteChar sql
  single : (clauses b.dialect sql).length = 1
  reads : ∃ tableName columnName rest, b.ident table = .ok tableName ∧ b.ident column = .ok columnName ∧
    words b.dialect sql =
      "ALTER" :: "TABLE" :: tableName :: (alterVerb b.dialect ++ columnName :: rest) ∧
    Alteration.ofWords? b.dialect rest = some a

/-- A text that is a type and states nothing else. -/
structure IsBareType (d : Dialect) (text : String) : Prop extends IsTypeName d text where
  bare : ∀ w ∈ words d text, isAttributeWord w = false

variable {d : Dialect} {s t : String} {ws rest : List String}

/-! ## Words -/

theorem Glyph.map_char_intercalate (gss : List (List Glyph)) :
    ([top ' '].intercalate gss).map char = [' '].intercalate (gss.map (List.map char)) := by
  induction gss with
  | nil => rfl
  | cons gs gss ih =>
    cases gss with
    | nil => simp
    | cons next gss => simpa [List.intercalate_cons_cons, top] using ih

/-- A text is put together again from its words. -/
theorem intercalate_words (d : Dialect) (s : String) : " ".intercalate (words d s) = s := by
  have hchars : String.toList ∘ Glyph.text = List.map Glyph.char := by
    funext gs
    exact String.toList_ofList
  apply String.toList_injective
  rw [String.toList_intercalate, words, pieces, List.map_map, hchars, show " ".toList = [' '] from rfl,
    ← Glyph.map_char_intercalate, List.intercalate_splitOn, view, Place.map_char_glyphs]

/-- What follows a blank has words of its own. -/
theorem words_blank_append (hs : Contained d.quoteChar s) (t : String) :
    words d (s ++ (" " ++ t)) = words d s ++ words d t := by
  rw [← String.append_assoc]
  exact pieces_append (c := ' ') rfl hs

namespace ColumnAttributes

/-- Words of a type state nothing. -/
theorem stating_append (h : ∀ w ∈ ws, isAttributeWord w = false) (a : ColumnAttributes) :
    a.stating (ws ++ rest) = a.stating rest := by
  induction ws with
  | nil => rfl
  | cons w ws ih =>
    obtain ⟨hw, hws⟩ := List.forall_mem_cons.1 h
    have hword {keyword : String} (hk : keyword ∈ ["DEFAULT", "NOT", "NULL"]) :
        Text.sameName w keyword = false := by
      rw [isAttributeWord, List.any_eq_false] at hw
      exact eq_false_of_ne_true (hw keyword hk)
    rw [← ih hws, List.cons_append]
    cases ws ++ rest with
    | nil => rfl
    | cons next rest =>
      rw [stating, if_neg (by simp [hword]), if_neg (by simp [hword])]

/-- A default is what stands behind DEFAULT, up to the next attribute. -/
theorem stating_default {word : String} (hws : ∀ w ∈ ws, isAttributeWord w = false)
    (hrest : rest.takeWhile (!isAttributeWord ·) = []) (a : ColumnAttributes) :
    a.stating ("DEFAULT" :: word :: (ws ++ rest)) =
      { a with default? := some (" ".intercalate (word :: ws)) }.stating rest := by
  have hbare : ∀ w ∈ ws, (!isAttributeWord w) = true := fun w hw => by rw [hws w hw]; rfl
  rw [stating, if_pos (Text.sameName_refl _), List.takeWhile_append_of_pos hbare, hrest, List.append_nil]
  exact stating_append hws _

/-- A definition is its type, and what is stated after it. -/
theorem ofWords_append (h : ∀ w ∈ ws, isAttributeWord w = false)
    (hrest : rest.takeWhile (!isAttributeWord ·) = []) :
    ofWords (ws ++ rest) = stating { declared := " ".intercalate ws } rest := by
  have hbare : ∀ w ∈ ws, (!isAttributeWord w) = true := fun w hw => by rw [h w hw]; rfl
  have hdrop := List.takeWhile_append_dropWhile (p := (!isAttributeWord ·)) (l := rest)
  rw [hrest, List.nil_append] at hdrop
  rw [ofWords, List.takeWhile_append_of_pos hbare, List.dropWhile_append_of_pos hbare, hrest, hdrop,
    List.append_nil]

/-- The text of a definition begins with its type. -/
theorem ofWords_blank_append (hs : Contained d.quoteChar s)
    (hbare : ∀ w ∈ words d s, isAttributeWord w = false)
    (ht : (words d t).takeWhile (!isAttributeWord ·) = []) :
    ofWords (words d (s ++ (" " ++ t))) = stating { declared := s } (words d t) := by
  rw [words_blank_append hs, ofWords_append hbare ht, intercalate_words]

end ColumnAttributes

/-! ## Statements -/

namespace Builder

variable {b : Builder} {table column tableName columnName sql : String} {nullable : Bool}

/-- A statement on a column: the words up to its name, and what is said of it. -/
def alterText (d : Dialect) (tableName columnName text : String) : String :=
  "ALTER TABLE " ++ tableName ++ " " ++
    (" ".intercalate (alterVerb d) ++ " " ++ (columnName ++ " " ++ text))

/-- A statement on a column does what is said of it. -/
theorem alters_alterText {a : Alteration} (htable : b.ident table = .ok tableName)
    (hcolumn : b.ident column = .ok columnName) (ht : Phrase b.dialect t)
    (hcomma : top ',' ∉ view b.dialect t)
    (ha : Alteration.ofWords? b.dialect (words b.dialect t) = some a) :
    b.Alters table column (alterText b.dialect tableName columnName t) a := by
  unfold alterText
  have hverb : words b.dialect (" ".intercalate (alterVerb b.dialect)) = alterVerb b.dialect ∧
      (" ".intercalate (alterVerb b.dialect)).toList.all isWordChar = true ∧
      ',' ∉ (" ".intercalate (alterVerb b.dialect)).toList := by
    cases b.dialect <;> decide
  generalize " ".intercalate (alterVerb b.dialect) = verb at hverb
  obtain ⟨hwords, hverb, hverbComma⟩ := hverb
  have hphrase : Phrase b.dialect verb := phrase_of_words hverb
  refine ⟨?_, ?_, tableName, columnName, words b.dialect t, htable, hcolumn, ?_, ha⟩
  · have htext : Takes b.dialect .settled 0 ("ALTER TABLE " ++ tableName ++ " " ++ verb ++ " " ++
        columnName ++ " " ++ t) .settled 0 :=
      Takes.begins (by rfl) (ident_phrase htable) |>.clause (by rfl) hphrase
        |>.clause (by rfl) (ident_phrase hcolumn) |>.clause (by rfl) ht
    simpa only [String.append_assoc] using htext.contained
  · rw [clauses, pieces_eq_singleton, List.length_singleton]
    simp only [String.append_assoc]
    exact top_notMem_word_append rfl (by decide) <|
      top_notMem_append (ident_phrase htable).contained (ident_comma_notMem htable) <|
      top_notMem_word_append rfl (by decide) <| top_notMem_word_append hverb hverbComma <|
      top_notMem_word_append rfl (by decide) <|
      top_notMem_append (ident_phrase hcolumn).contained (ident_comma_notMem hcolumn) <|
      top_notMem_word_append rfl (by decide) hcomma
  · rw [words_alter htable, String.append_assoc, words_blank_append hphrase.contained,
      ident_words hcolumn, hwords]

/-! ## NULL allowed or forbidden -/

/-- Where the column is not defined anew, nothing else is said of it. -/
theorem setNullable_nullability (hd : b.dialect ≠ .mySql) {typeName? : Option String}
    (h : b.setNullable table column typeName? nullable = .ok sql) :
    b.Alters table column sql (.nullability nullable) := by
  obtain ⟨tableName, htable, h⟩ := bind_ok h
  obtain ⟨columnName, hcolumn, h⟩ := bind_ok h
  have hsql : sql = alterText b.dialect tableName columnName
      (" ".intercalate (nullabilityWords b.dialect nullable)) := by
    apply String.toList_injective
    cases hdialect : b.dialect with
    | mySql => exact absurd hdialect hd
    | postgres | generic | oracle | derby =>
      rw [hdialect] at h
      cases nullable <;> cases h <;> simp [alterText, alterVerb, nullabilityWords]
  have hwords : (" ".intercalate (nullabilityWords b.dialect nullable)).toList.all isWordChar = true ∧
      ',' ∉ (" ".intercalate (nullabilityWords b.dialect nullable)).toList ∧
      Alteration.ofWords? b.dialect (words b.dialect
        (" ".intercalate (nullabilityWords b.dialect nullable))) = some (.nullability nullable) := by
    revert hd
    cases b.dialect <;> cases nullable <;> decide
  rw [hsql]
  generalize " ".intercalate (nullabilityWords b.dialect nullable) = text at hwords
  obtain ⟨hchars, hcomma, hreads⟩ := hwords
  exact alters_alterText htable hcolumn (phrase_of_words hchars) (top_notMem_of_notMem hcomma) hreads

/-- MySQL has the type stated anew, and nothing but NULL allowed or forbidden after it. -/
theorem setNullable_definition (hd : b.dialect = .mySql) {declared : String}
    (hbare : IsBareType b.dialect declared)
    (h : b.setNullable table column (some declared) nullable = .ok sql) :
    b.Alters table column sql (.definition { declared, nullable }) := by
  obtain ⟨haccepted, tableName, columnName, htable, hcolumn, hsql⟩ := setNullable_eq hd h
  have htype : Phrase b.dialect declared := hbare.closesBrackets.phrase (isPlain_of_isTypeText haccepted)
  have htext : sql = alterText b.dialect tableName columnName (declared ++ typeEnd nullable) := by
    rw [hsql, hd]
    exact String.toList_injective (by simp [typeLead, alterText, alterVerb])
  rw [htext]
  refine alters_alterText htable hcolumn ?_ ?_ ?_
  · have hend : Takes b.dialect .settled 0 (typeEnd nullable) .settled 0 := by
      cases nullable <;> exact Takes.settle (Takes.of_walk rfl)
    exact htype.append hend
  · exact top_notMem_append htype.contained hbare.comma_notMem (typeEnd_comma_notMem nullable)
  · rw [Alteration.ofWords?, if_pos hd]
    rw [hd] at htype hbare ⊢
    -- The type is read up to NOT or NULL, which none of its own words is.
    have hstates {t : String} (ht : (words .mySql t).takeWhile (!isAttributeWord ·) = []) :=
      ColumnAttributes.ofWords_blank_append htype.contained hbare.bare ht
    cases nullable with
    | true => exact congrArg (some ∘ Alteration.definition) (hstates (t := "NULL") (by decide))
    | false => exact congrArg (some ∘ Alteration.definition) (hstates (t := "NOT NULL") (by decide))

/-- What allows or forbids NULL keeps the type, and the default except on MySQL, where there is none any
    more. -/
theorem setNullable_alters {info : ColumnInfo}
    (hbare : b.dialect = .mySql → IsBareType b.dialect info.declared)
    (h : b.setNullable table column (some info.declared) nullable = .ok sql) :
    ∃ a, b.Alters table column sql a ∧ a.apply info.attributes =
      ⟨info.declared, nullable, if b.dialect = .mySql then none else info.default?⟩ := by
  by_cases hd : b.dialect = .mySql
  · rw [if_pos hd]
    exact ⟨_, setNullable_definition hd (hbare hd) h, rfl⟩
  · rw [if_neg hd]
    exact ⟨_, setNullable_nullability hd h, rfl⟩

end Builder

/-! ## Columns defined anew -/

theorem isAttributeWord_eq_false {c : Char} (h : s.toList.head? = some c)
    (hc : c.toLower ≠ 'd' ∧ c.toLower ≠ 'n') : isAttributeWord s = false := by
  obtain ⟨cs, hs⟩ := List.head?_eq_some_iff.1 h
  simp [isAttributeWord, Text.sameName, Text.asciiLower, hs, hc]

/-- The types that MySQL is told are single words. -/
theorem Dialect.nativeType?_words {type : ColumnType} {length? : Option UInt32}
    (h : mySql.nativeType? type length? = some t) :
    words mySql t = [t] ∧ isAttributeWord t = false := by
  refine ⟨pieces_eq_singleton (top_notMem_of_notMem (notMem_nativeType? (.inr rfl) h)), ?_⟩
  cases type with
  | string =>
    obtain ⟨n, -, rfl⟩ := Option.map_eq_some_iff.1 h
    exact isAttributeWord_eq_false (c := 'V') (by simp [textType]) (by decide)
  | integer | long | boolean | timestamp | blob | clob | charArray =>
    cases h
    decide

/-- A literal is a word, and a quoted text after it if it is that of a timestamp. -/
theorem Dialect.literal?_words {value : Value} (h : mySql.literal? value = some t) :
    ∃ word rest, words mySql t = word :: rest ∧ ∀ w ∈ rest, isAttributeWord w = false := by
  by_cases htime : ∃ time, value = .timestamp time
  · obtain ⟨time, rfl⟩ := htime
    cases h
    rw [timestampLiteral_eq]
    have hquoted : isAttributeWord (textLiteral time.text) = false := by
      refine isAttributeWord_eq_false (c := '\x27') ?_ (by decide)
      rw [textLiteral, String.toList_ofList]
      rfl
    have heq : "TIMESTAMP " ++ textLiteral time.text = "TIMESTAMP" ++ " " ++ textLiteral time.text :=
      String.toList_injective (by simp)
    refine ⟨"TIMESTAMP", [textLiteral time.text], ?_, List.forall_mem_singleton.2 hquoted⟩
    rw [heq, Builder.words_word_append rfl (by decide), words,
      pieces_eq_singleton (notMem_textLiteral ' ' _)]
  · have hblank := notMem_literal? (.inr rfl) (fun _ time hv => htime ⟨time, hv⟩) h
    exact ⟨t, [], pieces_eq_singleton hblank, List.forall_mem_nil _⟩

namespace Builder

variable {b : Builder} {table sql typeName default : String} {column : ColumnSpec}

/-- NOT NULL is read wherever it is written. -/
theorem words_notNull (hs : Contained Dialect.mySql.quoteChar s) (nullable : Bool) :
    words .mySql (s ++ if nullable then "" else " NOT NULL") =
      words .mySql s ++ if nullable then [] else ["NOT", "NULL"] := by
  cases nullable with
  | true => simp
  | false => exact words_blank_append hs "NOT NULL"

/-- What is said of a column on MySQL is read back. -/
theorem ofWords_attributes (hd : b.dialect = .mySql) (htype : b.nativeType column = .ok typeName)
    (hdefault : b.defaultClause column.default? = .ok default) :
    ∃ default?, column.default?.mapM b.literal = .ok default? ∧
      ColumnAttributes.ofWords (words .mySql
        (typeName ++ default ++ (if column.nullable then "" else " NOT NULL"))) =
          ⟨typeName, column.nullable, default?⟩ := by
  have hcontained : Contained Dialect.mySql.quoteChar typeName := hd ▸ (nativeType_phrase htype).contained
  obtain ⟨hword, hbare⟩ : words .mySql typeName = [typeName] ∧ isAttributeWord typeName = false := by
    obtain ⟨_, -, htype⟩ := bind_ok htype
    rw [hd] at htype
    split at htype <;> cases htype
    exact Dialect.nativeType?_words ‹_›
  have hbare : ∀ w ∈ [typeName], isAttributeWord w = false := List.forall_mem_singleton.2 hbare
  cases hvalue : column.default? with
  | none =>
    rw [hvalue] at hdefault
    cases hdefault
    refine ⟨none, rfl, ?_⟩
    rw [String.append_empty, words_notNull hcontained, hword]
    rw [ColumnAttributes.ofWords_append hbare (by split <;> rfl), String.intercalate_singleton]
    cases column.nullable <;> rfl
  | some value =>
    rw [hvalue] at hdefault
    obtain ⟨t, ht, hdefault⟩ := bind_ok hdefault
    cases hdefault
    refine ⟨some t, by rw [Option.mapM_some, ht]; rfl, ?_⟩
    have hliteral : Contained Dialect.mySql.quoteChar t := hd ▸ (literal_phrase ht).contained
    obtain ⟨word, rest, hwords, hrest⟩ : ∃ word rest, words .mySql t = word :: rest ∧
        ∀ w ∈ rest, isAttributeWord w = false := by
      rw [literal, hd] at ht
      split at ht <;> cases ht
      exact Dialect.literal?_words ‹_›
    have ht : " ".intercalate (word :: rest) = t := hwords ▸ intercalate_words .mySql t
    have heq (text : String) : typeName ++ (" DEFAULT " ++ t) ++ text =
        typeName ++ (" " ++ ("DEFAULT" ++ " " ++ (t ++ text))) :=
      String.toList_injective (by simp)
    rw [heq, words_blank_append hcontained, hword, words_word_append rfl (by decide),
      words_notNull hliteral, hwords, ColumnAttributes.ofWords_append hbare (by rfl), List.cons_append,
      ColumnAttributes.stating_default hrest (by split <;> rfl), ht, String.intercalate_singleton]
    cases column.nullable <;> rfl

-- Other writers put the attributes in another order.
example : ColumnAttributes.ofWords (words .mySql "int unsigned not null default 'a b'") =
    ⟨"int unsigned", false, some "'a b'"⟩ := by
  decide

/-- What changes the type of a column on MySQL states its default with it. -/
theorem changeColumnInPlace_alters (hd : b.dialect = .mySql)
    (h : b.changeColumnInPlace table column = .ok sql) :
    ∃ typeName default?, b.nativeType column = .ok typeName ∧
      column.default?.mapM b.literal = .ok default? ∧
      b.Alters table column.name sql (.definition ⟨typeName, column.nullable, default?⟩) := by
  obtain ⟨tableName, htable, h⟩ := bind_ok h
  obtain ⟨_, -, h⟩ := bind_ok h
  obtain ⟨_, -, h⟩ := bind_ok h
  rw [hd] at h
  obtain ⟨definition, hdefinition, h⟩ := bind_ok h
  cases h
  obtain ⟨columnName, hcolumn, h⟩ := bind_ok hdefinition
  obtain ⟨typeName, htype, h⟩ := bind_ok h
  obtain ⟨default, hdefault, h⟩ := bind_ok h
  cases h
  obtain ⟨default?, hliteral, hwords⟩ := ofWords_attributes hd htype hdefault
  have heq : "ALTER TABLE " ++ tableName ++ " MODIFY " ++
      (columnName ++ " " ++ typeName ++ default ++ (if column.nullable then "" else " NOT NULL")) =
        alterText b.dialect tableName columnName
          (typeName ++ default ++ (if column.nullable then "" else " NOT NULL")) := by
    rw [hd]
    exact String.toList_injective (by simp [alterText, alterVerb])
  rw [heq]
  refine ⟨typeName, default?, htype, hliteral, alters_alterText htable hcolumn
    (attributes_phrase htype hdefault) (attributes_comma_notMem htype hdefault) ?_⟩
  rw [hd, Alteration.ofWords?, if_pos rfl, hwords]

end Builder

end SchemaChange
