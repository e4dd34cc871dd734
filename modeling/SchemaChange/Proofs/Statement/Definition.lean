import SchemaChange.Proofs.Spec.Distinct
import SchemaChange.Proofs.Statement.Contained
import SchemaChange.Proofs.Statement.Reading
import SchemaChange.Proofs.Text.Casing

/-!
# Definitions read back

A table's columns and key, and the columns of a constraint, are read back from the statement that
creates the one or adds the other. The commas and brackets of such a statement are told from those in
names and literals, since a quoted name shows nothing of what it holds (`ShowsOnly.quoted`), a bare one is
letters, digits and a few signs (`Builder.ident_showsOnly`), and the one literal with a comma outside of
quotes has it between brackets (`Dialect.notMem_literal?`).

* `Builder.statements_read_back`
-/

namespace SchemaChange

open Glyph (top)
open Text (hexPairs)

variable {d : Dialect} {s t : String} {c : Char}

/-! ## What is shown -/

theorem top_notMem_append (hs : Contained d.quoteChar s) (h : top c ∉ view d s)
    (h' : top c ∉ view d t) : top c ∉ view d (s ++ t) := by
  rw [hs.mem_view_append, not_or]
  exact ⟨h, h'⟩

theorem phrase_of_words (hs : s.toList.all isWordChar = true) : Phrase d s := by
  rw [← String.ofList_toList (s := s)]
  exact .word (List.all_eq_true.1 hs)

theorem contained_of_words (hs : s.toList.all isWordChar = true) : Contained d.quoteChar s :=
  (phrase_of_words hs).contained

theorem top_notMem_word_append (hs : s.toList.all isWordChar = true) (hc : c ∉ s.toList)
    (h : top c ∉ view d t) : top c ∉ view d (s ++ t) :=
  top_notMem_append (contained_of_words hs) (top_notMem_of_notMem hc) h

/-- Words without brackets before a text. -/
theorem bodies_word_append (hs : s.toList.all isWordChar = true) :
    bodies d (s ++ t) = bodies d t := by
  refine bodies_append (contained_of_words hs) (top_notMem_of_notMem fun h => ?_)
  cases List.all_eq_true.1 hs _ h

/-- Words, and one text in brackets. -/
theorem bodies_word_bracketed (hs : s.toList.all isWordChar = true) (ht : Phrase d t) :
    bodies d (s ++ "(" ++ t ++ ")") = [t] := by
  have heq : s ++ "(" ++ t ++ ")" = s ++ ("(" ++ t ++ ")" ++ "") := String.toList_injective (by simp)
  rw [heq, bodies_word_append hs, bodies_bracketed ht, bodies_nil]

/-- Outside of regions there are only characters of a kind. -/
def ShowsOnly (d : Dialect) (p : Char → Bool) (s : String) : Prop :=
  ∀ g ∈ view d s, g.shown = true → p g.char = true

namespace ShowsOnly

variable {p : Char → Bool}

theorem top_notMem (h : ShowsOnly d p s) (hc : p c = false) : top c ∉ view d s := by
  intro hmem
  rw [show p c = true from h _ hmem rfl] at hc
  cases hc

theorem of_forall (h : ∀ c ∈ s.toList, p c = true) : ShowsOnly d p s :=
  fun _ hg _ => h _ (char_mem hg)

theorem append (hs : Contained d.quoteChar s) (h : ShowsOnly d p s) (h' : ShowsOnly d p t) :
    ShowsOnly d p (s ++ t) := by
  intro g hg
  rcases hs.mem_view_append.1 hg with hg | hg
  · exact h g hg
  · exact h' g hg

theorem intercalate {xs : List String} (ht : Contained d.quoteChar t) (h : ShowsOnly d p t)
    (hxs : ∀ x ∈ xs, Contained d.quoteChar x ∧ ShowsOnly d p x) :
    ShowsOnly d p (String.intercalate t xs) := by
  induction xs with
  | nil => exact nofun
  | cons x xs ih =>
    obtain ⟨hx, hxs⟩ := List.forall_mem_cons.1 hxs
    cases xs with
    | nil =>
      rw [String.intercalate_singleton]
      exact hx.2
    | cons y ys =>
      rw [String.intercalate_cons_cons, String.append_assoc]
      exact append hx.1 hx.2 (append ht h (ih hxs))

end ShowsOnly

/-- Nothing is shown from inside of a region to its end. -/
theorem shown_eq_false_of_doubled {q r : Char} {n : Nat} {s : List Char} :
    ∀ g ∈ (Place.inside r).glyphs q n (Text.doubled r s ++ [r]), g.shown = false := by
  -- Each quote in the region closes it, and the second one of the two opens it again.
  have hquote (rest : List Char) : (Place.inside r).glyphs q n (r :: rest) =
      ⟨r, false, n⟩ :: (Place.closing r).glyphs q n rest := by
    simp [Place.glyphs, Place.shown, Place.next, openBrackets?]
  induction s with
  | nil =>
    rw [Text.doubled, List.nil_append, hquote]
    exact List.forall_mem_singleton.2 rfl
  | cons c s ih =>
    rw [Text.doubled]
    split
    · rw [List.cons_append, List.cons_append, hquote]
      simpa [Place.glyphs, Place.shown, Place.next, openBrackets?] using ih
    · simpa [Place.glyphs, Place.shown, Place.next, openBrackets?, ‹c ≠ r›] using ih

/-- What is quoted does not show. -/
theorem ShowsOnly.quoted {r : Char} (hr : r = '\x27' ∨ r = d.quoteChar) (p : Char → Bool)
    (s : List Char) : ShowsOnly d p (String.ofList (Text.quoted r s)) := by
  have hopened : Place.opened d.quoteChar r = .inside r := if_pos hr
  intro g hg hshown
  rw [view, String.toList_ofList, Text.quoted, Place.glyphs, Place.shown, Place.next, hopened] at hg
  rcases List.mem_cons.1 hg with rfl | hg
  · cases hshown
  · rw [shown_eq_false_of_doubled g hg] at hshown
    cases hshown

/-! ## Names -/

/-- A letter, a digit, or one of the signs that a bare name may have. -/
def isNameChar (c : Char) : Bool :=
  Text.isAlphanumeric c || c == '_' || c == '$' || c == '#'

theorem isNameChar_of_isBareName {s : List Char} (h : isBareName s = true) :
    ∀ c ∈ s, isNameChar c = true := by
  cases s with
  | nil => exact nofun
  | cons c s =>
    rw [isBareName, Bool.and_eq_true, List.all_eq_true] at h
    refine List.forall_mem_cons.2 ⟨?_, h.2⟩
    rcases Bool.or_eq_true_iff.1 h.1 with hc | hc <;> simp [isNameChar, Text.isAlphanumeric, hc]

/-- A name shows its parts at most, and the points between them. -/
theorem Builder.ident_showsOnly {b : Builder} {name written : String}
    (h : b.ident name = .ok written) :
    ShowsOnly b.dialect (fun c => isNameChar c || c == '.') written := by
  obtain ⟨parts, rfl, -, hparts⟩ := b.ident_parts h
  refine .intercalate (Phrase.text (s := ['.']) rfl (.inl rfl)).contained (.of_forall (by simp))
    fun part hpart => ⟨(hparts part hpart).phrase.contained, ?_⟩
  rcases hparts part hpart with ⟨s, rfl⟩ | hbare
  · exact .quoted (.inr rfl) _ s
  · exact .of_forall fun c hc => Bool.or_eq_true_iff.2 (.inl (isNameChar_of_isBareName hbare c hc))

/-! ## Literals -/

/-- A text without quotes stands between them as it is. -/
theorem Dialect.textLiteral_of_notMem (h : '\x27' ∉ s.toList) :
    textLiteral s = "'" ++ s ++ "'" := by
  have hdoubled : ∀ {s : List Char}, '\x27' ∉ s → Text.doubled '\x27' s = s := by
    intro s hs
    induction s with
    | nil => rfl
    | cons c s ih =>
      obtain ⟨hc, hs⟩ := not_or.1 (List.mem_cons.not.1 hs)
      rw [Text.doubled, if_neg (Ne.symm hc), ih hs]
  apply String.toList_injective
  simp [textLiteral, Text.quoted, hdoubled h]

/-- A letter, a digit, or one of the signs that a number may be written with. -/
def isNumberChar (c : Char) : Bool :=
  c.isAlphanum || c == '+' || c == '-' || c == '.'

theorem isNumberChar_of_isDigit (h : c.isDigit = true) : isNumberChar c = true := by
  simp [isNumberChar, Char.isAlphanum, h]

theorem isNumberChar_toLower (c : Char) : isNumberChar c.toLower = isNumberChar c :=
  Text.apply_toLower isNumberChar (by decide) c

namespace Binary64

/-- A text that is read as a number holds digits, letters, signs and points. -/
theorem isNumberChar_of_read? {s : List Char} (h : (read? s).isSome = true) :
    ∀ c ∈ s, isNumberChar c = true := by
  intro c hc
  have hsigns : ∀ c ∈ ['+', '-', '.', 'e', 'E'], isNumberChar c = true := List.all_eq_true.1 rfl
  rcases read?_isSome_iff.1 h with hnumeral | ⟨hsign, hword⟩
  · rcases hnumeral.mem hc with hc | hc
    · exact isNumberChar_of_isDigit hc
    · exact hsigns c hc
  · rcases List.mem_append.1 hc with hc | hc
    · exact hsigns c (List.mem_append_left ['.', 'e', 'E'] (hsign.mem hc))
    · rw [← isNumberChar_toLower]
      have hlower : c.toLower ∈ Text.asciiLower _ := List.mem_map_of_mem (f := Char.toLower) hc
      have hall (s : List Char) (h : s.all isNumberChar = true) (hmem : c.toLower ∈ s) :
          isNumberChar c.toLower = true := List.all_eq_true.1 h _ hmem
      rcases hword with heq | heq | heq <;> rw [heq] at hlower <;> exact hall _ (by decide) hlower

theorem isNumberChar_text (x : Binary64) : ∀ c ∈ x.text.toList, isNumberChar c = true := by
  unfold text
  split
  · exact List.all_eq_true.1 rfl
  · extract_lets sign
    have hsign : ∀ c ∈ sign.toList, isNumberChar c = true := by
      unfold sign
      split <;> exact List.all_eq_true.1 rfl
    split
    · rw [String.toList_append]
      exact List.forall_mem_append.2 ⟨hsign, List.all_eq_true.1 rfl⟩
    · split
      · rw [String.toList_append]
        exact List.forall_mem_append.2 ⟨hsign, List.all_eq_true.1 rfl⟩
      · rw [String.toList_append, String.toList_ofList]
        refine List.forall_mem_append.2 ⟨hsign, fun c hc => ?_⟩
        rcases mem_positional hc with hc | rfl | rfl
        · exact isNumberChar_of_isDigit (isDigit_shortestDigits hc)
        · rfl
        · rfl

end Binary64

theorem isNumberChar_repr (n : Nat) : ∀ c ∈ n.repr.toList, isNumberChar c = true := by
  rw [Nat.repr, String.toList_ofList]
  exact fun c hc => isNumberChar_of_isDigit (isDigit_of_mem_toDigits hc)

theorem Value.isNumberChar_intText (n : Int) : ∀ c ∈ (intText n).toList, isNumberChar c = true := by
  unfold intText
  split
  · rw [String.toList_append]
    exact List.forall_mem_append.2 ⟨List.all_eq_true.1 rfl, isNumberChar_repr n.natAbs⟩
  · exact isNumberChar_repr n.natAbs

/-- No number is written with another character. -/
theorem notMem_of_isNumberChar {s : List Char} (h : ∀ c ∈ s, isNumberChar c = true)
    (hc : isNumberChar c = false) : c ∉ s := by
  intro hmem
  rw [h c hmem] at hc
  cases hc

namespace Dialect

theorem notMem_textLiteral (c : Char) (s : String) : top c ∉ view d (textLiteral s) :=
  (ShowsOnly.quoted (.inl rfl) (fun _ => false) _).top_notMem rfl

/-- The literal of bytes around the text literal of their digits. -/
theorem bytesLiteral_eq (d : Dialect) (bs : List UInt8) :
    d.bytesLiteral bs =
      let hex := textLiteral (String.ofList (hexPairs bs))
      match d with
      | oracle => "HEXTORAW" ++ ("(" ++ hex ++ ")")
      | postgres => "decode" ++ ("(" ++ (hex ++ ", 'hex'") ++ ")")
      | mySql | derby | generic => "X" ++ hex := by
  have hliteral : textLiteral (String.ofList (hexPairs bs)) =
      "'" ++ String.ofList (hexPairs bs) ++ "'" := by
    refine textLiteral_of_notMem ?_
    rw [String.toList_ofList]
    exact not_mem_hexPairs bs
  cases d <;> exact String.toList_injective (by simp [bytesLiteral, hliteral])

/-- The literal of a timestamp around the text literal of its text. -/
theorem timestampLiteral_eq (d : Dialect) (t : Timestamp) :
    d.timestampLiteral t = match d with
      | derby => "TIMESTAMP" ++ ("(" ++ textLiteral t.text ++ ")")
      | generic => textLiteral t.text
      | oracle | mySql | postgres => "TIMESTAMP " ++ textLiteral t.text := by
  have hliteral := textLiteral_of_notMem (t.not_mem_text rfl (by decide))
  cases d <;> exact String.toList_injective (by simp [timestampLiteral, hliteral])

theorem notMem_bytesLiteral (hc : c = ',' ∨ c = ' ') (bs : List UInt8) :
    top c ∉ view d (d.bytesLiteral bs) := by
  rw [bytesLiteral_eq]
  extract_lets hex
  have hphrase {d : Dialect} : Phrase d hex := textLiteral_phrase _
  have hhex : top c ∉ view d hex := notMem_textLiteral c _
  have hbracket : c ≠ '(' ∧ c ≠ ')' := by
    rcases hc with rfl | rfl <;> decide
  clear_value hex
  cases d with
  | oracle =>
    exact top_notMem_word_append rfl (by rcases hc with rfl | rfl <;> decide)
      (hphrase.contained.top_notMem_bracketed hbracket)
  | postgres =>
    -- The comma before the name of the encoding is between brackets.
    have hinner : Phrase .postgres (hex ++ ", 'hex'") := Takes.text hphrase (by rfl)
    exact top_notMem_word_append rfl (by rcases hc with rfl | rfl <;> decide)
      (hinner.contained.top_notMem_bracketed hbracket)
  | mySql | derby | generic =>
    exact top_notMem_word_append rfl (by rcases hc with rfl | rfl <;> decide) hhex

theorem comma_notMem_timestampLiteral (t : Timestamp) :
    top ',' ∉ view d (d.timestampLiteral t) := by
  rw [timestampLiteral_eq]
  cases d with
  | derby =>
    exact top_notMem_word_append rfl (by decide)
      ((textLiteral_phrase t.text).contained.top_notMem_bracketed (by decide))
  | generic => exact notMem_textLiteral ',' t.text
  | oracle | mySql | postgres =>
    exact top_notMem_word_append rfl (by decide) (notMem_textLiteral ',' t.text)

/-- No literal has a comma outside of quotes and brackets, and only that of a timestamp has a blank. -/
theorem notMem_literal? {v : Value} (hc : c = ',' ∨ c = ' ')
    (hv : c = ' ' → ∀ time, v ≠ .timestamp time) (h : d.literal? v = some t) : top c ∉ view d t := by
  have hnumber : isNumberChar c = false := by
    rcases hc with rfl | rfl <;> rfl
  cases v with
  | null =>
    cases h
    refine top_notMem_of_notMem ?_
    rcases hc with rfl | rfl <;> decide
  | bool v =>
    cases h
    refine top_notMem_of_notMem ?_
    unfold boolLiteral
    rcases hc with rfl | rfl <;> split <;> split <;> decide
  | int32 n | int64 n =>
    cases h
    exact top_notMem_of_notMem (notMem_of_isNumberChar (Value.isNumberChar_intText _) hnumber)
  | float64 x =>
    rw [literal?] at h
    split at h
    · cases h
      exact top_notMem_of_notMem (notMem_of_isNumberChar x.isNumberChar_text hnumber)
    · cases h
  | decimal s =>
    rw [literal?, decimalLiteral?] at h
    split at h
    · cases h
      refine top_notMem_of_notMem ?_
      rw [String.toList_ofList]
      exact notMem_of_isNumberChar (Binary64.isNumberChar_of_read? ‹_›) hnumber
    · cases h
  | text s =>
    cases h
    exact notMem_textLiteral c s
  | bytes bs =>
    cases h
    exact notMem_bytesLiteral hc bs
  | timestamp time =>
    cases h
    rcases hc with rfl | rfl
    · exact comma_notMem_timestampLiteral time
    · exact absurd rfl (hv rfl time)

end Dialect

/-! ## Definitions -/

theorem Dialect.notMem_nativeType? {type : ColumnType} {length? : Option UInt32}
    (hc : c = ',' ∨ c = ' ') (h : d.nativeType? type length? = some t) : c ∉ t.toList := by
  cases type with
  | string =>
    obtain ⟨n, -, rfl⟩ := Option.map_eq_some_iff.1 h
    have hopen : c ∉ (if d = oracle then "VARCHAR2(" else "VARCHAR(").toList ∧ c ≠ ')' := by
      rcases hc with rfl | rfl <;> split <;> decide
    have hnumber : isNumberChar c = false := by
      rcases hc with rfl | rfl <;> rfl
    have hdigits := notMem_of_isNumberChar (isNumberChar_repr n.toNat) hnumber
    rw [Nat.repr, String.toList_ofList] at hdigits
    simp [textType, hopen, hdigits]
  | integer | long | boolean | timestamp | blob | clob | charArray =>
    cases d <;> cases h <;> rcases hc with rfl | rfl <;> decide

namespace Builder

variable {b : Builder} {column : ColumnSpec} {name written sql : String} {table : TableSpec}

theorem ident_comma_notMem (h : b.ident name = .ok written) : top ',' ∉ view b.dialect written :=
  (ident_showsOnly h).top_notMem rfl

/-- A name before a text. -/
theorem ident_bodies (h : b.ident name = .ok written) :
    bodies b.dialect (written ++ t) = bodies b.dialect t :=
  bodies_append (ident_phrase h).contained ((ident_showsOnly h).top_notMem rfl)

theorem nativeType_comma_notMem (h : b.nativeType column = .ok written) :
    top ',' ∉ view b.dialect written := by
  obtain ⟨_, -, h⟩ := bind_ok h
  split at h
  · cases h
    exact top_notMem_of_notMem (Dialect.notMem_nativeType? (.inl rfl) ‹_›)
  · cases h

theorem literal_comma_notMem {value : Value} (h : b.literal value = .ok written) :
    top ',' ∉ view b.dialect written := by
  unfold literal at h
  split at h
  · cases h
    exact Dialect.notMem_literal? (.inl rfl) nofun ‹_›
  · cases h

theorem attributes_comma_notMem {typeName default : String} (htype : b.nativeType column = .ok typeName)
    (hdefault : b.defaultClause column.default? = .ok default) :
    top ',' ∉ view b.dialect
      (typeName ++ default ++ (if column.nullable then "" else " NOT NULL")) := by
  have hclause : top ',' ∉ view b.dialect default := by
    cases hvalue : column.default? with
    | none =>
      rw [hvalue] at hdefault
      cases hdefault
      exact List.not_mem_nil
    | some value =>
      rw [hvalue] at hdefault
      obtain ⟨t, ht, hdefault⟩ := bind_ok hdefault
      cases hdefault
      exact top_notMem_word_append rfl (by decide) (literal_comma_notMem ht)
  have hnull : top ',' ∉ view b.dialect (if column.nullable then "" else " NOT NULL") := by
    split <;> exact top_notMem_of_notMem (by decide)
  rw [String.append_assoc]
  exact top_notMem_append (nativeType_phrase htype).contained (nativeType_comma_notMem htype) <|
    top_notMem_append (defaultClause_takes hdefault).contained hclause hnull

/-- No definition has a comma outside of quotes and brackets. -/
theorem columnDefinition_comma_notMem (h : b.columnDefinition column = .ok written) :
    top ',' ∉ view b.dialect written := by
  obtain ⟨name, hname, h⟩ := bind_ok h
  obtain ⟨typeName, htype, h⟩ := bind_ok h
  obtain ⟨default, hdefault, h⟩ := bind_ok h
  cases h
  have hcomma := attributes_comma_notMem htype hdefault
  simp only [String.append_assoc] at hcomma ⊢
  exact top_notMem_append (ident_phrase hname).contained (ident_comma_notMem hname) <|
    top_notMem_word_append rfl (by decide) hcomma

/-- The columns of a list are read back. -/
theorem identList_items {owner : String} {names : List String}
    (h : b.identList owner names = .ok written) :
    ∃ columns, names.mapM b.ident = .ok columns ∧ columns ≠ [] ∧ items b.dialect written = columns := by
  rw [identList] at h
  obtain ⟨hnames, h⟩ := unless_ok h
  obtain ⟨_, -, h⟩ := bind_ok h
  obtain ⟨columns, hcolumns, h⟩ := bind_ok h
  cases h
  rw [← mapM_isEmpty hcolumns, List.isEmpty_iff] at hnames
  exact ⟨columns, hcolumns, hnames, items_intercalate hnames fun name hname =>
    ⟨forall_of_mapM_ok ident_phrase hcolumns name hname,
      forall_of_mapM_ok ident_comma_notMem hcolumns name hname⟩⟩

/-- The text that creates a table is that of its definitions and its key, as they are read back. -/
def ReadsTable (b : Builder) (table : TableSpec) (sql : String) : Prop :=
  ∃ name body definitions key,
    b.ident table.name = .ok name ∧ sql = "CREATE TABLE " ++ name ++ " (" ++ body ++ ")" ∧
    bodies b.dialect sql = [body] ∧
    table.columns.mapM b.columnDefinition = .ok definitions ∧
    items b.dialect body = definitions ++ key ∧
    if table.primaryKey = [] then key = []
    else ∃ columns names, key = ["PRIMARY KEY (" ++ columns ++ ")"] ∧
      table.primaryKey.mapM b.ident = .ok names ∧ items b.dialect columns = names

theorem primaryKeyItem_reads {key : List String} (h : b.primaryKeyItem table = .ok key) :
    if table.primaryKey = [] then key = []
    else ∃ columns names, key = ["PRIMARY KEY (" ++ columns ++ ")"] ∧
      table.primaryKey.mapM b.ident = .ok names ∧ items b.dialect columns = names := by
  unfold primaryKeyItem at h
  simp only [List.isEmpty_iff] at h
  split at h
  · cases h
    rw [if_pos ‹_›]
  · obtain ⟨columns, hcolumns, h⟩ := bind_ok h
    cases h
    obtain ⟨names, hnames, -, hitems⟩ := identList_items hcolumns
    rw [if_neg ‹_›]
    exact ⟨columns, names, rfl, hnames, hitems⟩

theorem primaryKeyItem_comma_notMem {key : List String} (h : b.primaryKeyItem table = .ok key) :
    ∀ item ∈ key, top ',' ∉ view b.dialect item := by
  unfold primaryKeyItem at h
  split at h
  · cases h
    exact nofun
  · obtain ⟨columns, hcolumns, h⟩ := bind_ok h
    cases h
    have heq : "PRIMARY KEY (" ++ columns ++ ")" = "PRIMARY KEY " ++ ("(" ++ columns ++ ")") :=
      String.toList_injective (by simp)
    rw [heq]
    refine List.forall_mem_singleton.2 (top_notMem_word_append rfl (by decide) ?_)
    exact (identList_phrase hcolumns).contained.top_notMem_bracketed (by decide)

/-- The parts of a table's text, the list of which is read back. -/
theorem createTable_parts (h : b.createTable table = .ok sql) :
    table.validate = .ok () ∧ ∃ name definitions key,
      b.ident table.name = .ok name ∧ table.columns.mapM b.columnDefinition = .ok definitions ∧
      b.primaryKeyItem table = .ok key ∧
      let body := String.intercalate ", " (definitions ++ key)
      sql = "CREATE TABLE " ++ name ++ " (" ++ body ++ ")" ∧ bodies b.dialect sql = [body] ∧
        items b.dialect body = definitions ++ key := by
  obtain ⟨_, hvalid, h⟩ := bind_ok h
  obtain ⟨definitions, hdefinitions, h⟩ := bind_ok h
  obtain ⟨key, hkey, h⟩ := bind_ok h
  obtain ⟨name, hname, h⟩ := bind_ok h
  cases h
  have hitems : ∀ item ∈ definitions ++ key, Phrase b.dialect item ∧ top ',' ∉ view b.dialect item :=
    List.forall_mem_append.2
      ⟨fun item hitem => ⟨forall_of_mapM_ok columnDefinition_phrase hdefinitions item hitem,
          forall_of_mapM_ok columnDefinition_comma_notMem hdefinitions item hitem⟩,
        fun item hitem => ⟨primaryKeyItem_phrase hkey item hitem,
          primaryKeyItem_comma_notMem hkey item hitem⟩⟩
  have hne : definitions ++ key ≠ [] := by
    have hcolumns := (TableSpec.of_validate hvalid).1
    rw [← List.isEmpty_eq_false_iff, ← mapM_isEmpty hdefinitions, List.isEmpty_eq_false_iff] at hcolumns
    exact List.append_ne_nil_of_left_ne_nil hcolumns key
  have hbody : Phrase b.dialect (String.intercalate ", " (definitions ++ key)) :=
    .intercalate (Takes.of_walk rfl) fun item hitem => (hitems item hitem).1
  refine ⟨hvalid, name, definitions, key, hname, hdefinitions, hkey, rfl, ?_,
    items_intercalate hne hitems⟩
  have heq (body : String) : "CREATE TABLE " ++ name ++ " (" ++ body ++ ")" =
      "CREATE TABLE " ++ (name ++ (" " ++ "(" ++ body ++ ")")) :=
    String.toList_injective (by simp)
  rw [heq, bodies_word_append rfl, ident_bodies hname, bodies_word_bracketed rfl hbody]

/-- The definitions and the key are read from the text of the statement. -/
theorem createTable_reads (h : b.createTable table = .ok sql) : b.ReadsTable table sql := by
  obtain ⟨-, name, definitions, key, hname, hdefinitions, hkey, hsql, hbodies, hitems⟩ :=
    createTable_parts h
  exact ⟨name, _, definitions, key, hname, hsql, hbodies, hdefinitions, hitems,
    primaryKeyItem_reads hkey⟩

/-! ## Constraints -/

variable {constraint : ConstraintSpec}

/-- The text that adds a constraint is that of its columns, and for a foreign key of as many columns that
    they refer to, as they are read back. -/
def ReadsConstraint (b : Builder) (constraint : ConstraintSpec) (sql : String) : Prop :=
  ∃ columns, constraint.columns.mapM b.ident = .ok columns ∧
    match constraint.kind with
    | .primaryKey | .unique => (bodies b.dialect sql).map (items b.dialect) = [columns]
    | .foreignKey _ referencedColumns _ =>
      ∃ references, referencedColumns.mapM b.ident = .ok references ∧
        (bodies b.dialect sql).map (items b.dialect) = [columns, references] ∧
        columns.length = references.length

/-- What a constraint states has its columns in brackets, and those that it refers to in further ones. -/
theorem constraintBody_bodies {list body : String} (hlist : Phrase b.dialect list)
    (h : b.constraintBody constraint list = .ok body) :
    match constraint.kind with
    | .primaryKey | .unique => bodies b.dialect body = [list]
    | .foreignKey _ referencedColumns _ =>
      ∃ referencedList, b.identList constraint.name referencedColumns = .ok referencedList ∧
        bodies b.dialect body = [list, referencedList] := by
  unfold constraintBody at h
  cases hkind : constraint.kind with
  | primaryKey =>
    rw [hkind] at h
    cases h
    exact bodies_word_bracketed (s := "PRIMARY KEY ") rfl hlist
  | unique =>
    rw [hkind] at h
    cases h
    exact bodies_word_bracketed (s := "UNIQUE ") rfl hlist
  | foreignKey _ _ cascade =>
    rw [hkind] at h
    obtain ⟨referenced, hreferenced, h⟩ := bind_ok h
    obtain ⟨referencedList, hreferences, h⟩ := bind_ok h
    cases h
    refine ⟨referencedList, hreferences, ?_⟩
    have hcascade : bodies b.dialect (if cascade then " ON DELETE CASCADE" else "") = [] := by
      cases b.dialect <;> split <;> rfl
    generalize (if cascade then " ON DELETE CASCADE" else "") = rest at hcascade ⊢
    have heq : "FOREIGN KEY (" ++ list ++ ") REFERENCES " ++ referenced ++ " (" ++ referencedList ++
        ")" ++ rest = "FOREIGN KEY " ++ ("(" ++ list ++ ")" ++ (" REFERENCES " ++ (referenced ++
          (" " ++ ("(" ++ referencedList ++ ")" ++ rest))))) :=
      String.toList_injective (by simp)
    rw [heq, bodies_word_append rfl, bodies_bracketed hlist, bodies_word_append rfl,
      ident_bodies hreferenced, bodies_word_append rfl,
      bodies_bracketed (identList_phrase hreferences), hcascade]

/-- The columns of a constraint, and what they refer to, are read from the text of the statement. -/
theorem addConstraint_reads (h : b.addConstraint constraint = .ok sql) :
    b.ReadsConstraint constraint sql := by
  obtain ⟨_, hvalid, h⟩ := bind_ok h
  obtain ⟨list, hlist, h⟩ := bind_ok h
  obtain ⟨body, hbody, h⟩ := bind_ok h
  obtain ⟨table, htable, h⟩ := bind_ok h
  obtain ⟨name, hname, h⟩ := bind_ok h
  cases h
  have hbodies : bodies b.dialect
      ("ALTER TABLE " ++ table ++ " ADD CONSTRAINT " ++ name ++ " " ++ body) = bodies b.dialect body := by
    simp only [String.append_assoc]
    rw [bodies_word_append rfl, ident_bodies htable, bodies_word_append rfl, ident_bodies hname,
      bodies_word_append rfl]
  obtain ⟨columns, hcolumns, -, hitems⟩ := identList_items hlist
  have hreads := constraintBody_bodies (identList_phrase hlist) hbody
  refine ⟨columns, hcolumns, ?_⟩
  rw [hbodies]
  cases hkind : constraint.kind with
  | primaryKey | unique =>
    rw [hkind] at hreads
    dsimp only at hreads ⊢
    rw [hreads, List.map_singleton, hitems]
  | foreignKey referenced referencedColumns cascade =>
    rw [hkind] at hreads
    obtain ⟨referencedList, hlist', hreads⟩ := hreads
    obtain ⟨references, hreferences, -, hitems'⟩ := identList_items hlist'
    obtain ⟨-, -, hlength, -⟩ := ConstraintSpec.of_validate hkind hvalid
    refine ⟨references, hreferences, ?_, ?_⟩
    · rw [hreads, List.map_cons, List.map_singleton, hitems, hitems']
    · rw [← (mapM_ok hcolumns).length_eq, hlength, (mapM_ok hreferences).length_eq]

/-- Statements that create tables and add constraints are read back to what they were made for. -/
theorem statements_read_back (b : Builder) :
    (∀ table sql, b.createTable table = .ok sql → b.ReadsTable table sql) ∧
      ∀ constraint sql, b.addConstraint constraint = .ok sql → b.ReadsConstraint constraint sql :=
  ⟨fun _ _ h => createTable_reads h, fun _ _ h => addConstraint_reads h⟩

/-- Writes quoted names as they are given. -/
def quoting (dialect : Dialect) : Builder :=
  ⟨dialect, { quoted := true, case? := some .verbatim }⟩

/-- A table with commas, brackets and quotes in its names and in a default, and a default whose literal
    has a comma itself. -/
def awkwardTable : TableSpec where
  name := "T,("
  columns := [{ name := "A),\"", type := .string, length? := some 3, default? := some (.text "', (") },
    { name := "B", type := .blob, default? := some (.bytes [7]) }]
  primaryKey := ["A),\""]

/-- A foreign key on columns with such names. -/
def awkwardKey : ConstraintSpec :=
  ⟨"T,(", "C", ["A,", "(B"], .foreignKey "R)" ["\"", ","] true⟩

theorem statements_read_back_quoted :
    let created := "CREATE TABLE \"T,(\" (\"A),\"\"\" VARCHAR(3) DEFAULT ''', (', " ++
      "\"B\" BYTEA DEFAULT decode('07', 'hex'), PRIMARY KEY (\"A),\"\"\"))"
    let added := "ALTER TABLE \"T,(\" ADD CONSTRAINT \"C\" FOREIGN KEY (\"A,\", \"(B\") " ++
      "REFERENCES \"R)\" (\"\"\"\", \",\") ON DELETE CASCADE"
    ((quoting .postgres).createTable awkwardTable = .ok created ∧
        (quoting .postgres).ReadsTable awkwardTable created) ∧
      (quoting .postgres).addConstraint awkwardKey = .ok added ∧
        (quoting .postgres).ReadsConstraint awkwardKey added :=
  ⟨⟨rfl, (statements_read_back (quoting .postgres)).1 awkwardTable _ rfl⟩,
    rfl, (statements_read_back (quoting .postgres)).2 awkwardKey _ rfl⟩

end Builder

end SchemaChange
