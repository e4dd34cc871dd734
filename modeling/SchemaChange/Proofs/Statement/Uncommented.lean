import SchemaChange.Proofs.Build.Naming
import SchemaChange.Proofs.Statement.TypeText

/-!
# Comments within a statement

MySQL takes the sign `#` outside of quotes for the beginning of a comment, which goes on to the end of the
line. A statement that shows the sign is therefore not run as a whole (`isCutShort_iff`). Names may hold the
sign, and show it where they are written bare; nothing else that a builder writes of its own does.

* `Builder.Writes`: what is known of a text that names are written into;
* `Builder.Writes.append`, `Builder.Writes.intercalate`: such texts are joined;
* `Builder.ident_writes`, `Builder.literal_writes`, `Builder.nativeType_writes`: the parts of statements.
-/

namespace SchemaChange

variable {d : Dialect}

/-- What is run of a text, from a place on or from within a comment. A comment begins with a `#` outside
    of regions and ends with the line. -/
def uncommented (q : Char) : Bool → Place → List Char → List Char
  | _, _, [] => []
  | true, p, c :: s => if c = '\n' then c :: uncommented q false p s else uncommented q true p s
  | false, p, c :: s =>
    if p.shown q c = some '#' then uncommented q true .outside s
    else c :: uncommented q false (p.next q c) s

/-- Not all of the statement is run. -/
def IsCutShort (d : Dialect) (sql : String) : Prop :=
  uncommented d.quoteChar false .outside sql.toList ≠ sql.toList

instance (d : Dialect) : DecidablePred (IsCutShort d) := fun _ =>
  inferInstanceAs (Decidable (_ ≠ _))

section Uncommented

variable {q : Char} {p : Place} {s : List Char}

theorem length_uncommented_le (inComment : Bool) (p : Place) (s : List Char) :
    (uncommented q inComment p s).length ≤ s.length := by
  induction s generalizing inComment p with
  | nil => rw [uncommented]
  | cons c s ih =>
    cases inComment with
    | true =>
      rw [uncommented]
      split
      · exact Nat.succ_le_succ (ih false p)
      · exact Nat.le_succ_of_le (ih true p)
    | false =>
      rw [uncommented]
      split
      · exact Nat.le_succ_of_le (ih true .outside)
      · exact Nat.succ_le_succ (ih false (p.next q c))

theorem uncommented_eq_self_iff : uncommented q false p s = s ↔ some '#' ∉ p.outer q s := by
  induction s generalizing p with
  | nil => exact iff_of_true rfl List.not_mem_nil
  | cons c s ih =>
    rw [uncommented, Place.outer, List.mem_cons, not_or]
    by_cases hc : p.shown q c = some '#'
    · -- The sign is missing from what is run, and nothing makes up for it.
      rw [if_pos hc]
      refine iff_of_false (fun heq => ?_) fun h => h.1 hc.symm
      have hlength := length_uncommented_le (q := q) true .outside s
      rw [heq, List.length_cons] at hlength
      exact absurd hlength (Nat.not_succ_le_self _)
    · rw [if_neg hc, List.cons.injEq, ih]
      exact ⟨fun h => ⟨Ne.symm hc, h.2⟩, fun h => ⟨rfl, h.2⟩⟩

end Uncommented

theorem isCutShort_iff {sql : String} :
    IsCutShort d sql ↔ some '#' ∈ Place.outside.outer d.quoteChar sql.toList := by
  rw [IsCutShort, ne_eq, uncommented_eq_self_iff, not_not]

theorem not_isCutShort_of_notMem {s : String} (h : '#' ∉ s.toList) : ¬IsCutShort d s := by
  rw [isCutShort_iff]
  intro hmem
  obtain ⟨g, hg, -, hchar⟩ := Place.exists_glyph_of_mem_outer (n := 0) hmem
  exact h (hchar ▸ char_mem hg)

theorem ShowsOnly.not_isCutShort {p : Char → Bool} {s : String} (h : ShowsOnly d p s)
    (hp : p '#' = false) : ¬IsCutShort d s := by
  rw [isCutShort_iff]
  intro hmem
  obtain ⟨g, hg, hshown, hchar⟩ := Place.exists_glyph_of_mem_outer (n := 0) hmem
  rw [← hchar, h g hg hshown] at hp
  cases hp

/-! ## Texts with names in them -/

theorem Place.after_of_isPlain {s : List Char} (h : ∀ c ∈ s, isPlain c = true) :
    outside.after d.quoteChar s = outside := by
  induction s with
  | nil => rfl
  | cons c s ih =>
    obtain ⟨hc, hs⟩ := List.forall_mem_cons.1 h
    have hnext : outside.next d.quoteChar c = outside := opened_of_isPlain hc
    rw [after, List.foldl_cons, hnext]
    exact ih hs

/-- Words that hold neither quotes nor the sign. -/
def isCalm (w : List Char) : Bool :=
  w.all fun c => isPlain c && c != '#'

namespace Builder

variable {b : Builder} {names names' : List String} {s t : String} {w : List Char}

/-- The name is written bare, and holds the sign. -/
def ShowsSign (b : Builder) (name : String) : Prop :=
  b.options.quoted = false ∧ '#' ∈ name.toList

/-- A text that ends outside of regions, and shows the sign just if one of the names does that are
    written into it. -/
structure Writes (b : Builder) (names : List String) (s : String) : Prop where
  closed : ∀ r, Place.after b.dialect.quoteChar .outside s.toList ≠ .inside r
  isCutShort_iff : IsCutShort b.dialect s ↔ ∃ name ∈ names, b.ShowsSign name

namespace Writes

theorem not_isCutShort (h : b.Writes [] s) : ¬IsCutShort b.dialect s :=
  fun hcut => (h.isCutShort_iff.1 hcut).elim nofun

/-- What a text shows and what follows it are told apart. -/
theorem isCutShort_append_iff (h : b.Writes names s) :
    IsCutShort b.dialect (s ++ t) ↔
      (∃ name ∈ names, b.ShowsSign name) ∨ IsCutShort b.dialect t := by
  have hopened := Place.isOpened_after b.dialect.quoteChar s.toList
  rw [← h.isCutShort_iff]
  simp only [SchemaChange.isCutShort_iff]
  rw [String.toList_append, Place.outer_append, Place.outer_of_isOpened hopened h.closed,
    List.mem_append]

theorem append (h : b.Writes names s) (h' : b.Writes names' t) : b.Writes (names ++ names') (s ++ t) where
  closed := by
    by_cases ht : t.toList = []
    · rw [String.toList_append, ht, List.append_nil]
      exact h.closed
    · have hopened := Place.isOpened_after b.dialect.quoteChar s.toList
      rw [String.toList_append, Place.after_append, Place.after_of_isOpened hopened h.closed ht]
      exact h'.closed
  isCutShort_iff := by
    rw [h.isCutShort_append_iff, h'.isCutShort_iff]
    simp only [List.mem_append, or_and_right, exists_or]

/-- A part of a statement that shows no names. -/
theorem of_contained (hs : Contained b.dialect.quoteChar s) (h : ¬IsCutShort b.dialect s) :
    b.Writes [] s :=
  ⟨hs.closed, iff_of_false h nofun⟩

theorem plain (h : ∀ c ∈ s.toList, isPlain c = true) (hsign : '#' ∉ s.toList) : b.Writes [] s where
  closed := by
    rw [Place.after_of_isPlain h]
    exact nofun
  isCutShort_iff := iff_of_false (not_isCutShort_of_notMem hsign) nofun

theorem words (hw : isCalm w = true) : b.Writes [] (String.ofList w) := by
  have hcalm : ∀ c ∈ (String.ofList w).toList, isPlain c = true ∧ c ≠ '#' := fun c hc => by
    rw [String.toList_ofList] at hc
    simpa using List.all_eq_true.1 hw c hc
  exact plain (fun c hc => (hcalm c hc).1) fun hsign => (hcalm _ hsign).2 rfl

/-- A statement begins with words and a part. -/
theorem begins (hw : isCalm w = true) (h : b.Writes names s) : b.Writes names (String.ofList w ++ s) :=
  append (words hw) h

/-- A statement ends with words. -/
theorem ends (h : b.Writes names s) (hw : isCalm w = true) : b.Writes names (s ++ String.ofList w) := by
  rw [← List.append_nil names]
  exact h.append (words hw)

/-- A statement goes on with words and a part. -/
theorem clause (h : b.Writes names s) (hw : isCalm w = true) (h' : b.Writes names' t) :
    b.Writes (names ++ names') (s ++ String.ofList w ++ t) :=
  (h.ends hw).append h'

theorem intercalate {lists : List (List String)} {xs : List String} (hw : isCalm w = true)
    (h : List.Forall₂ b.Writes lists xs) :
    b.Writes lists.flatten (String.intercalate (String.ofList w) xs) := by
  induction h with
  | nil => exact words (w := []) rfl
  | @cons names x lists xs hx hxs ih =>
    cases hxs with
    | nil =>
      rw [String.intercalate_singleton, List.flatten_singleton]
      exact hx
    | cons hy hys =>
      rw [String.intercalate_cons_cons, List.flatten_cons]
      exact (hx.ends hw).append ih

/-- A list of parts without names. -/
theorem intercalate_of_forall {xs : List String} (hw : isCalm w = true) (h : ∀ x ∈ xs, b.Writes [] x) :
    b.Writes [] (String.intercalate (String.ofList w) xs) := by
  have hlists : List.Forall₂ b.Writes (xs.map fun _ => []) xs :=
    List.forall₂_map_left_iff.2 (List.forall₂_same.2 h)
  have hnone : (xs.map fun _ => ([] : List String)).flatten = [] := by
    simp
  rw [← hnone]
  exact .intercalate hw hlists

/-- The parts that a list is made of, each with the names of the element in its place. -/
theorem of_mapM {α : Type} {f : α → Except BuildError String} {g : α → List String}
    (hf : ∀ {a x}, f a = .ok x → b.Writes (g a) x) {as : List α} {xs : List String}
    (h : as.mapM f = .ok xs) : List.Forall₂ b.Writes (as.map g) xs :=
  List.forall₂_map_left_iff.2 ((mapM_ok h).imp fun _ _ => hf)

end Writes

/-! ## Parts of statements -/

variable {name written : String}

/-- A quoted name shows the points between its parts only. -/
theorem ident_showsOnly_of_quoted (hquoted : b.options.quoted = true) (h : b.ident name = .ok written) :
    ShowsOnly b.dialect (· == '.') written := by
  rw [ident_eq_intercalate hquoted h]
  refine .intercalate (Phrase.text (s := ['.']) rfl (.inl rfl)).contained (.of_forall (by simp))
    (List.forall_mem_map.2 fun part _ => ⟨?_, .quoted (.inr rfl) _ _⟩)
  exact Phrase.contained (Takes.quoted (.inr rfl) _)

/-- A bare name has points between its parts. -/
theorem isNameChar_of_bareParts (h : ∀ part ∈ nameParts name, isBareName part.toList = true) :
    ∀ c ∈ name.toList, isNameChar c = true ∨ c = '.' := by
  intro c hc
  by_cases hpoint : c = '.'
  · exact .inr hpoint
  · obtain ⟨part, hpart, hmem⟩ := (Text.exists_mem_splitOn_iff hpoint).2 hc
    have hbare := h (String.ofList part) (List.mem_map_of_mem hpart)
    rw [String.toList_ofList] at hbare
    exact .inl (isNameChar_of_isBareName hbare c hmem)

/-- A bare name is plain, with the points between its parts. -/
theorem isPlain_of_bareParts (h : ∀ part ∈ nameParts name, isBareName part.toList = true) :
    ∀ c ∈ name.toList, isPlain c = true := by
  intro c hc
  rcases isNameChar_of_bareParts h c hc with hname | rfl
  · exact (Bool.and_eq_true_iff.1 (isWordChar_of (p := isNameChar) (by decide) hname)).1
  · rfl

/-- A name shows the sign if it is written bare and holds it. -/
theorem ident_writes (h : b.ident name = .ok written) : b.Writes [name] written := by
  refine ⟨(ident_phrase h).contained.closed, ?_⟩
  simp only [List.mem_singleton, exists_eq_left]
  cases hquoted : b.options.quoted with
  | true =>
    refine iff_of_false ((ident_showsOnly_of_quoted hquoted h).not_isCutShort rfl) fun hname => ?_
    exact Bool.false_ne_true (hname.1.symm.trans hquoted)
  | false =>
    obtain ⟨hparts, rfl⟩ := (ident_of_bare hquoted).1 h
    rw [isCutShort_iff, Place.outer_eq_map_of_isPlain (isPlain_of_bareParts hparts), ShowsSign, hquoted]
    simp

theorem identList_writes {owner : String} (h : b.identList owner names = .ok written) :
    b.Writes names written := by
  rw [identList] at h
  obtain ⟨-, h⟩ := unless_ok h
  obtain ⟨_, -, h⟩ := bind_ok h
  obtain ⟨columns, hcolumns, h⟩ := bind_ok h
  cases h
  have hlist : b.Writes (names.map ([·])).flatten (String.intercalate ", " columns) :=
    .intercalate rfl (Writes.of_mapM ident_writes hcolumns)
  rwa [← List.flatMap_def, List.flatMap_singleton'] at hlist

/-- Numbers do not show the sign. -/
theorem Writes.number (hs : Contained b.dialect.quoteChar s)
    (h : ∀ c ∈ s.toList, isNumberChar c = true) : b.Writes [] s :=
  of_contained hs (not_isCutShort_of_notMem (notMem_of_isNumberChar h rfl))

theorem Writes.textLiteral (text : String) : b.Writes [] (Dialect.textLiteral text) :=
  of_contained (Dialect.textLiteral_phrase text).contained
    ((ShowsOnly.quoted (.inl rfl) (fun _ => false) _).not_isCutShort rfl)

theorem bytesLiteral_writes (bs : List UInt8) : b.Writes [] (b.dialect.bytesLiteral bs) := by
  rw [Dialect.bytesLiteral_eq]
  extract_lets hex
  have hhex : b.Writes [] hex := .textLiteral _
  clear_value hex
  split
  · exact .begins (w := "HEXTORAW".toList) rfl (.ends (.begins (w := ['(']) rfl hhex) rfl)
  · have hencoding : b.Writes [] ", 'hex'" := .begins (w := ", ".toList) rfl (.textLiteral "hex")
    exact .begins (w := "decode".toList) rfl
      (.ends (.begins (w := ['(']) rfl (hhex.append hencoding)) rfl)
  all_goals exact .begins (w := ['X']) rfl hhex

theorem timestampLiteral_writes (t : Timestamp) : b.Writes [] (b.dialect.timestampLiteral t) := by
  have htext := Writes.textLiteral (b := b) t.text
  rw [Dialect.timestampLiteral_eq]
  split
  · exact .begins (w := "TIMESTAMP".toList) rfl (.ends (.begins (w := ['(']) rfl htext) rfl)
  · exact htext
  all_goals exact .begins (w := "TIMESTAMP ".toList) rfl htext

/-- No literal shows the sign. -/
theorem literal_writes {value : Value} (h : b.literal value = .ok written) : b.Writes [] written := by
  have hcontained := (literal_phrase h).contained
  unfold literal at h
  split at h
  · rename_i hliteral
    cases h
    cases value with
    | null =>
      cases hliteral
      exact .words (w := "NULL".toList) rfl
    | bool v =>
      cases hliteral
      refine .of_contained hcontained (not_isCutShort_of_notMem ?_)
      unfold Dialect.boolLiteral
      split <;> split <;> decide
    | int32 n | int64 n =>
      cases hliteral
      exact .number hcontained (Value.isNumberChar_intText _)
    | float64 x =>
      rw [Dialect.literal?] at hliteral
      split at hliteral
      · cases hliteral
        exact .number hcontained x.isNumberChar_text
      · cases hliteral
    | decimal text =>
      rw [Dialect.literal?, Dialect.decimalLiteral?] at hliteral
      split at hliteral
      · cases hliteral
        refine .number hcontained ?_
        rw [String.toList_ofList]
        exact Binary64.isNumberChar_of_read? ‹_›
      · cases hliteral
    | text v =>
      cases hliteral
      exact .textLiteral v
    | bytes bs =>
      cases hliteral
      exact bytesLiteral_writes bs
    | timestamp t =>
      cases hliteral
      exact timestampLiteral_writes t
  · cases h

theorem defaultClause_writes {default? : Option Value} (h : b.defaultClause default? = .ok written) :
    b.Writes [] written := by
  cases default? with
  | none =>
    cases h
    exact .words (w := []) rfl
  | some value =>
    obtain ⟨text, htext, h⟩ := bind_ok h
    cases h
    exact .begins rfl (literal_writes htext)

/-- A type that is accepted does not hold the sign. -/
theorem isTypeText_writes (h : isTypeText s = true) : b.Writes [] s := by
  refine .plain (isPlain_of_isTypeText h) fun hsign => ?_
  cases List.all_eq_true.1 (Bool.and_eq_true_iff.1 h).2 _ hsign

theorem nativeType_writes {column : ColumnSpec} (h : b.nativeType column = .ok written) :
    b.Writes [] written :=
  isTypeText_writes (nativeType_isTypeName h).1

theorem columnDefinition_writes {column : ColumnSpec} (h : b.columnDefinition column = .ok written) :
    b.Writes [column.name] written := by
  obtain ⟨name, hname, h⟩ := bind_ok h
  obtain ⟨typeName, htype, h⟩ := bind_ok h
  obtain ⟨default, hdefault, h⟩ := bind_ok h
  cases h
  have hnull : b.Writes [] (if column.nullable then "" else " NOT NULL") := by
    split <;> exact .words rfl
  exact (ident_writes hname).clause rfl (nativeType_writes htype) |>.append (defaultClause_writes hdefault)
    |>.append hnull

theorem placeholder_writes (b : Builder) (i : Nat) : b.Writes [] (b.dialect.placeholder i) := by
  obtain ⟨digits, hdigits, heq⟩ := b.dialect.placeholder_eq i
  refine .of_contained (Dialect.placeholder_phrase i).contained (not_isCutShort_of_notMem ?_)
  rw [heq, String.toList_ofList, List.mem_cons, not_or]
  exact ⟨by cases b.dialect <;> decide, fun hsign => nomatch hdigits _ hsign⟩

end Builder

end SchemaChange
