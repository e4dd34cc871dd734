import SchemaChange.Proofs.Course.Statement
import SchemaChange.Proofs.Statement.Definition

/-!
# Marks and the values bound to them

A statement with values has a mark for each of them. The marks are read off its text (`marks`): outside
of regions, a mark begins with a sign of the dialect that no name goes on with.

* `marks_append`: the marks of a text are those of its parts;
* `Builder.ident_marks`: names have none, although a bare name may hold the sign itself;
* `comparisons`: which column is set or compared to which mark;
* `Builder.WritesBack`, `Builder.writesBack_of_row`: what an update binds to which column;
* `Builder.applyCopy_writes`: the updates of a copy belong to the rows with a source, one for one;
* `Builder.marks_meet_values`: values and marks line up.
-/

namespace SchemaChange

open Glyph (top)

/-- The sign that marks begin with. -/
def Dialect.markSign : Dialect → Char
  | postgres => '$'
  | oracle => ':'
  | mySql | derby | generic => '?'

/-- The marks among characters, each a sign and the digits behind it. Where the sign may occur in names,
    it begins a mark unless it goes on with a name. -/
def marksIn (sign : Char) : Bool → List (Option Char) → List String
  | _, [] => []
  | inName, c :: s =>
    let rest := marksIn sign (c.any isNameChar) s
    if c = some sign ∧ ¬(inName = true ∧ isNameChar sign = true) then
      String.ofList (sign :: ((s.takeWhile (·.any Char.isDigit)).filterMap id)) :: rest
    else rest

/-- The marks of a text, from left to right. -/
def marks (d : Dialect) (text : String) : List String :=
  marksIn d.markSign false (Place.outer d.quoteChar .outside text.toList)

/-- The pairs of words with an equality sign between them. -/
def comparisonsIn : List String → List (String × String)
  | left :: sign :: right :: rest =>
    if sign = "=" then (left, right) :: comparisonsIn rest else comparisonsIn (sign :: right :: rest)
  | _ => []

/-- What is set or compared to what in a text, from left to right. -/
def comparisons (d : Dialect) (text : String) : List (String × String) :=
  comparisonsIn (words d text)

/-! ## Outer characters -/

namespace Place

variable {q : Char} {p : Place} {s t : List Char}

/-- The outer characters of a text and of one behind it, from the place where the first one ends. -/
theorem outer_append : p.outer q (s ++ t) = p.outer q s ++ (p.after q s).outer q t := by
  induction s generalizing p with
  | nil => rfl
  | cons c s ih => exact congrArg (_ :: ·) ih

theorem outer_of_isOpened (h : p.IsOpened q) (hclosed : ∀ r, p ≠ inside r) :
    p.outer q s = outside.outer q s := by
  cases s with
  | nil => rfl
  | cons c s =>
    have hnext : p.next q c = outside.next q c := next_of_isOpened h hclosed c
    simp only [outer, shown, hnext]

theorem exists_glyph_of_mem_outer {n : Nat} {c : Char} (h : some c ∈ p.outer q s) :
    ∃ g ∈ p.glyphs q n s, g.shown = true ∧ g.char = c := by
  induction s generalizing p n with
  | nil => cases h
  | cons b s ih =>
    rw [outer] at h
    rw [glyphs]
    rcases List.mem_cons.1 h with h | h
    · refine ⟨_, List.mem_cons_self, ?_⟩
      have hb : b = c := by
        rw [shown] at h
        split at h <;> cases h
        rfl
      exact ⟨by rw [← h]; rfl, hb⟩
    · obtain ⟨g, hg, hgc⟩ := ih h
      exact ⟨g, List.mem_cons_of_mem _ hg, hgc⟩

/-- Plain characters are all outer ones. -/
theorem outer_of_isPlain {d : Dialect} (h : ∀ c ∈ s, isPlain c = true) :
    outside.outer d.quoteChar (s ++ t) = s.map some ++ outside.outer d.quoteChar t := by
  induction s with
  | nil => rfl
  | cons c s ih =>
    obtain ⟨hc, hs⟩ := List.forall_mem_cons.1 h
    have hnext : outside.next d.quoteChar c = outside := opened_of_isPlain hc
    rw [List.cons_append, outer, shown, hnext, if_pos rfl, ih hs]
    rfl

theorem outer_eq_map_of_isPlain {d : Dialect} (h : ∀ c ∈ s, isPlain c = true) :
    outside.outer d.quoteChar s = s.map some := by
  have houter := outer_of_isPlain (d := d) (t := []) h
  rwa [List.append_nil, outer, List.append_nil] at houter

end Place

variable {d : Dialect} {s t w : String}

/-- Behind a contained text the outer characters are those of the rest by itself. -/
theorem Contained.outer_append (hs : Contained d.quoteChar s) :
    Place.outside.outer d.quoteChar (s ++ t).toList =
      Place.outside.outer d.quoteChar s.toList ++ Place.outside.outer d.quoteChar t.toList := by
  have hopened := Place.isOpened_after d.quoteChar s.toList
  rw [String.toList_append, Place.outer_append, Place.outer_of_isOpened hopened hs.closed]

/-! ## Marks -/

theorem Text.isAlphanumeric_of_isDigit {c : Char} (h : c.isDigit = true) :
    isAlphanumeric c = true := by
  have hsmall : c.toNat < 128 := Nat.lt_of_le_of_lt (Char.isDigit_iff_toNat.1 h).2 (by decide)
  simp [isAlphanumeric, isNumeric, hsmall, h]

theorem isNameChar_of_isDigit {c : Char} (h : c.isDigit = true) : isNameChar c = true := by
  simp [isNameChar, Text.isAlphanumeric_of_isDigit h]

section MarksIn

variable {sign : Char} {inName : Bool} {c : Option Char} {xs ys : List (Option Char)}

/-- What is neither part of a name nor the sign of a mark sets marks apart. -/
theorem marksIn_append (hc : c.any isNameChar = false) (hsign : c ≠ some sign) :
    marksIn sign inName (xs ++ c :: ys) = marksIn sign inName xs ++ marksIn sign false ys := by
  have hdigit : c.any Char.isDigit = false := by
    cases c with
    | none => rfl
    | some c => exact Bool.eq_false_iff.2 fun h => Bool.eq_false_iff.1 hc (isNameChar_of_isDigit h)
  have hdigits : ∀ xs : List (Option Char),
      (xs ++ c :: ys).takeWhile (·.any Char.isDigit) = xs.takeWhile (·.any Char.isDigit) := by
    intro xs
    induction xs with
    | nil => simp [hdigit]
    | cons x xs ih => simp only [List.cons_append, List.takeWhile_cons, ih]
  induction xs generalizing inName with
  | nil =>
    rw [List.nil_append, marksIn, marksIn, if_neg fun h => hsign h.1, hc]
    rfl
  | cons x xs ih =>
    rw [List.cons_append, marksIn, marksIn, ih, hdigits]
    split <;> rfl

/-- Where the sign does not stand outside of regions, there is no mark. -/
theorem marksIn_of_notMem (h : some sign ∉ xs) : marksIn sign inName xs = [] := by
  induction xs generalizing inName with
  | nil => rfl
  | cons x xs ih =>
    obtain ⟨hx, hxs⟩ := not_or.1 (List.mem_cons.not.1 h)
    rw [marksIn, if_neg fun hsign => hx hsign.1.symm, ih hxs]

end MarksIn

/-- Words that hold neither quotes nor signs of marks, and end with no part of a name. -/
def isLead (w : List Char) : Bool :=
  w.all (fun c => isPlain c && !(['$', ':', '?'].contains c)) && w.getLast?.all (!isNameChar ·)

/-- Words that also begin with no part of a name. -/
def isGlue (w : List Char) : Bool :=
  isLead w && w.head?.any (!isNameChar ·)

theorem isPlain_of_isLead {w : List Char} (h : isLead w = true) : ∀ c ∈ w, isPlain c = true := by
  intro c hc
  have hall := List.all_eq_true.1 (Bool.and_eq_true_iff.1 h).1 c hc
  exact (Bool.and_eq_true_iff.1 hall).1

theorem markSign_notMem {w : List Char} (h : isLead w = true) : d.markSign ∉ w := by
  intro hc
  have hall := List.all_eq_true.1 (Bool.and_eq_true_iff.1 h).1 _ hc
  have hsign := (Bool.and_eq_true_iff.1 hall).2
  cases d <;> cases hsign

theorem some_markSign_notMem {w : List Char} (h : d.markSign ∉ w) : some d.markSign ∉ w.map some := by
  simpa using h

/-- A word in front of a text adds no mark and takes none away. -/
theorem marksIn_lead {w : List Char} (h : isLead w = true) (xs : List (Option Char)) :
    marksIn d.markSign false (w.map some ++ xs) = marksIn d.markSign false xs := by
  have hsign := markSign_notMem (d := d) h
  rcases List.eq_nil_or_concat w with rfl | ⟨w, c, rfl⟩
  · rfl
  · have hlast := (Bool.and_eq_true_iff.1 h).2
    rw [List.concat_eq_append, List.mem_append, not_or, List.mem_singleton] at hsign
    rw [List.concat_eq_append, List.getLast?_concat] at hlast
    rw [List.concat_eq_append, List.map_append, List.append_assoc, List.map_singleton,
      List.singleton_append, marksIn_append (by simpa using hlast) (by simpa using Ne.symm hsign.2),
      marksIn_of_notMem (some_markSign_notMem hsign.1), List.nil_append]

theorem isLead_tail {c : Char} {w : List Char} (h : isLead (c :: w) = true) : isLead w = true := by
  obtain ⟨hall, hlast⟩ := Bool.and_eq_true_iff.1 h
  refine Bool.and_eq_true_iff.2 ⟨(Bool.and_eq_true_iff.1 hall).2, ?_⟩
  cases w with
  | nil => rfl
  | cons b w => rwa [List.getLast?_cons_cons] at hlast

/-- A text may begin with words. -/
theorem marks_lead {w : List Char} (hw : isLead w = true) :
    marks d (String.ofList w ++ t) = marks d t := by
  rw [marks, String.toList_append, String.toList_ofList,
    Place.outer_of_isPlain (isPlain_of_isLead hw), marksIn_lead hw, marks]

/-- The marks on either side of words. -/
theorem marks_append {w : List Char} (hs : Contained d.quoteChar s) (hw : isGlue w = true) :
    marks d (s ++ (String.ofList w ++ t)) = marks d s ++ marks d t := by
  obtain ⟨hlead, hhead⟩ := Bool.and_eq_true_iff.1 hw
  have hsign := markSign_notMem (d := d) hlead
  rw [marks, hs.outer_append, String.toList_append, String.toList_ofList,
    Place.outer_of_isPlain (isPlain_of_isLead hlead)]
  cases w with
  | nil => cases hhead
  | cons c rest =>
    have hne : d.markSign ≠ c := (not_or.1 (List.mem_cons.not.1 hsign)).1
    rw [List.map_cons, List.cons_append,
      marksIn_append (by simpa using hhead) (by simpa using hne.symm),
      marksIn_lead (isLead_tail hlead), marks, marks]

/-! ## Names, marks and lists of them -/

/-- Texts that are joined have the marks of each, one after the other. -/
theorem marks_intercalate {xs : List String} {w : List Char} (hw : isGlue w = true)
    (h : ∀ x ∈ xs, Contained d.quoteChar x) :
    marks d (String.intercalate (String.ofList w) xs) = xs.flatMap (marks d) := by
  induction xs with
  | nil => rfl
  | cons x xs ih =>
    obtain ⟨hx, hxs⟩ := List.forall_mem_cons.1 h
    cases xs with
    | nil => simp
    | cons y ys =>
      rw [String.intercalate_cons_cons, String.append_assoc, marks_append hx hw, ih hxs]
      rfl

/-- In a bare name the sign is part of the name. -/
theorem marksIn_name {s : List Char} (h : ∀ c ∈ s, isNameChar c = true) :
    marksIn d.markSign true (s.map some) = [] := by
  induction s with
  | nil => rfl
  | cons c s ih =>
    obtain ⟨hc, hs⟩ := List.forall_mem_cons.1 h
    have hsign : ¬(some c = some d.markSign ∧ ¬(true = true ∧ isNameChar d.markSign = true)) := by
      rintro ⟨hc', hname⟩
      obtain rfl := Option.some.inj hc'
      exact hname ⟨rfl, hc⟩
    rw [List.map_cons, marksIn, if_neg hsign, Option.any_some, hc, ih hs]

theorem marks_bare {s : String} (h : isBareName s.toList = true) : marks d s = [] := by
  have hplain : ∀ c ∈ s.toList, isPlain c = true := fun c hc =>
    (Bool.and_eq_true_iff.1 (isWordChar_of_isBareName h c hc)).1
  have hname := isNameChar_of_isBareName h
  rw [marks, Place.outer_eq_map_of_isPlain hplain]
  cases hs : s.toList with
  | nil => rfl
  | cons c rest =>
    rw [hs] at hname h
    obtain ⟨hc, hrest⟩ := List.forall_mem_cons.1 hname
    have hsign : c ≠ d.markSign := by
      rintro rfl
      have hfirst := (Bool.and_eq_true_iff.1 h).1
      cases d <;> exact Bool.false_ne_true hfirst
    rw [List.map_cons, marksIn, if_neg fun h => hsign (Option.some.inj h.1), Option.any_some, hc,
      marksIn_name hrest]

/-- What is quoted holds no mark. -/
theorem marks_quoted {r : Char} (hr : r = '\x27' ∨ r = d.quoteChar) (s : List Char) :
    marks d (String.ofList (Text.quoted r s)) = [] := by
  refine marksIn_of_notMem fun h => ?_
  obtain ⟨g, hg, hshown, -⟩ := Place.exists_glyph_of_mem_outer (n := 0) h
  cases ShowsOnly.quoted hr (fun _ => false) s g hg hshown

/-- Names have no marks. -/
theorem Builder.ident_marks {b : Builder} {name written : String} (h : b.ident name = .ok written) :
    marks b.dialect written = [] := by
  obtain ⟨parts, rfl, -, hparts⟩ := b.ident_parts h
  rw [marks_intercalate rfl fun part hpart => (hparts part hpart).phrase.contained,
    List.flatMap_eq_nil_iff]
  intro part hpart
  rcases hparts part hpart with ⟨s, rfl⟩ | hbare
  · exact marks_quoted (.inr rfl) s
  · exact marks_bare hbare

/-- A mark is the sign, and where the dialect numbers its marks the number. -/
theorem Dialect.placeholder_eq (d : Dialect) (i : Nat) :
    ∃ s, (∀ c ∈ s, c.isDigit = true) ∧ d.placeholder i = String.ofList (d.markSign :: s) := by
  have hdigits : ∀ c ∈ Nat.toDigits 10 i, c.isDigit = true := fun c hc =>
    isDigit_of_mem_toDigits hc
  cases d with
  | postgres | oracle =>
    exact ⟨_, hdigits, String.toList_injective (by simp [placeholder, markSign])⟩
  | mySql | derby | generic => exact ⟨[], nofun, rfl⟩

/-- A placeholder is one mark. -/
theorem Dialect.marks_placeholder (d : Dialect) (i : Nat) :
    marks d (d.placeholder i) = [d.placeholder i] := by
  obtain ⟨s, hs, heq⟩ := d.placeholder_eq i
  have hplain : ∀ c ∈ d.markSign :: s, isPlain c = true := by
    refine List.forall_mem_cons.2 ⟨by cases d <;> rfl, fun c hc => ?_⟩
    exact (Bool.and_eq_true_iff.1 (isWordChar_of_isDigit (hs c hc))).1
  have hsign : d.markSign ∉ s := by
    intro h
    have hdigit := hs _ h
    cases d <;> exact Bool.false_ne_true hdigit
  have hall : (s.map some).takeWhile (·.any Char.isDigit) = s.map some :=
    List.takeWhile_eq_self_iff.2 (by simpa using hs)
  rw [heq, marks, String.toList_ofList, Place.outer_eq_map_of_isPlain hplain, List.map_cons, marksIn,
    if_pos ⟨rfl, nofun⟩, hall, marksIn_of_notMem (some_markSign_notMem hsign)]
  simp

/-! ## Statements with values -/

/-- The marks of a statement number its values. -/
def Statement.IsNumbered (d : Dialect) (statement : Statement) : Prop :=
  marks d statement.sql = (List.range' 1 statement.params.length).map d.placeholder

namespace Builder

variable {b : Builder} {table column : String} {statement : Statement}

/-- The placeholders count up from the first one. -/
theorem placeholders_eq_map (b : Builder) (i n : Nat) :
    b.placeholders i n = (List.range' i n).map b.dialect.placeholder := by
  induction n generalizing i with
  | zero => rfl
  | succ n ih => rw [placeholders, List.range'_succ, List.map_cons, ih]

theorem placeholders_length (b : Builder) (i n : Nat) : (b.placeholders i n).length = n := by
  rw [placeholders_eq_map, List.length_map, List.length_range']

theorem flatMap_marks_placeholders (b : Builder) (i n : Nat) :
    (b.placeholders i n).flatMap (marks b.dialect) = b.placeholders i n := by
  induction n generalizing i with
  | zero => rfl
  | succ n ih =>
    rw [placeholders, List.flatMap_cons, b.dialect.marks_placeholder, ih]
    rfl

/-- A list of names holds no mark. -/
theorem identList_marks {owner written : String} {names : List String}
    (h : b.identList owner names = .ok written) : marks b.dialect written = [] := by
  rw [identList] at h
  obtain ⟨-, h⟩ := unless_ok h
  obtain ⟨_, -, h⟩ := bind_ok h
  obtain ⟨columns, hcolumns, h⟩ := bind_ok h
  cases h
  rw [marks_intercalate rfl fun name hname =>
    (forall_of_mapM_ok ident_phrase hcolumns name hname).contained, List.flatMap_eq_nil_iff]
  exact forall_of_mapM_ok ident_marks hcolumns

/-- A mark has no comma and no blank. -/
theorem placeholder_notMem {c : Char} (hc : c = ',' ∨ c = ' ') (i : Nat) :
    top c ∉ view b.dialect (b.dialect.placeholder i) := by
  obtain ⟨s, hs, heq⟩ := b.dialect.placeholder_eq i
  refine top_notMem_of_notMem ?_
  rw [heq, String.toList_ofList, List.mem_cons, not_or]
  constructor
  · rcases hc with rfl | rfl <;> cases b.dialect <;> decide
  · intro h
    rcases hc with rfl | rfl <;> cases hs _ h

/-- The columns of a row that is inserted, and the marks of its values, are read back in their order. -/
def InsertsValues (b : Builder) (columns : List String) (values : List Value)
    (statement : Statement) : Prop :=
  statement.IsNumbered b.dialect ∧ statement.params = values ∧
    ∃ names, columns.mapM b.ident = .ok names ∧ names.length = values.length ∧
      (bodies b.dialect statement.sql).map (items b.dialect) =
        [names, marks b.dialect statement.sql]

theorem insertRow_insertsValues {columns : List String} {values : List Value}
    (h : b.insertRow table columns values = .ok statement) :
    b.InsertsValues columns values statement := by
  rw [insertRow] at h
  obtain ⟨hlength, h⟩ := unless_ok h
  obtain ⟨tableName, htable, h⟩ := bind_ok h
  obtain ⟨list, hlist, h⟩ := bind_ok h
  cases h
  obtain ⟨names, hnames, hne, hitems⟩ := identList_items hlist
  have hmark := b.placeholders_phrase 1 values.length
  have hmarks : Phrase b.dialect (String.intercalate ", " (b.placeholders 1 values.length)) :=
    .intercalate (Takes.of_walk rfl) hmark
  have hsql : marks b.dialect ("INSERT INTO " ++ tableName ++ " (" ++ list ++ ") VALUES (" ++
      String.intercalate ", " (b.placeholders 1 values.length) ++ ")") =
        b.placeholders 1 values.length := by
    have hend : ")" = ")" ++ "" := rfl
    simp only [String.append_assoc]
    rw [marks_lead rfl, marks_append (ident_phrase htable).contained rfl, ident_marks htable,
      List.nil_append, marks_append (identList_phrase hlist).contained rfl, identList_marks hlist,
      List.nil_append, hend, marks_append hmarks.contained rfl,
      marks_intercalate rfl fun mark h => (hmark mark h).contained, flatMap_marks_placeholders]
    exact List.append_nil _
  have hnamesLength : names.length = values.length := by
    rw [← (mapM_ok hnames).length_eq, not_not.1 hlength]
  have hmarksNe : b.placeholders 1 values.length ≠ [] := by
    rw [← List.length_pos_iff, placeholders_length, ← hnamesLength]
    exact List.length_pos_iff.2 hne
  refine ⟨hsql.trans (b.placeholders_eq_map 1 _), rfl, names, hnames, hnamesLength, ?_⟩
  have heq (written : String) : "INSERT INTO " ++ tableName ++ " (" ++ list ++ ") VALUES (" ++ written ++
      ")" = "INSERT INTO " ++ (tableName ++ (" " ++ ("(" ++ list ++ ")" ++ (" VALUES " ++
        ("(" ++ written ++ ")" ++ ""))))) :=
    String.toList_injective (by simp)
  rw [hsql, heq, bodies_word_append rfl, ident_bodies htable, bodies_word_append rfl,
    bodies_bracketed (identList_phrase hlist), bodies_word_append rfl, bodies_bracketed hmarks,
    bodies_nil, List.map_cons, List.map_singleton, hitems,
    items_intercalate hmarksNe fun mark h => ⟨hmark mark h, ?_⟩]
  rw [placeholders_eq_map] at h
  obtain ⟨i, -, rfl⟩ := List.mem_map.1 h
  exact placeholder_notMem (.inl rfl) i

theorem whereClause_of_isBlankText {condition? : Option String}
    (h : ∀ text ∈ condition?, Text.isBlankText text = true) : whereClause condition? = "" := by
  cases condition? with
  | none => rfl
  | some text =>
    have hstart : Text.trimStart text.toList = [] :=
      List.dropWhile_eq_nil_iff.2 (List.all_eq_true.1 (h text rfl))
    rw [whereClause, Text.trim, hstart]
    rfl

theorem updateColumn_isNumbered {value : Value} {condition? : Option String}
    (hcondition : ∀ text ∈ condition?, Text.isBlankText text = true)
    (h : b.updateColumn table column value condition? = .ok statement) :
    statement.IsNumbered b.dialect ∧ statement.params = [value] := by
  obtain ⟨tableName, htable, h⟩ := bind_ok h
  obtain ⟨columnName, hcolumn, h⟩ := bind_ok h
  cases h
  refine ⟨?_, rfl⟩
  rw [Statement.IsNumbered, whereClause_of_isBlankText hcondition]
  simp only [String.append_assoc, String.append_empty]
  rw [marks_lead rfl, marks_append (ident_phrase htable).contained rfl, ident_marks htable,
    List.nil_append, marks_append (ident_phrase hcolumn).contained rfl, ident_marks hcolumn,
    List.nil_append, b.dialect.marks_placeholder]
  rfl

theorem constraintNames_isNumbered {catalog? : Option String}
    (h : b.constraintNames table catalog? = .ok statement) : statement.IsNumbered b.dialect := by
  rw [constraintNames] at h
  split at h
  · cases h
  · have hone := b.dialect.marks_placeholder 1
    have hcontained (i : Nat) : Contained b.dialect.quoteChar (b.dialect.placeholder i) :=
      (Dialect.placeholder_phrase i).contained
    have hlast (i : Nat) :
        marks b.dialect (b.dialect.placeholder i ++ ")") = [b.dialect.placeholder i] := by
      have happend := marks_append (w := [')']) (t := "") (hcontained i) rfl
      rwa [b.dialect.marks_placeholder] at happend
    cases h
    unfold Statement.IsNumbered
    -- Long texts are read in the two parts in which they are written.
    split <;> simp only [String.append_assoc]
    · rw [marks_lead rfl, hone]
      rfl
    · rw [marks_lead rfl, marks_lead rfl, hone]
      rfl
    · rw [marks_lead rfl, marks_lead rfl, marks_append (hcontained 1) rfl, hone, hlast]
      rfl
    · rw [marks_lead rfl, marks_lead rfl, hlast]
      rfl
    · rw [marks_lead rfl, marks_lead rfl, marks_append (hcontained 1) rfl, hone, hlast]
      rfl
    · rw [marks_lead rfl, marks_lead rfl, marks_append (hcontained 1) rfl, hone, hlast]
      rfl
    · rw [marks_lead rfl, marks_lead rfl, hlast]
      rfl
    · rw [marks_lead rfl, marks_lead rfl, hlast]
      rfl

/-! ### Rows written back -/

theorem words_word_append (hs : s.toList.all isWordChar = true) (hb : ' ' ∉ s.toList) :
    words d (s ++ " " ++ t) = s :: words d t :=
  words_append (contained_of_words hs) (top_notMem_of_notMem hb)

/-- A name is one word, followed by those of the rest. -/
theorem ident_words {name written : String} (h : b.ident name = .ok written) :
    words b.dialect (written ++ " " ++ t) = written :: words b.dialect t :=
  words_append (ident_phrase h).contained ((ident_showsOnly h).top_notMem rfl)

theorem ident_ne {name written : String} (h : b.ident name = .ok written) : written ≠ "=" := by
  rintro rfl
  exact (ident_showsOnly h).top_notMem (c := '=') rfl (by cases b.dialect <;> decide)

theorem placeholder_words (b : Builder) (i : Nat) :
    words b.dialect (b.dialect.placeholder i ++ " " ++ t) =
      b.dialect.placeholder i :: words b.dialect t :=
  words_append (Dialect.placeholder_phrase i).contained (placeholder_notMem (.inr rfl) i)

/-- Two words with an equality sign between them are compared. -/
theorem comparisonsIn_pair (left right : String) (rest : List String) :
    comparisonsIn (left :: "=" :: right :: rest) = (left, right) :: comparisonsIn rest := by
  rw [comparisonsIn, if_pos rfl]

/-- A word that no equality sign follows is not compared. -/
theorem comparisonsIn_skip {word next : String} (h : next ≠ "=") (rest : List String) :
    comparisonsIn (word :: next :: rest) = comparisonsIn (next :: rest) := by
  cases rest with
  | nil => rfl
  | cons right rest => rw [comparisonsIn, if_neg h]

/-- The conditions on a row have a mark each, in order. -/
theorem keyConditions_marks {names : List String}
    (h : ∀ x ∈ names, ∃ column, b.ident column = .ok x) (i : Nat) :
    (b.keyConditions i names).flatMap (marks b.dialect) = b.placeholders i names.length := by
  induction names generalizing i with
  | nil => rfl
  | cons name names ih =>
    obtain ⟨⟨column, hname⟩, hnames⟩ := List.forall_mem_cons.1 h
    rw [keyConditions, List.flatMap_cons, String.append_assoc,
      marks_append (ident_phrase hname).contained rfl, ident_marks hname,
      b.dialect.marks_placeholder, ih hnames]
    rfl

/-- The conditions on a row compare each of its columns to a mark. -/
theorem keyConditions_comparisons {names : List String} {name : String}
    (h : ∀ x ∈ name :: names, ∃ column, b.ident column = .ok x) (i : Nat) :
    ∃ rest, words b.dialect (String.intercalate " AND " (b.keyConditions i (name :: names))) =
        name :: rest ∧
      comparisonsIn (name :: rest) = (name :: names).zip (b.placeholders i (names.length + 1)) := by
  induction names generalizing name i with
  | nil =>
    obtain ⟨column, hname⟩ := h name List.mem_cons_self
    have heq : name ++ " = " ++ b.dialect.placeholder i =
        name ++ " " ++ ("=" ++ " " ++ b.dialect.placeholder i) :=
      String.toList_injective (by simp)
    refine ⟨["=", b.dialect.placeholder i], ?_, comparisonsIn_pair _ _ _⟩
    rw [keyConditions, keyConditions, String.intercalate_singleton, heq, ident_words hname,
      words_word_append rfl (by decide), words, pieces_eq_singleton (placeholder_notMem (.inr rfl) i)]
  | cons next names ih =>
    obtain ⟨⟨column, hname⟩, hrest⟩ := List.forall_mem_cons.1 h
    obtain ⟨_, hnext⟩ := hrest next List.mem_cons_self
    obtain ⟨rest, hwords, hcomparisons⟩ := ih hrest (i + 1)
    have heq (mark conditions : String) : name ++ " = " ++ mark ++ " AND " ++ conditions =
        name ++ " " ++ ("=" ++ " " ++ (mark ++ " " ++ ("AND" ++ " " ++ conditions))) :=
      String.toList_injective (by simp)
    refine ⟨"=" :: b.dialect.placeholder i :: "AND" :: next :: rest, ?_, ?_⟩
    · rw [keyConditions, keyConditions, String.intercalate_cons_cons, ← keyConditions, heq,
        ident_words hname, words_word_append rfl (by decide), placeholder_words,
        words_word_append rfl (by decide), hwords]
    · rw [comparisonsIn_pair, comparisonsIn_skip (ident_ne hnext), hcomparisons]
      rfl

/-- The update of a decoding copy sets the target to the first mark and compares each column that singles
    out a row to one of the others. -/
theorem update_comparisons {tableName targetName name : String} {names : List String}
    (htable : b.ident table = .ok tableName) (htarget : b.ident column = .ok targetName)
    (h : ∀ x ∈ name :: names, ∃ column, b.ident column = .ok x) :
    let update := "UPDATE " ++ tableName ++ " SET " ++ targetName ++ " = " ++ b.dialect.placeholder 1 ++
      " WHERE " ++ String.intercalate " AND " (b.keyConditions 2 (name :: names))
    marks b.dialect update = b.placeholders 1 (names.length + 2) ∧
      comparisons b.dialect update =
        (targetName :: name :: names).zip (b.placeholders 1 (names.length + 2)) := by
  intro update
  obtain ⟨rest, hwords, hcomparisons⟩ := keyConditions_comparisons h 2
  obtain ⟨_, hname⟩ := h name List.mem_cons_self
  have hconditions : ∀ x ∈ b.keyConditions 2 (name :: names), Contained b.dialect.quoteChar x := by
    have hphrases : ∀ x ∈ name :: names, Phrase b.dialect x := fun x hx =>
      (h x hx).elim fun _ hx => ident_phrase hx
    exact fun x hx => (keyConditions_phrase hphrases 2 x hx).contained
  have hmark := (Dialect.placeholder_phrase (d := b.dialect) 1).contained
  constructor
  · simp only [update, String.append_assoc]
    rw [marks_lead rfl, marks_append (ident_phrase htable).contained rfl, ident_marks htable,
      List.nil_append, marks_append (ident_phrase htarget).contained rfl, ident_marks htarget,
      List.nil_append, marks_append hmark rfl, b.dialect.marks_placeholder,
      marks_intercalate rfl hconditions, keyConditions_marks h]
    rfl
  · have heq (mark conditions : String) :
        "UPDATE " ++ tableName ++ " SET " ++ targetName ++ " = " ++ mark ++ " WHERE " ++ conditions =
          "UPDATE" ++ " " ++ (tableName ++ " " ++ ("SET" ++ " " ++ (targetName ++ " " ++
            ("=" ++ " " ++ (mark ++ " " ++ ("WHERE" ++ " " ++ conditions)))))) :=
      String.toList_injective (by simp)
    rw [comparisons, show update = _ from heq _ _, words_word_append rfl (by decide), ident_words htable,
      words_word_append rfl (by decide), ident_words htarget, words_word_append rfl (by decide),
      placeholder_words, words_word_append rfl (by decide), hwords, comparisonsIn_skip (ident_ne htable),
      comparisonsIn_skip (by decide), comparisonsIn_skip (ident_ne htarget), comparisonsIn_pair,
      comparisonsIn_skip (ident_ne hname), hcomparisons]
    rfl

/-- An update that writes a value back binds its text to the mark that the target is set to, and to the
    mark that a key column is compared to what the row has in this column; without key columns, the value
    itself to the mark that its own column is compared to. -/
structure WritesBack (d : Dialect) (update : Statement) (target source : String) (keys : List String)
    (row : Row) (value : Value) : Prop where
  isNumbered : update.IsNumbered d
  marks_eq : (comparisons d update.sql).map Prod.snd = marks d update.sql
  bound_eq : ((comparisons d update.sql).map Prod.fst).zip update.params =
    (target, .text value.decodedText) ::
      if keys = [] then [(source, value)] else keys.zip row.values

/-- What is sent for a row is the update of a copy. It writes back the value that the row is copied from,
    provided that the row has a value for each column that was selected. -/
def IsSentFor (d : Dialect) (update target source : String) (keys selected : List String) (row : Row)
    (x : Exchange) : Prop :=
  ∃ params value, x.request = .execute update params ∧ row.source? = some value ∧
    (row.values.length = selected.length →
      WritesBack d ⟨update, params⟩ target source keys row value)

/-- What a decoding copy selects are its key columns and the source. It asks for them first, and then the
    k-th update that it sends is sent for the k-th row that has a source; unless something was rejected,
    there is one for each of these rows. -/
def CopiesByMarks (b : Builder) (table source target : String) (keyColumns : List String)
    (copy : Copy) : Prop :=
  ∃ tableName sourceName targetName keys list update,
    b.ident table = .ok tableName ∧ b.ident source = .ok sourceName ∧
    b.ident target = .ok targetName ∧ keyColumns.mapM b.ident = .ok keys ∧
    items b.dialect list = keys ++ [sourceName] ∧
    let select := "SELECT " ++ list ++ " FROM " ++ tableName ++ " WHERE " ++ sourceName ++ " IS NOT NULL"
    copy = .decode select update keyColumns ∧
    ∀ (σ : Type) (c : Connection σ) (learned : Option CaseRule) (s : σ) (ignoring : Bool),
      let xs := ((Editor.applyCopy copy ignoring).transcript c learned s).exchanges
      let rows := sourced (selectedRows xs)
      ∃ query written, xs = query :: written ∧ query.request = .query select [] ∧
        List.Forall₂ (IsSentFor b.dialect update targetName sourceName keys (items b.dialect list))
          (rows.take written.length) written ∧
        ((∀ x ∈ xs, x.failed = false) → written.length = rows.length)

/-- A statement that compares as many columns as it binds values after the first one. -/
theorem writesBack_of {update target source : String} {keys : List String} {row : Row} {value : Value}
    {values : List Value} (columns : List String)
    (hmarks : marks b.dialect update = b.placeholders 1 (columns.length + 1))
    (hcomparisons : comparisons b.dialect update =
      (target :: columns).zip (b.placeholders 1 (columns.length + 1)))
    (hlength : columns.length = values.length)
    (hvalues : columns.zip values = if keys = [] then [(source, value)] else keys.zip row.values) :
    WritesBack b.dialect ⟨update, .text value.decodedText :: values⟩ target source keys row value where
  isNumbered := by
    rw [Statement.IsNumbered, hmarks, placeholders_eq_map, List.length_cons, hlength]
  marks_eq := by
    rw [hcomparisons, hmarks, List.map_snd_zip]
    rw [placeholders_length, List.length_cons]
  bound_eq := by
    rw [hcomparisons, List.map_fst_zip, List.zip_cons_cons, hvalues]
    rw [placeholders_length, List.length_cons]

/-- What a row is written back with lines up with the update, if the row has a value for each key column
    and for the source. -/
theorem writesBack_of_row {tableName sourceName targetName : String} {keys : List String} {row : Row}
    {value : Value} (htable : b.ident table = .ok tableName) (hsource : b.ident source = .ok sourceName)
    (htarget : b.ident target = .ok targetName)
    (hkeys : ∀ key ∈ keys, ∃ column, b.ident column = .ok key)
    (hvalue : row.values.getLast? = some value) (hlength : row.values.length = keys.length + 1) :
    WritesBack b.dialect
      ⟨"UPDATE " ++ tableName ++ " SET " ++ targetName ++ " = " ++ b.dialect.placeholder 1 ++ " WHERE " ++
          String.intercalate " AND " (b.keyConditions 2 (if keys.isEmpty then [sourceName] else keys)),
        .text value.decodedText :: if keys.isEmpty then [value] else row.values.dropLast⟩
      targetName sourceName keys row value := by
  -- Without keys the source itself singles out the row.
  cases keys with
  | nil =>
    obtain ⟨hmarks, hcomparisons⟩ := update_comparisons htable htarget
      (List.forall_mem_singleton.2 ⟨source, hsource⟩)
    exact writesBack_of [sourceName] hmarks hcomparisons rfl rfl
  | cons key keys =>
    obtain ⟨hmarks, hcomparisons⟩ := update_comparisons htable htarget hkeys
    have hkeysLength : (key :: keys).length = row.values.dropLast.length := by
      rw [List.length_dropLast, hlength, Nat.add_sub_cancel]
    have hvalues : (key :: keys).zip row.values.dropLast = (key :: keys).zip row.values := by
      rw [← List.dropLast_append_getLast? value hvalue]
      conv_rhs => rw [← List.append_nil (key :: keys)]
      rw [List.zip_append (by simpa using hkeysLength)]
      simp
    exact writesBack_of (key :: keys) hmarks hcomparisons hkeysLength hvalues

/-- A decoding copy asks for its rows first. What it sends then belongs to the first rows that have a
    source, one for one, and to all of them unless something was rejected. -/
theorem applyCopy_writes {σ : Type} (c : Connection σ) (learned : Option CaseRule) (s : σ)
    (select update : String) (keyColumns : List String) (ignoring : Bool) :
    let xs := ((Editor.applyCopy (.decode select update keyColumns) ignoring).transcript c learned
      s).exchanges
    let rows := sourced (selectedRows xs)
    ∃ query written, xs = query :: written ∧ query.request = .query select [] ∧
      List.Forall₂ (fun row x => row.writeBack? update keyColumns.isEmpty = some x.request)
        (rows.take written.length) written ∧
      ((∀ x ∈ xs, x.failed = false) → written.length = rows.length) := by
  intro xs rows
  have hturn : InTurn Exchange.failed (.query select [] ::
      (selectedRows xs).filterMap (Row.writeBack? update keyColumns.isEmpty)) xs :=
    (Editor.applyCopy_sends (.decode select update keyColumns) ignoring
      (Operation.transcript_course _ c learned s)).1
  obtain ⟨query, written, hxs, hquery, hwritten⟩ := InTurn.cons_iff.1 hturn
  refine ⟨query, written, hxs, hquery, ?_⟩
  by_cases hfailed : query.failed = true
  · rw [if_pos hfailed] at hwritten
    subst hwritten
    refine ⟨.nil, fun hall => ?_⟩
    rw [hall query (hxs ▸ List.mem_cons_self)] at hfailed
    cases hfailed
  · rw [if_neg hfailed] at hwritten
    refine ⟨forall₂_of_isPrefix hwritten.requests_prefix, fun hall => ?_⟩
    have hwrittenAll : ∀ x ∈ written, x.failed = false := fun x hx =>
      hall x (hxs ▸ List.mem_cons_of_mem query hx)
    exact (forall₂_of_writeBack? (hwritten.requests_eq hwrittenAll)).length_eq.symm

/-- The columns that a copy selects, the marks of its update and the values of each row line up. -/
theorem decodingCopy_copiesByMarks {source target : String} {keyColumns : List String} {copy : Copy}
    (h : b.decodingCopy table source target keyColumns = .ok copy) :
    b.CopiesByMarks table source target keyColumns copy := by
  obtain ⟨tableName, htable, h⟩ := bind_ok h
  obtain ⟨sourceName, hsource, h⟩ := bind_ok h
  obtain ⟨targetName, htarget, h⟩ := bind_ok h
  obtain ⟨keys, hkeys, h⟩ := bind_ok h
  obtain ⟨-, h⟩ := unless_ok h
  cases h
  have hnames : ∀ name ∈ keys ++ [sourceName], ∃ column, b.ident column = .ok name :=
    List.forall_mem_append.2 ⟨forall_of_mapM_ok (fun {column _} h => ⟨column, h⟩) hkeys,
      List.forall_mem_singleton.2 ⟨source, hsource⟩⟩
  have hitems : items b.dialect (String.intercalate ", " (keys ++ [sourceName])) =
      keys ++ [sourceName] := by
    refine items_intercalate (by simp) fun name hname => ?_
    obtain ⟨_, hname⟩ := hnames name hname
    exact ⟨ident_phrase hname, ident_comma_notMem hname⟩
  refine ⟨tableName, sourceName, targetName, keys, _, _, htable, hsource, htarget, hkeys, hitems,
    rfl, ?_⟩
  intro σ c learned s ignoring
  obtain ⟨query, written, hxs, hquery, hrows, hall⟩ := applyCopy_writes c learned s _ _ keyColumns ignoring
  refine ⟨query, written, hxs, hquery, hrows.imp fun row x hwrite => ?_, hall⟩
  obtain ⟨value, hsource?, hrequest⟩ := Option.map_eq_some_iff.1 hwrite
  refine ⟨_, value, hrequest.symm, hsource?, fun hlength => ?_⟩
  rw [hitems, List.length_append, List.length_singleton] at hlength
  rw [← mapM_isEmpty hkeys]
  exact writesBack_of_row htable hsource htarget
    (fun name hname => hnames name (List.mem_append_left _ hname))
    (Option.filter_eq_some_iff.1 hsource?).1 hlength

/-- Marks and values line up in every statement with values that a builder makes, and in every update
    that a decoding copy sends. -/
theorem marks_meet_values (b : Builder) :
    (∀ table columns values statement, b.insertRow table columns values = .ok statement →
      b.InsertsValues columns values statement) ∧
    (∀ table column value condition? statement, (∀ text ∈ condition?, Text.isBlankText text = true) →
      b.updateColumn table column value condition? = .ok statement →
        statement.IsNumbered b.dialect ∧ statement.params = [value]) ∧
    (∀ table catalog? statement, b.constraintNames table catalog? = .ok statement →
      statement.IsNumbered b.dialect) ∧
    ∀ table source target keyColumns copy, b.decodingCopy table source target keyColumns = .ok copy →
      b.CopiesByMarks table source target keyColumns copy :=
  ⟨fun _ _ _ _ h => insertRow_insertsValues h, fun _ _ _ _ _ hcondition h =>
    updateColumn_isNumbered hcondition h, fun _ _ _ h => constraintNames_isNumbered h,
    fun _ _ _ _ _ h => decodingCopy_copiesByMarks h⟩

/-- Answers every query with three rows, the second without a source, and does whatever else it
    is asked. -/
def rowConnection : Connection Unit where
  answer _ r :=
    match r with
    | .query _ _ => (.ok ⟨[], [⟨["K$2", "S"], [.int32 7, .bytes [104]]⟩,
        ⟨["K$2", "S"], [.int32 8, .null]⟩, ⟨["K$2", "S"], [.int32 9, .bytes [105]]⟩]⟩, ())
    | .execute _ _ => (.ok 1, ())
    | _ => (.error (.connection "connection is closed"), ())

/-- Bare names that hold the sign of marks, and the updates that are sent for the rows. -/
theorem marks_meet_values_bare :
    let b : Builder := ⟨.postgres, { case? := some .verbatim }⟩
    let inserted : Statement := ⟨"INSERT INTO T (A$1, B) VALUES ($1, $2)", [.int32 1, .null]⟩
    let updated : Statement := ⟨"UPDATE T SET C$2 = $1", [.null]⟩
    let listed : Statement := ⟨"SELECT constraint_name AS CONSTRAINT_NAME FROM " ++
      "information_schema.table_constraints WHERE UPPER(table_name) = UPPER($1)", [.text "T"]⟩
    let update := "UPDATE T SET D = $1 WHERE K$2 = $2"
    let copy : Copy := .decode "SELECT K$2, S FROM T WHERE S IS NOT NULL" update ["K$2"]
    (b.insertRow "T" ["A$1", "B"] [.int32 1, .null] = .ok inserted ∧
        b.InsertsValues ["A$1", "B"] [.int32 1, .null] inserted) ∧
      (b.updateColumn "T" "C$2" .null (some " ") = .ok updated ∧ updated.IsNumbered .postgres) ∧
      (b.constraintNames "T" none = .ok listed ∧ listed.IsNumbered .postgres) ∧
      b.decodingCopy "T" "S" "D" ["K$2"] = .ok copy ∧ b.CopiesByMarks "T" "S" "D" ["K$2"] copy ∧
        (((Editor.applyCopy copy false).transcript rowConnection none ()).exchanges.map
          Exchange.request = [.query "SELECT K$2, S FROM T WHERE S IS NOT NULL" [],
            .execute update [.text (Value.bytes [104]).decodedText, .int32 7],
            .execute update [.text (Value.bytes [105]).decodedText, .int32 9]]) := by
  intro b inserted updated listed update copy
  obtain ⟨hinsert, hupdate, hlist, hcopy⟩ := marks_meet_values b
  exact ⟨⟨rfl, hinsert "T" _ _ _ rfl⟩,
    ⟨rfl, (hupdate "T" "C$2" .null (some " ") _ (by decide) rfl).1⟩,
    ⟨rfl, hlist "T" none _ rfl⟩, rfl, hcopy _ _ _ _ _ rfl, rfl⟩

end Builder

end SchemaChange
