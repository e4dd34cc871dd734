import SchemaChange.Inspector
import SchemaChange.Proofs.Course.Lookup
import SchemaChange.Proofs.Spec.Distinct
import SchemaChange.Sqlite.Connection

/-!
# What a SQLite catalog lists

SQLite keeps names for itself that begin with `sqlite_`. Listings leave them out by a pattern of `LIKE`, in
which the underscore stands for any one character: so every relation is left out whose name begins with
`sqlite` and goes on, whatever comes next. A table that is left out is not seen by any look-up.

* `like_iff`: what the patterns of `LIKE` match;
* `isHidden_iff`: which names are left out;
* `Schema.relations_lists`: what is listed, and in which order;
* `catalog_shows`: what a connection lists and which tables its look-ups see;
* `user_table_hidden`: a table that is not SQLite's own and is not seen.
-/

namespace SchemaChange.Sqlite

open Text

variable {pattern literal s t : List Char} {test : List Char → Bool} {name : String}

/-! ## Patterns -/

/-- A text matches a pattern of `LIKE`. -/
inductive Matches : List Char → List Char → Prop
  | nil : Matches [] []
  /-- A percent sign stands for any text. -/
  | any {pattern s t : List Char} : t <:+ s → Matches pattern t → Matches ('%' :: pattern) s
  /-- An underscore stands for any one character. -/
  | one {pattern s : List Char} (d : Char) : Matches pattern s → Matches ('_' :: pattern) (d :: s)
  /-- Another character stands for itself, as a capital or a small letter. -/
  | same {pattern s : List Char} {c d : Char} : c ≠ '%' → c.toLower = d.toLower →
      Matches pattern s → Matches (c :: pattern) (d :: s)

theorem anyEnd_iff : anyEnd test s = true ↔ ∃ t, t <:+ s ∧ test t = true := by
  induction s with
  | nil => simp [anyEnd]
  | cons c s ih =>
    rw [anyEnd, Bool.or_eq_true, ih]
    simp only [List.suffix_cons_iff, or_and_right, exists_or, exists_eq_left]

theorem like_percent (pattern s : List Char) : like ('%' :: pattern) s = anyEnd (like pattern) s := by
  rw [like.eq_def]
  exact if_pos rfl

theorem like_nil_of_ne {c : Char} (hc : c ≠ '%') (pattern : List Char) :
    like (c :: pattern) [] = false := by
  rw [like.eq_def]
  exact if_neg hc

theorem like_cons_of_ne {c : Char} (hc : c ≠ '%') (pattern : List Char) (d : Char) (s : List Char) :
    like (c :: pattern) (d :: s) = ((c == '_' || c.toLower == d.toLower) && like pattern s) := by
  rw [like.eq_def]
  exact if_neg hc

/-- The test of a pattern finds what matches it. -/
theorem like_iff : like pattern s = true ↔ Matches pattern s := by
  induction pattern generalizing s with
  | nil =>
    rw [like, List.isEmpty_iff]
    constructor
    · rintro rfl
      exact .nil
    · rintro ⟨⟩
      rfl
  | cons c pattern ih =>
    by_cases hc : c = '%'
    · -- The rest of the pattern matches some end of the text.
      subst c
      simp only [like_percent, anyEnd_iff, ih]
      constructor
      · rintro ⟨t, hsuffix, ht⟩
        exact .any hsuffix ht
      · intro h
        cases h with
        | any hsuffix ht => exact ⟨_, hsuffix, ht⟩
        | same hc => exact absurd rfl hc
    · cases s with
      | nil =>
        rw [like_nil_of_ne hc]
        refine iff_of_false Bool.false_ne_true fun h => ?_
        cases h with
        | any => exact absurd rfl hc
      | cons d s =>
        rw [like_cons_of_ne hc, Bool.and_eq_true, Bool.or_eq_true, beq_iff_eq, beq_iff_eq, ih]
        constructor
        · rintro ⟨rfl | hsame, hrest⟩
          · exact .one d hrest
          · exact .same hc hsame hrest
        · intro h
          cases h with
          | any => exact absurd rfl hc
          | one _ hrest => exact ⟨.inl rfl, hrest⟩
          | same _ hsame hrest => exact ⟨.inr hsame, hrest⟩

/-- A pattern that begins with letters matches the texts that begin so, with capitals or without. -/
theorem like_append_iff (h : ∀ c ∈ literal, c ≠ '%' ∧ c ≠ '_') :
    like (literal ++ pattern) s = true ↔
      ∃ t u, s = t ++ u ∧ asciiLower t = asciiLower literal ∧ like pattern u = true := by
  induction literal generalizing s with
  | nil =>
    simp only [List.nil_append, asciiLower, List.map_nil, List.map_eq_nil_iff]
    constructor
    · exact fun hs => ⟨[], s, rfl, rfl, hs⟩
    · rintro ⟨_, u, rfl, rfl, hu⟩
      exact hu
  | cons c literal ih =>
    obtain ⟨⟨hc, hc'⟩, hliteral⟩ := List.forall_mem_cons.1 h
    rw [List.cons_append]
    cases s with
    | nil =>
      rw [like_nil_of_ne hc]
      refine iff_of_false Bool.false_ne_true ?_
      rintro ⟨t, u, hs, ht, -⟩
      obtain ⟨rfl, rfl⟩ := List.append_eq_nil_iff.1 hs.symm
      cases ht
    | cons d s =>
      rw [like_cons_of_ne hc, Bool.and_eq_true, ih hliteral, beq_eq_false_iff_ne.2 hc', Bool.false_or,
        beq_iff_eq]
      constructor
      · rintro ⟨hd, t, u, rfl, ht, hu⟩
        exact ⟨d :: t, u, rfl, List.cons_eq_cons.2 ⟨hd.symm, ht⟩, hu⟩
      · rintro ⟨t, u, hs, ht, hu⟩
        cases t with
        | nil => cases ht
        | cons e t =>
          obtain ⟨rfl, rfl⟩ := List.cons.inj hs
          obtain ⟨hd, ht⟩ := List.cons.inj ht
          exact ⟨hd.symm, t, u, rfl, ht, hu⟩

/-! ## Names that are left out -/

/-- Whether SQLite keeps the name for itself. -/
def isReserved (name : String) : Bool :=
  "sqlite_".toList.isPrefixOf (asciiLower name.toList)

theorem isReserved_iff : isReserved name = true ↔ "sqlite_".toList <+: asciiLower name.toList :=
  List.isPrefixOf_iff_prefix

theorem like_underscore_percent_iff : like "_%".toList s = true ↔ s ≠ [] := by
  rw [like_iff]
  constructor
  · rintro h rfl
    cases h
  · intro hs
    obtain ⟨d, s, rfl⟩ := List.exists_cons_of_ne_nil hs
    exact .one d (.any List.nil_suffix .nil)

/-- A name is left out if it begins with `sqlite` and goes on. -/
theorem isHidden_iff :
    isHidden name = true ↔ ∃ c, "sqlite".toList ++ [c] <+: asciiLower name.toList := by
  have hpattern : "sqlite_%".toList = "sqlite".toList ++ "_%".toList := by decide
  have hletters : ∀ c ∈ "sqlite".toList, c ≠ '%' ∧ c ≠ '_' := by simp
  rw [isHidden, hpattern, like_append_iff hletters]
  -- After the letters, the two wildcards only ask that the name goes on.
  simp only [like_underscore_percent_iff]
  constructor
  · rintro ⟨t, u, hname, ht, hu⟩
    obtain ⟨c, u, rfl⟩ := List.exists_cons_of_ne_nil hu
    have hlower : asciiLower name.toList = asciiLower t ++ asciiLower (c :: u) := by
      rw [hname, asciiLower, List.map_append, asciiLower, asciiLower]
    rw [hlower, ht]
    exact ⟨c.toLower, asciiLower u, rfl⟩
  · rintro ⟨c, rest, hname⟩
    rw [List.append_assoc] at hname
    obtain ⟨t, u, hsplit, ht, hu⟩ := List.map_eq_append_iff.1 hname.symm
    refine ⟨t, u, hsplit, ht, ?_⟩
    rintro rfl
    cases hu

/-- The names that SQLite keeps for itself are left out. -/
theorem isHidden_of_isReserved (h : isReserved name = true) : isHidden name = true :=
  isHidden_iff.2 ⟨'_', isReserved_iff.1 h⟩

/-- The names that are left out and that SQLite does not keep are those with another character in the
    place of the underscore. -/
theorem isHidden_and_not_isReserved_iff : isHidden name = true ∧ isReserved name = false ↔
    ∃ c, c ≠ '_' ∧ "sqlite".toList ++ [c] <+: asciiLower name.toList := by
  rw [isHidden_iff, ← Bool.not_eq_true, isReserved_iff]
  constructor
  · rintro ⟨⟨c, hc⟩, hfree⟩
    refine ⟨c, ?_, hc⟩
    rintro rfl
    exact hfree hc
  · rintro ⟨c, hne, hc⟩
    refine ⟨⟨c, hc⟩, fun hreserved => hne ?_⟩
    have hbegins : "sqlite".toList ++ [c] <+: "sqlite".toList ++ ['_'] :=
      List.prefix_of_prefix_length_le hc hreserved (Nat.le_refl _)
    exact List.singleton_inj.1 (List.append_cancel_left (hbegins.eq_of_length rfl))

/-! ## What is listed -/

/-- The tables and views of a schema, in no particular order. -/
def Schema.declared (s : Schema) : List TableInfo :=
  s.tables.map (fun t => ⟨t.name, .table⟩) ++ s.views.map fun v => ⟨v, .view⟩

/-- The list has, in the order of their names, the tables and views that pass a filter, without those
    whose name is to be left out. -/
structure Schema.Lists (s : Schema) (leftOut : String → Bool) (filter? : Option String)
    (listed : List TableInfo) : Prop where
  ordered : listed.Pairwise fun a b => a.name ≤ b.name
  exactly : listed.Perm (s.declared.filter fun r => !leftOut r.name && passes filter? r.name)

namespace Schema

variable {s : Schema} {filter? : Option String} {r : TableInfo} {t : Table}

theorem mem_declared_iff : r ∈ s.declared ↔
    (∃ t ∈ s.tables, r = ⟨t.name, .table⟩) ∨ ∃ v ∈ s.views, r = ⟨v, .view⟩ := by
  rw [declared, List.mem_append, List.mem_map, List.mem_map]
  simp only [eq_comm]

theorem mem_declared_of_mem_tables (ht : t ∈ s.tables) : ⟨t.name, .table⟩ ∈ s.declared :=
  mem_declared_iff.2 (.inl ⟨t, ht, rfl⟩)

theorem relations_lists (s : Schema) (filter? : Option String) :
    s.Lists isHidden filter? (s.relations filter?) where
  ordered := by
    have htrans : ∀ a b c : TableInfo, decide (a.name ≤ b.name) = true →
        decide (b.name ≤ c.name) = true → decide (a.name ≤ c.name) = true := fun a b c hab hbc =>
      decide_eq_true (String.le_trans (of_decide_eq_true hab) (of_decide_eq_true hbc))
    have htotal : ∀ a b : TableInfo, (decide (a.name ≤ b.name) || decide (b.name ≤ a.name)) = true :=
      fun a b => by simpa using String.le_total a.name b.name
    exact (List.pairwise_mergeSort htrans htotal _).imp of_decide_eq_true
  exactly := List.mergeSort_perm _ _

theorem mem_relations_iff : r ∈ s.relations filter? ↔
    r ∈ s.declared ∧ isHidden r.name = false ∧ passes filter? r.name = true := by
  rw [(s.relations_lists filter?).exactly.mem_iff, List.mem_filter, Bool.and_eq_true, Bool.not_eq_true']

/-- Just SQLite's own names are left out unless another one is left out as well. -/
theorem relations_lists_iff (s : Schema) (filter? : Option String) :
    s.Lists isReserved filter? (s.relations filter?) ↔
      ∀ r ∈ s.declared, passes filter? r.name = true → isHidden r.name = true →
        isReserved r.name = true := by
  constructor
  · intro h r hr hpasses hhidden
    cases hfree : isReserved r.name with
    | true => rfl
    | false =>
      -- The relation would be listed, and what is listed is not hidden.
      have hmem : r ∈ s.relations filter? := by
        rw [h.exactly.mem_iff, List.mem_filter, hfree, hpasses]
        exact ⟨hr, rfl⟩
      rw [(mem_relations_iff.1 hmem).2.1] at hhidden
      cases hhidden
  · intro h
    obtain ⟨hordered, hexactly⟩ := s.relations_lists filter?
    refine ⟨hordered, ?_⟩
    -- The two filters differ for no relation, as all reserved names are hidden anyway.
    have hsame : ∀ r ∈ s.declared, (!isHidden r.name && passes filter? r.name) =
        (!isReserved r.name && passes filter? r.name) := by
      intro r hr
      cases hpasses : passes filter? r.name with
      | false => rw [Bool.and_false, Bool.and_false]
      | true =>
        cases hhidden : isHidden r.name with
        | true => rw [h r hr hpasses hhidden]
        | false =>
          cases hreserved : isReserved r.name with
          | false => rfl
          | true =>
            rw [isHidden_of_isReserved hreserved] at hhidden
            cases hhidden
    rwa [List.filter_congr hsame] at hexactly

/-! ### Tables that are seen -/

/-- The table that an entry of the list is about, if it is about one. -/
def tableOf? (s : Schema) (r : TableInfo) : Option Table :=
  match r.kind with
  | .table => s.table? r.name
  | .view => none

theorem tableOf?_eq_some_iff (h : Distinct (s.tables.map (·.name))) (hr : r ∈ s.declared) :
    s.tableOf? r = some t ↔ t ∈ s.tables ∧ r = ⟨t.name, .table⟩ := by
  rcases mem_declared_iff.1 hr with ⟨t', ht', rfl⟩ | ⟨v, -, rfl⟩
  · have hfound : s.tableOf? ⟨t'.name, .table⟩ = some t' := h.find?_eq ht'
    rw [hfound, Option.some_inj]
    constructor
    · rintro rfl
      exact ⟨ht', rfl⟩
    · rintro ⟨ht, heq⟩
      have hname : t'.name = t.name := congrArg TableInfo.name heq
      have hself : s.tableOf? ⟨t.name, .table⟩ = some t := h.find?_eq ht
      rw [← hname, hfound] at hself
      exact Option.some.inj hself
  · refine iff_of_false nofun ?_
    rintro ⟨-, heq⟩
    cases congrArg TableInfo.kind heq

theorem listedTables_eq (s : Schema) (filter? : Option String) :
    s.listedTables filter? = (s.relations filter?).filterMap s.tableOf? :=
  rfl

theorem mem_listedTables_iff (h : Distinct (s.tables.map (·.name))) :
    t ∈ s.listedTables filter? ↔
      t ∈ s.tables ∧ isHidden t.name = false ∧ passes filter? t.name = true := by
  rw [listedTables_eq, List.mem_filterMap]
  constructor
  · rintro ⟨r, hr, htable⟩
    obtain ⟨hdeclared, hlisted⟩ := mem_relations_iff.1 hr
    obtain ⟨ht, rfl⟩ := (tableOf?_eq_some_iff h hdeclared).1 htable
    exact ⟨ht, hlisted⟩
  · rintro ⟨ht, hlisted⟩
    have hdeclared := mem_declared_of_mem_tables ht
    exact ⟨_, mem_relations_iff.2 ⟨hdeclared, hlisted⟩, (tableOf?_eq_some_iff h hdeclared).2 ⟨ht, rfl⟩⟩

/-- The tables that look-ups see are those that are listed, in the same order. -/
theorem map_listedTables (h : Distinct (s.tables.map (·.name))) (filter? : Option String) :
    (s.listedTables filter?).map (fun t => ⟨t.name, .table⟩) =
      (s.relations filter?).filter (·.kind == .table) := by
  have hdeclared : ∀ r ∈ s.relations filter?, r ∈ s.declared := fun r hr => (mem_relations_iff.1 hr).1
  rw [listedTables_eq]
  generalize s.relations filter? = rs at hdeclared
  induction rs with
  | nil => rfl
  | cons r rs ih =>
    obtain ⟨hr, hrs⟩ := List.forall_mem_cons.1 hdeclared
    rcases mem_declared_iff.1 hr with ⟨t, ht, rfl⟩ | ⟨v, -, rfl⟩
    · have hfound := (tableOf?_eq_some_iff h hr).2 ⟨ht, rfl⟩
      rw [List.filterMap_cons_some hfound, List.map_cons, ih hrs]
      rfl
    · rw [List.filterMap_cons_none rfl, ih hrs]
      rfl

/-- What holds of some table that is listed. -/
theorem any_relations (s : Schema) (filter? : Option String) (p : String → Bool) :
    ((s.relations filter?).any fun r => r.kind == .table && p r.name) =
      s.tables.any fun t => !isHidden t.name && passes filter? t.name && p t.name := by
  rw [Bool.eq_iff_iff, List.any_eq_true, List.any_eq_true]
  constructor
  · rintro ⟨r, hr, htest⟩
    obtain ⟨hkind, hp⟩ := Bool.and_eq_true_iff.1 htest
    obtain ⟨hdeclared, hhidden, hpasses⟩ := mem_relations_iff.1 hr
    rcases mem_declared_iff.1 hdeclared with ⟨t, ht, rfl⟩ | ⟨v, -, rfl⟩
    · exact ⟨t, ht, by simp [hhidden, hpasses, hp]⟩
    · cases hkind
  · rintro ⟨t, ht, htest⟩
    simp only [Bool.and_eq_true, Bool.not_eq_true'] at htest
    obtain ⟨⟨hhidden, hpasses⟩, hp⟩ := htest
    have hdeclared := mem_declared_of_mem_tables ht
    exact ⟨_, mem_relations_iff.2 ⟨hdeclared, hhidden, hpasses⟩, hp⟩

end Schema

/-! ## What a connection answers -/

section Connection

variable {δ : Type} {engine : Engine δ} {i : Inspector}

/-- A table is found if it is listed for the folded name and has the name asked for. -/
theorem transcript_tableExists (engine : Engine δ) (data : δ) (hhas : i.endpoint.hasCatalog = true)
    (learned : Option CaseRule) (name : String) :
    ((i.tableExists name).transcript (connection engine) learned ⟨data, false⟩).result.1 =
      .ok ((engine.schema data).tables.any fun t => !isHidden t.name &&
        passes (some (((i.options.case?.or learned).getD .verbatim).apply name)) t.name &&
        sameName t.name name) := by
  rw [← Schema.any_relations _ _ (sameName · name)]
  obtain ⟨⟨driverName, product, hasCatalog⟩, dialect, ⟨quotes, case?⟩⟩ := i
  obtain rfl : hasCatalog = true := hhas
  cases case? with
  | some rule => rfl
  | none => cases learned <;> rfl

/-- The look-ups of an open connection that go by tables see the given ones. -/
structure Sees (engine : Engine δ) (data : δ) (filter? : Option String) (tables : List Table) : Prop where
  columns : ∀ column?, (answer engine ⟨data, false⟩ (.getColumns filter? column?)).1 =
    .ok (tables.flatMap fun t => t.columnInfos.filter (passes column? ·.name))
  primaryKeys : (answer engine ⟨data, false⟩ (.getPrimaryKeys filter?)).1 =
    .ok (tables.flatMap Table.primaryKeyColumns)
  importedKeys : (answer engine ⟨data, false⟩ (.getImportedKeys filter?)).1 =
    .ok (tables.flatMap fun t =>
      t.foreignKeys.reverse.flatMap ((engine.schema data).foreignKeyColumns t))
  indexes : (answer engine ⟨data, false⟩ (.getIndexes filter?)).1 =
    .ok (tables.flatMap (engine.schema data).tableIndexes)

theorem sees_listedTables (engine : Engine δ) (data : δ) (filter? : Option String) :
    Sees engine data filter? ((engine.schema data).listedTables filter?) :=
  ⟨fun _ => rfl, rfl, rfl, rfl⟩

/-- What an open connection shows of its schema: it lists `listed`, and its look-ups see `tables`. -/
structure Shows (engine : Engine δ) (data : δ) (filter? : Option String) (listed : List TableInfo)
    (tables : List Table) : Prop where
  listTables : (answer engine ⟨data, false⟩ (.listTables filter?)).1 = .ok listed
  lists : (engine.schema data).Lists isHidden filter? listed
  /-- The list is the one without just SQLite's own names unless another name is left out. -/
  lists_iff : (engine.schema data).Lists isReserved filter? listed ↔
    ∀ r ∈ (engine.schema data).declared, passes filter? r.name = true → isHidden r.name = true →
      isReserved r.name = true
  sees : Sees engine data filter? tables
  /-- The look-ups go through the tables in the order of the list. -/
  map_tables : tables.map (fun t => ⟨t.name, .table⟩) = listed.filter (·.kind == .table)
  mem_tables_iff : ∀ t, t ∈ tables ↔
    t ∈ (engine.schema data).tables ∧ isHidden t.name = false ∧ passes filter? t.name = true

/-- What a SQLite catalog shows. A name is left out if it matches the pattern, that is, if it begins with
    `sqlite` and goes on; all other relations are listed, and look-ups see just the tables that are. -/
theorem catalog_shows (engine : Engine δ) (data : δ)
    (hapart : Distinct ((engine.schema data).tables.map (·.name))) (filter? : Option String) :
    (∀ name, (isHidden name = true ↔ Matches "sqlite_%".toList name.toList) ∧
        (isHidden name = true ↔ ∃ c, "sqlite".toList ++ [c] <+: asciiLower name.toList) ∧
        (isHidden name = true ∧ isReserved name = false ↔
          ∃ c, c ≠ '_' ∧ "sqlite".toList ++ [c] <+: asciiLower name.toList)) ∧
      (∃ listed tables, Shows engine data filter? listed tables) ∧
      ∀ (i : Inspector) (learned : Option CaseRule) (name : String), i.endpoint.hasCatalog = true →
        ((i.tableExists name).transcript (connection engine) learned ⟨data, false⟩).result.1 =
          .ok ((engine.schema data).tables.any fun t => !isHidden t.name &&
            passes (some (((i.options.case?.or learned).getD .verbatim).apply name)) t.name &&
            sameName t.name name) := by
  refine ⟨fun name => ⟨like_iff, isHidden_iff, isHidden_and_not_isReserved_iff⟩, ?_, ?_⟩
  · refine ⟨(engine.schema data).relations filter?, (engine.schema data).listedTables filter?, ?_⟩
    exact {
      listTables := rfl
      lists := Schema.relations_lists _ filter?
      lists_iff := Schema.relations_lists_iff _ filter?
      sees := sees_listedTables engine data filter?
      map_tables := Schema.map_listedTables hapart filter?
      mem_tables_iff := fun _ => Schema.mem_listedTables_iff hapart }
  · intro i learned name hhas
    exact transcript_tableExists engine data hhas learned name

/-- A schema with a table whose name begins like SQLite's own names, but for the underscore. -/
def nearlyReserved : Schema where
  tables := [
    { name := "sqlitep", columns := [⟨"k", "INT", false, none⟩], primaryKey := ["k"] },
    { name := "hosts", columns := [⟨"id", "INT", false, none⟩] }]

theorem catalog_shows_nearlyReserved :
    Distinct (nearlyReserved.tables.map (·.name)) ∧
      nearlyReserved.relations (some "HOSTS") = [⟨"hosts", .table⟩] ∧
      ∃ listed tables, Shows declaredOnly nearlyReserved (some "HOSTS") listed tables := by
  have hapart : Distinct (nearlyReserved.tables.map (·.name)) := by
    rw [Distinct]
    decide
  exact ⟨hapart, by decide +kernel,
    (catalog_shows declaredOnly nearlyReserved hapart (some "HOSTS")).2.1⟩

/-- A table that is not SQLite's own is not listed, and no look-up sees it. -/
theorem user_table_hidden :
    let s : Session Schema := ⟨nearlyReserved, false⟩
    let i : Inspector := ⟨endpoint, .generic, {}⟩
    isReserved "sqlitep" = false ∧
      (answer declaredOnly s (.listTables none)).1 = .ok [⟨"hosts", .table⟩] ∧
      ¬ nearlyReserved.Lists isReserved none [⟨"hosts", .table⟩] ∧
      ((i.tableExists "sqlitep").transcript (connection declaredOnly) none s).result.1 = .ok false ∧
      (answer declaredOnly s (.getColumns (some "sqlitep") none)).1 = .ok [] ∧
      (answer declaredOnly s (.getPrimaryKeys (some "sqlitep"))).1 = .ok [] ∧
      (answer declaredOnly s (.getImportedKeys (some "sqlitep"))).1 = .ok [] ∧
      (answer declaredOnly s (.getIndexes (some "sqlitep"))).1 = .ok [] := by
  intro s i
  have hlist : nearlyReserved.relations none = [⟨"hosts", .table⟩] := by decide +kernel
  have hnone : nearlyReserved.listedTables (some "sqlitep") = [] := by decide +kernel
  have hsees : Sees declaredOnly nearlyReserved (some "sqlitep") [] :=
    hnone ▸ sees_listedTables declaredOnly nearlyReserved (some "sqlitep")
  have hmissed := transcript_tableExists (i := i) declaredOnly nearlyReserved rfl none "sqlitep"
  refine ⟨by decide, congrArg Except.ok hlist, fun h => ?_, ?_, hsees.columns none, hsees.primaryKeys,
    hsees.importedKeys, hsees.indexes⟩
  · have hlength := h.exactly.length_eq
    revert hlength
    decide
  · rw [hmissed]
    exact congrArg Except.ok (by decide +kernel)

end Connection

end SchemaChange.Sqlite
