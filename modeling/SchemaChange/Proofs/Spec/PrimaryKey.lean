import Mathlib.Data.List.Induction
import SchemaChange.Build.Tables
import SchemaChange.Proofs.Spec.Distinct

/-!
# Keys that are collected

The columns of a primary key are collected over any number of calls, and a name is dropped if it is the same
as an earlier one, ignoring the case of ASCII letters. What is left is told by the names alone, whichever
call brought them, and names no column twice. So the check for repeated columns passes it, and a table is
refused for a repeated column only if its own columns repeat one.

* `TableSpec.foldl_withPrimaryKey`: what any number of calls collects;
* `distinct_withoutRepeats`: what is left names no column twice;
* `ensureDistinct_eq_error_iff`: which column a list is refused for;
* `TableSpec.primaryKey_collected`: all of it, and what becomes of the table.
-/

namespace SchemaChange

/-- The names of a list without each that is the same as an earlier one, ignoring the case of ASCII
    letters. -/
def withoutRepeats (names : List String) : List String :=
  (names.zipIdx.filter fun (name, i) => !(names.take i).any (Text.sameName · name)).map (·.1)

variable {seen names : List String} {name column owner : String}

/-! ## Names without repeats -/

/-- A further name is kept unless it is the same as one of those before it. -/
theorem withoutRepeats_concat (names : List String) (name : String) :
    withoutRepeats (names ++ [name]) =
      withoutRepeats names ++ if names.any (Text.sameName · name) then [] else [name] := by
  -- An entry of the list has the same entries before it as in the longer list.
  have hbefore : ∀ p ∈ names.zipIdx, (!((names ++ [name]).take p.2).any (Text.sameName · p.1)) =
      !(names.take p.2).any (Text.sameName · p.1) := by
    intro p hp
    rw [List.take_append_of_le_length (Nat.le_of_lt (List.snd_lt_of_mem_zipIdx hp))]
  rw [withoutRepeats, List.zipIdx_append, List.filter_append, List.map_append,
    List.filter_congr hbefore, withoutRepeats]
  congr 1
  cases h : names.any (Text.sameName · name) <;> simp [h]

/-- What is the same as a name of the list is the same as one that is left, and conversely. -/
theorem any_withoutRepeats (names : List String) (name : String) :
    (withoutRepeats names).any (Text.sameName · name) = names.any (Text.sameName · name) := by
  induction names using List.reverseRecOn with
  | nil => rfl
  | append_singleton names last ih =>
    rw [withoutRepeats_concat, List.any_append, List.any_append, ih]
    cases hlast : names.any (Text.sameName · last) with
    | false => rfl
    | true =>
      -- The name that is dropped is the same as an earlier one, and that one is left.
      obtain ⟨a, ha, hsame⟩ := List.any_eq_true.1 hlast
      cases hname : Text.sameName last name with
      | false => simp [hname]
      | true =>
        have hearlier : names.any (Text.sameName · name) = true :=
          List.any_eq_true.2 ⟨a, ha, (Text.sameName_congr hsame name).trans hname⟩
        simp [hearlier]

/-- What is left names no column twice. -/
theorem distinct_withoutRepeats (names : List String) : Distinct (withoutRepeats names) := by
  induction names using List.reverseRecOn with
  | nil => exact .nil
  | append_singleton names last ih =>
    rw [withoutRepeats_concat]
    split
    · rwa [List.append_nil]
    · rename_i hlast
      rw [← any_withoutRepeats, Bool.not_eq_true, List.any_eq_false] at hlast
      refine List.pairwise_append.2 ⟨ih, List.pairwise_singleton _ _, fun a ha b hb => ?_⟩
      rw [List.mem_singleton.1 hb]
      exact Bool.not_eq_true _ ▸ hlast a ha

/-- Nothing is dropped from a list exactly if it names no column twice. -/
theorem withoutRepeats_eq_self_iff : withoutRepeats names = names ↔ Distinct names := by
  refine ⟨fun h => h ▸ distinct_withoutRepeats names, fun h => ?_⟩
  induction names using List.reverseRecOn with
  | nil => rfl
  | append_singleton names last ih =>
    obtain ⟨hnames, -, hlast⟩ := List.pairwise_append.1 h
    have hnone : names.any (Text.sameName · last) = false :=
      List.any_eq_false.2 fun a ha => by simp [hlast a ha last List.mem_cons_self]
    simp [withoutRepeats_concat, hnone, ih hnames]

/-! ## Lists that are refused -/

/-- The name that is found is the same as one seen or an earlier one, and no name before it is. -/
theorem firstRepeated?_eq_some_iff :
    firstRepeated? seen names = some name ↔ ∃ before after, names = before ++ name :: after ∧
      firstRepeated? seen before = none ∧ (seen ++ before).any (Text.sameName · name) = true := by
  induction names generalizing seen with
  | nil => simp [firstRepeated?]
  | cons first names ih =>
    rw [firstRepeated?]
    cases hseen : seen.any (Text.sameName · first) with
    | true =>
      rw [if_pos rfl, Option.some_inj]
      constructor
      · rintro rfl
        exact ⟨[], names, rfl, rfl, by simpa using hseen⟩
      · rintro ⟨_ | ⟨c, before⟩, after, heq, hbefore, -⟩
        · exact (List.cons.inj heq).1
        · -- The first name would have been found before.
          obtain ⟨rfl, -⟩ := List.cons.inj heq
          rw [firstRepeated?, hseen] at hbefore
          cases hbefore
    | false =>
      rw [if_neg Bool.false_ne_true, ih]
      constructor
      · rintro ⟨before, after, rfl, hbefore, hany⟩
        refine ⟨first :: before, after, rfl, ?_, ?_⟩
        · rwa [firstRepeated?, hseen, if_neg Bool.false_ne_true]
        · simpa [or_left_comm] using hany
      · rintro ⟨_ | ⟨c, before⟩, after, heq, hbefore, hany⟩
        · obtain ⟨rfl, -⟩ := List.cons.inj heq
          rw [List.append_nil, hseen] at hany
          cases hany
        · obtain ⟨rfl, rfl⟩ := List.cons.inj heq
          rw [firstRepeated?, hseen, if_neg Bool.false_ne_true] at hbefore
          exact ⟨before, after, rfl, hbefore, by simpa [or_left_comm] using hany⟩

/-- A list is refused for the first name that is the same as an earlier one. -/
theorem ensureDistinct_eq_error_iff {error : BuildError} :
    ensureDistinct owner names = .error error ↔ ∃ before column after,
      names = before ++ column :: after ∧ Distinct before ∧
        (∃ earlier ∈ before, Text.sameName earlier column = true) ∧
          error = .duplicateColumn owner column := by
  have hfound (column : String) : firstRepeated? [] names = some column ↔ ∃ before after,
      names = before ++ column :: after ∧ Distinct before ∧
        ∃ earlier ∈ before, Text.sameName earlier column = true := by
    simp [firstRepeated?_eq_some_iff, firstRepeated?_eq_none_iff]
  rw [ensureDistinct]
  cases h : firstRepeated? [] names with
  | none =>
    refine iff_of_false (by simp) ?_
    rintro ⟨before, column, after, heq, hdistinct, hsame, -⟩
    rw [(hfound column).2 ⟨before, after, heq, hdistinct, hsame⟩] at h
    cases h
  | some column =>
    constructor
    · intro herror
      obtain ⟨before, after, heq, hdistinct, hsame⟩ := (hfound column).1 h
      exact ⟨before, column, after, heq, hdistinct, hsame, (Except.error.inj herror).symm⟩
    · rintro ⟨before, column', after, heq, hdistinct, hsame, rfl⟩
      rw [(hfound column').2 ⟨before, after, heq, hdistinct, hsame⟩] at h
      rw [Option.some_inj.1 h]

namespace Builder

/-! ## What is refused for a repeated column -/

section Refusals

variable {α β : Type} {b : Builder} {x : Except BuildError α} {f : α → Except BuildError β}

/-- The result is no refusal of a repeated column. -/
def PassesRepeats (x : Except BuildError α) : Prop :=
  ∀ owner column, x ≠ .error (.duplicateColumn owner column)

theorem PassesRepeats.ok (a : α) : PassesRepeats (.ok a) := by
  simp [PassesRepeats]

theorem PassesRepeats.error {e : BuildError} (h : ∀ owner column, e ≠ .duplicateColumn owner column) :
    PassesRepeats (.error e : Except BuildError α) := fun owner column heq =>
  h owner column (Except.error.inj heq)

theorem PassesRepeats.bind (hx : PassesRepeats x) (hf : ∀ a, PassesRepeats (f a)) :
    PassesRepeats (x >>= f) := by
  cases x with
  | error e => exact fun owner column h => hx owner column (by cases h; rfl)
  | ok a => exact hf a

theorem PassesRepeats.forM {f : α → Except BuildError PUnit} (hf : ∀ a, PassesRepeats (f a)) (as : List α) :
    PassesRepeats (as.forM f) := by
  induction as with
  | nil => exact .ok _
  | cons a as ih => exact (hf a).bind fun _ => ih

theorem PassesRepeats.mapM (hf : ∀ a, PassesRepeats (f a)) (as : List α) :
    PassesRepeats (as.mapM f) := by
  induction as with
  | nil => exact .ok _
  | cons a as ih =>
    rw [List.mapM_cons]
    exact (hf a).bind fun _ => ih.bind fun _ => .ok _

/-- A step that refuses no repeated column is passed before one is refused. -/
theorem PassesRepeats.bind_eq_error_iff (hx : PassesRepeats x) :
    x >>= f = .error (.duplicateColumn owner column) ↔
      ∃ a, x = .ok a ∧ f a = .error (.duplicateColumn owner column) := by
  cases x with
  | error e => exact iff_of_false (fun h => hx owner column (by cases h; rfl)) (by simp)
  | ok a =>
    refine ⟨fun h => ⟨a, rfl, h⟩, ?_⟩
    rintro ⟨_, ha, h⟩
    cases ha
    exact h

/-- What only passes repeats from there on refuses no column that has not been refused before. -/
theorem bind_eq_error_iff_of_passes (hf : ∀ a, PassesRepeats (f a)) :
    x >>= f = .error (.duplicateColumn owner column) ↔ x = .error (.duplicateColumn owner column) := by
  cases x with
  | error e => exact ⟨fun h => by cases h; rfl, fun h => by cases h; rfl⟩
  | ok a => exact iff_of_false (hf a owner column) (by simp)

end Refusals

variable {b : Builder} {table : TableSpec}

theorem ident_passes (name : String) : PassesRepeats (b.ident name) := by
  rw [ident]
  split
  · exact .error (by simp)
  · split
    · exact .ok _
    · exact .error (by simp)

theorem literal_passes (value : Value) : PassesRepeats (b.literal value) := by
  rw [literal]
  split
  · exact .ok _
  · exact .error (by simp)

theorem validate_passes (c : ColumnSpec) : PassesRepeats c.validate := by
  rw [ColumnSpec.validate]
  split
  · exact .error (by simp)
  · split <;> split
    · exact .error (by simp)
    · exact .ok _
    · exact .error (by simp)
    · exact .ok _

theorem columnDefinition_passes (c : ColumnSpec) : PassesRepeats (b.columnDefinition c) := by
  have hdefault : PassesRepeats (b.defaultClause c.default?) := by
    cases c.default? with
    | none => exact .ok _
    | some value => exact (literal_passes value).bind fun _ => .ok _
  have htype : PassesRepeats (b.nativeType c) := by
    refine (validate_passes c).bind fun _ => ?_
    split
    · exact .ok _
    · exact .error (by simp)
  exact (ident_passes c.name).bind fun _ => htype.bind fun _ => hdefault.bind fun _ => .ok _

/-- A key that names no column twice is not refused for a repeated one. -/
theorem primaryKeyItem_passes (h : Distinct table.primaryKey) : PassesRepeats (b.primaryKeyItem table) := by
  rw [primaryKeyItem]
  split
  · exact .ok _
  · rename_i hkey
    have hlist : PassesRepeats (b.identList table.name table.primaryKey) := by
      rw [identList, if_neg hkey, ensureDistinct_ok_iff.2 h]
      exact (PassesRepeats.mapM ident_passes _).bind fun _ => .ok _
    exact hlist.bind fun _ => .ok _

/-- Only the columns of a table are checked for repeats before its statement is made. -/
theorem validate_eq_duplicate_iff :
    table.validate = .error (.duplicateColumn owner column) ↔
      table.columns ≠ [] ∧ table.columns.forM ColumnSpec.validate = .ok () ∧
        ensureDistinct table.name (table.columns.map (·.name)) =
          .error (.duplicateColumn owner column) := by
  rw [TableSpec.validate]
  by_cases hempty : table.columns.isEmpty
  · rw [if_pos hempty]
    exact iff_of_false (PassesRepeats.error (by simp) owner column)
      fun h => h.1 (List.isEmpty_iff.1 hempty)
  · rw [if_neg hempty, (PassesRepeats.forM validate_passes _).bind_eq_error_iff]
    refine (exists_congr fun _ => and_congr_right fun _ =>
      bind_eq_error_iff_of_passes fun _ => ?_).trans ?_
    · split
      · exact .error (by simp)
      · exact .ok _
    · have hcolumns : table.columns ≠ [] := mt List.isEmpty_iff.2 hempty
      constructor
      · rintro ⟨⟨⟩, hvalid, h⟩
        exact ⟨hcolumns, hvalid, h⟩
      · rintro ⟨-, hvalid, h⟩
        exact ⟨⟨⟩, hvalid, h⟩

/-- A table whose key names no column twice is refused for a repeated column exactly if one of its own
    columns is. -/
theorem createTable_eq_duplicate_iff (h : Distinct table.primaryKey) :
    b.createTable table = .error (.duplicateColumn owner column) ↔
      table.validate = .error (.duplicateColumn owner column) :=
  bind_eq_error_iff_of_passes fun _ =>
    (PassesRepeats.mapM columnDefinition_passes _).bind fun _ =>
      (primaryKeyItem_passes h).bind fun _ => (ident_passes table.name).bind fun _ => .ok _

end Builder

/-! ## What is collected -/

namespace TableSpec

/-- A name is added to a key that names have been collected for as to the names themselves. -/
theorem addKeyColumn_withoutRepeats (earlier : List String) (name : String) :
    addKeyColumn (withoutRepeats earlier) name = withoutRepeats (earlier ++ [name]) := by
  rw [addKeyColumn, any_withoutRepeats, withoutRepeats_concat]
  split
  · rw [List.append_nil]
  · rfl

theorem foldl_addKeyColumn (earlier names : List String) :
    names.foldl addKeyColumn (withoutRepeats earlier) = withoutRepeats (earlier ++ names) := by
  induction names generalizing earlier with
  | nil => rw [List.foldl_nil, List.append_nil]
  | cons name names ih =>
    rw [List.foldl_cons, addKeyColumn_withoutRepeats, ih, List.append_assoc, List.singleton_append]

/-- One call adds its names to those that have been collected. -/
theorem withPrimaryKey_withoutRepeats {t : TableSpec} {earlier : List String}
    (h : t.primaryKey = withoutRepeats earlier) (names : List String) :
    t.withPrimaryKey names = { t with primaryKey := withoutRepeats (earlier ++ names) } := by
  rw [withPrimaryKey, h, foldl_addKeyColumn]

/-- Any number of calls collects what one call with all their names does. -/
theorem foldl_withPrimaryKey {t : TableSpec} {earlier : List String}
    (h : t.primaryKey = withoutRepeats earlier) (calls : List (List String)) :
    calls.foldl withPrimaryKey t =
      { t with primaryKey := withoutRepeats (earlier ++ calls.flatten) } := by
  induction calls generalizing t earlier with
  | nil => rw [List.foldl_nil, List.flatten_nil, List.append_nil, ← h]
  | cons names calls ih =>
    rw [List.foldl_cons, withPrimaryKey_withoutRepeats h, ih rfl, List.flatten_cons, List.append_assoc]

/-- The key that is collected over any calls is all their names, one after the other, without each that
    is the same as an earlier one, however the names are grouped into calls. It names no column twice,
    and the table is refused for a repeated column exactly if it is without a key. The check of any list
    agrees: it passes exactly if no name would be dropped, that is, if none is named twice, and it
    refuses the first name that is the same as an earlier one. -/
theorem primaryKey_collected (name : String) (columns : List ColumnSpec) (calls : List (List String)) :
    calls.foldl withPrimaryKey { name, columns } =
        { name, columns, primaryKey := withoutRepeats calls.flatten } ∧
      Distinct (withoutRepeats calls.flatten) ∧
      (∀ (b : Builder) owner column,
        b.createTable (calls.foldl withPrimaryKey { name, columns }) =
            .error (.duplicateColumn owner column) ↔
          b.createTable { name, columns } = .error (.duplicateColumn owner column)) ∧
      ∀ owner names,
        (ensureDistinct owner names = .ok () ↔ Distinct names) ∧
        (ensureDistinct owner names = .ok () ↔ withoutRepeats names = names) ∧
        ∀ error, ensureDistinct owner names = .error error ↔ ∃ before column after,
          names = before ++ column :: after ∧ Distinct before ∧
            (∃ earlier ∈ before, Text.sameName earlier column = true) ∧
              error = .duplicateColumn owner column := by
  have hfresh : ({ name, columns } : TableSpec).primaryKey = withoutRepeats [] := rfl
  have hcollected : calls.foldl withPrimaryKey { name, columns } =
      { name, columns, primaryKey := withoutRepeats calls.flatten } :=
    foldl_withPrimaryKey hfresh calls
  have hdistinct := distinct_withoutRepeats calls.flatten
  have hkeyless : Distinct ({ name, columns } : TableSpec).primaryKey := .nil
  refine ⟨hcollected, hdistinct, fun b owner column => ?_, fun owner names =>
    ⟨ensureDistinct_ok_iff, ?_, fun error => ensureDistinct_eq_error_iff⟩⟩
  · rw [hcollected, Builder.createTable_eq_duplicate_iff hdistinct,
      Builder.createTable_eq_duplicate_iff hkeyless, Builder.validate_eq_duplicate_iff,
      Builder.validate_eq_duplicate_iff]
  · rw [ensureDistinct_ok_iff, withoutRepeats_eq_self_iff]

/-- Two calls, the second of which repeats a name of the first in other letters. -/
example : ([["host", "id"], ["HOST", "rack", "Id"]].foldl withPrimaryKey { name := "t" }).primaryKey =
    ["host", "id", "rack"] := by decide

end TableSpec
end SchemaChange
