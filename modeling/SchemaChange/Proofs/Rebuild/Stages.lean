import Mathlib.Data.List.Forall2
import Mathlib.Data.List.Nodup
import SchemaChange.Proofs.Course.Statement
import SchemaChange.Proofs.Rebuild.Plan

/-!
# The stages of a rebuild

What a table holds between the statements of a rebuild, as compared to what it held before: first
the temporary column is there (`Filled`), then the old column is gone (`Removed`), then the temporary
column has its name. At each stage the data are kept (`Kept`). What is neither in the old nor in the
temporary column does not change at all (`Framed`).
-/

namespace SchemaChange

/-! ## What is kept -/

/-- The value `v'` stands for `v`: it is the same or, if bytes become text, the text of `v`. -/
def Stands (decodes : Prop) (v v' : Value) : Prop :=
  v' = v ∨ decodes ∧ v ≠ .null ∧ v' = .text v.decodedText

/-- The data of a table are kept: there are the same rows in the same order, the columns other than
    `name` are as they were, and if there was a column `name`, every row has what stands for its value
    either there or in the column `temporary`. -/
structure Kept (name temporary : String) (decodes : Prop) (before after : Content) : Prop where
  columns : ∀ c ∈ before.columns, c ≠ name → c ∈ after.columns
  rows : List.Forall₂ (fun row row' =>
    (∀ c ∈ before.columns, c ≠ name → row' c = row c) ∧
      (name ∈ before.columns →
        name ∈ after.columns ∧ Stands decodes (row name) (row' name) ∨
          temporary ∈ after.columns ∧ Stands decodes (row name) (row' temporary)))
    before.rows after.rows

variable {name temporary : String} {decodes : Prop} {d₀ d d' : Content}
  {R R' : Cells → Value → Prop}

/-- Before the rebuild nothing is lost. -/
theorem Kept.refl : Kept name temporary decodes d₀ d₀ where
  columns _ hc _ := hc
  rows := List.forall₂_same.2 fun _ _ => ⟨fun _ _ _ => rfl, fun hname => .inl ⟨hname, .inl rfl⟩⟩

theorem Kept.mono {decodes' : Prop} (h : Kept name temporary decodes d₀ d)
    (hdecodes : decodes → decodes') : Kept name temporary decodes' d₀ d where
  columns := h.columns
  rows := by
    have hstands : ∀ {v v'}, Stands decodes v v' → Stands decodes' v v' := fun h =>
      h.imp id fun h => ⟨hdecodes h.1, h.2⟩
    refine h.rows.imp fun row row' hrow => ⟨hrow.1, fun hname => (hrow.2 hname).imp ?_ ?_⟩
    · exact fun h => ⟨h.1, hstands h.2⟩
    · exact fun h => ⟨h.1, hstands h.2⟩

/-! ## The temporary column -/

/-- The table has the temporary column in addition, in which each row has a value that `R` allows. -/
structure Filled (temporary : String) (R : Cells → Value → Prop) (d₀ d : Content) : Prop where
  fresh : temporary ∉ d₀.columns
  columns : d.columns = d₀.columns ++ [temporary]
  rows : List.Forall₂ (fun row row' =>
    row ∈ d₀.rows ∧ (∀ c, c ≠ temporary → row' c = row c) ∧ R row (row' temporary)) d₀.rows d.rows

namespace Filled

theorem mem_columns (h : Filled temporary R d₀ d) {c : String} (hc : c ∈ d₀.columns) :
    c ∈ d.columns := by
  rw [h.columns]
  exact List.mem_append_left _ hc

theorem ne_temporary (h : Filled temporary R d₀ d) {c : String} (hc : c ∈ d₀.columns) :
    c ≠ temporary :=
  fun he => h.fresh (he ▸ hc)

theorem kept (h : Filled temporary R d₀ d) : Kept name temporary decodes d₀ d where
  columns _ hc _ := h.mem_columns hc
  rows := h.rows.imp fun _ _ hrow =>
    ⟨fun _ hc _ => hrow.2.1 _ (h.ne_temporary hc),
      fun hname => .inl ⟨h.mem_columns hname, .inl (hrow.2.1 _ (h.ne_temporary hname))⟩⟩

theorem mono (h : Filled temporary R d₀ d) (hR : ∀ row ∈ d₀.rows, ∀ v, R row v → R' row v) :
    Filled temporary R' d₀ d where
  fresh := h.fresh
  columns := h.columns
  rows := h.rows.imp fun row _ hrow => ⟨hrow.1, hrow.2.1, hR row hrow.1 _ hrow.2.2⟩

/-- Only the temporary column is written. -/
theorem mapRows (h : Filled temporary R d₀ d) {g : Cells → Cells}
    (hother : ∀ row' c, c ≠ temporary → g row' c = row' c)
    (hg : ∀ row ∈ d₀.rows, ∀ row', (∀ c, c ≠ temporary → row' c = row c) →
      R row (row' temporary) → R' row (g row' temporary)) :
    Filled temporary R' d₀ { d with rows := d.rows.map g } where
  fresh := h.fresh
  columns := h.columns
  rows := List.forall₂_map_right_iff.2 <| h.rows.imp fun row row' hrow =>
    ⟨hrow.1, fun c hc => (hother row' c hc).trans (hrow.2.1 c hc),
      hg row hrow.1 row' hrow.2.1 hrow.2.2⟩

end Filled

variable {col : String → String} {w : Rebuilding} {f : Rebuilding.Facts}

/-- The temporary column is added without any value in it. -/
theorem filled_of_addition (h : w.addition.effect? col [] d₀ = some d) :
    Filled (col w.temporary) (fun _ v => v = .null) d₀ d := by
  obtain ⟨hfresh, ⟨⟩⟩ := Option.ite_none_left_eq_some.1 h
  refine ⟨hfresh, rfl, List.forall₂_map_right_iff.2 <| List.forall₂_same.2 fun row hrow => ?_⟩
  exact ⟨hrow, fun c hc => Function.update_of_ne hc _ _, Function.update_self ..⟩

/-- One statement fills the temporary column with the values of the old one. -/
theorem Filled.of_assign (h : Filled (col w.temporary) R d₀ d)
    (hname : col w.target.name ∈ d₀.columns)
    (ht : (Change.assign w.target.name w.temporary).effect? col [] d = some d') :
    Filled (col w.temporary) (fun row v => v = row (col w.target.name)) d₀ d' := by
  obtain ⟨_, ⟨⟩⟩ := Option.ite_none_right_eq_some.1 ht
  refine h.mapRows (fun row' c hc => Function.update_of_ne hc _ _) fun row _ row' hsame _ => ?_
  rw [Function.update_self]
  exact hsame _ (h.ne_temporary hname)

/-! ## Rows that are written back -/

/-- The conditions of a row that is written back single it out: they are columns of the table that
    determine the source, and are not NULL where the source is not. -/
structure Rebuilding.SinglesOut (w : Rebuilding) (f : Facts) (col : String → String)
    (d₀ : Content) : Prop where
  columns : ∀ c ∈ w.conditions f, col c ∈ d₀.columns
  source : ∀ row ∈ d₀.rows, ∀ row₂ ∈ d₀.rows,
    Change.key col (w.conditions f) row = Change.key col (w.conditions f) row₂ →
      row (col w.target.name) = row₂ (col w.target.name)
  not_null : ∀ row ∈ d₀.rows, row (col w.target.name) ≠ .null →
    .null ∉ Change.key col (w.conditions f) row

theorem Rebuilding.SinglesOut.keyColumns (h : w.SinglesOut f col d₀) :
    ∀ c ∈ f.keyColumns, col c ∈ d₀.columns := by
  intro c hc
  refine h.columns c ?_
  rw [Rebuilding.conditions, if_neg (by simp [List.ne_nil_of_mem hc])]
  exact hc

/-- What is in the temporary column when the rows with the keys `done` have been written: nothing but
    the text of the source, and that in these rows. -/
def Written (w : Rebuilding) (f : Rebuilding.Facts) (col : String → String)
    (done : List (List Value)) (row : Cells) (v : Value) : Prop :=
  (v = .null ∨ row (col w.target.name) ≠ .null ∧
    v = .text (row (col w.target.name)).decodedText) ∧
  (Change.key col (w.conditions f) row ∈ done → v = .text (row (col w.target.name)).decodedText)

theorem key_congr {columns : List String} {row row' : Cells}
    (h : ∀ c ∈ columns, row' (col c) = row (col c)) :
    Change.key col columns row' = Change.key col columns row :=
  List.map_congr_left h

/-- Selected are the rows whose source is not NULL, by their key and the source. -/
theorem mem_selection_iff {source : String} {keyColumns : List String} {values : List Value} :
    values ∈ d.selection col source keyColumns ↔ ∃ row ∈ d.rows, row (col source) ≠ .null ∧
      values = Change.key col keyColumns row ++ [row (col source)] := by
  have hnull : ∀ v : Value, (!v.isNull) = true ↔ v ≠ .null := by
    intro v
    cases v <;> simp [Value.isNull]
  simp only [Content.selection, List.mem_map, List.mem_filter, hnull, and_assoc, eq_comm]

/-- The temporary column is not selected. -/
theorem Filled.selection_eq (h : Filled (col w.temporary) R d₀ d)
    (hname : col w.target.name ∈ d₀.columns) (hkey : ∀ c ∈ f.keyColumns, col c ∈ d₀.columns) :
    d.selection col w.target.name f.keyColumns = d₀.selection col w.target.name f.keyColumns := by
  have hsame : List.Forall₂ (fun row row' =>
      row' (col w.target.name) = row (col w.target.name) ∧
        Change.key col f.keyColumns row' = Change.key col f.keyColumns row) d₀.rows d.rows :=
    h.rows.imp fun row row' hrow => ⟨hrow.2.1 _ (h.ne_temporary hname),
      key_congr fun c hc => hrow.2.1 _ (h.ne_temporary (hkey c hc))⟩
  unfold Content.selection
  generalize d₀.rows = rows at hsame ⊢
  generalize d.rows = rows' at hsame ⊢
  induction hsame with
  | nil => rfl
  | cons hrow _ ih =>
    simp only [List.filter_cons, hrow.1]
    split
    · rw [List.map_cons, List.map_cons, hrow.1, hrow.2, ih]
    · exact ih

/-- The values that are bound for the conditions when a selected row is written back. -/
def Rebuilding.Facts.bound (f : Facts) (values : List Value) : List Value :=
  if f.keyColumns.isEmpty then values.getLast?.toList else values.dropLast

/-- What is bound to the conditions of the update is the key that was selected. -/
theorem bound_selected (row : Cells) :
    f.bound (Change.key col f.keyColumns row ++ [row (col w.target.name)]) =
      Change.key col (w.conditions f) row := by
  unfold Rebuilding.Facts.bound Rebuilding.conditions
  split
  · rw [List.getLast?_concat]
    rfl
  · rw [List.dropLast_concat]

/-- What is bound when a selected row is written back. -/
theorem writeBack?_selected {row : Row} {row₀ : Cells} (hsource : row₀ (col w.target.name) ≠ .null)
    (hrow : row.values = Change.key col f.keyColumns row₀ ++ [row₀ (col w.target.name)]) :
    Editor.writeBack? f.keyColumns.isEmpty row =
      some (.text (row₀ (col w.target.name)).decodedText :: Change.key col (w.conditions f) row₀) := by
  have hdecoded : ∀ v : Value, v ≠ .null → Editor.decoded? v = some v.decodedText := by
    intro v hv
    cases v <;> first | rfl | exact absurd rfl hv
  rw [← bound_selected row₀, ← hrow]
  unfold Editor.writeBack? Rebuilding.Facts.bound
  rw [hrow, List.getLast?_concat]
  simp only [Option.bind_eq_bind, Option.bind_some, hdecoded _ hsource, Option.toList_some]
  rfl

/-- One row is written back. -/
theorem Filled.of_write {done : List (List Value)} {row₀ : Cells}
    (h : Filled (col w.temporary) (Written w f col done) d₀ d) (hkey : w.SinglesOut f col d₀)
    (hrow₀ : row₀ ∈ d₀.rows) (hsource : row₀ (col w.target.name) ≠ .null)
    (ht : (Change.write w.temporary (w.conditions f)).effect? col
      (.text (row₀ (col w.target.name)).decodedText :: Change.key col (w.conditions f) row₀) d =
        some d') :
    Filled (col w.temporary)
      (Written w f col (done ++ [Change.key col (w.conditions f) row₀])) d₀ d' := by
  obtain ⟨_, ⟨⟩⟩ := Option.ite_none_right_eq_some.1 ht
  refine h.mapRows (fun row' c hc => ?_) fun row hrow row' hsame hwritten => ?_
  · split
    · exact Function.update_of_ne hc _ _
    · rfl
  · have hkeys : Change.key col (w.conditions f) row' = Change.key col (w.conditions f) row :=
      key_congr fun c hc => hsame _ (h.ne_temporary (hkey.columns c hc))
    rw [hkeys]
    split
    · -- The row has the key of the one written back, so it has the same source.
      rename_i hmatch
      have hsame := hkey.source row hrow row₀ hrow₀ hmatch.1
      rw [Function.update_self, ← hsame]
      exact ⟨.inr ⟨hsame ▸ hsource, rfl⟩, fun _ => rfl⟩
    · rename_i hmatch
      refine ⟨hwritten.1, fun hmem => ?_⟩
      rcases List.mem_append.1 hmem with hmem | hmem
      · exact hwritten.2 hmem
      · exact absurd ⟨List.mem_singleton.1 hmem, hkey.not_null row₀ hrow₀ hsource⟩ hmatch

/-- When every row that has a source has been written. -/
theorem Filled.of_written {done : List (List Value)}
    (h : Filled (col w.temporary) (Written w f col done) d₀ d)
    (hall : ∀ row ∈ d₀.rows, row (col w.target.name) ≠ .null →
      Change.key col (w.conditions f) row ∈ done) (hdecodes : decodes) :
    Filled (col w.temporary) (fun row v => Stands decodes (row (col w.target.name)) v) d₀ d := by
  refine h.mono fun row hrow v hwritten => ?_
  by_cases hnull : row (col w.target.name) = .null
  · rcases hwritten.1 with hv | hv
    · exact .inl (hv.trans hnull.symm)
    · exact absurd hnull hv.1
  · exact .inr ⟨hdecodes, hnull, hwritten.2 (hall row hrow hnull)⟩

/-! ## The old column goes -/

/-- The old column is gone, and the temporary one has what stands for its values. -/
structure Removed (name temporary : String) (decodes : Prop) (d₀ d : Content) : Prop where
  fresh : temporary ∉ d₀.columns
  columns : ∀ c ∈ d₀.columns, c ≠ name → c ∈ d.columns
  mem_temporary : temporary ∈ d.columns
  rows : List.Forall₂ (fun row row' =>
    (∀ c ∈ d₀.columns, c ≠ name → row' c = row c) ∧ Stands decodes (row name) (row' temporary))
    d₀.rows d.rows

theorem Removed.kept (h : Removed name temporary decodes d₀ d) :
    Kept name temporary decodes d₀ d where
  columns := h.columns
  rows := h.rows.imp fun _ _ hrow => ⟨hrow.1, fun _ => .inr ⟨h.mem_temporary, hrow.2⟩⟩

theorem Filled.removed (hname : col w.target.name ∈ d₀.columns)
    (h : Filled (col w.temporary) (fun row v => Stands decodes (row (col w.target.name)) v) d₀ d)
    (ht : w.removal.effect? col [] d = some d') :
    Removed (col w.target.name) (col w.temporary) decodes d₀ d' := by
  have hne := h.ne_temporary hname
  obtain ⟨_, ⟨⟩⟩ := Option.ite_none_right_eq_some.1 ht
  refine ⟨h.fresh, fun c hc hcn => ?_, ?_, ?_⟩
  · exact List.mem_filter.2 ⟨h.mem_columns hc, by simpa using hcn⟩
  · refine List.mem_filter.2 ⟨?_, by simpa using hne.symm⟩
    rw [h.columns]
    exact List.mem_append_right _ List.mem_cons_self
  · refine List.forall₂_map_right_iff.2 (h.rows.imp fun row row' hrow => ⟨fun c hc hcn => ?_, ?_⟩)
    · rw [Function.update_of_ne hcn]
      exact hrow.2.1 c (h.ne_temporary hc)
    · rw [Function.update_of_ne hne.symm]
      exact hrow.2.2

/-! ## The temporary column takes the name -/

theorem Removed.renamed (h : Removed (col w.target.name) (col w.temporary) decodes d₀ d)
    (ht : w.handover.effect? col [] d = some d') :
    Kept (col w.target.name) (col w.temporary) decodes d₀ d' := by
  have hne : ∀ {c}, c ∈ d₀.columns → c ≠ col w.temporary := fun hc he => h.fresh (he ▸ hc)
  obtain ⟨_, ⟨⟩⟩ := Option.ite_none_right_eq_some.1 ht
  refine ⟨fun c hc hcn => ?_, ?_⟩
  · exact List.mem_map.2 ⟨c, h.columns c hc hcn, if_neg (hne hc)⟩
  · refine List.forall₂_map_right_iff.2 (h.rows.imp fun row row' hrow => ⟨fun c hc hcn => ?_, ?_⟩)
    · rw [Function.update_of_ne (hne hc)]
      refine (Function.update_of_ne hcn _ _).trans (hrow.1 c hc hcn)
    · intro hname
      refine .inl ⟨List.mem_map.2 ⟨_, h.mem_temporary, if_pos rfl⟩, ?_⟩
      rw [Function.update_of_ne (hne hname)]
      refine (congrArg (Stands decodes _) (Function.update_self ..)).mpr hrow.2

/-! ## What no statement changes -/

/-- A restoration changes no content. -/
theorem effect?_of_restoration {change : Change} {params : List Value}
    (hchange : change ∈ w.restorations) (ht : change.effect? col params d = some d') : d' = d := by
  rcases List.mem_append.1 hchange with hmem | hmem
  · split at hmem
    · cases hmem
    · obtain rfl := List.mem_singleton.1 hmem
      exact (Option.some.inj (Option.ite_none_right_eq_some.1 ht).2).symm
  · obtain ⟨value, _, rfl⟩ := List.mem_map.1 hmem
    exact (Option.some.inj (Option.ite_none_right_eq_some.1 ht).2).symm

/-- The temporary column is new, and columns other than that and the old one are as they were. -/
structure Framed (name temporary : String) (d₀ d : Content) : Prop where
  fresh : temporary ∉ d₀.columns
  columns : ∀ c ∈ d₀.columns, c ≠ name → c ∈ d.columns
  rows : List.Forall₂ (fun row row' => ∀ c ∈ d₀.columns, c ≠ name → row' c = row c) d₀.rows d.rows

namespace Framed

theorem refl (hfresh : temporary ∉ d₀.columns) : Framed name temporary d₀ d₀ where
  fresh := hfresh
  columns _ hc _ := hc
  rows := List.forall₂_same.2 fun _ _ _ _ _ => rfl

/-- Without the old column there is nothing else to keep. -/
theorem kept (h : Framed name temporary d₀ d) (hname : name ∉ d₀.columns) :
    Kept name temporary decodes d₀ d where
  columns := h.columns
  rows := h.rows.imp fun _ _ hrow => ⟨hrow, fun hmem => absurd hmem hname⟩

theorem mapRows (h : Framed name temporary d₀ d) {columns : List String} {g : Cells → Cells}
    (hcolumns : ∀ c ∈ d.columns, c ≠ name → c ≠ temporary → c ∈ columns)
    (hg : ∀ row c, c ≠ name → c ≠ temporary → g row c = row c) :
    Framed name temporary d₀ { columns, rows := d.rows.map g } := by
  have hne : ∀ {c}, c ∈ d₀.columns → c ≠ temporary := fun hc he => h.fresh (he ▸ hc)
  refine ⟨h.fresh, fun c hc hcn => hcolumns c (h.columns c hc hcn) hcn (hne hc), ?_⟩
  exact List.forall₂_map_right_iff.2 <| h.rows.imp fun row row' hrow c hc hcn =>
    (hg row' c hcn (hne hc)).trans (hrow c hc hcn)

/-- No statement of a rebuild changes more, whatever is bound. -/
theorem of_effect? {change : Change} {params : List Value}
    (h : Framed (col w.target.name) (col w.temporary) d₀ d) (hchange : change ∈ w.changes f)
    (ht : change.effect? col params d = some d') :
    Framed (col w.target.name) (col w.temporary) d₀ d' := by
  simp only [Rebuilding.changes, List.mem_cons] at hchange
  rcases hchange with rfl | rfl | rfl | rfl | hrestoration
  · obtain ⟨_, ⟨⟩⟩ := Option.ite_none_left_eq_some.1 ht
    exact h.mapRows (fun c hc _ _ => List.mem_append_left _ hc)
      fun row c _ hct => Function.update_of_ne hct _ _
  · unfold Rebuilding.transfer at ht
    split at ht
    · cases params with
      | nil => cases ht
      | cons value bound =>
        obtain ⟨_, ⟨⟩⟩ := Option.ite_none_right_eq_some.1 ht
        refine h.mapRows (fun c hc _ _ => hc) fun row c _ hct => ?_
        split
        · exact Function.update_of_ne hct _ _
        · rfl
    · obtain ⟨_, ⟨⟩⟩ := Option.ite_none_right_eq_some.1 ht
      exact h.mapRows (fun c hc _ _ => hc) fun row c _ hct => Function.update_of_ne hct _ _
  · obtain ⟨_, ⟨⟩⟩ := Option.ite_none_right_eq_some.1 ht
    exact h.mapRows (fun c hc hcn _ => List.mem_filter.2 ⟨hc, by simpa using hcn⟩)
      fun row c hcn _ => Function.update_of_ne hcn _ _
  · obtain ⟨_, ⟨⟩⟩ := Option.ite_none_right_eq_some.1 ht
    refine h.mapRows (fun c hc _ hct => List.mem_map.2 ⟨c, hc, if_neg hct⟩) fun row c hcn hct => ?_
    rw [Function.update_of_ne hct]
    exact Function.update_of_ne hcn _ _
  · rwa [effect?_of_restoration hrestoration ht]

end Framed

end SchemaChange
