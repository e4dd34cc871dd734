import SchemaChange.Proofs.Rebuild.Content
import SchemaChange.Proofs.Rebuild.Parts

/-!
# The plan of a rebuild

The statements of a plan are the texts of five changes and of the restorations
(`Rebuilding.plan_texts`): nothing else is ever sent by a rebuild.
-/

namespace SchemaChange

/-- What is to be rebuilt: the column of the target's name. -/
structure Rebuilding where
  table : String
  target : ColumnSpec
  /-- What makes the name of the temporary column. -/
  suffix : String

namespace Rebuilding

/-- What has to be found out before the plan is made. -/
structure Facts where
  builder : Builder
  /-- The current type of the column. -/
  current : SqlType
  keyColumns : List String

variable (w : Rebuilding) (f : Facts)

/-- The name of the temporary column. -/
def temporary : String :=
  w.target.name ++ w.suffix

/-- The plan, unless it is refused. -/
def plan : Except BuildError Rebuild :=
  f.builder.rebuildColumn w.table w.target f.current w.suffix f.keyColumns

/-- Whether bytes become text. -/
def decodes : Bool :=
  f.current.isBinary && !w.target.type.isBinary

/-- The columns that single out a row that is written back. -/
def conditions : List String :=
  if f.keyColumns.isEmpty then [w.target.name] else f.keyColumns

/-- The target as long as it is filled: nullable and without a default. -/
def staged : ColumnSpec :=
  { w.target with nullable := true, default? := none }

/-- The temporary column is added. -/
def addition : Change :=
  .add { w.staged with name := w.temporary }

/-- The values are decoded row by row, or assigned. -/
def transfer : Change :=
  if w.decodes f then .write w.temporary (w.conditions f) else .assign w.target.name w.temporary

/-- The old column is dropped. -/
def removal : Change :=
  .drop w.target.name

/-- The temporary column takes the name of the old one. -/
def handover : Change :=
  .rename w.temporary w.staged

/-- What follows the rename. -/
def restorations : List Change :=
  (if w.target.nullable then [] else [.forbidNull w.target]) ++
    w.target.default?.toList.map (.setDefault w.target.name)

/-- Every statement that a rebuild may send. -/
def changes : List Change :=
  w.addition :: w.transfer f :: w.removal :: w.handover :: w.restorations

theorem addition_mem : w.addition ∈ w.changes f :=
  .head _

theorem transfer_mem : w.transfer f ∈ w.changes f :=
  .tail _ (.head _)

theorem removal_mem : w.removal ∈ w.changes f :=
  .tail _ (.tail _ (.head _))

theorem handover_mem : w.handover ∈ w.changes f :=
  .tail _ (.tail _ (.tail _ (.head _)))

/-- What is restored is changed last. -/
theorem restoration_mem {change : Change} (h : change ∈ w.restorations) : change ∈ w.changes f :=
  .tail _ (.tail _ (.tail _ (.tail _ h)))

/-- The statements of a copy are the text of the transfer, and of the selection for it. -/
def CopyTexts : Copy → Prop
  | .assign sql => w.decodes f = false ∧ (w.transfer f).text f.builder w.table = .ok sql
  | .decode select update keyColumns => w.decodes f = true ∧ keyColumns = f.keyColumns ∧
      selectionText f.builder w.table w.target.name f.keyColumns = .ok select ∧
        (w.transfer f).text f.builder w.table = .ok update

/-- The statements of a plan are the texts of changes. -/
structure Texts (plan : Rebuild) : Prop where
  addTemporary : w.addition.text f.builder w.table = .ok plan.addTemporary
  copy : w.CopyTexts f plan.copy
  dropOld : w.removal.text f.builder w.table = .ok plan.dropOld
  rename : w.handover.text f.builder w.table = .ok plan.rename
  restorations : ∀ sql ∈ plan.restorations,
    ∃ change ∈ w.restorations, change.text f.builder w.table = .ok sql

end Rebuilding

namespace Builder

variable {b : Builder}

/-- The builder writes the conditions on a row as the change describes them. -/
theorem keyConditions_eq (names : List String) (i : Nat) :
    b.keyConditions i names = Change.conditionTexts b.dialect i names := by
  induction names generalizing i with
  | nil => rfl
  | cons name names ih =>
    rw [keyConditions, ih]
    rfl

/-- A decoding copy is made of a selection and of the text of writing one row. -/
theorem decodingCopy_texts {table source target : String} {keyColumns : List String} {copy : Copy}
    (h : b.decodingCopy table source target keyColumns = .ok copy) :
    ∃ select update, copy = .decode select update keyColumns ∧
      selectionText b table source keyColumns = .ok select ∧
        (Change.write target (if keyColumns.isEmpty then [source] else keyColumns)).text b table =
          .ok update := by
  obtain ⟨tableName, htable, h⟩ := bind_ok h
  obtain ⟨sourceName, hsource, h⟩ := bind_ok h
  obtain ⟨targetName, htarget, h⟩ := bind_ok h
  obtain ⟨names, hnames, h⟩ := bind_ok h
  have hconditions : (if keyColumns.isEmpty then [source] else keyColumns).mapM b.ident =
      .ok (if names.isEmpty then [sourceName] else names) := by
    rw [mapM_isEmpty hnames]
    split
    · rw [List.mapM_cons, hsource]
      rfl
    · exact hnames
  dsimp only at h
  split at h
  · cases h
  · refine ⟨_, _, (Except.ok.inj h).symm, ?_, ?_⟩
    · simp only [selectionText, htable, hsource, hnames]
      rfl
    · simp only [Change.text, htable, htarget, hconditions, keyConditions_eq]
      rfl

end Builder

namespace Rebuilding

variable {w : Rebuilding} {f : Facts} {plan : Rebuild}

/-- A copy that decodes has the texts of its query and its update. -/
theorem copyTexts_of_decodingCopy {copy : Copy} (hdecodes : w.decodes f = true)
    (h : f.builder.decodingCopy w.table w.target.name w.temporary f.keyColumns = .ok copy) :
    w.CopyTexts f copy := by
  obtain ⟨select, update, rfl, hselect, hupdate⟩ := Builder.decodingCopy_texts h
  refine ⟨hdecodes, rfl, hselect, ?_⟩
  rw [transfer, if_pos hdecodes]
  exact hupdate

/-- A copy that assigns has the text of one statement. -/
theorem copyTexts_of_copyColumn {copy : Copy} (hdecodes : ¬w.decodes f = true)
    (h : Copy.assign <$> f.builder.copyColumn w.table w.target.name w.temporary = .ok copy) :
    w.CopyTexts f copy := by
  obtain ⟨sql, hsql, rfl⟩ := Builder.map_ok h
  refine ⟨eq_false_of_ne_true hdecodes, ?_⟩
  rw [transfer, if_neg hdecodes]
  exact hsql

/-- A plan that is not refused consists of the texts of changes. -/
theorem plan_texts (h : w.plan f = .ok plan) : w.Texts f plan := by
  have hparts := Builder.rebuildColumn_parts h
  refine ⟨hparts.addTemporary, ?_, hparts.dropOld, hparts.rename, fun sql hsql => ?_⟩
  · have hcopy := hparts.copy
    split at hcopy
    · exact copyTexts_of_decodingCopy ‹_› hcopy
    · exact copyTexts_of_copyColumn ‹_› hcopy
  · rcases List.mem_append.1 hsql with hsql | hsql
    · have hnullability := hparts.restoreNullability
      rw [Option.mem_toList] at hsql
      split at hnullability
      · cases hnullability ▸ hsql
      · obtain ⟨typeName, _, htype, hset, hmade⟩ := hnullability
        obtain rfl := Option.some.inj (hmade.symm.trans hsql)
        refine ⟨.forbidNull w.target, by simp [restorations, *], ?_⟩
        simp only [Change.text, htype]
        exact hset
    · have hdefault := hparts.restoreDefault
      rw [Option.mem_toList] at hsql
      split at hdefault
      · cases hdefault ▸ hsql
      · obtain ⟨_, hset, hmade⟩ := hdefault
        obtain rfl := Option.some.inj (hmade.symm.trans hsql)
        exact ⟨.setDefault w.target.name _, by simp [restorations, *], hset⟩

end Rebuilding

end SchemaChange
