import SchemaChange.Build.Rebuild
import SchemaChange.Proofs.Build.Checked

/-!
# The parts of a plan

A plan that is not refused was put together from statements that the builder made, each from the arguments
of the rebuild alone (`Builder.rebuildColumn_parts`). So nothing is left to be made once it is carried out,
and what is known of single statements is known of the plan.

* `Builder.Parts.restores`: the plan brings back NOT NULL and the default just where the target has them.
-/

namespace SchemaChange

/-- The column as it is added under its temporary name: nullable and without a default. -/
def ColumnSpec.stagedAs (column : ColumnSpec) (temporary : String) : ColumnSpec :=
  { column with name := temporary, nullable := true, default? := none }

/-- The plan forbids NULL again just if the column does, and sets a default just if the column has
    one. -/
structure Rebuild.Restores (plan : Rebuild) (column : ColumnSpec) : Prop where
  nullability : plan.restoreNullability?.isSome = !column.nullable
  default : plan.restoreDefault?.isSome = column.default?.isSome

namespace Builder

/-- What the statements of a plan were made by. -/
structure Parts (b : Builder) (table : String) (target : ColumnSpec) (current : SqlType)
    (suffix : String) (keyColumns : List String) (plan : Rebuild) : Prop where
  addTemporary : b.addClause table (target.stagedAs (target.name ++ suffix)) = .ok plan.addTemporary
  copy : (if current.isBinary && !target.type.isBinary then
      b.decodingCopy table target.name (target.name ++ suffix) keyColumns
    else Copy.assign <$> b.copyColumn table target.name (target.name ++ suffix)) = .ok plan.copy
  dropOld : b.dropColumn table target.name = .ok plan.dropOld
  rename : b.renameColumn table (target.name ++ suffix) (target.stagedAs target.name) =
    .ok plan.rename
  restoreNullability : if target.nullable then plan.restoreNullability? = none
    else ∃ typeName sql, b.nativeType target = .ok typeName ∧
      b.setNullable table target.name (some typeName) false = .ok sql ∧
        plan.restoreNullability? = some sql
  restoreDefault : match target.default? with
    | none => plan.restoreDefault? = none
    | some value => ∃ sql, b.setDefault table target.name value = .ok sql ∧
        plan.restoreDefault? = some sql

variable {b : Builder} {table suffix : String} {target : ColumnSpec} {current : SqlType}
  {keyColumns : List String} {plan : Rebuild}

/-- A plan that is not refused has all its parts. -/
theorem rebuildColumn_parts
    (h : b.rebuildColumn table target current suffix keyColumns = .ok plan) :
    b.Parts table target current suffix keyColumns plan := by
  obtain ⟨_, _, h⟩ := bind_ok h
  obtain ⟨addTemporary, hadd, h⟩ := bind_ok h
  -- The plan goes on in the same way after either branch of a condition, so each of the three
  -- conditions is settled before what follows it is opened.
  extract_lets withCopy at h
  obtain ⟨copy, hcopy, h⟩ : ∃ copy, (if current.isBinary && !target.type.isBinary then
      b.decodingCopy table target.name (target.name ++ suffix) keyColumns
    else Copy.assign <$> b.copyColumn table target.name (target.name ++ suffix)) = .ok copy ∧
      withCopy copy = .ok plan := by
    split at h
    · obtain ⟨copy, hcopy, h⟩ := bind_ok h
      exact ⟨copy, by rwa [if_pos ‹_›], h⟩
    · obtain ⟨copy, hcopy, h⟩ := bind_ok h
      exact ⟨copy, by rwa [if_neg ‹_›], h⟩
  dsimp -zeta only [withCopy] at h
  extract_lets withNullability at h
  obtain ⟨restoreNullability?, hnullability, h⟩ : ∃ sql?, (if target.nullable then sql? = none
      else ∃ typeName sql, b.nativeType target = .ok typeName ∧
        b.setNullable table target.name (some typeName) false = .ok sql ∧ sql? = some sql) ∧
      withNullability sql? = .ok plan := by
    split at h
    · exact ⟨none, by rw [if_pos ‹_›], h⟩
    · obtain ⟨typeName, htype, h⟩ := bind_ok h
      obtain ⟨sql?, hsql?, h⟩ := bind_ok h
      obtain ⟨sql, hsql, rfl⟩ := map_ok hsql?
      exact ⟨some sql, by rw [if_neg ‹_›]; exact ⟨typeName, sql, htype, hsql, rfl⟩, h⟩
  dsimp -zeta only [withNullability] at h
  extract_lets withDefault at h
  obtain ⟨restoreDefault?, hdefault, h⟩ : ∃ sql?, (match target.default? with
      | none => sql? = none
      | some value => ∃ sql, b.setDefault table target.name value = .ok sql ∧ sql? = some sql) ∧
      withDefault sql? = .ok plan := by
    cases hvalue : target.default? with
    | none => exact ⟨none, rfl, by rwa [hvalue] at h⟩
    | some value =>
      rw [hvalue] at h
      obtain ⟨sql?, hsql?, h⟩ := bind_ok h
      obtain ⟨sql, hsql, rfl⟩ := map_ok hsql?
      exact ⟨some sql, ⟨sql, hsql, rfl⟩, h⟩
  obtain ⟨dropOld, hdrop, h⟩ := bind_ok h
  obtain ⟨rename, hrename, h⟩ := bind_ok h
  cases h
  exact ⟨hadd, hcopy, hdrop, hrename, hnullability, hdefault⟩

theorem Parts.restores (h : b.Parts table target current suffix keyColumns plan) :
    plan.Restores target where
  nullability := by
    have hparts := h.restoreNullability
    cases hnullable : target.nullable with
    | true =>
      rw [hnullable, if_pos rfl] at hparts
      rw [hparts]
      rfl
    | false =>
      rw [hnullable, if_neg Bool.false_ne_true] at hparts
      obtain ⟨_, sql, _, _, hsql⟩ := hparts
      rw [hsql]
      rfl
  default := by
    have hparts := h.restoreDefault
    cases hvalue : target.default? with
    | none =>
      rw [hvalue] at hparts
      rw [show plan.restoreDefault? = none from hparts]
      rfl
    | some value =>
      rw [hvalue] at hparts
      obtain ⟨sql, _, hsql⟩ := hparts
      rw [hsql]
      rfl

end Builder

end SchemaChange
