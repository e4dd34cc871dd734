import SchemaChange.Proofs.Build.Checked
import SchemaChange.Spec

/-!
# Names that are told apart

A list of columns in which none is named twice, ignoring the case of ASCII letters, and what the checks
of such lists come to.

* `Distinct.find?_eq`: what is found under a name;
* `ensureDistinct_ok_iff`: which lists pass;
* `ConstraintSpec.of_validate`: the columns of a foreign key that passes, and those that it refers to;
* `ConstraintSpec.distinct_of_validate`: the columns of any constraint that passes;
* `TableSpec.of_validate`: the columns of a table that passes, and those of its key.
-/

namespace SchemaChange

/-- No column of the list is named twice. -/
def Distinct (names : List String) : Prop :=
  names.Pairwise fun a b => Text.sameName a b = false

theorem Distinct.nodup {names : List String} (h : Distinct names) : names.Nodup := by
  refine h.imp fun {a b} hapart heq => ?_
  rw [heq, Text.sameName_refl] at hapart
  cases hapart

/-- Of things that are told apart by their names, each is found under its own. -/
theorem Distinct.find?_eq {α : Type} {name : α → String} {l : List α} {a : α}
    (h : Distinct (l.map name)) (ha : a ∈ l) :
    l.find? (fun b => Text.sameName (name b) (name a)) = some a := by
  induction l with
  | nil => exact absurd ha List.not_mem_nil
  | cons b l ih =>
    obtain ⟨hb, hl⟩ := List.pairwise_cons.1 h
    rcases List.mem_cons.1 ha with rfl | ha
    · exact List.find?_cons_of_pos (Text.sameName_refl _)
    · have hapart := hb _ (List.mem_map_of_mem ha)
      rw [List.find?_cons_of_neg (by rw [hapart]; exact Bool.false_ne_true), ih hl ha]

/-- It is also found under a name that is the same. -/
theorem Distinct.find?_of_sameName {α : Type} {name : α → String} {l : List α} {a : α} {other : String}
    (h : Distinct (l.map name)) (ha : a ∈ l) (hsame : Text.sameName (name a) other = true) :
    l.find? (fun b => Text.sameName (name b) other) = some a := by
  rw [← h.find?_eq ha]
  congr
  funext b
  rw [Text.sameName_comm _ other, ← Text.sameName_congr hsame, Text.sameName_comm]

/-- Nothing is repeated if the names are told apart, and from those seen before. -/
theorem firstRepeated?_eq_none_iff {seen names : List String} :
    firstRepeated? seen names = none ↔
      Distinct names ∧ ∀ a ∈ seen, ∀ b ∈ names, Text.sameName a b = false := by
  induction names generalizing seen with
  | nil => exact ⟨fun _ => ⟨.nil, fun _ _ _ hb => absurd hb List.not_mem_nil⟩, fun _ => rfl⟩
  | cons name names ih =>
    rw [firstRepeated?, Distinct, List.pairwise_cons]
    constructor
    · intro h
      split at h
      · cases h
      · rename_i hname
        rw [Bool.not_eq_true, List.any_eq_false] at hname
        obtain ⟨hnames, hseen⟩ := ih.1 h
        refine ⟨⟨fun b hb => hseen name List.mem_cons_self b hb, hnames⟩, fun a ha b hb => ?_⟩
        rcases List.mem_cons.1 hb with rfl | hb
        · exact Bool.not_eq_true _ ▸ hname a ha
        · exact hseen a (List.mem_cons_of_mem name ha) b hb
    · rintro ⟨⟨hname, hnames⟩, hseen⟩
      have hany : ¬seen.any (Text.sameName · name) = true := by
        rw [Bool.not_eq_true, List.any_eq_false]
        exact fun a ha => Bool.not_eq_true _ ▸ hseen a ha name List.mem_cons_self
      rw [if_neg hany]
      refine ih.2 ⟨hnames, fun a ha b hb => ?_⟩
      rcases List.mem_cons.1 ha with rfl | ha
      · exact hname b hb
      · exact hseen a ha b (List.mem_cons_of_mem name hb)

/-- The lists that pass are those in which no column is named twice. -/
theorem ensureDistinct_ok_iff {owner : String} {columns : List String} :
    ensureDistinct owner columns = .ok () ↔ Distinct columns := by
  have hnone : firstRepeated? [] columns = none ↔ Distinct columns := by
    simp [firstRepeated?_eq_none_iff]
  rw [← hnone, ensureDistinct]
  cases firstRepeated? [] columns <;> simp

/-- A foreign key that passes has columns, and refers to as many, and none of them is named twice. -/
theorem ConstraintSpec.of_validate {c : ConstraintSpec} {referenced : String}
    {references : List String} {cascade : Bool} (hkind : c.kind = .foreignKey referenced references cascade)
    (h : c.validate = .ok ()) :
    c.columns ≠ [] ∧ Distinct c.columns ∧ c.columns.length = references.length ∧
      Distinct references := by
  rw [validate, hkind] at h
  obtain ⟨hempty, h⟩ := Builder.unless_ok h
  obtain ⟨_, hcolumns, h⟩ := Builder.bind_ok h
  obtain ⟨hlength, hreferences⟩ := Builder.unless_ok h
  exact ⟨fun hnil => hempty (by rw [hnil]; rfl), ensureDistinct_ok_iff.1 hcolumns,
    (not_not.1 hlength).symm, ensureDistinct_ok_iff.1 hreferences⟩

/-- The lists of columns that a constraint has: its own, and those that it refers to. -/
def ConstraintSpec.columnLists (c : ConstraintSpec) : List (List String) :=
  match c.kind with
  | .primaryKey | .unique => [c.columns]
  | .foreignKey _ references _ => [c.columns, references]

/-- No list of a constraint that passes names a column twice. -/
theorem ConstraintSpec.distinct_of_validate {c : ConstraintSpec} (h : c.validate = .ok ()) :
    ∀ names ∈ c.columnLists, Distinct names := by
  have hcolumns : Distinct c.columns := by
    rw [validate] at h
    obtain ⟨-, h⟩ := Builder.unless_ok h
    obtain ⟨_, hcolumns, -⟩ := Builder.bind_ok h
    exact ensureDistinct_ok_iff.1 hcolumns
  rw [columnLists]
  cases hkind : c.kind with
  | primaryKey | unique => exact List.forall_mem_singleton.2 hcolumns
  | foreignKey _ references _ =>
    obtain ⟨-, -, -, hreferences⟩ := of_validate hkind h
    exact List.forall_mem_cons.2 ⟨hcolumns, List.forall_mem_singleton.2 hreferences⟩

/-- A table that passes has columns, none of them named twice, and its key is over columns of these
    names. -/
theorem TableSpec.of_validate {t : TableSpec} (h : t.validate = .ok ()) :
    t.columns ≠ [] ∧ Distinct (t.columns.map (·.name)) ∧
      ∀ name ∈ t.primaryKey, ∃ column ∈ t.columns, Text.sameName column.name name = true := by
  rw [validate] at h
  obtain ⟨hempty, h⟩ := Builder.unless_ok h
  obtain ⟨_, -, h⟩ := Builder.bind_ok h
  obtain ⟨_, hdistinct, h⟩ := Builder.bind_ok h
  refine ⟨fun hnil => hempty (by rw [hnil]; rfl), ensureDistinct_ok_iff.1 hdistinct,
    fun name hname => ?_⟩
  split at h
  · cases h
  · -- Each name of the key is looked up, and found.
    have hfound := List.find?_eq_none.1 ‹_› name hname
    rw [Option.isNone_iff_eq_none, findColumn?, List.find?_eq_none] at hfound
    simpa using hfound

end SchemaChange
