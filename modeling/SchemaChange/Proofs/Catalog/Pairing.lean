import SchemaChange.Proofs.Catalog.Repetition
import SchemaChange.Proofs.Course.Refusal

/-!
# Foreign keys by their pairs

What comes back for the references from one table to another is a list of rows, one for each pair of
columns, and the pairs that are asked for are taken from it in whatever order they come. Where no column
is named twice on either side, taking one pair is never in the way of another one, so the answer is that
of the declarative question: is each of the pairs one of the rows?

Nothing is supposed of the rows (`Inspector.Hears`): they may be those of many keys, and may come in any
order and more than once. Where a column is named twice it matters in which order they come: the rows of
a key take its pairs if they stand together in the order of the key.

* `Inspector.hasForeignKey_pairs`: what is answered, and that neither the order of the rows nor that of
  the pairs matters;
* `Inspector.Hears.hasForeignKey_of_joins`: a key whose rows stand together is found, whatever other rows
  there are.
-/

namespace SchemaChange

variable {σ : Type} {i : Inspector} {c : Connection σ} {learned : Option CaseRule} {s : σ}
  {table referenced : String} {columns references : List String} {rule : CaseRule}
  {rows : List ForeignKeyColumn}

/-! ## Pairs at their positions -/

/-- A property of all pairs is one of each position. -/
theorem CaseRule.forall_mem_pairs_iff {P : String × String → Prop} :
    (∀ p ∈ rule.pairs columns references, P p) ↔
      ∀ n (_ : n < columns.length) (_ : n < references.length),
        P (rule.apply columns[n], rule.apply references[n]) := by
  rw [List.forall_mem_iff_getElem]
  constructor
  · intro h n hc hr
    have hn := h n (by simp [CaseRule.pairs, hc, hr])
    simpa [CaseRule.pairs] using hn
  · intro h n hn
    have hlt : n < columns.length ∧ n < references.length := by
      simpa [CaseRule.pairs] using hn
    simpa [CaseRule.pairs] using h n hlt.1 hlt.2

/-- Pairs that are put in another order are the same pairs. -/
theorem CaseRule.pairs_perm {columns' references' : List String} (rule : CaseRule)
    (h : (columns'.zip references').Perm (columns.zip references)) :
    (rule.pairs columns' references').Perm (rule.pairs columns references) := by
  simpa only [CaseRule.pairs, List.zip_map] using h.map (Prod.map rule.apply rule.apply)

/-- Names that are told apart still are in another order. -/
theorem Distinct.of_perm {names names' : List String} (h : Distinct names)
    (hperm : names'.Perm names) : Distinct names' :=
  (hperm.pairwise_iff fun hab => by rwa [Text.sameName_comm]).2 h

/-! ## What an inspector hears -/

/-- What an inspector is told of the references from one table to another: how names are folded, and
    then the rows. -/
structure Inspector.Hears (i : Inspector) (c : Connection σ) (learned : Option CaseRule) (s : σ)
    (table referenced : String) (rule : CaseRule) (rows : List ForeignKeyColumn) : Prop where
  hasCatalog : i.endpoint.hasCatalog = true
  folds : (i.caseRule.transcript c learned s).result.1 = .ok rule
  lists : (c.answer (i.caseRule.transcript c learned s).state
    (.getCrossReference (some (rule.apply referenced)) (some (rule.apply table)))).1 = .ok rows

namespace Inspector

/-- A look-up that is answered comes to its answer. -/
theorem transcript_inCatalog (context : String) (learned : Option CaseRule) {r : Request} {a : r.Answer}
    (hhas : i.endpoint.hasCatalog = true) (hanswer : (c.answer s r).1 = .ok a) :
    (i.inCatalog context r).transcript c learned s =
      ⟨(.ok a, learned), [⟨r, .ok a⟩], (c.answer s r).2⟩ := by
  refine Operation.Course.transcript_eq (course_inCatalog_iff.2 ⟨rfl, ?_⟩)
    (Connection.answers_cons_iff.2 ⟨_, Prod.ext hanswer rfl, .nil _⟩)
  rw [if_pos hhas]
  exact ⟨.ok a, rfl, rfl⟩

/-- The pairs that are asked for are taken from the rows that are heard. -/
theorem Hears.result_eq (h : i.Hears c learned s table referenced rule rows)
    (hlength : columns.length = references.length) (hne : columns ≠ []) :
    ((i.hasForeignKey table referenced columns references).transcript c learned s).result.1 =
      .ok (pairsCover rows (columns.map rule.apply) (references.map rule.apply)) := by
  unfold Inspector.hasForeignKey
  simp only [if_neg (not_not_intro hlength), List.isEmpty_iff, if_neg hne]
  rw [Operation.transcript_bind_of_ok h.folds]
  have hlookup := transcript_inCatalog ("reading references from " ++ table ++ " to " ++ referenced)
    (i.caseRule.transcript c learned s).result.2 h.hasCatalog h.lists
  rw [Operation.transcript_bind_of_ok (congrArg (·.result.1) hlookup)]
  rfl

/-- Where no column is named twice, each pair is looked for in the rows. -/
theorem Hears.hasForeignKey (h : i.Hears c learned s table referenced rule rows)
    (hlength : columns.length = references.length) (hne : columns ≠ [])
    (hcolumns : Distinct (columns.map rule.apply))
    (hreferences : Distinct (references.map rule.apply)) :
    ((i.hasForeignKey table referenced columns references).transcript c learned s).result.1 =
      .ok ((rule.pairs columns references).all fun p => rows.any (·.joins p)) := by
  rw [h.result_eq hlength hne, pairsCover_pairs rows hlength hne (hcolumns.apart hreferences)]

/-- The answer is found wherever the rows are heard, and it is whether each column that is asked for is
    paired by a row with the one at the same position. Rows that are put in another order or repeated do
    not change it, and neither does the order in which the pairs are asked for. -/
theorem hasForeignKey_pairs (i : Inspector) (c : Connection σ) (learned : Option CaseRule) (s : σ)
    (table referenced : String) (columns references : List String) (rule : CaseRule)
    (rows : List ForeignKeyColumn) (hheard : i.Hears c learned s table referenced rule rows)
    (hlength : columns.length = references.length) (hne : columns ≠ [])
    (hcolumns : Distinct (columns.map rule.apply))
    (hreferences : Distinct (references.map rule.apply)) :
    ∃ found,
      ((i.hasForeignKey table referenced columns references).transcript c learned s).result.1 =
          .ok found ∧
        (found = true ↔ ∀ n (_ : n < columns.length) (_ : n < references.length), ∃ row ∈ rows,
          Text.sameName row.column (rule.apply columns[n]) = true ∧
            Text.sameName row.referencedColumn (rule.apply references[n]) = true) ∧
        (∀ (τ : Type) (c' : Connection τ) (learned' : Option CaseRule) (s' : τ)
          (rows' : List ForeignKeyColumn), i.Hears c' learned' s' table referenced rule rows' →
            (∀ row, row ∈ rows' ↔ row ∈ rows) →
              ((i.hasForeignKey table referenced columns references).transcript c' learned'
                s').result.1 = .ok found) ∧
        ∀ columns' references' : List String, columns'.length = references'.length →
          (columns'.zip references').Perm (columns.zip references) →
            ((i.hasForeignKey table referenced columns' references').transcript c learned
              s).result.1 = .ok found := by
  refine ⟨_, hheard.hasForeignKey hlength hne hcolumns hreferences, ?_, ?_, ?_⟩
  · simp only [List.all_eq_true, CaseRule.forall_mem_pairs_iff, List.any_eq_true,
      ForeignKeyColumn.joins, Bool.and_eq_true, Text.sameName_comm (rule.apply _)]
  · intro τ c' learned' s' rows' hheard' hsame
    rw [hheard'.hasForeignKey hlength hne hcolumns hreferences]
    -- A pair is looked for in the rows as in a set.
    have hany : ∀ p, rows'.any (·.joins p) = rows.any (·.joins p) := fun p => by
      rw [Bool.eq_iff_iff, List.any_eq_true, List.any_eq_true]
      simp only [hsame]
    simp only [hany]
  · intro columns' references' hlength' hperm
    have hfst : columns'.Perm columns := by
      have h := hperm.map Prod.fst
      rwa [List.map_fst_zip hlength'.le, List.map_fst_zip hlength.le] at h
    have hsnd : references'.Perm references := by
      have h := hperm.map Prod.snd
      rwa [List.map_snd_zip hlength'.ge, List.map_snd_zip hlength.ge] at h
    have hne' : columns' ≠ [] := fun hnil => hne (hnil ▸ hfst).nil_eq.symm
    rw [hheard.hasForeignKey hlength' hne' (hcolumns.of_perm (hfst.map _))
      (hreferences.of_perm (hsnd.map _)), (rule.pairs_perm hperm).all_eq]

/-! ## Rows that stand together -/

section Together

variable {before after : List ForeignKeyColumn} {ps qs : List (String × String)}

/-- A row takes the two columns of a pair or none. -/
theorem takePair_sublist (row : ForeignKeyColumn) (ps : List (String × String)) :
    ∃ qs : List (String × String), qs.Sublist ps ∧
      takePair row (ps.map Prod.fst) (ps.map Prod.snd) = (qs.map Prod.fst, qs.map Prod.snd) := by
  unfold takePair
  split
  · rename_i m n _ _
    by_cases hmn : m = n
    · subst hmn
      refine ⟨ps.eraseIdx m, List.eraseIdx_sublist ps m, ?_⟩
      rw [if_pos rfl, List.eraseIdx_map, List.eraseIdx_map]
    · exact ⟨ps, .refl ps, if_neg hmn⟩
  · exact ⟨ps, .refl ps, rfl⟩

theorem takePairs_sublist (rows : List ForeignKeyColumn) (ps : List (String × String)) :
    ∃ qs : List (String × String), qs.Sublist ps ∧
      takePairs rows (ps.map Prod.fst) (ps.map Prod.snd) = (qs.map Prod.fst, qs.map Prod.snd) := by
  induction rows generalizing ps with
  | nil => exact ⟨ps, .refl ps, rfl⟩
  | cons row rows ih =>
    obtain ⟨qs, hqs, hrow⟩ := takePair_sublist row ps
    obtain ⟨rs, hrs, hrows⟩ := ih qs
    exact ⟨rs, hrs.trans hqs, by rw [takePairs_cons, hrow, hrows]⟩

theorem takePairs_nil (rows : List ForeignKeyColumn) : takePairs rows [] [] = ([], []) := by
  obtain ⟨qs, hqs, hrows⟩ := takePairs_sublist rows []
  rwa [List.sublist_nil.1 hqs] at hrows

theorem takePairs_append (rows rows' : List ForeignKeyColumn) (columns references : List String) :
    takePairs (rows ++ rows') columns references =
      takePairs rows' (takePairs rows columns references).1 (takePairs rows columns references).2 := by
  induction rows generalizing columns references with
  | nil => rfl
  | cons row rows ih => rw [List.cons_append, takePairs_cons, takePairs_cons, ih]

/-- Rows that join pairs one after the other take them all, and so they take what other rows have left
    of them. -/
theorem takePairs_of_joins (h : List.Forall₂ (fun row p => row.joins p = true) rows ps)
    (hqs : qs.Sublist ps) : takePairs rows (qs.map Prod.fst) (qs.map Prod.snd) = ([], []) := by
  induction h generalizing qs with
  | nil =>
    rw [List.sublist_nil.1 hqs]
    rfl
  | @cons row p rows ps hjoins _ ih =>
    rw [takePairs_cons]
    cases hqs with
    | cons _ hqs =>
      -- The pair has been taken already, and what the row takes instead of it does no harm.
      obtain ⟨rs, hrs, hrow⟩ := takePair_sublist row qs
      rw [hrow]
      exact ih (hrs.trans hqs)
    | cons_cons _ hqs =>
      obtain ⟨hcolumn, hreference⟩ := Bool.and_eq_true_iff.1 hjoins
      rw [List.map_cons, List.map_cons, takePair_cons_of_both _ _ hcolumn hreference]
      exact ih hqs

/-- Pairs are covered if some rows that stand together join them in their order, whatever rows come
    before and after. -/
theorem pairsCover_of_joins (h : List.Forall₂ (fun row p => row.joins p = true) rows ps)
    (hne : ps ≠ []) :
    pairsCover (before ++ rows ++ after) (ps.map Prod.fst) (ps.map Prod.snd) = true := by
  obtain ⟨qs, hqs, hbefore⟩ := takePairs_sublist before ps
  have hleft : takePairs (before ++ rows ++ after) (ps.map Prod.fst) (ps.map Prod.snd) = ([], []) := by
    rw [takePairs_append, takePairs_append, hbefore, takePairs_of_joins h hqs, takePairs_nil]
  have hrows : (before ++ rows ++ after).isEmpty = false := by
    cases h with
    | nil => exact absurd rfl hne
    | cons => simp
  unfold pairsCover
  rw [hleft, hrows]
  rfl

/-- A key whose rows stand together in the order of its pairs is found, whatever other rows there are,
    even if it names a column twice. -/
theorem Hears.hasForeignKey_of_joins
    (hheard : i.Hears c learned s table referenced rule (before ++ rows ++ after))
    (hlength : columns.length = references.length) (hne : columns ≠ [])
    (hjoins : List.Forall₂ (fun row p => row.joins p = true) rows (rule.pairs columns references)) :
    ((i.hasForeignKey table referenced columns references).transcript c learned s).result.1 =
      .ok true := by
  rw [hheard.result_eq hlength hne, ← rule.map_fst_pairs hlength, ← rule.map_snd_pairs hlength,
    pairsCover_of_joins hjoins (rule.pairs_ne_nil hlength hne)]

end Together

end Inspector

/-! ## Rows of two keys -/

namespace Catalog

/-- The rows of two keys between the same tables, mixed, and one of them twice. -/
def mixed : Catalog where
  rule := .upper
  exact := true
  foreignKeys := [⟨some "FK", "T", "B", "R", "Y", 2, .noAction⟩,
    ⟨some "OTHER", "T", "C", "R", "Z", 1, .noAction⟩,
    ⟨some "FK", "T", "A", "R", "X", 1, .noAction⟩,
    ⟨some "FK", "T", "B", "R", "Y", 2, .noAction⟩]

/-- An inspector that learns the case rule from the catalog. -/
def mixedInspector : Inspector where
  endpoint := ⟨"driver", "product", true⟩
  dialect := .generic

theorem hears_mixed :
    mixedInspector.Hears Catalog.connection none mixed "t" "r" .upper mixed.foreignKeys where
  hasCatalog := rfl
  folds := rfl
  lists := rfl

end Catalog

open Catalog in
/-- The key is found, whichever of its pairs is asked for first. -/
theorem Inspector.hasForeignKey_pairs_mixed :
    ((mixedInspector.hasForeignKey "t" "r" ["a", "b"] ["x", "y"]).transcript Catalog.connection none
        mixed).result.1 = .ok true ∧
      ((mixedInspector.hasForeignKey "t" "r" ["b", "a"] ["y", "x"]).transcript Catalog.connection none
        mixed).result.1 = .ok true := by
  have hcolumns : ["a", "b"].map CaseRule.upper.apply = ["A", "B"] := rfl
  have hreferences : ["x", "y"].map CaseRule.upper.apply = ["X", "Y"] := rfl
  obtain ⟨found, hresult, hfound, -, hperm⟩ := hasForeignKey_pairs mixedInspector Catalog.connection
    none mixed "t" "r" ["a", "b"] ["x", "y"] .upper mixed.foreignKeys hears_mixed rfl (by decide)
    (by rw [hcolumns]; exact List.pairwise_pair.2 rfl)
    (by rw [hreferences]; exact List.pairwise_pair.2 rfl)
  have htrue : found = true := hfound.2 fun n hc _ => by
    obtain rfl | rfl : n = 0 ∨ n = 1 := by simp at hc; omega
    · refine ⟨_, .tail _ (.tail _ (.head _)), ?_⟩
      change Text.sameName "A" (CaseRule.upper.apply "a") ∧ Text.sameName "X" (CaseRule.upper.apply "x")
      decide +kernel
    · refine ⟨_, .head _, ?_⟩
      change Text.sameName "B" (CaseRule.upper.apply "b") ∧ Text.sameName "Y" (CaseRule.upper.apply "y")
      decide +kernel
  subst htrue
  exact ⟨hresult, hperm ["b", "a"] ["y", "x"] rfl (.swap ..)⟩

end SchemaChange
