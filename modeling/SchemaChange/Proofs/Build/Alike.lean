import Mathlib.Data.List.Nodup
import SchemaChange.Proofs.Build.Checked
import SchemaChange.Proofs.Build.Naming
import SchemaChange.Proofs.Spec.Distinct
import SchemaChange.Proofs.Text.Casing

/-!
# Columns written alike

A list of columns is refused if it names one twice, ignoring the case of ASCII letters. What is written
are other texts: with quoting on, the parts of each name are folded by the mappings of all of Unicode.
Names that are the same are folded to the same parts, unless the rule leaves names as they are. But names
that pass may be folded to the same parts as well, and are then written alike.

* `Builder.foldedParts_eq_of_sameName`: names that are the same are written alike, if folded at all;
* `Builder.sameName_of_foldedParts_eq`: of ASCII names, no others are;
* `Builder.mapM_ident_nodup_iff`: the lists in which no two columns are written alike;
* `Builder.mem_written_iff`: the names that are written like one of a list;
* `Builder.TellsApart`: what a list of columns that passes comes to.
-/

namespace SchemaChange

/-! ## Parts -/

namespace Text

/-- A text is cut at its points whatever the case of its letters. -/
theorem splitOn_asciiLower (s : List Char) :
    (asciiLower s).splitOn '.' = (s.splitOn '.').map asciiLower := by
  induction s with
  | nil => rfl
  | cons c s ih =>
    have hpoint := toLower_eq_iff (d := '.') (by decide) c
    have hrest : (s.map Char.toLower).splitOn '.' = (s.splitOn '.').map asciiLower := ih
    rw [asciiLower, List.map_cons, List.splitOn_cons_eq_if_modifyHead,
      List.splitOn_cons_eq_if_modifyHead]
    simp only [beq_iff_eq]
    by_cases hc : c = '.'
    · rw [if_pos hc, if_pos (hpoint.2 hc), hrest]
      rfl
    · rw [if_neg hc, if_neg (mt hpoint.1 hc), hrest]
      cases s.splitOn '.' <;> rfl

/-- A text is known from its parts. -/
theorem splitOn_injective (sep : Char) : Function.Injective (List.splitOn sep) :=
  Function.LeftInverse.injective (g := [sep].intercalate) fun _ => List.intercalate_splitOn sep

end Text

theorem nameParts_injective : Function.Injective nameParts := by
  intro a b h
  have hparts := List.map_injective_iff.2 (fun s t => String.ofList_inj.1) h
  exact String.toList_injective (Text.splitOn_injective '.' hparts)

theorem isAscii_of_mem_nameParts {name part : String} (h : Text.IsAscii name.toList)
    (hpart : part ∈ nameParts name) : Text.IsAscii part.toList := by
  obtain ⟨s, hs, rfl⟩ := List.mem_map.1 hpart
  rw [String.toList_ofList]
  intro c hc
  have hpoint : c ≠ '.' := by
    rintro rfl
    exact Text.not_mem_of_mem_splitOn hs hc
  exact h c ((Text.exists_mem_splitOn_iff hpoint).1 ⟨s, hs, hc⟩)

namespace Builder

variable {b : Builder} {a a' : String} {names written : List String}

/-- The parts of a name as they are put between quotes. -/
def foldedParts (b : Builder) (name : String) : List String :=
  (nameParts name).map b.caseRule.apply

/-- Names that are the same have the same folded parts, unless names are not folded. -/
theorem foldedParts_eq_of_sameName (hrule : b.caseRule ≠ .verbatim) (h : Text.sameName a a' = true) :
    b.foldedParts a = b.foldedParts a' := by
  have hlower (name : String) : b.foldedParts name =
      ((Text.asciiLower name.toList).splitOn '.').map
        fun part => String.ofList (b.caseRule.fold part) := by
    rw [Text.splitOn_asciiLower, foldedParts, nameParts, List.map_map, List.map_map]
    refine List.map_congr_left fun part _ => ?_
    simp only [Function.comp_apply, CaseRule.apply, String.toList_ofList,
      CaseRule.fold_asciiLower hrule]
  rw [hlower, hlower, Text.sameName_iff.1 h]

/-- ASCII names of the same folded parts are the same. -/
theorem sameName_of_foldedParts_eq (ha : Text.IsAscii a.toList) (ha' : Text.IsAscii a'.toList)
    (h : b.foldedParts a = b.foldedParts a') : Text.sameName a a' = true := by
  -- Folding an ASCII part is seen through, so that the parts are the same one by one.
  have hlower {name : String} (hname : Text.IsAscii name.toList) :
      (b.foldedParts name).map (fun part => Text.asciiLower part.toList) =
        (Text.asciiLower name.toList).splitOn '.' := by
    rw [Text.splitOn_asciiLower, foldedParts, List.map_map]
    have hparts : ∀ part ∈ nameParts name, Text.asciiLower (b.caseRule.apply part).toList =
        Text.asciiLower part.toList := fun part hpart =>
      Text.sameName_iff.1 (b.caseRule.sameName_apply (isAscii_of_mem_nameParts hname hpart))
    refine (List.map_congr_left hparts).trans ?_
    rw [nameParts, List.map_map]
    exact List.map_congr_left fun part _ => congrArg Text.asciiLower String.toList_ofList
  refine Text.sameName_iff.2 (Text.splitOn_injective '.' ?_)
  rw [← hlower ha, ← hlower ha', h]

theorem foldedParts_injective (hrule : b.caseRule = .verbatim) : Function.Injective b.foldedParts := by
  intro a a' h
  have happly (name : String) : b.foldedParts name = nameParts name := by
    rw [foldedParts, hrule]
    exact List.map_id'' (fun _ => String.ofList_toList) _
  rw [happly, happly] at h
  exact nameParts_injective h

/-! ## Lists -/

/-- Columns are written alike if their folded parts are the same; with quoting off no two are that are
    told apart. -/
theorem mapM_ident_nodup_iff (hdistinct : Distinct names) (h : names.mapM b.ident = .ok written) :
    written.Nodup ↔ (b.options.quoted = true → (names.map b.foldedParts).Nodup) := by
  by_cases hquoted : b.options.quoted = true
  · rw [imp_iff_right hquoted]
    constructor
    · -- What is written is told by the folded parts.
      have hwritten := map_eq_of_mapM_ok (r := id) (ident_eq_of_quoted hquoted) h
      rw [List.map_id] at hwritten
      intro hnodup
      rw [hwritten] at hnodup
      have hparts : (names.map b.foldedParts).map (fun parts => String.ofList (['.'].intercalate
          ((parts.map String.toList).map (Text.quoted b.dialect.quoteChar)))) = _ := List.map_map
      exact List.Nodup.of_map _ (hparts ▸ hnodup)
    · -- And they are read back from it.
      have hread := map_eq_of_mapM_ok (readName?_ident hquoted) h
      intro hnodup
      have hsome : ((names.map b.foldedParts).map some).Nodup :=
        hnodup.map fun _ _ heq => Option.some.inj heq
      rw [List.map_map] at hsome
      exact List.Nodup.of_map _ (hread ▸ hsome)
  · have hbare := Bool.eq_false_iff.2 hquoted
    have hsame := map_eq_of_mapM_ok (r := id) (k := id)
      (fun hname => ((ident_of_bare hbare).1 hname).2) h
    rw [List.map_id, List.map_id] at hsame
    rw [hsame]
    exact ⟨fun _ hquoted' => absurd hquoted' hquoted, fun _ => hdistinct.nodup⟩

/-- A quoted name is written like one of a list if its folded parts are the same. -/
theorem mem_written_iff {name w : String} (hquoted : b.options.quoted = true)
    (h : names.mapM b.ident = .ok written) (hw : b.ident name = .ok w) :
    w ∈ written ↔ ∃ a ∈ names, b.foldedParts a = b.foldedParts name := by
  have hall := mapM_ok h
  clear h
  induction hall with
  | nil => simp
  | cons ha _ ih =>
    have hlike := ident_eq_iff_of_quoted hquoted ha hw
    rw [List.mem_cons, List.exists_mem_cons_iff, eq_comm, hlike]
    exact or_congr_right ih

/-- What becomes of a list of columns that is not refused: no name is given twice, and no two columns are
    written alike unless they are quoted and folded to the same parts. None are if all names are ASCII,
    and none if names are not folded. -/
structure TellsApart (b : Builder) (names written : List String) : Prop where
  writes : names.mapM b.ident = .ok written
  distinct : Distinct names
  nodup_iff : written.Nodup ↔ (b.options.quoted = true → (names.map b.foldedParts).Nodup)
  nodup_of_isAscii : (∀ name ∈ names, Text.IsAscii name.toList) → written.Nodup
  nodup_of_verbatim : b.caseRule = .verbatim → written.Nodup

theorem tellsApart (hdistinct : Distinct names) (h : names.mapM b.ident = .ok written) :
    b.TellsApart names written where
  writes := h
  distinct := hdistinct
  nodup_iff := mapM_ident_nodup_iff hdistinct h
  nodup_of_isAscii := by
    intro hascii
    refine (mapM_ident_nodup_iff hdistinct h).2 fun _ => List.pairwise_map.2 ?_
    refine hdistinct.imp_of_mem fun {a a'} ha ha' hapart hparts => ?_
    rw [sameName_of_foldedParts_eq (hascii a ha) (hascii a' ha') hparts] at hapart
    cases hapart
  nodup_of_verbatim hrule :=
    (mapM_ident_nodup_iff hdistinct h).2 fun _ => hdistinct.nodup.map (foldedParts_injective hrule)

end Builder

end SchemaChange
