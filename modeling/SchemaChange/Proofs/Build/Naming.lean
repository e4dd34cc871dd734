import Mathlib.Data.List.Forall2
import SchemaChange.Build.Builder
import SchemaChange.Proofs.Text.Lines
import SchemaChange.Proofs.Text.Quoted

/-!
# Names read back

A builder writes a name part by part. With quoting on, a part is folded and then quoted, so the folded parts
are read back from what is written, whatever they hold. With quoting off a name is written as it is, if all
its parts are plain words; such a name is never blank, as no letter is a blank.

* `Builder.readName?_ident`: the folded parts of a name that is quoted;
* `Builder.ident_eq_iff_of_quoted`: two names that are written alike;
* `Builder.ident_of_bare`: the names that are written bare.
-/

namespace SchemaChange

/-! ## Letters and blanks -/

namespace Text

variable {c : Char}

/-- The code points of all blanks. -/
def blankCodes : List Nat :=
  [0x9, 0xA, 0xB, 0xC, 0xD, 0x20, 0x85, 0xA0, 0x1680, 0x2000, 0x2001, 0x2002, 0x2003, 0x2004, 0x2005,
    0x2006, 0x2007, 0x2008, 0x2009, 0x200A, 0x2028, 0x2029, 0x202F, 0x205F, 0x3000]

theorem mem_blankCodes (h : isBlank c = true) : c.toNat ∈ blankCodes := by
  unfold isBlank at h
  split at h
  · rw [Bool.or_eq_true, Bool.and_eq_true, beq_iff_eq, decide_eq_true_iff, decide_eq_true_iff] at h
    rcases h with rfl | ⟨hlow, hhigh⟩
    · decide
    · have hlow : 9 ≤ c.toNat := hlow
      have hhigh : c.toNat ≤ 13 := hhigh
      simp only [blankCodes, List.mem_cons]
      omega
  · simp [blankBounds, CodeSet.contains, CodeSet.walk] at h
    simp only [blankCodes, List.mem_cons]
    grind

/-- A kind of characters that no blank is of. -/
theorem isBlank_of {p : Char → Bool} (hp : ∀ n ∈ blankCodes, p (Char.ofNat n) = false) (h : p c = true) :
    isBlank c = false := by
  by_contra hblank
  rw [Bool.not_eq_false] at hblank
  have hnone := hp _ (mem_blankCodes hblank)
  rw [Char.ofNat_toNat, h] at hnone
  cases hnone

/-- No letter is a blank. -/
theorem isBlank_of_isAlphabetic (h : isAlphabetic c = true) : isBlank c = false :=
  isBlank_of (by decide +kernel) h

end Text

/-! ## Bare names -/

theorem isBlank_of_isBareName {c : Char} {s : List Char} (h : isBareName (c :: s) = true) :
    Text.isBlank c = false := by
  rw [isBareName, Bool.and_eq_true, Bool.or_eq_true, beq_iff_eq] at h
  rcases h.1 with hletter | rfl
  · exact Text.isBlank_of_isAlphabetic hletter
  · rfl

theorem nul_notMem_of_isBareName {s : List Char} (h : isBareName s = true) : '\x00' ∉ s := by
  cases s with
  | nil => exact List.not_mem_nil
  | cons c s =>
    rw [isBareName, Bool.and_eq_true, List.all_eq_true] at h
    intro hnul
    rcases List.mem_cons.1 hnul with rfl | hnul
    · exact absurd h.1 (by decide)
    · exact absurd (h.2 _ hnul) (by decide)

/-! ## Names -/

/-- The parts of a name, which points separate. -/
def nameParts (name : String) : List String :=
  (name.toList.splitOn '.').map String.ofList

/-- Reads a name in quotes: its parts, each between quotes, with points between them. -/
def Dialect.readName? (d : Dialect) (written : String) : Option (List String) :=
  (Text.readParts? d.quoteChar written.toList).map (·.map String.ofList)

namespace Builder

variable {b : Builder} {name name' written written' : String} {parts writtenParts : List (List Char)}

/-- The text of a name whose parts are written. -/
theorem ident_ok (h : b.ident name = .ok written) :
    ∃ parts, (name.toList.splitOn '.').mapM b.identPart? = some parts ∧
      written = String.ofList (['.'].intercalate parts) := by
  unfold ident at h
  split at h
  · cases h
  · split at h
    · cases h
      exact ⟨_, ‹_›, rfl⟩
    · cases h

theorem mapM_identPart?_of_quoted (hquoted : b.options.quoted = true)
    (h : parts.mapM b.identPart? = some writtenParts) :
    writtenParts = (parts.map b.caseRule.fold).map (Text.quoted b.dialect.quoteChar) := by
  induction parts generalizing writtenParts with
  | nil =>
    cases h
    rfl
  | cons part parts ih =>
    rw [List.mapM_cons] at h
    obtain ⟨w, hw, h⟩ := Option.bind_eq_some_iff.1 h
    obtain ⟨ws, hws, h⟩ := Option.bind_eq_some_iff.1 h
    cases h
    rw [ih hws, List.map_cons, List.map_cons]
    rw [identPart?, if_pos hquoted] at hw
    split at hw
    · cases hw
    · cases hw
      rfl

/-- A quoted name is its folded parts, each in quotes. -/
theorem ident_eq_of_quoted (hquoted : b.options.quoted = true) (h : b.ident name = .ok written) :
    written = String.ofList (['.'].intercalate
      ((((nameParts name).map b.caseRule.apply).map String.toList).map
        (Text.quoted b.dialect.quoteChar))) := by
  obtain ⟨parts, hparts, rfl⟩ := ident_ok h
  rw [mapM_identPart?_of_quoted hquoted hparts, nameParts]
  simp only [List.map_map, Function.comp_def, CaseRule.apply, String.toList_ofList]

theorem ident_eq_intercalate (hquoted : b.options.quoted = true) (h : b.ident name = .ok written) :
    written = String.intercalate "." ((nameParts name).map fun part =>
      String.ofList (Text.quoted b.dialect.quoteChar (b.caseRule.apply part).toList)) := by
  rw [ident_eq_of_quoted hquoted h]
  apply String.toList_injective
  simp [String.toList_intercalate, Function.comp_def]

/-- The folded parts of a quoted name are read back. -/
theorem readName?_ident (hquoted : b.options.quoted = true) (h : b.ident name = .ok written) :
    b.dialect.readName? written = some ((nameParts name).map b.caseRule.apply) := by
  have hpoint : b.dialect.quoteChar ≠ '.' := by
    cases b.dialect <;> decide
  have hne : ((nameParts name).map b.caseRule.apply).map String.toList ≠ [] := by
    simp [nameParts]
  rw [Dialect.readName?, ident_eq_of_quoted hquoted h, String.toList_ofList,
    Text.readParts?_intercalate hpoint hne, Option.map_some, List.map_map (g := String.ofList)]
  simp

/-- Two quoted names are written alike if their folded parts are the same. -/
theorem ident_eq_iff_of_quoted (hquoted : b.options.quoted = true) (h : b.ident name = .ok written)
    (h' : b.ident name' = .ok written') :
    written = written' ↔
      (nameParts name).map b.caseRule.apply = (nameParts name').map b.caseRule.apply := by
  constructor
  · rintro rfl
    exact Option.some.inj ((readName?_ident hquoted h).symm.trans (readName?_ident hquoted h'))
  · intro hparts
    rw [ident_eq_of_quoted hquoted h, ident_eq_of_quoted hquoted h', hparts]

/-- A part that stands as it is. -/
theorem identPart?_of_bare (hbare : b.options.quoted = false) {part writtenPart : List Char} :
    b.identPart? part = some writtenPart ↔ isBareName part = true ∧ part = writtenPart := by
  rw [identPart?, hbare, if_neg Bool.false_ne_true]
  cases part with
  | nil => exact ⟨nofun, fun h => absurd h.1 Bool.false_ne_true⟩
  | cons c s =>
    rw [if_neg (by simp)]
    exact Option.ite_none_right_eq_some.trans (and_congr_right fun _ => Option.some_inj)

theorem mapM_identPart?_of_bare (hbare : b.options.quoted = false) :
    parts.mapM b.identPart? = some writtenParts ↔
      (∀ part ∈ parts, isBareName part = true) ∧ parts = writtenParts := by
  induction parts generalizing writtenParts with
  | nil => exact ⟨fun h => ⟨nofun, Option.some.inj h⟩, fun h => congrArg some h.2⟩
  | cons part parts ih =>
    rw [List.mapM_cons, List.forall_mem_cons]
    simp only [Option.bind_eq_bind, Option.bind_eq_some_iff, identPart?_of_bare hbare, ih]
    constructor
    · rintro ⟨_, ⟨hpart, rfl⟩, _, ⟨hparts, rfl⟩, ⟨⟩⟩
      exact ⟨⟨hpart, hparts⟩, rfl⟩
    · rintro ⟨⟨hpart, hparts⟩, rfl⟩
      exact ⟨part, ⟨hpart, rfl⟩, parts, ⟨hparts, rfl⟩, rfl⟩

/-- A name of bare parts is neither blank nor does it hold the character that no name may hold. -/
theorem accepted_of_bareParts (h : ∀ part ∈ name.toList.splitOn '.', isBareName part = true) :
    ¬(Text.isBlankText name || name.toList.contains '\x00') = true := by
  rw [Bool.or_eq_true, List.contains_iff_mem, not_or]
  constructor
  · -- Its first part begins with a letter or an underscore.
    obtain ⟨part, parts, hparts⟩ := List.exists_cons_of_ne_nil (List.splitOn_ne_nil '.' name.toList)
    have hpart : part ∈ name.toList.splitOn '.' := hparts ▸ List.mem_cons_self
    have hbare := h part hpart
    cases part with
    | nil => cases hbare
    | cons c s =>
      have hc := isBlank_of_isBareName hbare
      have hpoint : c ≠ '.' := by
        rintro rfl
        exact absurd (Text.not_mem_of_mem_splitOn hpart) (not_not_intro List.mem_cons_self)
      have hmem := (Text.exists_mem_splitOn_iff hpoint).1 ⟨_, hpart, List.mem_cons_self⟩
      exact fun hblank => Bool.false_ne_true (hc.symm.trans (List.all_eq_true.1 hblank c hmem))
  · intro hnul
    have hpoint : '\x00' ≠ '.' := by decide
    obtain ⟨part, hpart, hmem⟩ := (Text.exists_mem_splitOn_iff hpoint).2 hnul
    exact nul_notMem_of_isBareName (h part hpart) hmem

/-- With quoting off the names whose parts are all bare names are written, and as they are. -/
theorem ident_of_bare (hbare : b.options.quoted = false) :
    b.ident name = .ok written ↔
      (∀ part ∈ nameParts name, isBareName part.toList = true) ∧ written = name := by
  have hparts : (∀ part ∈ nameParts name, isBareName part.toList = true) ↔
      ∀ part ∈ name.toList.splitOn '.', isBareName part = true := by
    simp [nameParts]
  have hjoined : String.ofList (['.'].intercalate (name.toList.splitOn '.')) = name := by
    rw [List.intercalate_splitOn, String.ofList_toList]
  rw [hparts]
  constructor
  · intro h
    obtain ⟨parts, hmapM, rfl⟩ := ident_ok h
    obtain ⟨hall, rfl⟩ := (mapM_identPart?_of_bare hbare).1 hmapM
    exact ⟨hall, hjoined⟩
  · rintro ⟨hall, rfl⟩
    rw [ident, if_neg (accepted_of_bareParts hall), (mapM_identPart?_of_bare hbare).2 ⟨hall, rfl⟩]
    exact congrArg Except.ok hjoined

end Builder

end SchemaChange
