import SchemaChange.Build.Builder
import SchemaChange.Proofs.Build.Checked
import SchemaChange.Proofs.Statement.Literal

/-!
# Names, types and definitions in a statement

What a builder puts into its statements are phrases, whatever names it is given and however it writes
them: quoted names do not get out of their quotes, and a bare name is a word.
-/

namespace SchemaChange

variable {b : Builder} {d : Dialect}

/-! ## Names -/

/-- A bare name is a word. -/
theorem isWordChar_of_isBareName {s : List Char} (h : isBareName s = true) :
    ∀ c ∈ s, isWordChar c = true := by
  cases s with
  | nil => exact nofun
  | cons c s =>
    rw [isBareName, Bool.and_eq_true, List.all_eq_true] at h
    refine List.forall_mem_cons.2 ⟨?_, fun c hc => ?_⟩
    · exact isWordChar_of (p := fun c => Text.isAlphabetic c || c == '_') rfl h.1
    · exact isWordChar_of (p := fun c => Text.isAlphanumeric c || c == '_' || c == '$' || c == '#')
        rfl (h.2 c hc)

namespace Builder

/-- A part of a name as it is written: quoted, or a bare name. -/
def IsWrittenPart (d : Dialect) (part : String) : Prop :=
  (∃ s, part = String.ofList (Text.quoted d.quoteChar s)) ∨ isBareName part.toList = true

theorem IsWrittenPart.phrase {part : String} (h : IsWrittenPart d part) : Phrase d part := by
  rcases h with ⟨s, rfl⟩ | h
  · exact Takes.quoted (.inr rfl) s
  · rw [← String.ofList_toList (s := part)]
    exact .word (isWordChar_of_isBareName h)

/-- What is written for a part of a name is quoted, or a bare name. -/
theorem identPart?_isWrittenPart {part written : List Char} (h : b.identPart? part = some written) :
    IsWrittenPart b.dialect (String.ofList written) := by
  unfold identPart? at h
  split at h
  · cases h
  · split at h
    · cases h
      exact .inl ⟨_, rfl⟩
    · split at h
      · cases h
        exact .inr (by rwa [String.toList_ofList])
      · cases h

/-- The parts of a name that was not refused were not refused. -/
theorem identParts_areWritten {parts written : List (List Char)}
    (h : parts.mapM b.identPart? = some written) :
    written.length = parts.length ∧
      ∀ s ∈ written, IsWrittenPart b.dialect (String.ofList s) := by
  induction parts generalizing written with
  | nil =>
    cases h
    exact ⟨rfl, nofun⟩
  | cons part parts ih =>
    rw [List.mapM_cons] at h
    obtain ⟨w, hw, h⟩ := Option.bind_eq_some_iff.1 h
    obtain ⟨ws, hws, h⟩ := Option.bind_eq_some_iff.1 h
    cases h
    obtain ⟨hlength, hall⟩ := ih hws
    exact ⟨congrArg (· + 1) hlength, List.forall_mem_cons.2 ⟨identPart?_isWrittenPart hw, hall⟩⟩

/-- A name is written as its parts, as many as it has, with points between them. -/
theorem ident_parts {name written : String} (h : b.ident name = .ok written) :
    ∃ parts, written = String.intercalate "." parts ∧
      parts.length = (name.toList.splitOn '.').length ∧
      ∀ part ∈ parts, IsWrittenPart b.dialect part := by
  unfold ident at h
  split at h
  · cases h
  · split at h
    · rename_i parts hparts
      cases h
      obtain ⟨hlength, hall⟩ := identParts_areWritten hparts
      refine ⟨parts.map String.ofList, ?_, by rwa [List.length_map], List.forall_mem_map.2 hall⟩
      apply String.toList_injective
      simp [String.toList_intercalate, Function.comp_def]
    · cases h

/-- A name that is written is a phrase. -/
theorem ident_phrase {name written : String} (h : b.ident name = .ok written) :
    Phrase b.dialect written := by
  obtain ⟨parts, rfl, -, hparts⟩ := ident_parts h
  exact .intercalate (Takes.of_walk rfl) fun part hpart => (hparts part hpart).phrase

/-- So is a list of names with commas between them. -/
theorem identList_phrase {owner written : String} {names : List String}
    (h : b.identList owner names = .ok written) : Phrase b.dialect written := by
  rw [identList] at h
  obtain ⟨-, h⟩ := unless_ok h
  obtain ⟨_, -, h⟩ := bind_ok h
  obtain ⟨columns, hcolumns, h⟩ := bind_ok h
  cases h
  exact .intercalate (Takes.of_walk rfl) (forall_of_mapM_ok ident_phrase hcolumns)

end Builder

/-! ## Types and marks -/

namespace Dialect

theorem textType_phrase (n : UInt32) : Phrase d (d.textType n) := by
  have hopen : Takes d .ready 0 (if d = oracle then "VARCHAR2(" else "VARCHAR(") .ready 1 := by
    split <;> exact Takes.of_walk rfl
  exact Takes.settle ((hopen.phrase (.repr _)).text rfl)

/-- The types of a dialect are words, with a length between brackets at most. -/
theorem nativeType?_phrase {type : ColumnType} {length? : Option UInt32} {t : String}
    (h : d.nativeType? type length? = some t) : Phrase d t := by
  cases type with
  | string =>
    obtain ⟨n, -, rfl⟩ := Option.map_eq_some_iff.1 h
    exact textType_phrase n
  | integer | long | boolean | timestamp | blob | clob | charArray =>
    -- Each dialect has a name of its own, and the generic one has none for unbounded text.
    cases d <;> cases h <;> exact .text rfl (.inl rfl)

theorem placeholder_phrase (i : Nat) : Phrase d (d.placeholder i) := by
  cases d with
  | postgres | oracle => exact (Takes.of_walk rfl).phrase (.repr i)
  | mySql | derby | generic => exact (.text rfl (.inl rfl) : Phrase _ "?")

end Dialect

/-! ## Columns -/

namespace Builder

variable {column : ColumnSpec} {written : String}

theorem nativeType_phrase (h : b.nativeType column = .ok written) : Phrase b.dialect written := by
  obtain ⟨_, -, h⟩ := bind_ok h
  split at h
  · cases h
    exact Dialect.nativeType?_phrase ‹_›
  · cases h

theorem literal_phrase {value : Value} (h : b.literal value = .ok written) :
    Phrase b.dialect written := by
  unfold literal at h
  split at h
  · cases h
    exact Dialect.literal?_phrase ‹_›
  · cases h

/-- A default may stand behind a type. -/
theorem defaultClause_takes {default? : Option Value} (h : b.defaultClause default? = .ok written) :
    Takes b.dialect .settled 0 written .settled 0 := by
  cases default? with
  | none =>
    cases h
    exact Takes.nil
  | some value =>
    obtain ⟨t, ht, h⟩ := bind_ok h
    cases h
    exact (Takes.of_walk rfl).phrase (literal_phrase ht)

/-- What a definition says of a column. -/
theorem attributes_phrase {typeName default : String} (htype : b.nativeType column = .ok typeName)
    (hdefault : b.defaultClause column.default? = .ok default) :
    Phrase b.dialect (typeName ++ default ++ (if column.nullable then "" else " NOT NULL")) := by
  have hnull : Takes b.dialect .settled 0 (if column.nullable then "" else " NOT NULL") .settled 0 := by
    split
    · exact Takes.nil
    · exact Takes.settle (Takes.of_walk rfl)
  exact Takes.append (Takes.append (nativeType_phrase htype) (defaultClause_takes hdefault)) hnull

/-- A column is defined by its name, its type and what is said of it. -/
theorem columnDefinition_phrase (h : b.columnDefinition column = .ok written) :
    Phrase b.dialect written := by
  obtain ⟨name, hname, h⟩ := bind_ok h
  obtain ⟨typeName, htype, h⟩ := bind_ok h
  obtain ⟨default, hdefault, h⟩ := bind_ok h
  cases h
  have hblank : Takes b.dialect .settled 0 " " .ready 0 := Takes.of_walk rfl
  have hphrase : Phrase b.dialect _ :=
    ((ident_phrase hname).append hblank).phrase (attributes_phrase htype hdefault)
  simpa only [String.append_assoc] using hphrase

end Builder

end SchemaChange
