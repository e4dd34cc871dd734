import SchemaChange.Proofs.Build.Naming
import SchemaChange.Proofs.Dialect.Literal
import SchemaChange.Proofs.SqlType.LeadingWord
import SchemaChange.Sqlite.Catalog

/-!
# Declared lengths

A type states a length between brackets, in decimal digits, and more may follow it after a comma. What is
read there is the number that was written, if it fits 32 bits. The text types of all dialects are such
types, with one word before the bracket. SQLite keeps a type of this form as it is declared, so a text column
is reported with the length that it was described with.

* `declaredLength?_bracketed`: the number that is read;
* `reportedType_bracketed`: a type that SQLite keeps as it is;
* `declaredLength?_kept`: the lengths of text columns.
-/

namespace SchemaChange

theorem Number.unsigned?_repr (n : Nat) : unsigned? n.repr.toList = some n := by
  obtain ⟨c, s, heq, hc⟩ := Text.exists_repr n
  rw [← Text.natural?_repr n, heq, unsigned?]
  rintro s' heq'
  obtain ⟨rfl, -⟩ := List.cons.inj heq'
  cases hc

/-- A number is read back from its digits if it fits 32 bits. -/
theorem Number.readUInt32?_repr (n : Nat) :
    readUInt32? n.repr.toList = if n < UInt32.size then some (UInt32.ofNat n) else none := by
  rw [readUInt32?, unsigned?_repr, Option.bind_some]

namespace Sqlite

variable {base more rest s t word number : List Char} {c : Char}

theorem isBlank_of_isDigit (h : c.isDigit = true) : Text.isBlank c = false :=
  Text.isBlank_of (by decide) h

/-! ## The number between brackets -/

/-- The length of a type is the number after its first bracket. -/
theorem declaredLength?_bracketed {declared : String} (n : Nat) (hbase : '(' ∉ base)
    (hmore : ∀ c ∈ more.head?, c = ',') (hclose : ')' ∉ more)
    (h : declared.toList = base ++ '(' :: (n.repr.toList ++ more ++ ')' :: rest)) :
    declaredLength? declared = if n < UInt32.size then some (UInt32.ofNat n) else none := by
  have hdigits : ∀ c ∈ n.repr.toList, c.isDigit = true := fun c => Text.isDigit_of_mem_repr
  have hopen : declared.toList.dropWhile (· != '(') = '(' :: (n.repr.toList ++ more ++ ')' :: rest) := by
    rw [h]
    exact Text.dropWhile_append (fun c hc => bne_iff_ne.2 (ne_of_mem_of_not_mem hc hbase))
      (by rintro _ ⟨⟩; rfl)
  have hinside : (n.repr.toList ++ more ++ ')' :: rest).takeWhile (· != ')') = n.repr.toList ++ more := by
    refine Text.takeWhile_append (fun c hc => bne_iff_ne.2 ?_) (by rintro _ ⟨⟩; rfl)
    rintro rfl
    rcases List.mem_append.1 hc with hc | hc
    · exact absurd (hdigits _ hc) (by decide)
    · exact hclose hc
  have hnumber : (n.repr.toList ++ more).takeWhile (· != ',') = n.repr.toList := by
    refine Text.takeWhile_append (fun c hc => bne_iff_ne.2 ?_) fun c hc => by rw [hmore c hc]; rfl
    rintro rfl
    exact absurd (hdigits _ hc) (by decide)
  have htrim : Text.trim n.repr.toList = n.repr.toList :=
    Text.trim_eq_self_iff.2 ⟨fun c hc => isBlank_of_isDigit (hdigits c (List.mem_of_head? hc)),
      fun c hc => isBlank_of_isDigit (hdigits c (List.mem_of_getLast? hc))⟩
  rw [declaredLength?, hopen]
  simp only [hinside, hnumber, htrim, Number.readUInt32?_repr]
  rw [if_pos (by simp)]

/-! ## Types that are kept -/

/-- A letter or digit stands inside words, and neither separates nor quotes. -/
theorem isWordChar_of_isAlphanum (h : c.isAlphanum = true) :
    isWordChar c = true ∧ isSpace c = false ∧ isQuote c = false ∧ c ≠ '\ufeff' := by
  have hlt : c.toNat < 128 := by
    have hranges : (decide ('A'.val ≤ c.val ∧ c.val ≤ 'Z'.val) ||
        (decide ('a'.val ≤ c.val) && decide (c.val ≤ 'z'.val)) ||
        decide ('0'.val ≤ c.val) && decide (c.val ≤ '9'.val)) = true := h
    simp only [Bool.or_eq_true, Bool.and_eq_true, decide_eq_true_eq, UInt32.le_iff_toNat_le,
      Char.reduceVal, UInt32.reduceToNat] at hranges
    change c.val.toNat < 128
    omega
  have hall : ∀ n < 128, (Char.ofNat n).isAlphanum = true → isWordChar (Char.ofNat n) = true ∧
      isSpace (Char.ofNat n) = false ∧ isQuote (Char.ofNat n) = false ∧ Char.ofNat n ≠ '\ufeff' := by
    decide
  simpa only [Char.ofNat_toNat] using hall c.toNat hlt (by rwa [Char.ofNat_toNat])

namespace Piece

/-- A run of letters and digits is one word. -/
theorem splitUpTo_word (n : Nat) (hne : word ≠ []) (hword : ∀ c ∈ word, c.isAlphanum = true)
    (ht : ∀ c ∈ t.head?, isWordChar c = false) :
    splitUpTo (n + 1) (word ++ t) = .word word :: splitUpTo n t := by
  obtain ⟨c, s, rfl⟩ := List.exists_cons_of_ne_nil hne
  obtain ⟨hc, hs⟩ := List.forall_mem_cons.1 hword
  obtain ⟨hchar, hspace, -, hmark⟩ := isWordChar_of_isAlphanum hc
  have hrun : ∀ c ∈ s, isWordChar c = true := fun c hc => (isWordChar_of_isAlphanum (hs c hc)).1
  have hfirst : first c (s ++ t) = (.word (c :: s), t) := by
    rw [first.eq_def, hspace, if_neg Bool.false_ne_true, if_neg hmark, if_pos hchar,
      Text.takeWhile_append hrun ht, Text.dropWhile_append hrun ht]
  rw [List.cons_append, splitUpTo, hfirst]

/-- A bracket is a word by itself. -/
theorem splitUpTo_bracket (n : Nat) (t : List Char) :
    splitUpTo (n + 1) ('(' :: t) = .word ['('] :: splitUpTo n t ∧
      splitUpTo (n + 1) (')' :: t) = .word [')'] :: splitUpTo n t := by
  constructor <;> rfl

/-- The pieces of a word with a number in brackets. -/
theorem split_bracketed (hne : word ≠ []) (hword : ∀ c ∈ word, c.isAlphanum = true) (hne' : number ≠ [])
    (hnumber : ∀ c ∈ number, c.isAlphanum = true) :
    split (word ++ '(' :: (number ++ [')'])) =
      [.word word, .word ['('], .word number, .word [')']] := by
  obtain ⟨n, hn⟩ := Nat.exists_eq_add_of_le (List.length_pos_iff.2 hne)
  obtain ⟨m, hm⟩ := Nat.exists_eq_add_of_le (List.length_pos_iff.2 hne')
  have hlength : (word ++ '(' :: (number ++ [')'])).length = n + m + 1 + 1 + 1 + 1 := by
    simp only [List.length_append, List.length_cons, List.length_nil]
    omega
  have hopen : ∀ c ∈ ('(' :: (number ++ [')'])).head?, isWordChar c = false := by
    rintro _ ⟨⟩
    rfl
  have hclose : ∀ c ∈ [')'].head?, isWordChar c = false := by
    rintro _ ⟨⟩
    rfl
  rw [split, hlength, splitUpTo_word _ hne hword hopen, (splitUpTo_bracket _ _).1,
    splitUpTo_word _ hne' hnumber hclose, (splitUpTo_bracket _ _).2]
  cases n + m <;> rfl

end Piece

/-- A text that ends in a bracket ends in no word. -/
theorem cutWord?_of_bracket {w : String} (hw : w.toList.getLast? ≠ some ')') (hne : w.toList ≠ [])
    (h : s.getLast? = some ')') : cutWord? w s = none := by
  refine if_neg fun heq => ?_
  have hlast := congrArg List.getLast? heq
  rw [Text.asciiLower, List.getLast?_map, List.getLast?_drop] at hlast
  split at hlast
  · exact hne (List.getLast?_eq_none_iff.1 hlast.symm)
  · rw [h] at hlast
    exact hw hlast.symm

/-- SQLite keeps a type that is a word with a number in brackets. -/
theorem reportedType_bracketed {declared : String} (hne : word ≠ [])
    (hword : ∀ c ∈ word, c.isAlphanum = true) (hne' : number ≠ [])
    (hnumber : ∀ c ∈ number, c.isAlphanum = true)
    (h : declared.toList = word ++ '(' :: (number ++ [')'])) : reportedType declared = declared := by
  have hlast : declared.toList.getLast? = some ')' := by
    rw [h, ← List.cons_append, ← List.append_assoc, List.getLast?_concat]
  obtain ⟨c, s, hcons⟩ := List.exists_cons_of_ne_nil hne
  have hquote : isQuote c = false :=
    (isWordChar_of_isAlphanum (hword c (hcons ▸ List.mem_cons_self))).2.2.1
  have hhead : declared.toList = c :: (s ++ '(' :: (number ++ [')'])) := by rw [h, hcons, List.cons_append]
  have hjoin : Piece.join (Piece.trim (Piece.split declared.toList)) = declared.toList := by
    rw [h, Piece.split_bracketed hne hword hne' hnumber]
    simp [Piece.trim, Piece.join, Piece.isBlank, Piece.text]
  have hclause : withoutClause declared.toList = declared.toList := by
    rw [withoutClause, cutWord?_of_bracket (by decide) (by decide) hlast, ite_self]
  have htext : typeText declared = declared.toList := by
    rw [typeText, hjoin, hclause, hhead, unwrapped, hquote]
    simp
  have hstandard : standardType? declared = none := by
    -- None of the types that are known has a bracket.
    have hbracket : '(' ∈ Text.asciiLower declared.toList :=
      List.mem_map.2 ⟨'(', by simp [h], rfl⟩
    rw [standardType?, htext, String.ofList_toList, List.find?_eq_none]
    intro known hknown hsame
    rw [← Text.sameName_iff.1 hsame] at hbracket
    have hnone : ∀ known ∈ standardTypes, '(' ∉ Text.asciiLower known.toList := by decide
    exact hnone known hknown hbracket
  rw [reportedType, hstandard, htext, hhead, dequoted, hquote, Option.getD_none,
    if_neg Bool.false_ne_true, ← hhead, String.ofList_toList]

/-! ## Text columns -/

/-- The word that a dialect writes before the length of a text. -/
def textWord (d : Dialect) : String :=
  if d = .oracle then "VARCHAR2" else "VARCHAR"

theorem toList_textType (d : Dialect) (n : UInt32) : (d.textType n).toList =
    (textWord d).toList ++ '(' :: (n.toNat.repr.toList ++ [')']) := by
  have hopen : (if d = .oracle then "VARCHAR2(" else "VARCHAR(") = textWord d ++ "(" := by
    rw [textWord]
    split <;> rfl
  rw [Dialect.textType, hopen]
  simp

theorem isAlphanum_of_mem_repr {n : Nat} (h : c ∈ n.repr.toList) : c.isAlphanum = true := by
  rw [Char.isAlphanum, Text.isDigit_of_mem_repr h, Bool.or_true]

theorem repr_ne_nil (n : Nat) : n.repr.toList ≠ [] := by
  obtain ⟨c, s, heq, -⟩ := Text.exists_repr n
  rw [heq]
  exact List.cons_ne_nil c s

/-- The length of a text type is read back. -/
theorem declaredLength?_textType (d : Dialect) (n : UInt32) :
    declaredLength? (d.textType n) = some n := by
  have hbase : '(' ∉ (textWord d).toList := by
    cases d <;> decide
  have hlist : (d.textType n).toList = (textWord d).toList ++ '(' :: (n.toNat.repr.toList ++ [] ++ [')']) := by
    rw [toList_textType, List.append_nil]
  rw [declaredLength?_bracketed n.toNat hbase (by simp) List.not_mem_nil hlist, if_pos n.toNat_lt,
    UInt32.ofNat_toNat]

/-- A text type is classified as one of varying length. -/
theorem ofDeclared_textType (d : Dialect) (n : UInt32) : SqlType.ofDeclared (d.textType n) = .varchar := by
  have hword : SqlType.IsWord (textWord d).toList := by
    cases d <;> decide
  have hrest : SqlType.EndsWord ('(' :: (n.toNat.repr.toList ++ [')'])) := by
    rintro _ ⟨⟩
    exact .inl rfl
  have hnone : ∀ c ∈ ([] : List Char), Text.isBlank c = true := nofun
  rw [SqlType.ofDeclared_eq hword hrest hnone hnone (by simp [toList_textType])]
  split
  · rfl
  · cases d <;> rfl

/-- SQLite keeps a text type as it is declared. -/
theorem reportedType_textType (d : Dialect) (n : UInt32) : reportedType (d.textType n) = d.textType n := by
  have hword : (textWord d).toList ≠ [] := by
    cases d <;> decide
  have hletters : (textWord d).toList.all Char.isAlphanum = true := by
    cases d <;> decide
  exact reportedType_bracketed hword (List.all_eq_true.1 hletters) (repr_ne_nil _) (fun _ => isAlphanum_of_mem_repr)
    (toList_textType d n)

/-- A column is reported with the type that SQLite keeps, and with what is read from it. -/
theorem exists_columnInfo {t : Table} {column : Column} (h : column ∈ t.columns) :
    ∃ info ∈ t.columnInfos, info.name = column.name ∧ info.declared = reportedType column.declared ∧
      info.maxLength? = declaredLength? (reportedType column.declared) ∧
      info.sqlType = SqlType.ofDeclared (reportedType column.declared) := by
  obtain ⟨i, hi⟩ := List.mem_iff_getElem?.1 h
  have hmem : (column, i) ∈ t.columns.zipIdx := List.mk_mem_zipIdx_iff_getElem?.2 hi
  rw [Table.columnInfos]
  refine ⟨_, List.mem_map_of_mem hmem, ?_⟩
  dsimp only
  exact ⟨rfl, rfl, rfl, rfl⟩

/-- A declared length survives the way through the catalog. Every dialect has a type for texts of every
    length, and its length is read back from it; SQLite reports a column that is declared so with the
    type as it was written, with this length, and as a text of varying length. More generally, the number
    after the first bracket of a type is read as its length, whatever stands before the bracket, after a
    comma and after the closing bracket, unless it has more than 32 bits. -/
theorem declaredLength?_kept {base more rest : String} (hbase : '(' ∉ base.toList)
    (hmore : ∀ c ∈ more.toList.head?, c = ',') (hclose : ')' ∉ more.toList) (n : Nat) :
    declaredLength? (base ++ "(" ++ n.repr ++ more ++ ")" ++ rest) =
        (if n < UInt32.size then some (UInt32.ofNat n) else none) ∧
      ∀ (d : Dialect) (length : UInt32), ∃ declared,
        d.nativeType? .string (some length) = some declared ∧
        declaredLength? declared = some length ∧
        SqlType.ofDeclared declared = .varchar ∧
        ∀ (t : Table), ∀ column ∈ t.columns, column.declared = declared →
          ∃ info ∈ t.columnInfos, info.name = column.name ∧ info.declared = declared ∧
            info.maxLength? = some length ∧ info.sqlType = .varchar := by
  have hlist : (base ++ "(" ++ n.repr ++ more ++ ")" ++ rest).toList =
      base.toList ++ '(' :: (n.repr.toList ++ more.toList ++ ')' :: rest.toList) := by
    simp
  refine ⟨declaredLength?_bracketed n hbase hmore hclose hlist, fun d length =>
    ⟨d.textType length, rfl, declaredLength?_textType d length, ofDeclared_textType d length, ?_⟩⟩
  intro t column hcolumn hdeclared
  have hinfo := exists_columnInfo hcolumn
  rwa [hdeclared, reportedType_textType, declaredLength?_textType, ofDeclared_textType] at hinfo

/-- The greatest length of a type with a scale and a clause behind it, and a bracket that closes nothing
    before it; one more does not fit. -/
theorem declaredLength?_kept_greatest :
    declaredLength? "NUMERIC)é(4294967295, 2) CHECK (n > 0)" = some 4294967295 ∧
      declaredLength? "NUMERIC)é(4294967296, 2) CHECK (n > 0)" = none := by
  have hmore : ∀ c ∈ ", 2".toList.head?, c = ',' := by
    rintro _ ⟨⟩
    rfl
  have hkept (n : Nat) :
      declaredLength? ("NUMERIC)é" ++ "(" ++ n.repr ++ ", 2" ++ ")" ++ " CHECK (n > 0)") =
        if n < UInt32.size then some (UInt32.ofNat n) else none :=
    (declaredLength?_kept (by decide) hmore (by decide) n).1
  exact ⟨hkept 4294967295, hkept 4294967296⟩

end Sqlite
end SchemaChange
