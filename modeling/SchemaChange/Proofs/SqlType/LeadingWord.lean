import SchemaChange.Build.Rebuild
import SchemaChange.Proofs.Text.Casing
import SchemaChange.Proofs.Text.Lines

/-!
# The leading word of a type

A declared type is classified by its leading word. What follows the word is a length, a precision or a
modifier: it begins with a bracket or a blank, and does not change the class, nor do the blanks around the
type or the case of its letters. One class has two words: `CHARACTER` is a text of fixed length, and with
one space and `VARYING` behind it a text of varying length. Both are texts, so how the values of a column
are copied is told by the leading word alone.

* `SqlType.trim_word_append`: what is left of a word and what follows it, once the blanks are off;
* `SqlType.ofDeclared_eq`: the class of a type, by its leading word;
* `SqlType.ofDeclared_leadingWord`: the same as the class of the word, and the same copy.
-/

namespace SchemaChange

variable {s t p : List Char} {c : Char}

namespace Text

theorem isBlank_toLower (c : Char) : isBlank c.toLower = isBlank c :=
  apply_toLower isBlank (by decide) c

theorem isBlank_toUpper (c : Char) : isBlank c.toUpper = isBlank c :=
  apply_toUpper isBlank (by decide) c

/-- The blanks around a text are those of the text in small letters. -/
theorem trim_asciiLower (s : List Char) : trim (asciiLower s) = asciiLower (trim s) := by
  have hblank : isBlank ∘ Char.toLower = isBlank := funext isBlank_toLower
  simp only [trim, trimStart, trimEnd, asciiLower, List.dropWhile_map, ← List.map_reverse, hblank]

/-- What ends in no blank, and begins a text with blanks behind it, begins the text. -/
theorem isPrefix_of_append_blank (hp : NoTrailingBlank p) (ht : ∀ c ∈ t, isBlank c = true)
    (h : p <+: s ++ t) : p <+: s := by
  rcases Nat.le_total p.length s.length with hle | hle
  · exact List.prefix_of_prefix_length_le h (List.prefix_append s t) hle
  · obtain ⟨u, rfl⟩ := List.prefix_of_prefix_length_le (List.prefix_append s t) h hle
    have hu : u <+: t := (List.prefix_append_right_inj s).1 h
    cases hlast : u.getLast? with
    | none => simp [List.getLast?_eq_none_iff.1 hlast]
    | some c =>
      have hblank := ht c (hu.subset (List.mem_of_getLast? hlast))
      have hnot := hp c (by simp [List.getLast?_append, hlast])
      rw [hblank] at hnot
      cases hnot

end Text

namespace SqlType

/-! ## Words -/

/-- A word of a type: not empty, and without blanks and brackets. -/
structure IsWord (s : List Char) : Prop where
  nonempty : s ≠ []
  unbroken : ∀ c ∈ s, c ≠ '(' ∧ Text.isBlank c = false

instance : DecidablePred IsWord := fun s =>
  decidable_of_iff (s ≠ [] ∧ s.all fun c => c != '(' && !Text.isBlank c) <| by
    refine ⟨fun h => ⟨h.1, ?_⟩, fun h => ⟨h.nonempty, ?_⟩⟩
    · simpa using h.2
    · simpa using h.unbroken

/-- What may follow a word: nothing, or what begins with a bracket or a blank. -/
def EndsWord (s : List Char) : Prop :=
  ∀ c ∈ s.head?, c = '(' ∨ Text.isBlank c = true

instance : DecidablePred EndsWord := fun s =>
  decidable_of_iff (s.head?.all fun c => c == '(' || Text.isBlank c) <| by
    cases h : s.head? <;> simp [EndsWord, h]

theorem EndsWord.mono (ht : EndsWord t) (h : s <+: t) : EndsWord s := by
  intro c hc
  obtain ⟨s', hs⟩ := List.head?_eq_some_iff.1 hc
  obtain ⟨r, rfl⟩ := h
  exact ht c (by rw [hs]; rfl)

theorem IsWord.noLeadingBlank (h : IsWord s) : Text.NoLeadingBlank s :=
  fun c hc => (h.unbroken c (List.mem_of_head? hc)).2

theorem IsWord.noTrailingBlank (h : IsWord s) : Text.NoTrailingBlank s :=
  fun c hc => (h.unbroken c (List.mem_of_getLast? hc)).2

/-- Of a word and what follows it, only blanks at the very end are taken. -/
theorem trim_word_append (hs : IsWord s) (t : List Char) :
    ∃ rest blanks, Text.trim (s ++ t) = s ++ rest ∧ t = rest ++ blanks ∧
      ∀ c ∈ blanks, Text.isBlank c = true := by
  obtain ⟨blanks, hblanks, ht⟩ := Text.exists_trimEnd t
  refine ⟨Text.trimEnd t, blanks, ?_, ht, hblanks⟩
  have hlast : Text.NoTrailingBlank (s ++ Text.trimEnd t) := by
    intro c hc
    rw [List.getLast?_append] at hc
    cases hrest : (Text.trimEnd t).getLast? with
    | none =>
      rw [hrest] at hc
      exact hs.noTrailingBlank c hc
    | some d =>
      rw [hrest] at hc
      cases hc
      exact Text.trimEnd_noTrailingBlank c hrest
  have htrim := Text.trim_eq_self_iff.2 ⟨hs.noLeadingBlank.append hs.nonempty, hlast⟩
  rw [ht, ← List.append_assoc, Text.trim_append _ hblanks, htrim, ← ht]

/-! ## Classes -/

/-- In capitals, a word is all that is taken as the leading word. -/
theorem leadingWord_append (hs : IsWord s) (ht : EndsWord t) :
    leadingWord (Text.asciiUpper (s ++ t)) = Text.asciiUpper s := by
  have hupper (c : Char) : (c.toUpper != '(' && !Text.isBlank c.toUpper) =
      (c != '(' && !Text.isBlank c) :=
    Text.apply_toUpper (fun c => c != '(' && !Text.isBlank c) (by decide) c
  rw [leadingWord, Text.asciiUpper, List.map_append]
  refine Text.takeWhile_append ?_ ?_
  · intro c hc
    obtain ⟨d, hd, rfl⟩ := List.mem_map.1 hc
    obtain ⟨hbracket, hblank⟩ := hs.unbroken d hd
    rw [hupper, hblank, bne_iff_ne.2 hbracket]
    rfl
  · intro c hc
    rw [List.head?_map] at hc
    obtain ⟨d, hd, rfl⟩ := Option.map_eq_some_iff.1 hc
    rw [hupper]
    rcases ht d hd with rfl | hblank
    · rfl
    · rw [hblank, Bool.not_true, Bool.and_false]

/-- Whether a word and what follows it begin with `CHARACTER VARYING`, in any case of letters. -/
def isVarying (s t : List Char) : Bool :=
  Text.asciiUpper s == "CHARACTER".toList && " VARYING".toList.isPrefixOf (Text.asciiUpper t)

/-- The one class of two words begins with a word of its own. -/
theorem isPrefixOf_characterVarying (hs : IsWord s) (ht : EndsWord t) :
    "CHARACTER VARYING".toList.isPrefixOf (Text.asciiUpper (s ++ t)) = isVarying s t := by
  have hword : Text.asciiUpper (s ++ t) = Text.asciiUpper s ++ Text.asciiUpper t := List.map_append
  rw [Bool.eq_iff_iff, isVarying, Bool.and_eq_true, beq_iff_eq, List.isPrefixOf_iff_prefix,
    List.isPrefixOf_iff_prefix]
  have hsplit : "CHARACTER VARYING".toList = "CHARACTER".toList ++ " VARYING".toList := rfl
  constructor
  · intro h
    obtain ⟨rest, heq⟩ := h
    -- The leading word of both texts.
    have hlead := leadingWord_append hs ht
    rw [← heq] at hlead
    have hcharacter : Text.asciiUpper s = "CHARACTER".toList := hlead.symm
    rw [hword, hcharacter, hsplit, List.append_assoc] at heq
    exact ⟨hcharacter, rest, List.append_cancel_left heq⟩
  · rintro ⟨hcharacter, hvarying⟩
    rw [hword, hcharacter, hsplit]
    exact (List.prefix_append_right_inj _).2 hvarying

/-- Blanks behind what follows a word do not matter. -/
theorem isVarying_append (s : List Char) {rest blanks : List Char}
    (h : ∀ c ∈ blanks, Text.isBlank c = true) : isVarying s (rest ++ blanks) = isVarying s rest := by
  have hupper : Text.asciiUpper (rest ++ blanks) = Text.asciiUpper rest ++ Text.asciiUpper blanks :=
    List.map_append
  have hblanks : ∀ c ∈ Text.asciiUpper blanks, Text.isBlank c = true := by
    intro c hc
    obtain ⟨d, hd, rfl⟩ := List.mem_map.1 hc
    rw [Text.isBlank_toUpper, h d hd]
  have hprefix : " VARYING".toList <+: Text.asciiUpper (rest ++ blanks) ↔
      " VARYING".toList <+: Text.asciiUpper rest := by
    rw [hupper]
    refine ⟨Text.isPrefix_of_append_blank ?_ hblanks, fun h => h.trans (List.prefix_append _ _)⟩
    rintro _ ⟨⟩
    decide
  rw [← List.isPrefixOf_iff_prefix, ← List.isPrefixOf_iff_prefix, ← Bool.eq_iff_iff] at hprefix
  rw [isVarying, isVarying, hprefix]

/-- A type is classified by its leading word, in capitals. -/
theorem ofDeclared_eq {declared : String} {before after : List Char} (hs : IsWord s) (ht : EndsWord t)
    (hbefore : ∀ c ∈ before, Text.isBlank c = true) (hafter : ∀ c ∈ after, Text.isBlank c = true)
    (hsame : Text.asciiLower declared.toList = Text.asciiLower (before ++ (s ++ t) ++ after)) :
    ofDeclared declared =
      if isVarying s t then varchar else ofWord (String.ofList (Text.asciiUpper s)) := by
  obtain ⟨rest, blanks, htrim, rfl, hblanks⟩ := trim_word_append hs t
  have htrimmed : Text.asciiUpper (Text.trim declared.toList) = Text.asciiUpper (s ++ rest) := by
    rw [Text.asciiUpper_eq_iff, ← Text.trim_asciiLower, hsame, Text.trim_asciiLower,
      Text.trim_append _ hafter, Text.trim_append_left hbefore, htrim]
  have hrest : EndsWord rest := ht.mono (List.prefix_append _ _)
  rw [ofDeclared]
  simp only [htrimmed, isPrefixOf_characterVarying hs hrest, leadingWord_append hs hrest,
    isVarying_append s hblanks]

/-- A word is classified by itself. -/
theorem ofDeclared_word {word : String} (h : IsWord word.toList) :
    ofDeclared word = ofWord (String.ofList (Text.asciiUpper word.toList)) := by
  have hends : EndsWord [] := nofun
  have hnone : ∀ c ∈ ([] : List Char), Text.isBlank c = true := nofun
  have hvarying : isVarying word.toList [] = false := Bool.and_false _
  rw [ofDeclared_eq h hends hnone hnone (by simp), hvarying, if_neg Bool.false_ne_true]

/-- The word of the one class of two words has a class of its own, which also holds text. -/
theorem ofWord_of_isVarying (h : isVarying s t = true) :
    ofWord (String.ofList (Text.asciiUpper s)) = char := by
  rw [isVarying, Bool.and_eq_true, beq_iff_eq] at h
  rw [h.1]
  rfl

/-- A declared type has the class of its leading word, whatever length, precision or modifier follows it,
    whatever blanks stand around it, and in any case of letters. The one exception is the word
    `CHARACTER` where one space and `VARYING` follow it: then the type is a text of varying length. It
    makes no difference to whether the type holds bytes or text, so the plan of a rebuild is the same for
    the type and for its leading word. -/
theorem ofDeclared_leadingWord {word rest before after declared : String} (hword : IsWord word.toList)
    (hrest : EndsWord rest.toList) (hbefore : Text.isBlankText before = true)
    (hafter : Text.isBlankText after = true)
    (hsame : Text.sameName declared (before ++ (word ++ rest) ++ after) = true) :
    ofDeclared declared =
        (if isVarying word.toList rest.toList then varchar else ofDeclared word) ∧
      (isVarying word.toList rest.toList = true → ofDeclared word = char) ∧
      (ofDeclared declared).isBinary = (ofDeclared word).isBinary ∧
      (ofDeclared declared).isText = (ofDeclared word).isText ∧
      ∀ (b : Builder) table target suffix keyColumns,
        b.rebuildColumn table target (ofDeclared declared) suffix keyColumns =
          b.rebuildColumn table target (ofDeclared word) suffix keyColumns := by
  have hclass : ofDeclared declared =
      if isVarying word.toList rest.toList then varchar else ofDeclared word := by
    rw [ofDeclared_word hword]
    refine ofDeclared_eq hword hrest (List.all_eq_true.1 hbefore) (List.all_eq_true.1 hafter) ?_
    rw [Text.sameName_iff.1 hsame]
    simp only [String.toList_append]
  have hchar : isVarying word.toList rest.toList = true → ofDeclared word = char := by
    intro h
    rw [ofDeclared_word hword, ofWord_of_isVarying h]
  have hkeeps {f : SqlType → Bool} (hf : f varchar = f char) :
      f (ofDeclared declared) = f (ofDeclared word) := by
    rw [hclass]
    split
    · rw [hchar ‹_›, hf]
    · rfl
  have hbinary : (ofDeclared declared).isBinary = (ofDeclared word).isBinary := hkeeps rfl
  refine ⟨hclass, hchar, hbinary, hkeeps rfl, fun b table target suffix keyColumns => ?_⟩
  rw [Builder.rebuildColumn, hbinary, ← Builder.rebuildColumn]

/-- The two words in mixed letters, with a length and among blanks. -/
theorem ofDeclared_leadingWord_varying :
    ofDeclared "\tCharacter varYING(32) \n" = varchar ∧ ofDeclared "chARACTer" = char ∧
      IsWord "chARACTer".toList ∧ EndsWord " VARYING(32)".toList := by
  have hword : IsWord "chARACTer".toList := by decide
  have hrest : EndsWord " VARYING(32)".toList := by decide
  have hsame : Text.sameName "\tCharacter varYING(32) \n"
      ("\t" ++ ("chARACTer" ++ " VARYING(32)") ++ " \n") = true := by decide
  obtain ⟨hclass, hchar, -⟩ := ofDeclared_leadingWord hword hrest (by decide) (by decide) hsame
  exact ⟨hclass, hchar (by decide), hword, hrest⟩

end SqlType
end SchemaChange
