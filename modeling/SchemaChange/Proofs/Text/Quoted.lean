import SchemaChange.Text.Basic

/-!
# Quoted text read back

A quoted text is read from its first quote to the next one that is not doubled, and a doubled quote is read
as one. It is therefore read back wherever it stands, as long as no other quote comes right after it. A
list of quoted texts with points between them is read back part by part, whatever the parts hold.

* `Text.readQuoted?_quoted`: a quoted text, and what follows it;
* `Text.readParts?_intercalate`: a list of quoted texts.
-/

namespace SchemaChange.Text

variable {q : Char} {s rest text : List Char} {parts : List (List Char)}

/-- Reads up to the quote that is not doubled: the text before it, and what follows it. -/
def readInside? (q : Char) : List Char → Option (List Char × List Char)
  | [] => none
  | [c] => if c = q then some ([], []) else none
  | c :: next :: s =>
    if c ≠ q then (readInside? q (next :: s)).map fun (text, rest) => (c :: text, rest)
    else if next = q then (readInside? q s).map fun (text, rest) => (q :: text, rest)
    else some ([], next :: s)

/-- Reads a text between quotes: the text, and what follows it. -/
def readQuoted? (q : Char) : List Char → Option (List Char × List Char)
  | [] => none
  | c :: s => if c = q then readInside? q s else none

/-- A character that is no quote. -/
theorem readInside?_cons {c : Char} (hc : c ≠ q) (s : List Char) :
    readInside? q (c :: s) = (readInside? q s).map fun (text, rest) => (c :: text, rest) := by
  cases s with
  | nil => exact if_neg hc
  | cons next s => exact if_pos hc

/-- A quote that is doubled. -/
theorem readInside?_doubled (s : List Char) :
    readInside? q (q :: q :: s) = (readInside? q s).map fun (text, rest) => (q :: text, rest) := by
  rw [readInside?, if_neg (not_not_intro rfl), if_pos rfl]

/-- A quote that is not doubled. -/
theorem readInside?_close (h : rest.head? ≠ some q) : readInside? q (q :: rest) = some ([], rest) := by
  cases rest with
  | nil => exact if_pos rfl
  | cons next rest =>
    have hnext : next ≠ q := fun hnext => h (congrArg some hnext)
    rw [readInside?, if_neg (not_not_intro rfl), if_neg hnext]

/-- A quoted text is read back, unless a quote comes right after it. -/
theorem readQuoted?_quoted (s : List Char) (h : rest.head? ≠ some q) :
    readQuoted? q (quoted q s ++ rest) = some (s, rest) := by
  rw [quoted, List.cons_append, readQuoted?, if_pos rfl, List.append_assoc, List.singleton_append]
  induction s with
  | nil => exact readInside?_close h
  | cons c s ih =>
    rw [doubled]
    split
    · rename_i hc
      rw [List.cons_append, List.cons_append, readInside?_doubled, ih, hc]
      rfl
    · rw [List.cons_append, readInside?_cons ‹_›, ih]
      rfl

/-- What is read has been there, written with its quotes doubled. -/
theorem eq_of_readInside? (h : readInside? q s = some (text, rest)) :
    s = doubled q text ++ q :: rest := by
  induction s using readInside?.induct q generalizing text with
  | case1 => cases h
  | case2 =>
    rw [readInside?, if_pos rfl] at h
    cases h
    rfl
  | case3 c hc =>
    rw [readInside?, if_neg hc] at h
    cases h
  | case4 c next s hc ih =>
    rw [readInside?_cons hc] at h
    obtain ⟨⟨text', rest'⟩, hread, hsome⟩ := Option.map_eq_some_iff.1 h
    cases hsome
    rw [ih hread, doubled, if_neg hc, List.cons_append]
  | case5 c s hc ih =>
    obtain rfl : c = q := Decidable.not_not.1 hc
    rw [readInside?_doubled] at h
    obtain ⟨⟨text', rest'⟩, hread, hsome⟩ := Option.map_eq_some_iff.1 h
    cases hsome
    rw [ih hread, doubled, if_pos rfl, List.cons_append, List.cons_append]
  | case6 c next s hc hnext =>
    rw [readInside?, if_neg hc, if_neg hnext] at h
    cases h
    rw [Decidable.not_not.1 hc]
    rfl

theorem eq_of_readQuoted? (h : readQuoted? q s = some (text, rest)) : s = quoted q text ++ rest := by
  cases s with
  | nil => cases h
  | cons c s =>
    rw [readQuoted?] at h
    split at h
    · rw [‹c = q›, eq_of_readInside? h, quoted, List.cons_append, List.append_assoc,
        List.singleton_append]
    · cases h

/-! ## Parts -/

/-- Reads quoted texts with points between them, to the end. -/
def readParts? (q : Char) (s : List Char) : Option (List (List Char)) :=
  match hread : readQuoted? q s with
  | none => none
  | some (part, []) => some [part]
  | some (part, c :: rest) =>
    have hshorter : rest.length < s.length := by
      rw [eq_of_readQuoted? hread, List.length_append, List.length_cons]
      omega
    if c = '.' then (readParts? q rest).map (part :: ·) else none
termination_by s.length

theorem readParts?_quoted (part : List Char) : readParts? q (quoted q part) = some [part] := by
  have hread : readQuoted? q (quoted q part) = some (part, []) := by
    rw [← List.append_nil (quoted q part)]
    exact readQuoted?_quoted part nofun
  rw [readParts?]
  split <;> rename_i hcase <;> cases hcase.symm.trans hread
  rfl

theorem readParts?_quoted_cons (hq : q ≠ '.') (part s : List Char) :
    readParts? q (quoted q part ++ '.' :: s) = (readParts? q s).map (part :: ·) := by
  have hread : readQuoted? q (quoted q part ++ '.' :: s) = some (part, '.' :: s) :=
    readQuoted?_quoted part fun hpoint => hq (Option.some.inj hpoint).symm
  rw [readParts?]
  split <;> rename_i hcase <;> cases hcase.symm.trans hread
  exact if_pos rfl

/-- A list of quoted texts is read back. -/
theorem readParts?_intercalate (hq : q ≠ '.') (hparts : parts ≠ []) :
    readParts? q (['.'].intercalate (parts.map (quoted q))) = some parts := by
  induction parts with
  | nil => exact absurd rfl hparts
  | cons part parts ih =>
    cases parts with
    | nil =>
      rw [List.map_singleton, List.intercalate_singleton]
      exact readParts?_quoted part
    | cons next parts =>
      rw [List.map_cons, List.map_cons, List.intercalate_cons_cons, List.append_assoc,
        List.singleton_append, readParts?_quoted_cons hq, ← List.map_cons, ih (List.cons_ne_nil _ _)]
      rfl

end SchemaChange.Text
