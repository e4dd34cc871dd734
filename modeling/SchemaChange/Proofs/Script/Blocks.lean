import Mathlib.Data.List.Forall2
import SchemaChange.Proofs.Script.Effective
import SchemaChange.Proofs.Script.Splitting

/-!
# Blocks of lines

The lines of a script that are neither blank nor comments make up its statements (`textLines`). They fall
into blocks: a block ends at the first line that ends with a semicolon, and the last block may be open. A
block makes one statement, its lines without the semicolons and with a space between them, unless that is
blank. So no text of these lines is lost, none is invented, and none gets into another statement.

Two scripts after each other have the blocks of both, except that an open block goes on in the second
script.

* `splitLines_eq`: a split in terms of blocks, also from a text under way;
* `blocks_areBlocks`: what the blocks of lines are;
* `blocks_append`, `blocks_append_of_open`: the blocks of lines after each other;
* `split_keepsText`: which text the statements of a script have;
* `split_append_iff`: when two scripts split on their own.
-/

namespace SchemaChange.Script

open Text

variable {line current s : List Char} {lines before after block : List (List Char)}
  {bs : List (List (List Char))}

/-! ## Lines with text -/

/-- The lines that are neither blank nor comments, without the blanks around them. -/
def textLines (lines : List (List Char)) : List (List Char) :=
  (lines.map trim).filter (!isSkipped ·)

/-- The line ends with a semicolon. -/
def IsTerminated (line : List Char) : Prop :=
  line.getLast? = some ';'

instance : DecidablePred IsTerminated := fun line => decEq line.getLast? (some ';')

/-- What a line is to its statement: its text without one final semicolon. -/
def body (line : List Char) : List Char :=
  (stripLast? ';' line).getD line

theorem textLines_append (before after : List (List Char)) :
    textLines (before ++ after) = textLines before ++ textLines after := by
  rw [textLines, List.map_append, List.filter_append, ← textLines, ← textLines]

theorem textLines_of_skipped (h : isSkipped (trim line) = true) :
    textLines (line :: lines) = textLines lines := by
  rw [textLines, List.map_cons, List.filter_cons_of_neg (by rw [h]; decide), ← textLines]

theorem textLines_of_not_skipped (h : ¬ isSkipped (trim line) = true) :
    textLines (line :: lines) = trim line :: textLines lines := by
  rw [textLines, List.map_cons, List.filter_cons_of_pos (by simpa using h), ← textLines]

/-- A line with text is not blank. -/
theorem trim_ne_nil_of_mem_textLines (h : line ∈ textLines lines) : trim line ≠ [] := by
  obtain ⟨hmem, hskipped⟩ := List.mem_filter.mp h
  obtain ⟨l, -, rfl⟩ := List.mem_map.mp hmem
  rintro hnil
  rw [trim_trim] at hnil
  rw [isSkipped_iff.mpr (.inl hnil)] at hskipped
  cases hskipped

theorem body_concat (s : List Char) : body (s ++ [';']) = s := by
  rw [body, stripLast?, if_pos List.getLast?_concat, List.dropLast_concat, Option.getD_some]

theorem body_of_open (h : ¬ IsTerminated line) : body line = line := by
  have hlast : line.getLast? ≠ some ';' := h
  rw [body, stripLast?, if_neg hlast, Option.getD_none]

/-! ## Blocks -/

/-- The lines in blocks: a line that ends with a semicolon ends its block. -/
def blocks : List (List Char) → List (List (List Char))
  | [] => []
  | line :: lines =>
    if IsTerminated line then [line] :: blocks lines
    else (line :: (blocks lines).headD []) :: (blocks lines).tail

/-- The text of a block: what its lines are to the statement, with spaces between them. -/
def joined (block : List (List Char)) : List Char :=
  [' '].intercalate (block.map body)

theorem blocks_of_terminated (h : IsTerminated line) (lines : List (List Char)) :
    blocks (line :: lines) = [line] :: blocks lines :=
  if_pos h

theorem blocks_of_open (h : ¬ IsTerminated line) (lines : List (List Char)) :
    blocks (line :: lines) = (line :: (blocks lines).headD []) :: (blocks lines).tail :=
  if_neg h

theorem blocks_ne_nil (line : List Char) (lines : List (List Char)) : blocks (line :: lines) ≠ [] := by
  rw [blocks]
  split <;> exact List.cons_ne_nil _ _

theorem joined_singleton (line : List Char) : joined [line] = body line :=
  List.intercalate_singleton

theorem joined_cons_cons (line next : List Char) (block : List (List Char)) :
    joined (line :: next :: block) = body line ++ ' ' :: joined (next :: block) := by
  simp [joined, List.intercalate_cons_cons]

/-! ### A split in blocks -/

/-- A line goes on with the block that follows it. -/
theorem statementOf_next (current line : List Char) (block : List (List Char)) :
    statementOf (current ++ body line ++ [' '] ++ joined block) =
      statementOf (current ++ joined (line :: block)) := by
  cases block with
  | nil =>
    have hspace : joined [] = [] := rfl
    rw [hspace, List.append_nil, joined_singleton, statementOf, statementOf,
      trim_append _ isBlank_of_mem_space]
  | cons next block =>
    rw [joined_cons_cons, List.append_assoc, List.append_assoc, List.singleton_append]

/-- A first block that there is not makes no statement. -/
theorem statements_headD (bs : List (List (List Char))) :
    statementOf ([] ++ joined (bs.headD [])) ++ bs.tail.flatMap (statementOf ∘ joined) =
      bs.flatMap (statementOf ∘ joined) := by
  cases bs with
  | nil => rfl
  | cons block bs => rfl

/-- From a text under way, the first block goes on with it, and the others stand alone. -/
theorem splitLines_eq (current : List Char) (lines : List (List Char)) :
    splitLines current lines =
      statementOf (current ++ joined ((blocks (textLines lines)).headD [])) ++
        (blocks (textLines lines)).tail.flatMap (statementOf ∘ joined) := by
  induction lines generalizing current with
  | nil => simp [splitLines, textLines, blocks, joined]
  | cons line lines ih =>
    cases step line with
    | skipped hskipped _ step => rw [step, ih, textLines_of_skipped hskipped]
    | @ends text hskipped hbody _ step =>
      have hlast : IsTerminated (trim line) := by
        rw [hbody]
        exact List.getLast?_concat
      have hblocks := blocks_of_terminated hlast (textLines lines)
      have hrest : splitLines [] lines = (blocks (textLines lines)).flatMap (statementOf ∘ joined) := by
        rw [ih, statements_headD]
      rw [step, textLines_of_not_skipped hskipped, hblocks, List.headD_cons, List.tail_cons,
        joined_singleton, hbody, body_concat, hrest]
    | continues hskipped hends step =>
      have hopen : ¬ IsTerminated (trim line) := by
        intro hlast
        rw [endsStatement, hlast, Bool.eq_false_iff.mpr hskipped] at hends
        cases hends
      have hblocks := blocks_of_open hopen (textLines lines)
      -- The text under way takes the line, and goes on with the rest of the line's block.
      have hnext := statementOf_next current (trim line) ((blocks (textLines lines)).headD [])
      rw [body_of_open hopen] at hnext
      rw [step, ih, hnext, textLines_of_not_skipped hskipped, hblocks, List.headD_cons, List.tail_cons]

/-- The statements of a script are those of its blocks. -/
theorem splitLines_nil_eq (lines : List (List Char)) :
    splitLines [] lines = (blocks (textLines lines)).flatMap (statementOf ∘ joined) := by
  rw [splitLines_eq, statements_headD]

/-! ### What blocks are -/

/-- The lines of a block: only the last one may end with a semicolon. -/
structure IsBlock (block : List (List Char)) : Prop where
  nonempty : block ≠ []
  inner : ∀ line ∈ block.dropLast, ¬ IsTerminated line

/-- The blocks are the lines in order, and each of them but the last one ends with a line that ends with
    a semicolon. -/
structure AreBlocks (lines : List (List Char)) (bs : List (List (List Char))) : Prop where
  flatten : bs.flatten = lines
  isBlock : ∀ block ∈ bs, IsBlock block
  terminated : ∀ block ∈ bs.dropLast, ∃ line ∈ block.getLast?, IsTerminated line

theorem IsBlock.singleton (line : List Char) : IsBlock [line] :=
  ⟨List.cons_ne_nil _ _, List.forall_mem_nil _⟩

theorem IsBlock.cons (h : IsBlock block) (hline : ¬ IsTerminated line) : IsBlock (line :: block) := by
  refine ⟨List.cons_ne_nil _ _, ?_⟩
  rw [List.dropLast_cons_of_ne_nil h.nonempty]
  exact List.forall_mem_cons.mpr ⟨hline, h.inner⟩

theorem IsBlock.getLast?_cons (h : IsBlock block) (line : List Char) :
    (line :: block).getLast? = block.getLast? := by
  rw [List.getLast?_cons, List.getLast?_eq_some_getLast h.nonempty, Option.getD_some]

/-- A first block that is followed by others is not the last one. -/
theorem forall_mem_dropLast_cons {P : List (List Char) → Prop} :
    (∀ b ∈ (block :: bs).dropLast, P b) ↔ (bs ≠ [] → P block) ∧ ∀ b ∈ bs.dropLast, P b := by
  cases bs with
  | nil => simp
  | cons next bs => simp

theorem blocks_areBlocks (lines : List (List Char)) : AreBlocks lines (blocks lines) := by
  induction lines with
  | nil => exact ⟨rfl, List.forall_mem_nil _, List.forall_mem_nil _⟩
  | cons line lines ih =>
    obtain ⟨hflatten, hblock, hterminated⟩ := ih
    by_cases hline : IsTerminated line
    · rw [blocks_of_terminated hline]
      refine ⟨?_, List.forall_mem_cons.mpr ⟨.singleton line, hblock⟩, ?_⟩
      · rw [List.flatten_cons, hflatten, List.singleton_append]
      · exact forall_mem_dropLast_cons.mpr ⟨fun _ => ⟨line, rfl, hline⟩, hterminated⟩
    · rw [blocks_of_open hline]
      cases hblocks : blocks lines with
      | nil =>
        rw [hblocks, List.flatten_nil] at hflatten
        rw [← hflatten]
        exact ⟨rfl, List.forall_mem_singleton.mpr (.singleton line), List.forall_mem_nil _⟩
      | cons block bs =>
        rw [hblocks] at hflatten hblock hterminated
        obtain ⟨hfirst, hrest⟩ := List.forall_mem_cons.mp hblock
        refine ⟨?_, List.forall_mem_cons.mpr ⟨hfirst.cons hline, hrest⟩, ?_⟩
        · rw [← hflatten]
          rfl
        · -- The line does not change how its block ends.
          obtain ⟨hends, hrest⟩ := forall_mem_dropLast_cons.mp hterminated
          refine forall_mem_dropLast_cons.mpr ⟨fun hne => ?_, hrest⟩
          rw [List.headD_cons, hfirst.getLast?_cons]
          exact hends hne

/-! ## Text -/

theorem ink_intercalate (ls : List (List Char)) : ink ([' '].intercalate ls) = ls.flatMap ink := by
  induction ls with
  | nil => rfl
  | cons l ls ih =>
    cases ls with
    | nil => simp
    | cons next ls =>
      rw [List.intercalate_cons_cons, ink_append, ink_append, ink_of_blank isBlank_of_mem_space,
        List.append_nil, ih, List.flatMap_cons (x := l)]

/-- A block has the text of its lines. -/
theorem ink_joined (block : List (List Char)) : ink (joined block) = block.flatMap (ink ∘ body) := by
  rw [joined, ink_intercalate, List.flatMap_map]
  rfl

theorem ink_eq_nil_iff : ink s = [] ↔ trim s = [] := by
  rw [trim_eq_nil_iff, ink, List.filter_eq_nil_iff]
  simp

/-- Where a text makes no statement, there is nothing to it. -/
theorem flatMap_ink_statementOf (s : List Char) : (statementOf s).flatMap ink = ink s := by
  rw [statementOf]
  split
  · exact (ink_eq_nil_iff.mpr (List.isEmpty_iff.mp ‹_›)).symm
  · rw [List.flatMap_singleton, ink_trim]

theorem flatMap_ink_splitLines (lines : List (List Char)) :
    (splitLines [] lines).flatMap ink = (textLines lines).flatMap (ink ∘ body) := by
  have hstatement : ∀ block, ((statementOf ∘ joined) block).flatMap ink = block.flatMap (ink ∘ body) :=
    fun block => (flatMap_ink_statementOf _).trans (ink_joined block)
  conv_rhs => rw [← (blocks_areBlocks (textLines lines)).flatten]
  rw [splitLines_nil_eq, List.flatMap_assoc, ← List.flatMap_id, List.flatMap_assoc]
  simp only [hstatement, id]

/-- The statements of blocks are the texts of those that are not blank. -/
theorem flatMap_statementOf (bs : List (List (List Char))) :
    bs.flatMap (statementOf ∘ joined) =
      (bs.filter fun block => trim (joined block) ≠ []).map fun block => trim (joined block) := by
  induction bs with
  | nil => rfl
  | cons block bs ih =>
    rw [List.flatMap_cons, ih, Function.comp_apply, statementOf]
    by_cases hblank : trim (joined block) = []
    · rw [if_pos (List.isEmpty_iff.mpr hblank), List.filter_cons_of_neg (by simpa using hblank)]
      rfl
    · rw [if_neg (mt List.isEmpty_iff.mp hblank), List.filter_cons_of_pos (by simpa using hblank)]
      rfl

/-- Splitting neither loses nor invents text. The statements of a script have, but for blanks, the text
    of its lines that are neither blank nor comments, each without one final semicolon. And one after the
    other they are the texts of the blocks of these lines, so far as these are not blank. -/
theorem split_keepsText (script : String) :
    let lines := textLines (script.toList.splitOn '\n')
    (split script).flatMap (fun s => ink s.toList) = lines.flatMap (fun line => ink (body line)) ∧
      AreBlocks lines (blocks lines) ∧
      List.Forall₂ (fun block s => s.toList = trim (joined block) ∧
          ink s.toList = block.flatMap fun line => ink (body line))
        ((blocks lines).filter fun block => trim (joined block) ≠ []) (split script) := by
  intro lines
  refine ⟨?_, blocks_areBlocks lines, ?_⟩
  · rw [split, List.flatMap_map]
    simp only [String.toList_ofList]
    exact flatMap_ink_splitLines _
  · rw [split, splitLines_nil_eq, flatMap_statementOf, List.map_map, List.forall₂_map_right_iff,
      List.forall₂_same]
    intro block _
    rw [Function.comp_apply, String.toList_ofList, ink_trim]
    exact ⟨rfl, ink_joined block⟩

/-! ## Scripts after each other -/

/-- The last line that is neither blank nor a comment ends with a semicolon, if there is such a line. -/
def Terminated (script : String) : Prop :=
  ∀ line ∈ (textLines (script.toList.splitOn '\n')).getLast?, IsTerminated line

/-- Where the last line ends its block, further lines have blocks of their own. -/
theorem blocks_append (h : ∀ line ∈ before.getLast?, IsTerminated line) (after : List (List Char)) :
    blocks (before ++ after) = blocks before ++ blocks after := by
  induction before with
  | nil => rfl
  | cons line before ih =>
    have hrest := ih fun last hlast => h last (by rw [List.getLast?_cons, hlast]; rfl)
    by_cases hline : IsTerminated line
    · rw [List.cons_append, blocks_of_terminated hline, blocks_of_terminated hline, hrest,
        List.cons_append]
    · -- The line is not the last one, so there is a block that it goes on with.
      cases before with
      | nil => exact absurd (h line rfl) hline
      | cons next before =>
        obtain ⟨block, bs, hblocks⟩ := List.exists_cons_of_ne_nil (blocks_ne_nil next before)
        rw [List.cons_append, blocks_of_open hline, blocks_of_open hline, hrest, hblocks]
        rfl

/-- Where the last line leaves its block open, the next block goes on with it. -/
theorem blocks_append_of_open (h : before.getLast? = some line) (hopen : ¬ IsTerminated line) :
    ∃ bs block, blocks before = bs ++ [block] ∧ line ∈ block ∧ ∀ after,
      blocks (before ++ after) = bs ++ (block ++ (blocks after).headD []) :: (blocks after).tail := by
  induction before with
  | nil => cases h
  | cons first before ih =>
    cases before with
    | nil =>
      obtain rfl : first = line := Option.some.inj h
      exact ⟨[], [first], blocks_of_open hopen [], List.mem_cons_self, blocks_of_open hopen⟩
    | cons next before =>
      rw [List.getLast?_cons_cons] at h
      obtain ⟨bs, block, hblocks, hline, happend⟩ := ih h
      by_cases hfirst : IsTerminated first
      · refine ⟨[first] :: bs, block, ?_, hline, fun after => ?_⟩
        · rw [blocks_of_terminated hfirst, hblocks, List.cons_append]
        · rw [List.cons_append, blocks_of_terminated hfirst, happend, List.cons_append]
      · -- The first line goes on with the first block, which may be the last one as well.
        cases bs with
        | nil =>
          refine ⟨[], first :: block, ?_, List.mem_cons_of_mem first hline, fun after => ?_⟩
          · rw [blocks_of_open hfirst, hblocks]
            rfl
          · rw [List.cons_append, blocks_of_open hfirst, happend]
            rfl
        | cons b bs =>
          refine ⟨(first :: b) :: bs, block, ?_, hline, fun after => ?_⟩
          · rw [blocks_of_open hfirst, hblocks]
            rfl
          · rw [List.cons_append, blocks_of_open hfirst, happend]
            rfl

/-- A block with a line that is not blank and has no semicolon at its end makes a statement. -/
theorem trim_joined_ne_nil (hline : line ∈ block) (hopen : ¬ IsTerminated line)
    (htext : trim line ≠ []) : trim (joined block) ≠ [] := by
  intro hnil
  rw [← ink_eq_nil_iff, ink_joined, List.flatMap_eq_nil_iff] at hnil
  have hink := hnil line hline
  rw [Function.comp_apply, body_of_open hopen] at hink
  exact htext (ink_eq_nil_iff.mp hink)

/-- A text makes one statement, and none if it is blank. -/
theorem length_statementOf (s : List Char) :
    (statementOf s).length = if trim s = [] then 0 else 1 := by
  rw [statementOf]
  simp only [List.isEmpty_iff]
  split <;> rfl

theorem split_eq (script : String) : split script =
    ((blocks (textLines (script.toList.splitOn '\n'))).flatMap (statementOf ∘ joined)).map
      String.ofList := by
  rw [split, splitLines_nil_eq]

/-- The lines with text of two scripts after each other are those of both. -/
theorem textLines_script_append (a b : String) :
    textLines ((a ++ "\n" ++ b).toList.splitOn '\n') =
      textLines (a.toList.splitOn '\n') ++ textLines (b.toList.splitOn '\n') := by
  have hseam : (a ++ "\n" ++ b).toList = a.toList ++ '\n' :: b.toList := by simp
  rw [hseam, List.splitOn_append_cons_self, textLines_append]

/-- Two scripts after each other have the statements of both exactly if the first one is terminated. If
    it is not, its last statement goes on in the second one. -/
theorem split_append_iff (a : String) :
    Terminated a ↔ ∀ b, split (a ++ "\n" ++ b) = split a ++ split b := by
  constructor
  · intro h b
    rw [split_eq, split_eq, split_eq, textLines_script_append, blocks_append h, List.flatMap_append,
      List.map_append]
  · intro h line hline
    by_contra hopen
    obtain ⟨bs, block, hblocks, hmem, happend⟩ := blocks_append_of_open hline hopen
    have htext := trim_ne_nil_of_mem_textLines (List.mem_of_getLast? hline)
    have hone := length_statementOf (joined block)
    rw [if_neg (trim_joined_ne_nil hmem hopen htext)] at hone
    -- With one more line, the last statement is a longer one, but there is none more.
    have hnext : blocks (textLines ("x".toList.splitOn '\n')) = [[['x']]] := by decide
    have hlonger := length_statementOf (joined (block ++ [['x']]))
    have hx : (statementOf (joined [['x']])).length = 1 := by decide
    have hlengths := congrArg List.length (h "x")
    rw [split_eq, split_eq, split_eq, textLines_script_append, happend, hblocks, hnext] at hlengths
    simp only [List.headD_cons, List.tail_cons, List.length_map, List.flatMap_append, List.length_append,
      List.flatMap_cons, List.flatMap_nil, List.append_nil, Function.comp_apply] at hlengths
    split at hlonger <;> omega

end SchemaChange.Script
