import Mathlib.Data.List.Chain

/-!
# What stands outside quotes

A statement is scanned from left to right. Outside of quotes, a single quote or the quote character that
the dialect has for names opens a *region*, which ends at the next such character that is not doubled;
nothing else escapes it. A statement is `Contained` if its last region is closed, and what stands outside
of regions has balanced brackets, no semicolon and nothing that begins a comment.

A scanner checks all of this with a cursor that it moves over the text (`Cursor.run`). It stops where a
character breaks one of the rules, so that a text in the middle of a statement can be judged by the cursor
before it alone.

* `Place.outer`: the characters outside of regions;
* `Cursor.run_eq_some_iff`: what it means that a text is scanned from a cursor to another one;
* `contained_iff`: the contained statements are those that are scanned to their end.
-/

namespace SchemaChange

/-- Where a scan stands: outside of regions, inside the region that a quote character has opened, or
    after a quote character that closes it unless it is doubled. -/
inductive Place where
  | outside
  | inside (quote : Char)
  | closing (quote : Char)
  deriving DecidableEq

namespace Place

/-- The place after a character that is not in a region. -/
def opened (q c : Char) : Place :=
  if c = '\x27' ∨ c = q then inside c else outside

/-- The place after one more character, where names are quoted with `q`. -/
def next (q : Char) : Place → Char → Place
  | outside, c => opened q c
  | inside r, c => if c = r then closing r else inside r
  | closing r, c => if c = r then inside r else opened q c

/-- The place after a text. -/
def after (q : Char) (p : Place) (s : List Char) : Place :=
  s.foldl (next q) p

/-- A text leads from the place that the text before it led to. -/
theorem after_append (q : Char) (p : Place) (s t : List Char) :
    p.after q (s ++ t) = (p.after q s).after q t :=
  List.foldl_append

/-- The character, if it stands outside of regions. -/
def shown (q : Char) (p : Place) (c : Char) : Option Char :=
  if p.next q c = outside then some c else none

/-- The characters of a text that stand outside of regions, with `none` in place of each other one. -/
def outer (q : Char) : Place → List Char → List (Option Char)
  | _, [] => []
  | p, c :: s => p.shown q c :: outer q (p.next q c) s

end Place

/-- How many brackets are open after a text, given how many were before it; none if one is closed that
    was not opened. -/
def openBrackets? : Nat → List (Option Char) → Option Nat
  | n, [] => some n
  | n, c :: s =>
    if c = some '(' then openBrackets? (n + 1) s
    else if c = some ')' then (if n = 0 then none else openBrackets? (n - 1) s)
    else openBrackets? n s

/-- A statement that ends outside of regions and, outside of them, closes all its brackets and holds
    neither semicolons nor comments. -/
structure Contained (q : Char) (sql : String) : Prop where
  closed : ∀ r, Place.after q .outside sql.toList ≠ .inside r
  balanced : openBrackets? 0 (Place.outer q .outside sql.toList) = some 0
  noSemicolon : some ';' ∉ Place.outer q .outside sql.toList
  noDashes : ¬[some '-', some '-'] <:+: Place.outer q .outside sql.toList
  noSlashStar : ¬[some '/', some '*'] <:+: Place.outer q .outside sql.toList

/-! ## The scanner -/

/-- Whether two characters next to each other begin a comment. -/
def beginsComment (a b : Option Char) : Prop :=
  a = some '-' ∧ b = some '-' ∨ a = some '/' ∧ b = some '*'

instance (a b : Option Char) : Decidable (beginsComment a b) :=
  inferInstanceAs (Decidable (_ ∨ _))

/-- No comment begins in a region. -/
theorem not_beginsComment_none {b : Option Char} : ¬beginsComment none b := by
  rintro (⟨⟨⟩, -⟩ | ⟨⟨⟩, -⟩)

/-- What a scanner knows of the text before it. -/
structure Cursor where
  place : Place
  /-- The number of open brackets. -/
  depth : Nat
  /-- The last character, if it stands outside of regions. -/
  last : Option Char
  deriving DecidableEq

namespace Cursor

variable {q : Char} {k k' : Cursor} {c : Char} {s t : List Char}

/-- Where a statement begins. -/
def start : Cursor :=
  ⟨.outside, 0, none⟩

/-- Moves over one character, unless it breaks a rule. -/
def step (q : Char) (k : Cursor) (c : Char) : Option Cursor :=
  let shown := k.place.shown q c
  if shown = some ';' ∨ beginsComment k.last shown then none
  else (openBrackets? k.depth [shown]).map fun depth => ⟨k.place.next q c, depth, shown⟩

/-- Moves over a text. -/
def run (q : Char) (k : Cursor) (s : List Char) : Option Cursor :=
  s.foldlM (step q) k

theorem run_nil : k.run q [] = some k := rfl

theorem run_cons : k.run q (c :: s) = (k.step q c).bind (·.run q s) :=
  List.foldlM_cons

theorem run_append : k.run q (s ++ t) = (k.run q s).bind (·.run q t) :=
  List.foldlM_append

theorem step_eq_some_iff :
    k.step q c = some k' ↔ k.place.shown q c ≠ some ';' ∧ ¬beginsComment k.last (k.place.shown q c) ∧
      openBrackets? k.depth [k.place.shown q c] = some k'.depth ∧ k'.place = k.place.next q c ∧
        k'.last = k.place.shown q c := by
  rw [step]
  by_cases hstop : k.place.shown q c = some ';' ∨ beginsComment k.last (k.place.shown q c)
  · rw [if_pos hstop]
    exact ⟨nofun, fun ⟨hsemicolon, hcomment, _⟩ => absurd hstop (not_or.2 ⟨hsemicolon, hcomment⟩)⟩
  · rw [if_neg hstop, Option.map_eq_some_iff]
    constructor
    · rintro ⟨depth, hdepth, rfl⟩
      exact ⟨(not_or.1 hstop).1, (not_or.1 hstop).2, hdepth, rfl, rfl⟩
    · rintro ⟨_, _, hdepth, hplace, hlast⟩
      exact ⟨k'.depth, hdepth, by rw [← hplace, ← hlast]⟩

end Cursor

variable {q : Char} {n m : Nat} {s t : List (Option Char)}

theorem openBrackets?_cons (c : Option Char) :
    openBrackets? n (c :: s) = (openBrackets? n [c]).bind (openBrackets? · s) := by
  simp only [openBrackets?]
  split
  · rfl
  · split
    · split <;> rfl
    · rfl

/-- Brackets that were open before make no difference. -/
theorem openBrackets?_add (h : openBrackets? n s = some m) (a : Nat) :
    openBrackets? (a + n) s = some (a + m) := by
  induction s generalizing n with
  | nil => exact congrArg (fun m => some (a + m)) (Option.some.inj h)
  | cons c s ih =>
    simp only [openBrackets?] at h ⊢
    split at h
    · rw [if_pos ‹_›]
      exact ih h
    · rw [if_neg ‹_›]
      split at h
      · rw [if_pos ‹_›]
        split at h
        · cases h
        · rw [if_neg (by omega), Nat.add_sub_assoc (by omega)]
          exact ih h
      · rw [if_neg ‹_›]
        exact ih h

namespace Cursor

/-- A text is scanned from a cursor to another one if it breaks no rule and takes the one to
    the other. -/
theorem run_eq_some_iff {k k' : Cursor} {s : List Char} :
    k.run q s = some k' ↔
      some ';' ∉ k.place.outer q s ∧
        (k.last :: k.place.outer q s).IsChain (fun a b => ¬beginsComment a b) ∧
        openBrackets? k.depth (k.place.outer q s) = some k'.depth ∧ k'.place = k.place.after q s ∧
          k'.last = (k.place.outer q s).getLastD k.last := by
  induction s generalizing k with
  | nil =>
    rw [run_nil]
    constructor
    · rintro ⟨⟩
      exact ⟨List.not_mem_nil, .singleton _, rfl, rfl, rfl⟩
    · rintro ⟨_, _, hdepth, hplace, hlast⟩
      obtain ⟨place, depth, last⟩ := k
      obtain ⟨place', depth', last'⟩ := k'
      obtain rfl : depth = depth' := Option.some.inj hdepth
      obtain rfl : place' = place := hplace
      obtain rfl : last' = last := hlast
      rfl
  | cons c s ih =>
    rw [run_cons, Option.bind_eq_some_iff, Place.outer, List.mem_cons, not_or, List.isChain_cons_cons,
      openBrackets?_cons, Option.bind_eq_some_iff, List.getLastD_cons]
    constructor
    · rintro ⟨k₁, hstep, hrun⟩
      obtain ⟨hsemicolon, hcomment, hdepth, hplace, hlast⟩ := step_eq_some_iff.1 hstep
      obtain ⟨hsemicolon', hchain, hdepth', hplace', hlast'⟩ := ih.1 hrun
      rw [hplace] at hsemicolon' hchain hdepth' hplace' hlast'
      rw [hlast] at hchain hlast'
      exact ⟨⟨hsemicolon.symm, hsemicolon'⟩, ⟨hcomment, hchain⟩, ⟨k₁.depth, hdepth, hdepth'⟩, hplace',
        hlast'⟩
    · rintro ⟨⟨hsemicolon, hsemicolon'⟩, ⟨hcomment, hchain⟩, ⟨depth, hdepth, hdepth'⟩, hplace, hlast⟩
      exact ⟨⟨k.place.next q c, depth, k.place.shown q c⟩,
        step_eq_some_iff.2 ⟨Ne.symm hsemicolon, hcomment, hdepth, rfl, rfl⟩,
        ih.2 ⟨hsemicolon', hchain, hdepth', hplace, hlast⟩⟩

end Cursor

/-- No neighbours begin a comment if neither of the two beginnings occurs. -/
theorem isChain_beginsComment_iff :
    s.IsChain (fun a b => ¬beginsComment a b) ↔
      ¬[some '-', some '-'] <:+: s ∧ ¬[some '/', some '*'] <:+: s := by
  rw [List.isChain_iff_forall_rel_of_append_cons_cons]
  constructor
  · refine fun h => ⟨?_, ?_⟩ <;> rintro ⟨l₁, l₂, rfl⟩
    · exact @h _ _ l₁ l₂ (by simp) (.inl ⟨rfl, rfl⟩)
    · exact @h _ _ l₁ l₂ (by simp) (.inr ⟨rfl, rfl⟩)
  · rintro ⟨hdashes, hslash⟩ a b l₁ l₂ rfl (⟨rfl, rfl⟩ | ⟨rfl, rfl⟩)
    · exact hdashes ⟨l₁, l₂, by simp⟩
    · exact hslash ⟨l₁, l₂, by simp⟩

/-- A contained text is scanned wherever no region is open and no comment begun. -/
theorem Contained.run {sql : String} (h : Contained q sql) {k : Cursor} (hplace : k.place = .outside)
    (hlast : ∀ b, ¬beginsComment k.last b) :
    ∃ k', k.run q sql.toList = some k' ∧ k'.depth = k.depth ∧
      k'.place = Place.after q .outside sql.toList := by
  rw [← hplace]
  refine ⟨⟨_, k.depth, _⟩, Cursor.run_eq_some_iff.2 ⟨?_, ?_, ?_, rfl, rfl⟩, rfl, rfl⟩ <;> rw [hplace]
  · exact h.noSemicolon
  · exact List.isChain_cons.2 ⟨fun b _ => hlast b,
      isChain_beginsComment_iff.2 ⟨h.noDashes, h.noSlashStar⟩⟩
  · exact openBrackets?_add h.balanced k.depth

/-- The contained statements are those that are scanned to their end, outside of regions and with all
    brackets closed. -/
theorem contained_iff {sql : String} :
    Contained q sql ↔ ∃ k, Cursor.start.run q sql.toList = some k ∧ (∀ r, k.place ≠ .inside r) ∧
      k.depth = 0 := by
  constructor
  · intro h
    obtain ⟨k, hrun, hdepth, hplace⟩ := h.run (k := .start) rfl fun _ => not_beginsComment_none
    exact ⟨k, hrun, fun r => hplace ▸ h.closed r, hdepth⟩
  · rintro ⟨k, hrun, hplace, hdepth⟩
    obtain ⟨hsemicolon, hchain, hbalanced, hafter, -⟩ := Cursor.run_eq_some_iff.1 hrun
    obtain ⟨hdashes, hslash⟩ := isChain_beginsComment_iff.1 (List.isChain_cons.1 hchain).2
    exact ⟨fun r => hafter ▸ hplace r, hbalanced.trans (congrArg some hdepth), hsemicolon, hdashes, hslash⟩

/-- Whether a statement may end here. -/
def Cursor.ends (k : Cursor) : Bool :=
  match k.place with
  | .inside _ => false
  | _ => k.depth == 0

theorem Cursor.ends_iff {k : Cursor} : k.ends = true ↔ (∀ r, k.place ≠ .inside r) ∧ k.depth = 0 := by
  unfold ends
  cases hplace : k.place <;> simp

instance (q : Char) (sql : String) : Decidable (Contained q sql) :=
  decidable_of_iff ((Cursor.start.run q sql.toList).any Cursor.ends = true)
    (by simp only [Option.any_eq_true, Cursor.ends_iff, contained_iff])

example : Contained '"' "SELECT 'a;' FROM \"B\"\"(\"" := by decide

example : ¬Contained '"' "DELETE FROM B; DROP TABLE B" := by decide

end SchemaChange
