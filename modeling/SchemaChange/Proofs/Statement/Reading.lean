import SchemaChange.Proofs.Statement.Passage

/-!
# What a statement says

A statement is read back from its text. Each character is seen with whether it stands outside of regions
and how many brackets are open around it (`view`), so that a comma, a bracket or a blank which counts is
told from one that a name or a literal holds. What is contained is seen in the same way wherever it
stands, and a text is therefore viewed part by part (`view_append`).

* `pieces`, `items`, `words`: a text cut at the commas or blanks that count;
* `bodies`: what stands between its outermost brackets;
* `pieces_list`, `items_intercalate`: a list is read back from its text;
* `bodies_append`, `bodies_bracketed`: the brackets of a text are found one after the other.
-/

namespace SchemaChange

/-- A character as it stands in a text: whether it is outside of regions, and how many brackets are open
    around it. -/
structure Glyph where
  char : Char
  shown : Bool
  depth : Nat
  deriving DecidableEq

namespace Glyph

/-- The character outside of regions and brackets. -/
def top (c : Char) : Glyph :=
  ⟨c, true, 0⟩

/-- The glyph within `n` more brackets. -/
def within (n : Nat) (g : Glyph) : Glyph :=
  { g with depth := n + g.depth }

/-- The characters of glyphs, as a text. -/
def text (gs : List Glyph) : String :=
  String.ofList (gs.map char)

/-- The glyphs between each outermost bracket and the one that closes it. -/
def bodies : List Glyph → List (List Glyph)
  | [] => []
  | g :: gs => if g = top '(' then gs.takeWhile (·.depth != 0) :: bodies gs else bodies gs

end Glyph

/-- The glyphs of a text that is read from a place and with `n` open brackets. A bracket stands at the
    depth of what is around it. -/
def Place.glyphs (q : Char) : Place → Nat → List Char → List Glyph
  | _, _, [] => []
  | p, n, c :: s =>
    let shown := p.shown q c
    let m := (openBrackets? n [shown]).getD 0
    ⟨c, shown.isSome, min n m⟩ :: glyphs q (p.next q c) m s

open Glyph

/-- The glyphs of a text that is read from its beginning. -/
def view (d : Dialect) (text : String) : List Glyph :=
  Place.outside.glyphs d.quoteChar 0 text.toList

/-- A text cut at a character, where this stands outside of regions and brackets. -/
def pieces (d : Dialect) (c : Char) (text : String) : List String :=
  ((view d text).splitOn (top c)).map Glyph.text

/-- A text without the blank that it begins with, if it does. -/
def withoutBlank (text : String) : String :=
  String.ofList (([' '].isPrefixOf? text.toList).getD text.toList)

/-- The items of a list: its text is cut at commas, and the blanks after these are left out. -/
def items (d : Dialect) (text : String) : List String :=
  match pieces d ',' text with
  | [] => []
  | item :: rest => item :: rest.map withoutBlank

/-- The words of a text, cut at blanks. -/
def words (d : Dialect) (text : String) : List String :=
  pieces d ' ' text

/-- The texts between outermost brackets. -/
def bodies (d : Dialect) (text : String) : List String :=
  (Glyph.bodies (view d text)).map Glyph.text

/-! ## Glyphs -/

namespace Place

/-- The region was opened by one of the two quotes. -/
def IsOpened (q : Char) : Place → Prop
  | outside => True
  | inside r | closing r => opened q r = inside r

variable {q c : Char} {p : Place} {n m : Nat} {s t : List Char}

theorem isOpened_opened (q c : Char) : (opened q c).IsOpened q := by
  by_cases hc : c = '\x27' ∨ c = q
  · have hopened : opened q c = inside c := if_pos hc
    rw [hopened]
    exact hopened
  · rw [opened, if_neg hc]
    trivial

theorem IsOpened.next (h : p.IsOpened q) (c : Char) : (p.next q c).IsOpened q := by
  unfold Place.next
  split
  · exact isOpened_opened q c
  · split <;> exact h
  · split
    · exact h
    · exact isOpened_opened q c

theorem IsOpened.after (h : p.IsOpened q) (s : List Char) : (p.after q s).IsOpened q := by
  induction s generalizing p with
  | nil => exact h
  | cons c s ih => exact ih (h.next c)

/-- A region in which a text ends was opened by one of the two quotes. -/
theorem isOpened_after (q : Char) (s : List Char) : (outside.after q s).IsOpened q :=
  IsOpened.after (p := outside) trivial s

/-- After a region that may have ended a scan goes on as if it had: were the quote doubled, it would open
    the region anew. -/
theorem next_of_isOpened (h : p.IsOpened q) (hclosed : ∀ r, p ≠ inside r) (c : Char) :
    p.next q c = opened q c := by
  cases p with
  | outside => rfl
  | inside r => exact absurd rfl (hclosed r)
  | closing r =>
    rw [next]
    split
    · subst c
      exact Eq.symm h
    · rfl

/-- After a region a text leads to where it leads from the outside, if it is one at all. -/
theorem after_of_isOpened (h : p.IsOpened q) (hclosed : ∀ r, p ≠ inside r) (hs : s ≠ []) :
    p.after q s = outside.after q s := by
  obtain ⟨c, s, rfl⟩ := List.exists_cons_of_ne_nil hs
  exact congrArg (after q · s) (next_of_isOpened h hclosed c)

theorem glyphs_of_isOpened (h : p.IsOpened q) (hclosed : ∀ r, p ≠ inside r) :
    p.glyphs q n s = outside.glyphs q n s := by
  cases s with
  | nil => rfl
  | cons c s =>
    have hnext : p.next q c = outside.next q c := next_of_isOpened h hclosed c
    simp only [glyphs, shown, hnext]

theorem map_char_glyphs : (p.glyphs q n s).map Glyph.char = s := by
  induction s generalizing p n with
  | nil => rfl
  | cons c s ih => rw [glyphs, List.map_cons, ih]

/-- The glyphs of a text and of one behind it, from the place and the depth where the first one ends. -/
theorem glyphs_append (h : openBrackets? n (p.outer q s) = some m) :
    p.glyphs q n (s ++ t) = p.glyphs q n s ++ (p.after q s).glyphs q m t := by
  induction s generalizing p n with
  | nil =>
    cases h
    rfl
  | cons c s ih =>
    rw [outer, openBrackets?_cons] at h
    obtain ⟨k, hk, h⟩ := Option.bind_eq_some_iff.1 h
    rw [List.cons_append, glyphs, glyphs, hk]
    exact congrArg (_ :: ·) (ih h)

/-- Brackets that are open before a text are around all of it. -/
theorem glyphs_within (h : openBrackets? n (p.outer q s) = some m) (a : Nat) :
    p.glyphs q (a + n) s = (p.glyphs q n s).map (Glyph.within a) := by
  induction s generalizing p n with
  | nil => rfl
  | cons c s ih =>
    rw [outer, openBrackets?_cons] at h
    obtain ⟨k, hk, h⟩ := Option.bind_eq_some_iff.1 h
    rw [glyphs, glyphs, openBrackets?_add hk a, hk, List.map_cons, Glyph.within]
    simp only [Option.getD_some, ih h, Nat.add_min_add_left]

end Place

variable {d : Dialect} {s t : String} {c : Char} {g : Glyph}

@[simp] theorem text_view : Glyph.text (view d s) = s := by
  rw [Glyph.text, view, Place.map_char_glyphs, String.ofList_toList]

theorem Glyph.text_map_within (gs : List Glyph) (n : Nat) : text (gs.map (within n)) = text gs := by
  rw [text, text, List.map_map]
  rfl

/-- What is seen in a text is one of its characters. -/
theorem char_mem (h : g ∈ view d s) : g.char ∈ s.toList := by
  have hmem := List.mem_map_of_mem (f := Glyph.char) h
  rwa [view, Place.map_char_glyphs] at hmem

theorem top_notMem_of_notMem (h : c ∉ s.toList) : top c ∉ view d s :=
  fun hc => h (char_mem hc)

namespace Contained

/-- What is contained is seen in the same way whatever follows it, and this as if it stood alone. -/
theorem view_append (hs : Contained d.quoteChar s) : view d (s ++ t) = view d s ++ view d t := by
  have hopened := Place.isOpened_after d.quoteChar s.toList
  rw [view, String.toList_append, Place.glyphs_append hs.balanced,
    Place.glyphs_of_isOpened hopened hs.closed]
  rfl

theorem mem_view_append (hs : Contained d.quoteChar s) :
    g ∈ view d (s ++ t) ↔ g ∈ view d s ∨ g ∈ view d t := by
  rw [hs.view_append, List.mem_append]

end Contained

/-- A phrase that stands alone is contained. -/
theorem Phrase.contained (h : Phrase d s) : Contained d.quoteChar s := by
  obtain ⟨k, hrun, hdepth, -, hplace⟩ := h (n := 0) (k := .start) ⟨rfl, rfl, nofun, nofun⟩
  exact contained_iff.2 ⟨k, hrun, hplace, hdepth⟩

/-! ## Brackets -/

/-- Between brackets a text is seen one deeper. -/
theorem Contained.view_bracketed (hs : Contained d.quoteChar s) :
    view d ("(" ++ s ++ ")") = top '(' :: (view d s).map (within 1) ++ [top ')'] := by
  have hbracket {c : Char} (hc : isPlain c = true) {p : Place}
      (hp : p.IsOpened d.quoteChar) (hclosed : ∀ r, p ≠ .inside r) :
      p.next d.quoteChar c = .outside := by
    rw [Place.next_of_isOpened hp hclosed, Place.opened_of_isPlain hc]
  have hopened := Place.isOpened_after d.quoteChar s.toList
  have hopen := hbracket (c := '(') rfl (p := .outside) trivial nofun
  have hclose := hbracket (c := ')') rfl hopened hs.closed
  have hlist : ("(" ++ s ++ ")").toList = '(' :: (s.toList ++ [')']) := by
    simp
  rw [view, hlist, Place.glyphs, Place.shown, hopen, if_pos rfl]
  change _ :: Place.glyphs _ .outside 1 _ = _
  rw [Place.glyphs_append (openBrackets?_add hs.balanced 1), Place.glyphs_within hs.balanced 1,
    Place.glyphs, Place.shown, hclose, if_pos rfl]
  rfl

/-- What is between brackets does not count. -/
theorem Contained.top_notMem_bracketed (hs : Contained d.quoteChar s) (hc : c ≠ '(' ∧ c ≠ ')') :
    top c ∉ view d ("(" ++ s ++ ")") := by
  have hinner : ∀ gs : List Glyph, top c ∉ gs.map (within 1) := by
    intro gs hmem
    obtain ⟨g, -, hg⟩ := List.mem_map.1 hmem
    exact absurd (congrArg Glyph.depth hg) (by simp [within, top])
  have hne {b : Char} (hb : c ≠ b) : top c ≠ top b := fun h => hb (congrArg Glyph.char h)
  rw [hs.view_bracketed]
  simp [hinner, hne hc.1, hne hc.2]

theorem Phrase.bracketed (h : Phrase d s) : Phrase d ("(" ++ s ++ ")") :=
  Takes.settle ((Takes.of_walk (by rfl)).phrase h |>.text (by rfl))

namespace Glyph

theorem bodies_append {gs hs : List Glyph} (h : top '(' ∉ gs) : bodies (gs ++ hs) = bodies hs := by
  induction gs with
  | nil => rfl
  | cons g gs ih =>
    obtain ⟨hg, hgs⟩ := not_or.1 (List.mem_cons.not.1 h)
    rw [List.cons_append, bodies, if_neg (Ne.symm hg), ih hgs]

theorem bodies_bracketed (gs hs : List Glyph) :
    bodies (top '(' :: (gs.map (within 1) ++ top ')' :: hs)) = gs.map (within 1) :: bodies hs := by
  have hdeep : ∀ g ∈ gs.map (within 1), g.depth ≠ 0 := by
    intro g hg
    obtain ⟨g, -, rfl⟩ := List.mem_map.1 hg
    simp [within]
  rw [bodies, if_pos rfl, List.takeWhile_append_of_pos fun g hg => bne_iff_ne.2 (hdeep g hg),
    List.takeWhile_cons_of_neg (by decide), List.append_nil, bodies_append fun h => hdeep _ h rfl,
    bodies, if_neg (by decide)]

end Glyph

/-- What comes before the first bracket. -/
theorem bodies_append (hs : Contained d.quoteChar s) (h : top '(' ∉ view d s) :
    bodies d (s ++ t) = bodies d t := by
  rw [bodies, hs.view_append, Glyph.bodies_append h, bodies]

/-- The first brackets, and what comes after them. -/
theorem bodies_bracketed (h : Phrase d s) : bodies d ("(" ++ s ++ ")" ++ t) = s :: bodies d t := by
  rw [bodies, h.bracketed.contained.view_append, h.contained.view_bracketed, List.cons_append,
    List.cons_append, List.append_assoc, List.singleton_append, Glyph.bodies_bracketed,
    List.map_cons, Glyph.text_map_within, text_view, bodies]

theorem bodies_nil : bodies d "" = [] := rfl

/-! ## Lists -/

/-- A character that leaves a scan where it is. -/
theorem view_singleton (hc : isWordChar c = true) : view d (String.singleton c) = [top c] := by
  have hnext : Place.outside.next d.quoteChar c = .outside :=
    Place.opened_of_isPlain (Bool.and_eq_true_iff.1 hc).1
  rw [view, String.toList_singleton, Place.glyphs, Place.shown, if_pos hnext,
    Stage.openBrackets?_of_isWordChar hc]
  rfl

theorem pieces_eq_singleton (h : top c ∉ view d s) : pieces d c s = [s] := by
  rw [pieces, List.splitOn_eq_singleton h, List.map_singleton, text_view]

/-- A text that is cut behind a contained part is cut into the pieces of both. -/
theorem pieces_append (hc : isWordChar c = true) (hs : Contained d.quoteChar s) :
    pieces d c (s ++ String.singleton c ++ t) = pieces d c s ++ pieces d c t := by
  have hcontained : Contained d.quoteChar (String.singleton c) :=
    Phrase.contained (.word (s := [c]) (List.forall_mem_singleton.2 hc))
  rw [pieces, String.append_assoc, hs.view_append, hcontained.view_append, view_singleton hc,
    List.singleton_append, List.splitOn,
    List.splitOnP_append_cons (p := (· == top c)) _ _ (beq_self_eq_true _), List.map_append]
  rfl

/-- The first word of a text, and the others. -/
theorem words_append (hs : Contained d.quoteChar s) (h : top ' ' ∉ view d s) :
    words d (s ++ " " ++ t) = s :: words d t := by
  change pieces d ' ' (s ++ String.singleton ' ' ++ t) = _
  rw [pieces_append (by decide) hs, pieces_eq_singleton h, List.singleton_append, words]

theorem withoutBlank_append (s : String) : withoutBlank (" " ++ s) = s := by
  rw [withoutBlank, String.toList_append]
  exact String.ofList_toList

theorem pieces_list {x : String} {xs : List String} (hx : Phrase d x ∧ top ',' ∉ view d x)
    (hxs : ∀ y ∈ xs, Phrase d y ∧ top ',' ∉ view d y) :
    pieces d ',' (String.intercalate ", " (x :: xs)) = x :: xs.map (" " ++ ·) := by
  induction xs generalizing x with
  | nil =>
    rw [String.intercalate_singleton, pieces_eq_singleton hx.2]
    rfl
  | cons y ys ih =>
    obtain ⟨hy, hys⟩ := List.forall_mem_cons.1 hxs
    -- The blank after the comma goes to the item that follows it.
    have hblank : x ++ ", " ++ String.intercalate ", " (y :: ys) =
        x ++ String.singleton ',' ++ String.intercalate ", " ((" " ++ y) :: ys) := by
      have hcomma (t : String) : ", " ++ t = "," ++ (" " ++ t) := by
        rw [← String.append_assoc]
        rfl
      cases ys <;> simp [hcomma, String.append_assoc]
    have hnext : Phrase d (" " ++ y) ∧ top ',' ∉ view d (" " ++ y) := by
      have hspace : Takes d .ready 0 " " .ready 0 := Takes.of_walk rfl
      refine ⟨hspace.append hy.1, ?_⟩
      rw [(Phrase.contained hspace.settle).mem_view_append, not_or]
      exact ⟨top_notMem_of_notMem (by decide), hy.2⟩
    rw [String.intercalate_cons_cons, hblank, pieces_append (by decide) hx.1.contained,
      pieces_eq_singleton hx.2, ih hnext hys]
    rfl

/-- A list is read back from its text. -/
theorem items_intercalate {xs : List String} (hxs : xs ≠ [])
    (h : ∀ x ∈ xs, Phrase d x ∧ top ',' ∉ view d x) : items d (String.intercalate ", " xs) = xs := by
  obtain ⟨x, xs, rfl⟩ := List.exists_cons_of_ne_nil hxs
  obtain ⟨hx, hrest⟩ := List.forall_mem_cons.1 h
  rw [items, pieces_list hx hrest]
  simp [Function.comp_def, withoutBlank_append]

example : items .postgres "\"A,\", (B, C), ', '" = ["\"A,\"", "(B, C)", "', '"] := rfl

end SchemaChange
