import SchemaChange.Dialect
import SchemaChange.Proofs.Statement.Scan

/-!
# Passages of a statement

A statement is put together from passages, and a passage is judged by where a scan stands before it and
after it. Where it stands is a `Stage` and a number of open brackets, and a passage `Takes` the scan from
the one to the other, however many more brackets are open around it. So passages are joined like steps
(`Takes.append`).

A text that is known is walked with the stage alone (`Stage.walk?`), which settles what it takes to what
without a case for each of its characters.

* `Takes.contained`: a passage from the beginning of a statement to its end is contained;
* `Takes.of_walk`: texts that are known;
* `Takes.word`, `Takes.within`: texts of which only the kind of characters is known;
* `Takes.quoted`: whatever is quoted;
* `Phrase.intercalate`: lists;
* `Phrase.of_contained`: what is contained as a statement is contained anywhere.
-/

namespace SchemaChange

/-- Whether a character is neither a quote nor a semicolon, and begins no comment. -/
def isPlain (c : Char) : Bool :=
  !(['\x27', '"', '\x60', ';', '-', '/'].contains c)

theorem isPlain_quoteChar (d : Dialect) : isPlain d.quoteChar = false := by
  cases d <;> rfl

namespace Place

/-- The quote of a region is no plain character. -/
def IsQuoted : Place → Prop
  | outside => True
  | inside r | closing r => isPlain r = false

theorem isQuoted_opened (d : Dialect) (c : Char) : (opened d.quoteChar c).IsQuoted := by
  unfold opened
  split
  · rename_i hc
    rcases hc with rfl | rfl
    · exact (rfl : isPlain '\x27' = false)
    · exact isPlain_quoteChar d
  · trivial

theorem IsQuoted.next {d : Dialect} {p : Place} (h : p.IsQuoted) (c : Char) :
    (p.next d.quoteChar c).IsQuoted := by
  unfold Place.next
  split
  · exact isQuoted_opened d c
  · split <;> exact h
  · split
    · exact h
    · exact isQuoted_opened d c

theorem IsQuoted.after {d : Dialect} {p : Place} (h : p.IsQuoted) (s : List Char) :
    (p.after d.quoteChar s).IsQuoted := by
  induction s generalizing p with
  | nil => exact h
  | cons c s ih => exact ih (h.next c)

end Place

/-- Where a scan stands between two passages. -/
inductive Stage where
  /-- Outside of regions, after a character that begins no comment. -/
  | ready
  /-- Not inside a region: the last character may have been a quote or a dash. -/
  | settled
  /-- Inside a region. -/
  | inside (quote : Char)
  deriving DecidableEq

/-- The cursor is at a stage, with as many brackets open. -/
def Stage.At (depth : Nat) (k : Cursor) : Stage → Prop
  | ready => k.depth = depth ∧ k.place = .outside ∧ k.last ≠ some '-' ∧ k.last ≠ some '/'
  | settled => k.depth = depth ∧ k.place.IsQuoted ∧ ∀ r, k.place ≠ .inside r
  | inside r => k.depth = depth ∧ k.place = .inside r ∧ isPlain r = false

theorem Stage.At.settle {depth : Nat} {k : Cursor} (h : ready.At depth k) : settled.At depth k :=
  ⟨h.1, h.2.1 ▸ trivial, fun r hr => by cases h.2.1.symm.trans hr⟩

/-- The passage takes a scan from the stage `A` with `a` open brackets to the stage `B` with `b` of them,
    not counting those that stay open all along. -/
def Takes (d : Dialect) (A : Stage) (a : Nat) (s : String) (B : Stage) (b : Nat) : Prop :=
  ∀ ⦃n k⦄, A.At (n + a) k → ∃ k', k.run d.quoteChar s.toList = some k' ∧ B.At (n + b) k'

namespace Takes

variable {d : Dialect} {A B C : Stage} {a b c : Nat} {s t : String}

theorem nil : Takes d A a "" A a :=
  fun _ k hk => ⟨k, rfl, hk⟩

theorem append (h : Takes d A a s B b) (h' : Takes d B b t C c) : Takes d A a (s ++ t) C c := by
  intro n k hk
  obtain ⟨k₁, hrun, hk₁⟩ := h hk
  obtain ⟨k₂, hrun', hk₂⟩ := h' hk₁
  refine ⟨k₂, ?_, hk₂⟩
  rw [String.toList_append, Cursor.run_append, hrun, Option.bind_some, hrun']

/-- What is asked of a passage that follows is less than what this one gives. -/
theorem settle (h : Takes d A a s .ready b) : Takes d A a s .settled b := by
  intro n k hk
  obtain ⟨k', hrun, hk'⟩ := h hk
  exact ⟨k', hrun, hk'.settle⟩

theorem ofReady (h : Takes d .settled a s B b) : Takes d .ready a s B b :=
  fun _ _ hk => h hk.settle

/-- Brackets may be open around a passage. -/
theorem deepen (h : Takes d A a s B b) (m : Nat) : Takes d A (m + a) s B (m + b) := by
  intro n k hk
  rw [← Nat.add_assoc] at hk ⊢
  exact h hk

/-- A passage from the beginning of a statement to its end. -/
theorem contained (h : Takes d .settled 0 s .settled 0) : Contained d.quoteChar s := by
  obtain ⟨k, hrun, hdepth, -, hplace⟩ := h (n := 0) (k := Cursor.start) ⟨rfl, trivial, nofun⟩
  exact contained_iff.2 ⟨k, hrun, hplace, hdepth⟩

end Takes

/-! ## Texts that are known -/

namespace Stage

/-- The stage after one more character, with the number of open brackets; none if it cannot be told. -/
def step? (A : Stage) (a : Nat) (c : Char) : Option (Stage × Nat) :=
  match A with
  | inside r => some (if c = r then settled else inside r, a)
  | ready =>
    if c = '\x27' then some (inside c, a)
    else if c = '-' then some (settled, a)
    else if isPlain c then (openBrackets? a [some c]).map (ready, ·) else none
  | settled =>
    if isPlain c && c != '*' then (openBrackets? a [some c]).map (ready, ·) else none

/-- The stage after a text. -/
def walk? : Stage → Nat → List Char → Option (Stage × Nat)
  | A, a, [] => some (A, a)
  | A, a, c :: s =>
    match A.step? a c with
    | some (B, b) => B.walk? b s
    | none => none

end Stage

variable {d : Dialect} {A B : Stage} {a b n : Nat} {k : Cursor} {c : Char}

theorem Place.opened_of_ne (hquote : c ≠ '\x27') (hname : c ≠ d.quoteChar) :
    opened d.quoteChar c = .outside :=
  if_neg (not_or.2 ⟨hquote, hname⟩)

/-- A plain character that is not in a region stays outside. -/
theorem Place.opened_of_isPlain (h : isPlain c = true) : opened d.quoteChar c = .outside := by
  refine opened_of_ne ?_ ?_ <;> rintro rfl
  · cases h
  · rw [isPlain_quoteChar] at h
    cases h

/-- Quotes and what stands between them are passed over. -/
theorem Cursor.step_of_hidden (h : k.place.next d.quoteChar c ≠ .outside) :
    k.step d.quoteChar c = some ⟨k.place.next d.quoteChar c, k.depth, none⟩ := by
  have hshown : k.place.shown d.quoteChar c = none := if_neg h
  refine Cursor.step_eq_some_iff.2 ⟨?_, ?_, ?_, rfl, hshown.symm⟩ <;> rw [hshown]
  · exact nofun
  · rintro (⟨-, ⟨⟩⟩ | ⟨-, ⟨⟩⟩)
  · rfl

/-- What stands outside is passed over if it neither ends the statement nor makes a comment of what is
    before it. -/
theorem Cursor.step_of_shown (hplace : k.place.next d.quoteChar c = .outside) (hsemicolon : c ≠ ';')
    (hcomment : ¬beginsComment k.last (some c)) (hbrackets : openBrackets? k.depth [some c] = some b) :
    k.step d.quoteChar c = some ⟨.outside, b, some c⟩ := by
  have hshown : k.place.shown d.quoteChar c = some c := if_pos hplace
  refine Cursor.step_eq_some_iff.2 ⟨?_, ?_, ?_, hplace.symm, hshown.symm⟩ <;> rw [hshown]
  · exact fun hc => hsemicolon (Option.some.inj hc)
  · exact hcomment
  · exact hbrackets

/-- What is plain is scanned wherever it stands outside. -/
theorem Cursor.step_of_isPlain (h : isPlain c = true)
    (hplace : k.place.next d.quoteChar c = .outside) (hstar : c = '*' → k.last ≠ some '/')
    (hdepth : k.depth = n + a) (hbrackets : openBrackets? a [some c] = some b) :
    ∃ k', k.step d.quoteChar c = some k' ∧ Stage.ready.At (n + b) k' := by
  have hne : c ≠ ';' ∧ c ≠ '-' ∧ c ≠ '/' := by
    refine ⟨?_, ?_, ?_⟩ <;> rintro rfl <;> cases h
  refine ⟨_, step_of_shown hplace hne.1 ?_ (hdepth ▸ openBrackets?_add hbrackets n), rfl, rfl, ?_, ?_⟩
  · rintro (⟨-, hc⟩ | ⟨hlast, hc⟩)
    · exact hne.2.1 (Option.some.inj hc)
    · exact hstar (Option.some.inj hc) hlast
  · exact fun hc => hne.2.1 (Option.some.inj hc)
  · exact fun hc => hne.2.2 (Option.some.inj hc)

/-- A dash is a sign where no dash stands before it. -/
theorem Cursor.step_of_dash (hplace : k.place = .outside) (hdash : k.last ≠ some '-') :
    k.step d.quoteChar '-' = some ⟨.outside, k.depth, some '-'⟩ := by
  refine step_of_shown ?_ (by decide) ?_ rfl
  · rw [hplace]
    exact Place.opened_of_ne (by decide) (by cases d <;> decide)
  · rintro (⟨hlast, -⟩ | ⟨-, ⟨⟩⟩)
    exact hdash hlast

namespace Stage

/-- What follows a region does not open it again if it is plain. -/
theorem At.next_of_isPlain (hk : settled.At n k) (h : isPlain c = true) :
    k.place.next d.quoteChar c = .outside := by
  obtain ⟨-, hquoted, hplace⟩ := hk
  cases hp : k.place with
  | outside => exact Place.opened_of_isPlain h
  | inside r => exact absurd hp (hplace r)
  | closing r =>
    rw [hp] at hquoted
    have hne : c ≠ r := by
      rintro rfl
      exact Bool.false_ne_true ((show isPlain c = false from hquoted).symm.trans h)
    rw [Place.next, if_neg hne]
    exact Place.opened_of_isPlain h

/-- A stage is told right from the one before it, by cases on where a scan may stand there. -/
theorem step_sound (h : A.step? a c = some (B, b)) (hk : A.At (n + a) k) :
    ∃ k', k.step d.quoteChar c = some k' ∧ B.At (n + b) k' := by
  cases A with
  | inside r =>
    obtain ⟨hdepth, hplace, hr⟩ := hk
    have hnext : k.place.next d.quoteChar c = if c = r then .closing r else .inside r := by
      rw [hplace, Place.next]
    have hhidden : k.place.next d.quoteChar c ≠ .outside := by
      rw [hnext]
      split <;> exact nofun
    refine ⟨_, Cursor.step_of_hidden hhidden, ?_⟩
    -- The quote may turn out to be doubled, which is for what follows to find out.
    obtain ⟨rfl, rfl⟩ := Prod.mk.inj (Option.some.inj h)
    split
    · rw [hnext, if_pos ‹_›]
      exact ⟨hdepth, hr, nofun⟩
    · rw [hnext, if_neg ‹_›]
      exact ⟨hdepth, rfl, hr⟩
  | ready =>
    obtain ⟨hdepth, hplace, hdash, hslash⟩ := hk
    have hnext : k.place.next d.quoteChar c = Place.opened d.quoteChar c := by
      rw [hplace, Place.next]
    simp only [step?] at h
    split at h
    · -- A text literal begins.
      obtain ⟨rfl, rfl⟩ := Prod.mk.inj (Option.some.inj h)
      have hopened : Place.opened d.quoteChar c = .inside c := if_pos (.inl ‹_›)
      rw [hopened] at hnext
      exact ⟨_, Cursor.step_of_hidden (hnext ▸ nofun), hdepth, hnext, ‹c = '\x27'› ▸ rfl⟩
    · split at h
      · -- A sign.
        obtain ⟨rfl, rfl⟩ := Prod.mk.inj (Option.some.inj h)
        subst c
        exact ⟨_, Cursor.step_of_dash hplace hdash, hdepth, trivial, nofun⟩
      · split at h
        · obtain ⟨b', hbrackets, hb⟩ := Option.map_eq_some_iff.1 h
          cases hb
          exact Cursor.step_of_isPlain ‹_› (hnext.trans (Place.opened_of_isPlain ‹_›))
            (fun _ => hslash) hdepth hbrackets
        · cases h
  | settled =>
    simp only [step?] at h
    split at h
    · obtain ⟨hplain, hstar⟩ := Bool.and_eq_true_iff.1 ‹_›
      obtain ⟨b', hbrackets, hb⟩ := Option.map_eq_some_iff.1 h
      cases hb
      exact Cursor.step_of_isPlain hplain (hk.next_of_isPlain hplain)
        (fun hc => absurd hc (bne_iff_ne.1 hstar)) hk.1 hbrackets
    · cases h

theorem walk_sound {s : List Char} (h : A.walk? a s = some (B, b)) (hk : A.At (n + a) k) :
    ∃ k', k.run d.quoteChar s = some k' ∧ B.At (n + b) k' := by
  induction s generalizing A a k with
  | nil =>
    cases h
    exact ⟨k, rfl, hk⟩
  | cons c s ih =>
    rw [walk?] at h
    split at h
    · obtain ⟨k₁, hstep, hk₁⟩ := step_sound ‹_› hk
      obtain ⟨k₂, hrun, hk₂⟩ := ih h hk₁
      exact ⟨k₂, by rw [Cursor.run_cons, hstep, Option.bind_some, hrun], hk₂⟩
    · cases h

end Stage

theorem Takes.of_walk {s : List Char} (h : A.walk? a s = some (B, b)) :
    Takes d A a (String.ofList s) B b := by
  intro n k hk
  rw [String.toList_ofList]
  exact Stage.walk_sound h hk

/-! ## Texts of a kind -/

/-- Whether a character leaves a scan where it is: it is plain, and neither a bracket nor a star. -/
def isWordChar (c : Char) : Bool :=
  isPlain c && !(['(', ')', '*'].contains c)

namespace Stage

theorem openBrackets?_of_isWordChar (h : isWordChar c = true) : openBrackets? a [some c] = some a := by
  have hne : c ≠ '(' ∧ c ≠ ')' := by
    constructor <;> rintro rfl <;> cases h
  rw [openBrackets?, if_neg (hne.1 ∘ Option.some.inj), if_neg (hne.2 ∘ Option.some.inj), openBrackets?]

theorem step?_of_isWordChar (h : isWordChar c = true) (hA : A = ready ∨ A = settled) :
    A.step? a c = some (ready, a) := by
  have hplain : isPlain c = true := (Bool.and_eq_true_iff.1 h).1
  rcases hA with rfl | rfl
  · have hne : c ≠ '\x27' ∧ c ≠ '-' := by
      constructor <;> rintro rfl <;> cases h
    rw [step?, if_neg hne.1, if_neg hne.2, if_pos hplain, openBrackets?_of_isWordChar h, Option.map_some]
  · have hstar : (c != '*') = true := bne_iff_ne.2 (by rintro rfl; cases h)
    rw [step?, hplain, hstar, Bool.and_self, if_pos rfl, openBrackets?_of_isWordChar h, Option.map_some]

theorem walk?_word {s : List Char} (h : ∀ c ∈ s, isWordChar c = true) :
    ready.walk? a s = some (ready, a) := by
  induction s with
  | nil => rfl
  | cons c s ih =>
    obtain ⟨hc, hs⟩ := List.forall_mem_cons.1 h
    rw [walk?, step?_of_isWordChar hc (.inl rfl)]
    exact ih hs

theorem walk?_within {r : Char} {s : List Char} (h : r ∉ s) :
    (inside r).walk? a s = some (inside r, a) := by
  induction s with
  | nil => rfl
  | cons c s ih =>
    obtain ⟨hc, hs⟩ := not_or.1 (List.mem_cons.not.1 h)
    rw [walk?, step?, if_neg (Ne.symm hc)]
    exact ih hs

end Stage

namespace Takes

variable {r : Char} {s : List Char}

/-- Once a word has begun, no dash or slash stands before what follows. -/
theorem word_of_ne_nil (h : ∀ c ∈ s, isWordChar c = true) (hs : s ≠ []) :
    Takes d .settled 0 (String.ofList s) .ready 0 := by
  obtain ⟨c, s, rfl⟩ := List.exists_cons_of_ne_nil hs
  obtain ⟨hc, hs⟩ := List.forall_mem_cons.1 h
  refine of_walk ?_
  rw [Stage.walk?, Stage.step?_of_isWordChar hc (.inr rfl)]
  exact Stage.walk?_word hs

theorem word (h : ∀ c ∈ s, isWordChar c = true) :
    Takes d .settled 0 (String.ofList s) .settled 0 := by
  by_cases hs : s = []
  · rw [hs]
    exact nil
  · exact (word_of_ne_nil h hs).settle

theorem within (h : r ∉ s) : Takes d (.inside r) 0 (String.ofList s) (.inside r) 0 :=
  of_walk (Stage.walk?_within h)

end Takes

/-! ## What is quoted -/

namespace Takes

variable {r : Char}

theorem opening (hr : r = '\x27' ∨ r = d.quoteChar) :
    Takes d .ready 0 (String.ofList [r]) (.inside r) 0 := by
  rintro n k ⟨hdepth, hplace, -⟩
  have hnext : k.place.next d.quoteChar r = .inside r := by
    rw [hplace]
    exact if_pos hr
  refine ⟨⟨.inside r, k.depth, none⟩, ?_, hdepth, rfl,
    hr.elim (fun h => h ▸ rfl) (fun h => h ▸ isPlain_quoteChar d)⟩
  rw [String.toList_ofList, Cursor.run_cons, Cursor.step_of_hidden (hnext ▸ nofun), hnext]
  rfl

/-- A quote that is written twice does not end a region. -/
theorem doubled (s : List Char) :
    Takes d (.inside r) 0 (String.ofList (Text.doubled r s)) (.inside r) 0 := by
  induction s with
  | nil => exact nil
  | cons c s ih =>
    rw [Text.doubled]
    split
    · -- The first of the two closes the region and the second one opens it again.
      rintro n k ⟨hdepth, hplace, hr⟩
      have hclosing : k.place.next d.quoteChar r = .closing r := by
        rw [hplace]
        exact if_pos rfl
      have hinside : (Place.closing r).next d.quoteChar r = .inside r := if_pos rfl
      obtain ⟨k', hrun, hk'⟩ := ih (n := n) (k := ⟨.inside r, k.depth, none⟩) ⟨hdepth, rfl, hr⟩
      refine ⟨k', ?_, hk'⟩
      rw [String.toList_ofList] at hrun ⊢
      rw [Cursor.run_cons, Cursor.step_of_hidden (hclosing ▸ nofun), hclosing, Option.bind_some,
        Cursor.run_cons, Cursor.step_of_hidden (hinside ▸ nofun), hinside, Option.bind_some, hrun]
    · rw [← List.singleton_append, String.ofList_append]
      exact append (within (List.not_mem_cons_of_ne_of_not_mem (Ne.symm ‹_›) List.not_mem_nil)) ih

theorem closing : Takes d (.inside r) 0 (String.ofList [r]) .settled 0 :=
  of_walk (by rw [Stage.walk?, Stage.step?, if_pos rfl]; rfl)

/-- Nothing that is quoted gets out of its quotes. -/
theorem quoted (hr : r = '\x27' ∨ r = d.quoteChar) (s : List Char) :
    Takes d .ready 0 (String.ofList (Text.quoted r s)) .settled 0 := by
  rw [Text.quoted, ← List.singleton_append, String.ofList_append, String.ofList_append]
  exact (opening hr).append ((doubled s).append closing)

end Takes

/-! ## Phrases -/

/-- A passage that closes what it opens and may stand wherever a word may, such as a name, a literal or a
    list of them. -/
def Phrase (d : Dialect) (s : String) : Prop :=
  Takes d .ready 0 s .settled 0

namespace Takes

variable {C : Stage} {m : Nat} {s x : String} {t : List Char}

/-- A passage goes on with a phrase, whatever brackets are open. -/
theorem phrase (h : Takes d A a s .ready b) (hx : Phrase d x) : Takes d A a (s ++ x) .settled b :=
  h.append (Takes.deepen hx b)

/-- A passage goes on with a text that is known. -/
theorem text (h : Takes d A a s B b) (ht : B.walk? b t = some (C, m)) :
    Takes d A a (s ++ String.ofList t) C m :=
  h.append (of_walk ht)

/-- A statement begins with words and a phrase. -/
theorem begins (ht : Stage.settled.walk? 0 t = some (.ready, b)) (hx : Phrase d x) :
    Takes d .settled 0 (String.ofList t ++ x) .settled b :=
  (of_walk ht).phrase hx

/-- A statement goes on with words and a phrase. -/
theorem clause (h : Takes d A a s B b) (ht : B.walk? b t = some (.ready, m)) (hx : Phrase d x) :
    Takes d A a (s ++ String.ofList t ++ x) .settled m :=
  (h.text ht).phrase hx

/-- A statement ends with words or brackets. -/
theorem ends (h : Takes d .settled 0 s B b) (ht : B.walk? b t = some (.ready, 0)) :
    Contained d.quoteChar (s ++ String.ofList t) :=
  (h.text ht).settle.contained

end Takes

namespace Phrase

open Stage

variable {s : List Char} {t glue : String} {xs : List String}

theorem word (h : ∀ c ∈ s, isWordChar c = true) : Phrase d (String.ofList s) :=
  (Takes.word h).ofReady

theorem intercalate (hglue : Takes d .settled 0 glue .ready 0) (h : ∀ x ∈ xs, Phrase d x) :
    Phrase d (String.intercalate glue xs) := by
  induction xs with
  | nil => exact Takes.nil.settle
  | cons x xs ih =>
    obtain ⟨hx, hxs⟩ := List.forall_mem_cons.1 h
    cases xs with
    | nil => rwa [String.intercalate_singleton]
    | cons y ys =>
      rw [String.intercalate_cons_cons]
      exact (Takes.append hx hglue).append (ih hxs)

theorem text (h : ready.walk? 0 s = some (B, 0)) (hB : B = ready ∨ B = settled) :
    Phrase d (String.ofList s) := by
  rcases hB with rfl | rfl
  · exact Takes.settle (Takes.of_walk h)
  · exact Takes.of_walk h

/-- A text that is written as it is. -/
theorem of_contained (h : Contained d.quoteChar t) : Phrase d t := by
  rintro n k ⟨hdepth, hplace, hdash, hslash⟩
  have hlast : ∀ b, ¬beginsComment k.last b := by
    rintro b (⟨hlast, -⟩ | ⟨hlast, -⟩)
    · exact hdash hlast
    · exact hslash hlast
  obtain ⟨k', hrun, hdepth', hplace'⟩ := h.run hplace hlast
  refine ⟨k', hrun, hdepth'.trans hdepth, ?_, fun r => hplace' ▸ h.closed r⟩
  rw [hplace']
  exact Place.IsQuoted.after (p := .outside) trivial _

end Phrase

end SchemaChange
