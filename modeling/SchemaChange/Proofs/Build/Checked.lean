import Mathlib.Data.List.Forall2
import SchemaChange.Error

/-!
# What a checked result is made of

A builder's operation either refuses its arguments or makes a text. If it makes one then all its parts
were made, so a result is taken apart into those of the parts, in the order in which they were asked
for.
-/

namespace SchemaChange.Builder

variable {α β γ δ : Type}

theorem bind_ok {x : Except BuildError α} {f : α → Except BuildError β} {r : β}
    (h : x >>= f = .ok r) : ∃ a, x = .ok a ∧ f a = .ok r := by
  cases x with
  | error e => cases h
  | ok a => exact ⟨a, rfl, h⟩

theorem map_ok {x : Except BuildError α} {f : α → β} {r : β} (h : f <$> x = .ok r) :
    ∃ a, x = .ok a ∧ r = f a := by
  cases x with
  | error e => cases h
  | ok a => exact ⟨a, rfl, (Except.ok.inj h).symm⟩

/-- What comes after a check that refuses, if it did not refuse. -/
theorem unless_ok {p : Prop} [Decidable p] {e : BuildError} {f : PUnit → Except BuildError α} {r : α}
    (h : (if p then throw e >>= f else f ⟨⟩) = .ok r) : ¬p ∧ f ⟨⟩ = .ok r := by
  by_cases hp : p
  · rw [if_pos hp] at h
    cases h
  · rw [if_neg hp] at h
    exact ⟨hp, h⟩

/-- Each element was made from the one in its place. -/
theorem mapM_ok {f : α → Except BuildError β} {as : List α} {bs : List β} (h : as.mapM f = .ok bs) :
    List.Forall₂ (fun a b => f a = .ok b) as bs := by
  induction as generalizing bs with
  | nil =>
    cases h
    exact .nil
  | cons a as ih =>
    rw [List.mapM_cons] at h
    obtain ⟨b, hb, h⟩ := bind_ok h
    obtain ⟨bs, hbs, h⟩ := bind_ok h
    cases h
    exact .cons hb (ih hbs)

/-- A list is made if each of its elements is. -/
theorem mapM_ok_iff {f : α → Except BuildError β} {as : List α} {bs : List β} :
    as.mapM f = .ok bs ↔ List.Forall₂ (fun a b => f a = .ok b) as bs := by
  refine ⟨mapM_ok, fun h => ?_⟩
  induction h with
  | nil => rfl
  | cons hb _ ih =>
    rw [List.mapM_cons, hb, ih]
    rfl

/-- A list of which something else is made in the same places. -/
theorem mapM_ok_map {f : α → Except BuildError β} {g : γ → Except BuildError δ} {k : α → γ}
    {w : β → δ} (hg : ∀ {a b}, f a = .ok b → g (k a) = .ok (w b)) {as : List α} {bs : List β}
    (h : as.mapM f = .ok bs) : (as.map k).mapM g = .ok (bs.map w) := by
  rw [mapM_ok_iff, List.forall₂_map_left_iff, List.forall₂_map_right_iff]
  exact (mapM_ok h).imp fun _ _ => hg

/-- What is read from each element that was made, if that is told by the one in its place. -/
theorem map_eq_of_mapM_ok {f : α → Except BuildError β} {r : β → γ} {k : α → γ}
    (hr : ∀ {a b}, f a = .ok b → r b = k a) {as : List α} {bs : List β} (h : as.mapM f = .ok bs) :
    bs.map r = as.map k := by
  have hall := mapM_ok h
  clear h
  induction hall with
  | nil => rfl
  | cons hb _ ih => rw [List.map_cons, List.map_cons, hr hb, ih]

/-- What holds of all that the elements are made into holds throughout the list. -/
theorem forall_of_mapM_ok {f : α → Except BuildError β} {p : β → Prop}
    (hp : ∀ {a b}, f a = .ok b → p b) {as : List α} {bs : List β} (h : as.mapM f = .ok bs) :
    ∀ b ∈ bs, p b := by
  have hall := mapM_ok h
  clear h
  induction hall with
  | nil => exact nofun
  | cons hb _ ih => exact List.forall_mem_cons.2 ⟨hp hb, ih⟩

theorem mapM_isEmpty {f : α → Except BuildError β} {as : List α} {bs : List β}
    (h : as.mapM f = .ok bs) : bs.isEmpty = as.isEmpty := by
  cases mapM_ok h with
  | nil => rfl
  | cons => rfl

end SchemaChange.Builder
