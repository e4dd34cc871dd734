import Mathlib.Data.Char
import Mathlib.Data.List.Lex
import SchemaChange.Text.Utf8

/-!
# Bytes that are text

Bytes are read back as the text that they are the bytes of. So tolerant reading loses nothing of bytes
that are UTF-8, and of bytes that are not it cannot be undone: what it gives has other bytes. Bytes are
in the order of the texts that they are the bytes of.

* `Text.readChar_encoded`: one character is read back;
* `Text.tolerantText_utf8`, `Text.strictText?_utf8`: a whole text is read back;
* `Text.utf8_tolerantText_iff`: which bytes are recovered from what they are read as;
* `Text.utf8_lt_iff`: the order of texts is that of their bytes.
-/

namespace SchemaChange.Text

/-- The bytes are those of some text. -/
def IsUtf8 (bs : List UInt8) : Prop :=
  ∃ s, utf8 s = bs

/-! ## One character -/

theorem followers?_one {n : Nat} (h : n < 0x80) : followers? (.ofNat n) = some (n, []) := by
  revert n
  decide

theorem followers?_two {n : Nat} (h : 0xC2 ≤ n) (h' : n < 0xE0) :
    followers? (.ofNat n) = some (n - 0xC0, [(0x80, 0xBF)]) := by
  have hall : ∀ m < 0x1E, followers? (.ofNat (m + 0xC2)) = some (m + 2, [(0x80, 0xBF)]) := by decide
  have hn := hall (n - 0xC2) (by omega)
  rwa [show n - 0xC2 + 0xC2 = n by omega, show n - 0xC2 + 2 = n - 0xC0 by omega] at hn

theorem followers?_three {m : Nat} (h : m < 0x10) :
    followers? (.ofNat (m + 0xE0)) = some (m,
      [(if m = 0 then 0xA0 else 0x80, if m = 0xD then 0x9F else 0xBF), (0x80, 0xBF)]) := by
  revert m
  decide

theorem followers?_four {m : Nat} (h : m < 5) :
    followers? (.ofNat (m + 0xF0)) = some (m,
      [(if m = 0 then 0x90 else 0x80, if m = 4 then 0x8F else 0xBF), (0x80, 0xBF), (0x80, 0xBF)]) := by
  revert m
  decide

/-- A following byte in its range adds its six bits. -/
theorem readFollowers_cons {bits m : Nat} {low high : UInt8} {ranges : List (UInt8 × UInt8)}
    {bs : List UInt8} (hm : m < 64) (hlow : low.toNat ≤ m + 0x80) (hhigh : m + 0x80 ≤ high.toNat) :
    readFollowers bits ((low, high) :: ranges) (.ofNat (m + 0x80) :: bs) =
      ((readFollowers (bits * 64 + m) ranges bs).1, (readFollowers (bits * 64 + m) ranges bs).2.1 + 1,
        (readFollowers (bits * 64 + m) ranges bs).2.2) := by
  have htoNat : (UInt8.ofNat (m + 0x80)).toNat = m + 0x80 := by
    rw [UInt8.toNat_ofNat']
    omega
  have hin : (decide (low ≤ .ofNat (m + 0x80)) && decide (.ofNat (m + 0x80) ≤ high)) = true := by
    simp only [UInt8.le_iff_toNat_le, htoNat, hlow, hhigh, decide_true, Bool.and_true]
  rw [readFollowers, if_pos hin, htoNat, Nat.add_sub_cancel]

/-- Where the bits have been read, the character is theirs. -/
theorem readFollowers_tail {bits m : Nat} {ranges : List (UInt8 × UInt8)} {bs : List UInt8}
    (hm : m < 64) :
    readFollowers bits ((0x80, 0xBF) :: ranges) (.ofNat (m + 0x80) :: bs) =
      ((readFollowers (bits * 64 + m) ranges bs).1, (readFollowers (bits * 64 + m) ranges bs).2.1 + 1,
        (readFollowers (bits * 64 + m) ranges bs).2.2) :=
  readFollowers_cons hm (Nat.le_add_left 0x80 m) (show m + 0x80 ≤ 0xBF by omega)

/-- A character is read back from its bytes, and nothing of what follows them. -/
theorem readChar_encoded (c : Char) (rest : List UInt8) :
    ∃ b bs, String.utf8EncodeChar c = b :: bs ∧ readChar b (bs ++ rest) = (some c, bs.length) := by
  have hvalid : c.val.toNat < 0xD800 ∨ 0xDFFF < c.val.toNat ∧ c.val.toNat < 0x110000 := c.valid
  have hc : Char.ofNat c.val.toNat = c := Char.ofNat_toNat c
  unfold String.utf8EncodeChar
  generalize c.val.toNat = v at hvalid hc
  dsimp only
  -- One case for each number of bytes. The bits that they carry are those of the character.
  split
  · refine ⟨_, _, rfl, ?_⟩
    rw [readChar, followers?_one (by omega)]
    simp [readFollowers, hc]
  split
  · have hbits : (v / 64 % 32 + 0xC0 - 0xC0) * 64 + v % 64 = v := by omega
    refine ⟨_, _, rfl, ?_⟩
    rw [readChar, followers?_two (by omega) (by omega), List.cons_append]
    dsimp only
    rw [readFollowers_tail (by omega), hbits]
    simp [readFollowers, hc]
  split
  · have hbits : (v / 4096 % 16 * 64 + v / 64 % 64) * 64 + v % 64 = v := by omega
    refine ⟨_, _, rfl, ?_⟩
    rw [readChar, followers?_three (by omega), List.cons_append, List.cons_append]
    dsimp only
    rw [readFollowers_cons (by omega) (by split <;> simp; omega) (by split <;> simp <;> omega),
      readFollowers_tail (by omega), hbits]
    simp [readFollowers, hc]
  · have hbits : ((v / 262144 % 8 * 64 + v / 4096 % 64) * 64 + v / 64 % 64) * 64 + v % 64 = v := by
      omega
    refine ⟨_, _, rfl, ?_⟩
    rw [readChar, followers?_four (by omega), List.cons_append, List.cons_append, List.cons_append]
    dsimp only
    rw [readFollowers_cons (by omega) (by split <;> simp; omega) (by split <;> simp <;> omega),
      readFollowers_tail (by omega), readFollowers_tail (by omega), hbits]
    simp [readFollowers, hc]

/-! ## Whole texts -/

theorem tolerantText_append_utf8 (c : Char) (rest : List UInt8) :
    tolerantText (String.utf8EncodeChar c ++ rest) = c :: tolerantText rest := by
  obtain ⟨b, bs, hbytes, hread⟩ := readChar_encoded c rest
  rw [hbytes, List.cons_append, tolerantText, hread]
  simp

/-- A text is read back from its bytes. -/
theorem tolerantText_utf8 (s : List Char) : tolerantText (utf8 s) = s := by
  induction s with
  | nil => rw [utf8, List.flatMap_nil, tolerantText]
  | cons c s ih => rw [utf8, List.flatMap_cons, ← utf8, tolerantText_append_utf8, ih]

theorem strictText?_append_utf8 (c : Char) (rest : List UInt8) :
    strictText? (String.utf8EncodeChar c ++ rest) = (strictText? rest).map (c :: ·) := by
  obtain ⟨b, bs, hbytes, hread⟩ := readChar_encoded c rest
  rw [hbytes, List.cons_append, strictText?, hread]
  simp

/-- A text is read back from its bytes by strict reading as well. -/
theorem strictText?_utf8 (s : List Char) : strictText? (utf8 s) = some s := by
  induction s with
  | nil => rw [utf8, List.flatMap_nil, strictText?]
  | cons c s ih => rw [utf8, List.flatMap_cons, ← utf8, strictText?_append_utf8, ih, Option.map_some]

/-- The bytes that are recovered are those of a text. -/
theorem utf8_tolerantText_iff {bs : List UInt8} : utf8 (tolerantText bs) = bs ↔ IsUtf8 bs := by
  constructor
  · exact fun h => ⟨_, h⟩
  · rintro ⟨s, rfl⟩
    rw [tolerantText_utf8]

/-! ## Order -/

/-- The bytes of a character are before those of each later one, whatever follows them. -/
theorem utf8EncodeChar_append_lt {c d : Char} (h : c < d) (s t : List UInt8) :
    String.utf8EncodeChar c ++ s < String.utf8EncodeChar d ++ t := by
  have hlt : c.val.toNat < d.val.toNat := h
  have hvalid : d.val.toNat < 0xD800 ∨ 0xDFFF < d.val.toNat ∧ d.val.toNat < 0x110000 := d.valid
  unfold String.utf8EncodeChar
  generalize c.val.toNat = v at hlt ⊢
  generalize d.val.toNat = w at hlt hvalid ⊢
  -- The bits of each byte are a digit to the base 64.
  have hv : v / 4096 = v / 64 / 64 := by omega
  have hw : w / 4096 = w / 64 / 64 := by omega
  have hv' : v / 262144 = v / 64 / 64 / 64 := by omega
  have hw' : w / 262144 = w / 64 / 64 / 64 := by omega
  dsimp only
  split_ifs <;>
    simp (disch := omega) only [List.cons_append, List.nil_append, List.cons_lt_cons_iff,
      UInt8.lt_iff_toNat_lt, ← UInt8.toNat_inj, UInt8.toNat_ofNat', Nat.mod_eq_of_lt, hv, hw, hv', hw'] <;>
    omega

theorem utf8_lt_utf8 {s t : List Char} (h : s < t) : utf8 s < utf8 t := by
  induction s generalizing t with
  | nil =>
    cases t with
    | nil => exact absurd h (List.lt_irrefl [])
    | cons d t =>
      rw [utf8, utf8, List.flatMap_cons, List.flatMap_nil]
      obtain ⟨b, bs, hbytes, -⟩ := readChar_encoded d []
      rw [hbytes]
      exact List.nil_lt_cons _ _
  | cons c s ih =>
    cases t with
    | nil => exact absurd h (List.not_lt_nil _)
    | cons d t =>
      rw [utf8, utf8, List.flatMap_cons, List.flatMap_cons, ← utf8, ← utf8]
      rcases List.cons_lt_cons_iff.1 h with hhead | ⟨rfl, htail⟩
      · exact utf8EncodeChar_append_lt hhead _ _
      · exact List.append_left_lt (ih htail)

/-- Bytes are in the order of their texts. -/
theorem utf8_lt_iff {s t : List Char} : utf8 s < utf8 t ↔ s < t := by
  refine ⟨fun h => ?_, utf8_lt_utf8⟩
  rcases lt_trichotomy s t with hlt | rfl | hgt
  · exact hlt
  · exact absurd h (List.lt_irrefl _)
  · exact absurd h (List.lt_asymm (utf8_lt_utf8 hgt))

end SchemaChange.Text
