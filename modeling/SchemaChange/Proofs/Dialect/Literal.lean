import SchemaChange.Proofs.Number.Numeral
import SchemaChange.Proofs.Text.Quoted

/-!
# Literals read back

The literal of a text, of bytes or of a whole number, read the way the dialect reads it. The reader finds out
for itself where the literal ends, so it finds the value in every statement that goes on with neither a quote
nor a digit. Two values that a reader tells apart therefore have two literals.

* `Dialect.readLiteral?_literal`: a literal, and what follows it;
* `Dialect.literal_reads_back`: every such value has a literal that is read back.
-/

namespace SchemaChange

variable {s rest : List Char} {c : Char}

/-! ## The reader -/

/-- What a literal is read as. -/
inductive Datum where
  | number (n : Int)
  | text (s : String)
  | bytes (bs : List UInt8)
  deriving DecidableEq

/-- What a text, bytes and a whole number are. -/
def Value.datum? : Value → Option Datum
  | .int32 n => some (.number n.toInt)
  | .int64 n => some (.number n.toInt)
  | .text s => some (.text s)
  | .bytes bs => some (.bytes bs)
  | _ => none

namespace Text

/-- Reads the digits that the text begins with. -/
def readNatural? (s : List Char) : Option (Nat × List Char) :=
  (Number.natural? (s.takeWhile Char.isDigit)).map fun n => (n, s.dropWhile Char.isDigit)

/-- Reads a whole number, with a minus before it or without one. -/
def readInteger? : List Char → Option (Int × List Char)
  | '-' :: s => (readNatural? s).map fun (n, rest) => (-(n : Int), rest)
  | s => (readNatural? s).map fun (n, rest) => ((n : Int), rest)

/-- A hexadecimal digit with capital letters. -/
def isCapitalHex (c : Char) : Bool :=
  c.isDigit || (decide ('A' ≤ c) && decide (c ≤ 'F'))

/-- Reads the pairs of capital digits that the text begins with. -/
def readCapitalPairs? (s : List Char) : Option (List UInt8 × List Char) :=
  (readHexPairs? (s.takeWhile isCapitalHex)).map fun bs => (bs, s.dropWhile isCapitalHex)

/-- Reads one given text. -/
def readGiven? (given s : List Char) : Option (List Char) :=
  if given <+: s then some (s.drop given.length) else none

end Text

namespace Dialect

/-- What stands before and after the digits of bytes. -/
def bytesFrame : Dialect → String × String
  | oracle => ("HEXTORAW('", "')")
  | postgres => ("decode('", "', 'hex')")
  | mySql | derby | generic => ("X'", "'")

/-- Reads bytes. -/
def readBytes? (d : Dialect) (s : List Char) : Option (List UInt8 × List Char) := do
  let s ← Text.readGiven? d.bytesFrame.1.toList s
  let (bs, s) ← Text.readCapitalPairs? s
  let s ← Text.readGiven? d.bytesFrame.2.toList s
  return (bs, s)

/-- Reads the literal that a text begins with, and gives what follows it. -/
def readLiteral? (d : Dialect) (s : List Char) : Option (Datum × List Char) :=
  ((Text.readQuoted? '\x27' s).map fun (text, rest) => (.text (String.ofList text), rest)) <|>
  ((d.readBytes? s).map fun (bs, rest) => (.bytes bs, rest)) <|>
  ((Text.readInteger? s).map fun (n, rest) => (.number n, rest))

end Dialect

/-- The text begins neither with a quote nor with a digit. -/
structure EndsLiteral (rest : List Char) : Prop where
  noQuote : rest.head? ≠ some '\x27'
  noDigit : NoLeadingDigit rest

/-! ## What is read back -/

namespace Text

theorem readGiven?_append (given s : List Char) : readGiven? given (given ++ s) = some s := by
  rw [readGiven?, if_pos (List.prefix_append _ _), List.drop_left]

/-- A text that begins otherwise is not the given one. -/
theorem readGiven?_of_ne {given : List Char} {g : Char} (h : c ≠ g) :
    readGiven? (g :: given) (c :: s) = none :=
  if_neg fun hprefix => h (List.cons_prefix_cons.1 hprefix).1.symm

theorem hexDigit_spec : ∀ n < 16, hexValue? (hexDigit n) = some n ∧ isCapitalHex (hexDigit n) = true := by
  decide

/-- The digits of bytes stand for them, and all are capital. -/
theorem hexPairs_spec (bs : List UInt8) :
    readHexPairs? (hexPairs bs) = some bs ∧ ∀ c ∈ hexPairs bs, isCapitalHex c = true := by
  induction bs with
  | nil => exact ⟨rfl, nofun⟩
  | cons b bs ih =>
    have hsize := b.toNat_lt
    obtain ⟨hhigh, hhigh'⟩ := hexDigit_spec (b.toNat / 16) (by omega)
    obtain ⟨hlow, hlow'⟩ := hexDigit_spec (b.toNat % 16) (by omega)
    have hbyte : UInt8.ofNat (16 * (b.toNat / 16) + b.toNat % 16) = b := by
      rw [Nat.div_add_mod, UInt8.ofNat_toNat]
    rw [hexPairs, readHexPairs?, hhigh, hlow, ih.1]
    refine ⟨congrArg (fun b => some (b :: bs)) hbyte, ?_⟩
    exact List.forall_mem_cons.2 ⟨hhigh', List.forall_mem_cons.2 ⟨hlow', ih.2⟩⟩

theorem readCapitalPairs?_hexPairs (bs : List UInt8) (h : ∀ c ∈ rest.head?, isCapitalHex c = false) :
    readCapitalPairs? (hexPairs bs ++ rest) = some (bs, rest) := by
  obtain ⟨hread, hcapital⟩ := hexPairs_spec bs
  rw [readCapitalPairs?, takeWhile_append hcapital h, dropWhile_append hcapital h, hread]
  rfl

theorem isDigit_of_mem_repr {n : Nat} (h : c ∈ n.repr.toList) : c.isDigit = true := by
  rw [Nat.toList_repr] at h
  exact isDigit_of_mem_toDigits h

/-- A number begins with a digit. -/
theorem exists_repr (n : Nat) : ∃ c s, n.repr.toList = c :: s ∧ c.isDigit = true := by
  have hne : n.repr.toList ≠ [] := by
    rw [Nat.toList_repr]
    exact Nat.toDigits_ne_nil
  obtain ⟨c, s, heq⟩ := List.exists_cons_of_ne_nil hne
  exact ⟨c, s, heq, isDigit_of_mem_repr (heq ▸ List.mem_cons_self)⟩

theorem natural?_repr (n : Nat) : Number.natural? n.repr.toList = some n := by
  obtain ⟨c, s, heq, -⟩ := exists_repr n
  rw [Number.natural?, if_pos, Nat.toList_repr, Nat.ofDigitChars_toDigits (by decide) (by decide)]
  rw [Bool.and_eq_true, Bool.not_eq_true', List.isEmpty_eq_false_iff, List.all_eq_true]
  exact ⟨heq ▸ List.cons_ne_nil c s, fun c => isDigit_of_mem_repr⟩

theorem readNatural?_repr (n : Nat) (h : NoLeadingDigit rest) :
    readNatural? (n.repr.toList ++ rest) = some (n, rest) := by
  have hdigits : ∀ c ∈ n.repr.toList, c.isDigit = true := fun c => isDigit_of_mem_repr
  rw [readNatural?, takeWhile_append hdigits h, dropWhile_append hdigits h, natural?_repr]
  rfl

/-- A whole number begins with a minus or with a digit. -/
theorem exists_intText (n : Int) :
    ∃ c s, (Value.intText n).toList = c :: s ∧ (c = '-' ∨ c.isDigit = true) := by
  rw [Value.intText]
  split
  · exact ⟨'-', _, String.toList_append, .inl rfl⟩
  · obtain ⟨c, s, heq, hc⟩ := exists_repr n.natAbs
    exact ⟨c, s, heq, .inr hc⟩

theorem readInteger?_of_ne (hc : c ≠ '-') (s : List Char) :
    readInteger? (c :: s) = (readNatural? (c :: s)).map fun (n, rest) => ((n : Int), rest) := by
  unfold readInteger?
  split
  · exact absurd (List.cons.inj ‹_›).1 hc
  · rfl

theorem readInteger?_intText (n : Int) (h : NoLeadingDigit rest) :
    readInteger? ((Value.intText n).toList ++ rest) = some (n, rest) := by
  have hread := readNatural?_repr n.natAbs h
  rw [Value.intText]
  split
  · have hneg : -(n.natAbs : Int) = n := by omega
    rw [String.toList_append]
    change (readNatural? (n.natAbs.repr.toList ++ rest)).map _ = _
    rw [hread]
    exact congrArg (fun n => some (n, rest)) hneg
  · have hpos : (n.natAbs : Int) = n := by omega
    obtain ⟨c, s, heq, hc⟩ := exists_repr n.natAbs
    rw [heq, List.cons_append] at hread ⊢
    rw [readInteger?_of_ne (by rintro rfl; cases hc), hread]
    exact congrArg (fun n => some (n, rest)) hpos

end Text

namespace Dialect

variable (d : Dialect)

theorem toList_bytesLiteral (bs : List UInt8) : (d.bytesLiteral bs).toList =
    d.bytesFrame.1.toList ++ (Text.hexPairs bs ++ d.bytesFrame.2.toList) := by
  have heq : d.bytesLiteral bs =
      d.bytesFrame.1 ++ String.ofList (Text.hexPairs bs) ++ d.bytesFrame.2 := by
    cases d <;> rfl
  rw [heq, String.toList_append, String.toList_append, String.toList_ofList, List.append_assoc]

theorem readBytes?_bytesLiteral (bs : List UInt8) (rest : List Char) :
    d.readBytes? ((d.bytesLiteral bs).toList ++ rest) = some (bs, rest) := by
  have hclose : ∀ c ∈ (d.bytesFrame.2.toList ++ rest).head?, Text.isCapitalHex c = false := by
    cases d <;> rintro _ ⟨⟩ <;> rfl
  rw [readBytes?, toList_bytesLiteral, List.append_assoc, List.append_assoc, Text.readGiven?_append,
    Option.bind_eq_bind, Option.bind_some, Text.readCapitalPairs?_hexPairs bs hclose]
  change (Text.readGiven? d.bytesFrame.2.toList (d.bytesFrame.2.toList ++ rest)).bind _ = _
  rw [Text.readGiven?_append]
  rfl

/-- What begins neither with a quote nor with a letter is neither text nor bytes. -/
theorem readLiteral?_of_digit (hc : c = '-' ∨ c.isDigit = true) (s : List Char) :
    d.readLiteral? (c :: s) =
      (Text.readInteger? (c :: s)).map fun (n, rest) => (.number n, rest) := by
  have hquote : Text.readQuoted? '\x27' (c :: s) = none := by
    refine if_neg ?_
    rintro rfl
    exact absurd hc (by decide)
  have hbytes : d.readBytes? (c :: s) = none := by
    have hopen : Text.readGiven? d.bytesFrame.1.toList (c :: s) = none := by
      cases d <;> refine Text.readGiven?_of_ne ?_ <;> rintro rfl <;> exact absurd hc (by decide)
    rw [readBytes?, hopen]
    rfl
  rw [readLiteral?, hquote, hbytes]
  rfl

/-- A literal is read back, wherever it ends before neither a quote nor a digit. -/
theorem readLiteral?_literal {v : Value} {x : Datum} (hx : v.datum? = some x) :
    ∃ t, d.literal? v = some t ∧
      ∀ rest, EndsLiteral rest → d.readLiteral? (t.toList ++ rest) = some (x, rest) := by
  -- The three forms begin differently, so the reader tries those before the right one in vain.
  have hnumber : ∀ (n : Int) (rest : List Char), EndsLiteral rest →
      d.readLiteral? ((Value.intText n).toList ++ rest) = some (.number n, rest) := by
    intro n rest hrest
    have hread := Text.readInteger?_intText n hrest.noDigit
    obtain ⟨c, s, heq, hc⟩ := Text.exists_intText n
    rw [heq, List.cons_append] at hread ⊢
    rw [readLiteral?_of_digit d hc, hread]
    rfl
  cases v with
  | int32 n | int64 n =>
    cases hx
    exact ⟨_, rfl, hnumber _⟩
  | text s =>
    cases hx
    refine ⟨_, rfl, fun rest hrest => ?_⟩
    rw [textLiteral, String.toList_ofList, readLiteral?, Text.readQuoted?_quoted _ hrest.noQuote]
    exact congrArg (fun s => some (Datum.text s, rest)) String.ofList_toList
  | bytes bs =>
    cases hx
    refine ⟨_, rfl, fun rest hrest => ?_⟩
    have hquote : Text.readQuoted? '\x27' ((d.bytesLiteral bs).toList ++ rest) = none := by
      rw [toList_bytesLiteral]
      cases d <;> rfl
    rw [readLiteral?, hquote, readBytes?_bytesLiteral]
    rfl
  | null | bool _ | float64 _ | decimal _ | timestamp _ => cases hx

/-- Values of one literal are read as one. -/
theorem datum_eq_of_literal {v w : Value} {x y : Datum} (hx : v.datum? = some x)
    (hy : w.datum? = some y) (h : d.literal? v = d.literal? w) : x = y := by
  have hend : EndsLiteral [] := ⟨nofun, nofun⟩
  obtain ⟨t, ht, hread⟩ := readLiteral?_literal d hx
  obtain ⟨t', ht', hread'⟩ := readLiteral?_literal d hy
  obtain rfl : t = t' := Option.some.inj (ht.symm.trans (h.trans ht'))
  exact congrArg Prod.fst (Option.some.inj ((hread [] hend).symm.trans (hread' [] hend)))

/-- Every text, every list of bytes and every whole number has a literal, which is read back with
    whatever follows it. No two of a kind have the same. -/
theorem literal_reads_back :
    (∀ v x, v.datum? = some x → ∃ t, d.literal? v = some t ∧
        ∀ rest, EndsLiteral rest → d.readLiteral? (t.toList ++ rest) = some (x, rest)) ∧
      Function.Injective (fun s => d.literal? (.text s)) ∧
      Function.Injective (fun bs => d.literal? (.bytes bs)) ∧
      Function.Injective (fun n => d.literal? (.int32 n)) ∧
      Function.Injective (fun n => d.literal? (.int64 n)) := by
  refine ⟨fun v x => readLiteral?_literal d, ?_, ?_, ?_, ?_⟩
  · exact fun s t h => Datum.text.inj (datum_eq_of_literal d rfl rfl h)
  · exact fun s t h => Datum.bytes.inj (datum_eq_of_literal d rfl rfl h)
  · exact fun m n h => Int32.toInt_inj.1 (Datum.number.inj (datum_eq_of_literal d rfl rfl h))
  · exact fun m n h => Int64.toInt_inj.1 (Datum.number.inj (datum_eq_of_literal d rfl rfl h))

/-- The literal of a text that has a quote in it, before the end of a column. -/
theorem literal_reads_back_quote : ∃ t, mySql.literal? (.text "it's") = some t ∧
    mySql.readLiteral? (t.toList ++ " NOT NULL".toList) = some (.text "it's", " NOT NULL".toList) := by
  obtain ⟨t, ht, hread⟩ := (literal_reads_back mySql).1 (.text "it's") (.text "it's") rfl
  exact ⟨t, ht, hread _ ⟨by decide, by rintro _ ⟨⟩; rfl⟩⟩

end Dialect

end SchemaChange
