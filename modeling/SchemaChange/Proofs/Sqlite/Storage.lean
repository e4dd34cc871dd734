import SchemaChange.Proofs.Text.Lines
import SchemaChange.Proofs.Text.Utf8
import SchemaChange.Sqlite.Connection

/-!
# Values that are stored and read

SQLite has fewer kinds of values than are bound, so a value need not come back as it was. What comes back
is one of the values that are stored as they are, and is not changed any more when it is bound again. It is
the same number and the same truth value: a wider number is the same number, a text that was an exact
number is read like that, and the text of a timestamp is read as no number, as there are colons in it.

* `Timestamp.readInt64?_text`: a timestamp is no whole number;
* `Sqlite.normalize_toValue`: what has been read comes back as it is;
* `Sqlite.answer_returned`: a query that returns what is bound to it;
* `Sqlite.normalize_keepsMeaning`: what comes back for a value.
-/

namespace SchemaChange

/-! ## Texts that are no whole numbers -/

theorem Text.mem_trim {s : List Char} {c : Char} (hc : c ∈ s) (h : isBlank c = false) : c ∈ trim s := by
  obtain ⟨b, b', hb, hb', hs⟩ := exists_trim s
  rw [hs, List.mem_append, List.mem_append] at hc
  rcases hc with hc | hc | hc
  · exact absurd (hb c hc) (by simp [h])
  · exact hc
  · exact absurd (hb' c hc) (by simp [h])

namespace Number

variable {s : List Char} {c : Char}

theorem natural?_eq_none (hc : c ∈ s) (h : c.isDigit = false) : natural? s = none := by
  have hall : s.all Char.isDigit = false := List.all_eq_false.2 ⟨c, hc, by simp [h]⟩
  rw [natural?, hall, Bool.and_false]
  rfl

theorem unsigned?_eq_none (hc : c ∈ s) (h : c.isDigit = false) (hplus : c ≠ '+') :
    unsigned? s = none := by
  unfold unsigned?
  split
  · exact natural?_eq_none ((List.mem_cons.1 hc).resolve_left hplus) h
  · exact natural?_eq_none hc h

theorem signed?_eq_none (hc : c ∈ s) (h : c.isDigit = false) (hplus : c ≠ '+') (hminus : c ≠ '-') :
    signed? s = none := by
  unfold signed?
  split
  · rw [natural?_eq_none ((List.mem_cons.1 hc).resolve_left hminus) h]
    rfl
  · rw [unsigned?_eq_none hc h hplus]
    rfl

/-- A text is no whole number if one of its characters is neither a digit nor a sign. -/
theorem readInt64?_eq_none (hc : c ∈ s) (h : c.isDigit = false) (hplus : c ≠ '+') (hminus : c ≠ '-') :
    readInt64? s = none := by
  rw [readInt64?, signed?_eq_none hc h hplus hminus]
  rfl

end Number

theorem Timestamp.colon_mem_text (t : Timestamp) : ':' ∈ t.text.toList := by
  simp [text, textWith]

/-- A timestamp is not read as a whole number. -/
theorem Timestamp.readInt64?_text (t : Timestamp) :
    Number.readInt64? (Text.trim t.text.toList) = none :=
  Number.readInt64?_eq_none (Text.mem_trim t.colon_mem_text rfl) rfl (by decide) (by decide)

/-! ## Values of the kinds that are stored -/

namespace Value

/-- A floating-point number that is none. -/
def isNaN : Value → Bool
  | float64 x => x.isNaN
  | _ => false

/-- The value is of a kind that SQLite stores. -/
inductive IsStored : Value → Prop
  | null : IsStored .null
  | int64 (n : Int64) : IsStored (.int64 n)
  | float64 {x : Binary64} : x.isNaN = false → IsStored (.float64 x)
  | text (s : String) : IsStored (.text s)
  | bytes (bs : List UInt8) : IsStored (.bytes bs)

/-- The value of such a kind that stands for a value: truth values and short numbers are widened, exact
    numbers and timestamps are texts. -/
def stored : Value → Value
  | bool b => int64 (if b then 1 else 0)
  | int32 n => int64 n.toInt64
  | float64 x => if x.isNaN then null else float64 x
  | decimal s => text s
  | timestamp t => text t.text
  | v => v

theorem isNull_stored (v : Value) : v.stored.isNull = (v.isNull || v.isNaN) := by
  cases v with
  | float64 x => cases h : x.isNaN <;> simp [stored, isNull, isNaN, h]
  | _ => rfl

/-- The value that stands for a value is the same whole number, if it is any. -/
theorem asInt64?_stored (v : Value) : v.stored.asInt64? = v.asInt64? := by
  cases v with
  | float64 x => cases h : x.isNaN <;> simp [stored, asInt64?, h]
  | timestamp t => exact t.readInt64?_text
  | _ => rfl

/-- The value that stands for a value is as true as it. -/
theorem asBool?_stored (v : Value) : v.stored.asBool? = v.asBool? := by
  cases v with
  | bool b => cases b <;> rfl
  | int32 n =>
    -- A wider number is zero just if the shorter one was.
    have hzero : n.toInt64 = 0 ↔ n = 0 := by
      rw [← Int64.toInt_inj, ← Int32.toInt_inj, Int32.toInt_toInt64]
      rfl
    simp [stored, asBool?, bne, hzero]
  | float64 x => cases h : x.isNaN <;> simp [stored, asBool?, h]
  | _ => rfl

end Value

namespace Sqlite

theorem Cell.toValue_ofText (s : String) : (ofText s).toValue = .text s := by
  rw [ofText, toValue, Text.tolerantText_utf8, String.ofList_toList]

theorem Cell.toValue_isStored (c : Cell) : c.toValue.IsStored := by
  cases c with
  | null => exact .null
  | integer n => exact .int64 n
  | real x isNumber => exact .float64 isNumber
  | text bs => exact .text _
  | blob bs => exact .bytes bs

/-- What comes back for a value is the stored value that stands for it. -/
theorem normalize_eq_stored (v : Value) : normalize v = v.stored := by
  cases v with
  | float64 x =>
    cases h : x.isNaN with
    | true => simp [normalize, Cell.ofValue, Cell.toValue, Value.stored, h]
    | false => simp [normalize, Cell.ofValue, Cell.toValue, Value.stored, h]
  | decimal s => exact Cell.toValue_ofText s
  | text s => exact Cell.toValue_ofText s
  | timestamp t => exact Cell.toValue_ofText t.text
  | _ => rfl

/-- Values of these kinds come back as they are. -/
theorem normalize_of_isStored {v : Value} (h : v.IsStored) : normalize v = v := by
  rw [normalize_eq_stored]
  cases h with
  | float64 hx => simp [Value.stored, hx]
  | _ => rfl

/-- What has been read comes back as it is, be it bytes that were no text. -/
theorem normalize_toValue (c : Cell) : normalize c.toValue = c.toValue :=
  normalize_of_isStored c.toValue_isStored

/-- A query that returns what is bound to it returns each value as it comes back. -/
theorem answer_returned {δ : Type} {engine : Engine δ} {data : δ} {sql : String}
    {columns : List (String × String)} {params : List Value}
    (hquery : engine.query data sql (params.map Cell.ofValue)
      = (.ok (columns, [params.map Cell.ofValue]), data)) :
    answer engine ⟨data, false⟩ (.query sql params)
      = (.ok ⟨columns.map fun (name, declared) => ResultColumn.ofDeclared name declared,
          [⟨columns.map (·.1), params.map normalize⟩]⟩, ⟨data, false⟩) := by
  have hmap : (params.map Cell.ofValue).map Cell.toValue = params.map normalize := by
    rw [List.map_map]
    rfl
  simp [answer, Session.whileOpen, hquery, resultOf, Except.map, Except.mapError, hmap]

/-- What comes back for a value is the stored value that stands for it, and comes back as it is from then
    on. It is the same whole number and as true as the value, and NULL where the value is NULL or a
    floating-point number that is none. Only values of the stored kinds come back unchanged. -/
theorem normalize_keepsMeaning (v : Value) :
    normalize v = v.stored ∧
    normalize (normalize v) = normalize v ∧
    (normalize v).isNull = (v.isNull || v.isNaN) ∧
    (normalize v).asInt64? = v.asInt64? ∧
    (normalize v).asBool? = v.asBool? ∧
    (normalize v = v ↔ v.IsStored) := by
  have hstored := normalize_eq_stored v
  refine ⟨hstored, normalize_toValue _, ?_, ?_, ?_, fun h => ?_, normalize_of_isStored⟩
  · rw [hstored, v.isNull_stored]
  · rw [hstored, v.asInt64?_stored]
  · rw [hstored, v.asBool?_stored]
  · exact h ▸ Cell.toValue_isStored _

end Sqlite
end SchemaChange
