import SchemaChange.Proofs.Course.Lookup
import SchemaChange.Proofs.Number.Quantity

/-!
# Counts of rows

Whether a table holds a row is told from a query that counts its rows. The count comes back as any kind of
value and is read as a number of 64 bits; there are rows if that is above zero, and what cannot be read is an
error. But the word for no number can be read, and a floating-point number that is none need not be. Neither
is above zero, so both pass for no rows, and so does what is above zero and rounded to it.

* `Inspector.rowCount?_of_denotes`, `Inspector.rowCount?_eq_none_iff`: the counts that are read;
* `Inspector.tableHasData_tells`: what is told by each count, and by none;
* `Inspector.tableHasData_undefined`: a table whose count is no number, and which passes for empty.
-/

namespace SchemaChange

namespace Inspector

variable {σ : Type} {i : Inspector} {table : String} {v : Value} {q : Quantity}

/-! ## Counts -/

/-- A count that means a number is read, and is above zero if the number is, unless that is tiny. -/
theorem rowCount?_of_denotes (h : v.Denotes q) :
    ∃ x, rowCount? v = some x ∧ (x.isPositive = true ↔ q.Exceeds Binary64.tiny) := by
  cases h with
  | bool b =>
    refine ⟨_, rfl, (Binary64.isPositive_ofInt _).trans ?_⟩
    cases b <;> exact Iff.rfl
  | int32 n =>
    refine ⟨_, rfl, (Binary64.isPositive_ofInt _).trans ?_⟩
    rw [Int32.toInt_toInt64]
    exact Iff.rfl
  | int64 n => exact ⟨_, rfl, Binary64.isPositive_ofInt _⟩
  | float64 x => exact ⟨x, rfl, x.isPositive_iff⟩
  | decimal h => exact Binary64.read?_of_denotes h
  | text h => exact Binary64.read?_of_denotes h

/-- The counts that are not read are those that mean nothing as a number. -/
theorem rowCount?_eq_none_iff : rowCount? v = none ↔ ∀ q, ¬v.Denotes q := by
  constructor
  · intro h q hq
    obtain ⟨x, hx, -⟩ := rowCount?_of_denotes hq
    rw [h] at hx
    cases hx
  · intro h
    have hread {s : List Char} (hs : ∀ q, ¬Text.Denotes s q) : Binary64.read? s = none := by
      rw [← Option.not_isSome_iff_eq_none, Binary64.read?_isSome_iff, ← Text.exists_denotes_iff]
      exact not_exists.2 hs
    cases v with
    | null | bytes | timestamp => rfl
    | bool b => exact absurd (.bool b) (h _)
    | int32 n => exact absurd (.int32 n) (h _)
    | int64 n => exact absurd (.int64 n) (h _)
    | float64 x => exact absurd (.float64 x) (h _)
    | decimal s => exact hread fun q hq => h q (.decimal hq)
    | text s => exact hread fun q hq => h q (.text hq)

/-! ## What is told -/

/-- What is told of a table by the value that counts its rows, if there is one. -/
inductive Tells (table : String) (scalar? : Option Value) : Except Failure Bool → Prop
  | rows {v : Value} {q : Quantity} : scalar? = some v → v.Denotes q → q.Exceeds Binary64.tiny →
      Tells table scalar? (.ok true)
  | noRows {v : Value} {q : Quantity} : scalar? = some v → v.Denotes q → ¬q.Exceeds Binary64.tiny →
      Tells table scalar? (.ok false)
  | unreadable : (∀ v ∈ scalar?, ∀ q, ¬v.Denotes q) →
      Tells table scalar? (.error (.database (.metadata
        ("row count of " ++ table ++ " is not a number: " ++ shownScalar scalar?))))

/-- What is answered for a count. -/
def told (table : String) (scalar? : Option Value) : Except Failure Bool :=
  match scalar?.bind rowCount? with
  | some count => .ok count.isPositive
  | none => .error (.database (.metadata
      ("row count of " ++ table ++ " is not a number: " ++ shownScalar scalar?)))

theorem tells_told (table : String) (scalar? : Option Value) :
    Tells table scalar? (told table scalar?) := by
  unfold told
  cases hcount : scalar?.bind rowCount? with
  | none =>
    refine .unreadable fun v hv => rowCount?_eq_none_iff.1 ?_
    rwa [hv, Option.bind_some] at hcount
  | some x =>
    obtain ⟨v, hv, hx⟩ := Option.bind_eq_some_iff.1 hcount
    obtain ⟨q, hq⟩ : ∃ q, v.Denotes q := by
      by_contra hnone
      rw [rowCount?_eq_none_iff.2 (not_exists.1 hnone)] at hx
      cases hx
    obtain ⟨y, hy, hpositive⟩ := rowCount?_of_denotes hq
    cases hx.symm.trans hy
    by_cases hsign : x.isPositive = true
    · simp only [hsign]
      exact .rows hv hq (hpositive.1 hsign)
    · simp only [Bool.eq_false_iff.2 hsign]
      exact .noRows hv hq fun h => hsign (hpositive.2 h)

variable {l l' : Option CaseRule} {xs : List Exchange}

/-- A builder is made without a query. -/
theorem course_builder {made : Except Failure Builder} (h : i.builder.Course l xs made l') :
    (∀ x ∈ xs, x.request = .identifierCase) ∧ ∀ b, made = .ok b → ∃ rule, b = i.toldBuilder rule := by
  have hasks {rule : Except Failure CaseRule} {xs : List Exchange} {l' : Option CaseRule}
      (h : i.caseRule.Course l xs rule l') : ∀ x ∈ xs, x.request = .identifierCase :=
    caseRule_asks (P := fun q => q = .identifierCase) rfl h
  rcases Operation.course_bind_iff.1 h with ⟨rule, l₁, ys, zs, hrule, hmade, rfl⟩ | ⟨e, hrule, rfl⟩
  · obtain ⟨rfl, rfl, rfl⟩ := Operation.course_pure_iff.1 hmade
    rw [List.append_nil]
    exact ⟨hasks hrule, fun b hb => ⟨rule, (Except.ok.inj hb).symm⟩⟩
  · exact ⟨hasks hrule, nofun⟩

/-- What is told by the count is the answer, and nothing is asked any more. -/
theorem course_told {scalar? : Option Value} {r : Except Failure Bool}
    (h : Operation.Course (match scalar?.bind rowCount? with
      | some count => return count.isPositive
      | none => missing ("row count of " ++ table ++ " is not a number: " ++ shownScalar scalar?))
      l xs r l') : xs = [] ∧ r = told table scalar? := by
  unfold told
  cases hcount : scalar?.bind rowCount? with
  | none =>
    rw [hcount] at h
    exact (Operation.course_throw_iff.1 h).imp_right And.left
  | some count =>
    rw [hcount] at h
    exact (Operation.course_pure_iff.1 h).imp_right And.left

/-- Either the rows are counted at last, and the answer is told by the count, or something fails and no
    query is answered. -/
theorem course_tableHasData {r : Except Failure Bool} (h : (i.tableHasData table).Course l xs r l') :
    (∃ rule sql ys result, (i.toldBuilder rule).countRows table = .ok sql ∧
        xs = ys ++ [⟨.query sql [], .ok result⟩] ∧ r = told table result.scalar?) ∨
      (∃ e, r = .error e) ∧ ∀ sql params result, ⟨.query sql params, .ok result⟩ ∉ xs := by
  rcases Operation.course_bind_iff.1 h with ⟨b, l₁, ys, zs, hmade, hcounts, rfl⟩ | ⟨e, hmade, rfl⟩
  -- Where a step fails, no more than the case rule was asked for, or the query was not answered.
  case inr => exact .inr ⟨⟨e, rfl⟩, fun _ _ _ hx => nomatch (course_builder hmade).1 _ hx⟩
  obtain ⟨hasks, hb⟩ := course_builder hmade
  obtain ⟨rule, rfl⟩ := hb b rfl
  rcases Operation.course_bind_iff.1 hcounts with ⟨sql, l₂, _, zs, hbuilt, hcount, rfl⟩ | ⟨e, hbuilt, rfl⟩
  case inr =>
    obtain ⟨rfl, -⟩ := Operation.course_built_iff.1 hbuilt
    rw [List.append_nil]
    exact .inr ⟨⟨e, rfl⟩, fun _ _ _ hx => nomatch hasks _ hx⟩
  obtain ⟨rfl, hsql, -⟩ := Operation.course_built_ok hbuilt
  rcases Operation.course_bind_iff.1 hcount with
    ⟨result, l₃, _, zs, hreply, htold, rfl⟩ | ⟨e, hreply, rfl⟩
  · obtain ⟨e | result, rfl, -, hreply⟩ := Operation.course_lookUp_iff.1 hreply <;> cases hreply
    obtain ⟨rfl, rfl⟩ := course_told htold
    exact .inl ⟨rule, sql, ys, result, hsql, rfl, rfl⟩
  · obtain ⟨e | result, rfl, -, hreply⟩ := Operation.course_lookUp_iff.1 hreply <;> cases hreply
    refine .inr ⟨⟨_, rfl⟩, fun _ _ _ hx => ?_⟩
    rcases List.mem_append.1 hx with hx | hx
    · exact nomatch hasks _ hx
    · cases List.mem_singleton.1 hx

/-- If the rows of a table are counted, it is told that there are some where the count means a number
    above zero, unless that is tiny, that there are none where it means another one or the word for no
    number, and nothing where it means none. Otherwise the inspection fails. -/
theorem tableHasData_tells (i : Inspector) (table : String) (c : Connection σ) (l : Option CaseRule)
    (s : σ) :
    let t := (i.tableHasData table).transcript c l s
    (∃ rule sql ys result, (i.toldBuilder rule).countRows table = .ok sql ∧
        t.exchanges = ys ++ [⟨.query sql [], .ok result⟩] ∧ Tells table result.scalar? t.result.1) ∨
      (∃ e, t.result.1 = .error e) ∧
        ∀ sql params result, ⟨.query sql params, .ok result⟩ ∉ t.exchanges := by
  intro t
  refine (course_tableHasData ((i.tableHasData table).transcript_course c l s)).imp_left ?_
  rintro ⟨rule, sql, ys, result, hsql, hxs, hr⟩
  exact ⟨rule, sql, ys, result, hsql, hxs, hr ▸ tells_told table result.scalar?⟩

/-- An inspector of a database without a dialect of its own. -/
def plainInspector : Inspector where
  endpoint := { driverName := "d", product := "P", hasCatalog := true }
  dialect := .generic

/-- A database that answers every query with one value. -/
def counting (v : Value) : Connection Unit where
  answer _ r := (match r with
    | .query _ _ => .ok ⟨[.ofDeclared "n" "BIGINT"], [⟨["n"], [v]⟩]⟩
    | .identifierCase => .ok .verbatim
    | _ => .error (.metadata "not asked for"), ())

/-- A table passes for empty where its count is no number, and where it is too near to zero. -/
theorem tableHasData_undefined :
    let answer (v : Value) := ((plainInspector.tableHasData "T").transcript (counting v) none ()).result.1
    (answer (.float64 Binary64.nan) = .ok false ∧
        ∀ q, (Value.float64 Binary64.nan).Denotes q → q = .undefined) ∧
      answer (.text "1e-400") = .ok false ∧
        ∃ r : ℚ, 0 < r ∧ ∀ q, (Value.text "1e-400").Denotes q → q = .finite r := by
  refine ⟨⟨rfl, fun q hq => hq.unique (.float64 Binary64.nan)⟩, rfl, 10 ^ (-400 : ℤ), by positivity,
    fun q hq => hq.unique (.text (.numeral ?_))⟩
  have hdigits {s : List Char} (h : s ≠ []) (hall : s.all Char.isDigit = true) : IsDigits s :=
    ⟨h, List.all_eq_true.1 hall⟩
  have hone : IsMantissaOf ['1'] 1 := by
    have hwhole := IsMantissaOf.whole (hdigits (s := ['1']) nofun rfl)
    have hvalue : ofDigits ['1'] = 1 := by decide
    rwa [hvalue, Nat.cast_one] at hwhole
  have hexponent : IsExponentOf "e-400".toList (-400) :=
    .some (.inl rfl) .minus (hdigits nofun rfl)
  have hnumeral := IsNumeralOf.mk .none hone hexponent
  rwa [withSign, if_neg Bool.false_ne_true, one_mul] at hnumeral

end Inspector
end SchemaChange
