import SchemaChange.Proofs.Rebuild.Counting
import SchemaChange.Proofs.Text.Utf8

/-!
# Bytes that become text

What a decoding copy binds for a row of bytes is their text, read tolerantly. When the old column is
dropped, the bytes are still there for just the rows whose bytes are UTF-8: from the text of any other
bytes they cannot be told.

* `Row.text_of_writeBack?`: the text that is bound for bytes;
* `Edit.perform_decoded`: which bytes can be recovered when the column is dropped.
-/

namespace SchemaChange

variable {σ : Type}

/-- A row of bytes has a source. -/
theorem mem_sourced_of_bytes {rows : List Row} {row : Row} {bs : List UInt8} (hrow : row ∈ rows)
    (hbytes : row.values.getLast? = some (.bytes bs)) : row ∈ sourced rows := by
  refine List.mem_filter.2 ⟨hrow, ?_⟩
  rw [Row.source?, hbytes]
  rfl

/-- The text of a row is bound first, and for bytes it is what they are tolerantly read as. -/
theorem Row.text_of_writeBack? {row : Row} {update : String} {keyless : Bool} {r : Request}
    (h : row.writeBack? update keyless = some r) :
    ∃ text key, r = .execute update (.text text :: key) ∧
      ∀ bs, row.values.getLast? = some (.bytes bs) → text.toList = Text.tolerantText bs := by
  obtain ⟨v, hv, rfl⟩ := Option.map_eq_some_iff.1 h
  refine ⟨v.decodedText, _, rfl, fun bs hbytes => ?_⟩
  rw [Row.source?, hbytes] at hv
  obtain rfl : .bytes bs = v := Option.some.inj hv
  exact String.toList_ofList

/-- When the column is dropped, every row of bytes has been written back, and its bytes are those of the
    text that was bound for it just if they are UTF-8. -/
theorem Edit.perform_decoded (edit : Edit) (e : Editor) (ignoring : Bool) (c : Connection σ)
    (learned : Option CaseRule) (s : σ) (D : edit.Decoding e c learned s)
    (hdrop : D.Drops ((edit.perform e ignoring).transcript c learned s).exchanges) :
    let t := (edit.perform e ignoring).transcript c learned s
    (∀ row ∈ selectedRows t.exchanges, ∀ bs, row.values.getLast? = some (.bytes bs) →
        row ∈ sourced (selectedRows t.exchanges)) ∧
      List.Forall₂ (fun row x => x.failed = false ∧
          ∃ text key, x.request = .execute D.update (.text text :: key) ∧
            ∀ bs, row.values.getLast? = some (.bytes bs) →
              text.toList = Text.tolerantText bs ∧ (Text.utf8 text.toList = bs ↔ Text.IsUtf8 bs))
        (sourced (selectedRows t.exchanges)) (writes D.update t.exchanges) := by
  refine ⟨fun row hrow bs => mem_sourced_of_bytes hrow, (D.forall₂_writes hdrop).imp ?_⟩
  rintro row x ⟨haccepted, hwrite⟩
  obtain ⟨text, key, hrequest, htext⟩ := Row.text_of_writeBack? hwrite
  refine ⟨haccepted, text, key, hrequest, fun bs hbytes => ⟨htext bs hbytes, ?_⟩⟩
  rw [htext bs hbytes]
  exact Text.utf8_tolerantText_iff

namespace Documents

/-- What the rebuild exchanges with the database, which has a document that is not in UTF-8. -/
theorem table_exchanges (learned : Option CaseRule) :
    ((Editor.applyRebuild plan false).transcript counting learned table).exchanges =
      [⟨.execute plan.addTemporary [], .ok 0⟩,
        ⟨.query "SELECT ID, BODY FROM DOCUMENTS WHERE BODY IS NOT NULL" [],
          .ok ⟨[], [⟨[], [.int32 1, .bytes [72, 105]]⟩, ⟨[], [.int32 2, .bytes [255]]⟩,
            ⟨[], [.int32 4, .bytes [72, 105]]⟩]⟩⟩,
        ⟨.execute "UPDATE DOCUMENTS SET BODY_TMP = ? WHERE ID = ?" [.text "Hi", .int32 1], .ok 1⟩,
        ⟨.execute "UPDATE DOCUMENTS SET BODY_TMP = ? WHERE ID = ?" [.text "\uFFFD", .int32 2], .ok 1⟩,
        ⟨.execute "UPDATE DOCUMENTS SET BODY_TMP = ? WHERE ID = ?" [.text "Hi", .int32 4], .ok 1⟩,
        ⟨.execute plan.dropOld [], .ok 0⟩, ⟨.execute plan.rename [], .ok 0⟩] := by
  with_unfolding_all rfl

theorem drops_table : (decoding table).Drops (((Edit.alterColumn rebuilding.table
    rebuilding.target).perform editor false).transcript counting none table).exchanges := by
  refine (transcript_eq table).1.1.2 ?_
  rw [Edit.Decoding.Drops, table_exchanges]
  simp [decoding]

end Documents

open Documents in
/-- Two documents are in UTF-8 and one is not. -/
theorem Edit.perform_decoded_documents :
    let t := ((alterColumn rebuilding.table rebuilding.target).perform editor false).transcript counting
      none Documents.table
    (decoding Documents.table).Drops t.exchanges ∧
      List.Forall₂ (fun row x => x.failed = false ∧
          ∃ text key, x.request = .execute (decoding Documents.table).update (.text text :: key) ∧
            ∀ bs, row.values.getLast? = some (.bytes bs) →
              text.toList = Text.tolerantText bs ∧ (Text.utf8 text.toList = bs ↔ Text.IsUtf8 bs))
        (sourced (selectedRows t.exchanges)) (writes (decoding Documents.table).update t.exchanges) :=
  ⟨drops_table, (perform_decoded _ editor false counting none Documents.table
    (decoding Documents.table) drops_table).2⟩

open Documents in
/-- The column is dropped though the bytes of one document are not those of the text that was bound
    for it. -/
theorem Edit.perform_decoded_lossy :
    let t := ((alterColumn rebuilding.table rebuilding.target).perform editor false).transcript counting
      none Documents.table
    (decoding Documents.table).Drops t.exchanges ∧
      ⟨[], [.int32 2, .bytes [255]]⟩ ∈ selectedRows t.exchanges ∧
        .execute (decoding Documents.table).update [.text "\uFFFD", .int32 2] ∈
          (writes (decoding Documents.table).update t.exchanges).map Exchange.request ∧
        Text.utf8 "\uFFFD".toList ≠ [255] := by
  refine ⟨drops_table, ?_, ?_, by decide⟩
  · rw [(transcript_eq Documents.table).1.2.1, table_exchanges]
    exact .tail _ (.head _)
  · rw [(transcript_eq Documents.table).1.2.2, table_exchanges]
    simp [decoding, writes, Request.writes]

end SchemaChange
