import ModelMigration.Proofs.Cache.FramedParts
import ModelMigration.Proofs.Text.ByteOrder

/-!
# Parts that requests share

Requests that share their configuration, template and extensions differ in the name of the model and
in its fields only. For these the digested bytes tell the parts even if some are too long for their
lengths: a list of fields shows where it ends, and only the names have to be short.
-/

namespace ModelMigration

/-! ## Bytes of characters -/

namespace Bytes

theorem utf8EncodeChar_append_inj {c d : Char} {xs ys : List UInt8}
    (same : String.utf8EncodeChar c ++ xs = String.utf8EncodeChar d ++ ys) : c = d ∧ xs = ys := by
  have notLess : ∀ {c d : Char} {xs ys : List UInt8},
      String.utf8EncodeChar c ++ xs = String.utf8EncodeChar d ++ ys → ¬ c < d := by
    intro c d xs ys same less
    have before := utf8EncodeChar_append_lt less xs ys
    rw [same] at before
    exact List.lt_irrefl _ before
  obtain rfl := Char.le_antisymm (Char.not_lt.mp (notLess same.symm)) (Char.not_lt.mp (notLess same))
  exact ⟨rfl, List.append_cancel_left same⟩

/-- Of two texts in front of equal bytes, one starts with the other. -/
theorem exists_of_flatMap_append_eq {cs ds : List Char} {xs ys : List UInt8}
    (same : cs.flatMap String.utf8EncodeChar ++ xs = ds.flatMap String.utf8EncodeChar ++ ys) :
    (∃ rest, ds = cs ++ rest ∧ xs = rest.flatMap String.utf8EncodeChar ++ ys) ∨
      ∃ rest, cs = ds ++ rest ∧ ys = rest.flatMap String.utf8EncodeChar ++ xs := by
  induction cs generalizing ds with
  | nil => exact .inl ⟨ds, rfl, same⟩
  | cons c cs ih =>
      cases ds with
      | nil => exact .inr ⟨c :: cs, rfl, same.symm⟩
      | cons d ds =>
          simp only [List.flatMap_cons, List.append_assoc] at same
          obtain ⟨rfl, behind⟩ := utf8EncodeChar_append_inj same
          rcases ih behind with ⟨rest, rfl, bytes⟩ | ⟨rest, rfl, bytes⟩
          · exact .inl ⟨rest, rfl, bytes⟩
          · exact .inr ⟨rest, rfl, bytes⟩

end Bytes

/-! ## Parts -/

namespace Fingerprint

/-- The bytes of a list of fields on one line show where they end. -/
theorem ofText_line_append_inj {fs gs : List Field} {xs ys : List UInt8}
    (same : Bytes.ofText (Json.Value.list (fs.map Field.json)).line ++ xs =
      Bytes.ofText (Json.Value.list (gs.map Field.json)).line ++ ys) : fs = gs ∧ xs = ys := by
  have ends : ∀ {fs gs : List Field} {rest : List Char},
      (Json.Value.list (gs.map Field.json)).line.toList =
        (Json.Value.list (fs.map Field.json)).line.toList ++ rest → fs = gs ∧ rest = [] := by
    intro fs gs rest longer
    simp only [Json.Value.line, String.toList_ofList, Json.Value.compact, List.cons_append,
      List.append_assoc, List.nil_append, List.cons.injEq, true_and] at longer
    obtain ⟨fields, nothing⟩ := compactItems_json_append_inj longer
    exact ⟨fields.symm, nothing.symm⟩
  rw [Bytes.ofText_eq, Bytes.ofText_eq] at same
  rcases Bytes.exists_of_flatMap_append_eq same with ⟨rest, longer, bytes⟩ | ⟨rest, longer, bytes⟩
  · obtain ⟨fields, rfl⟩ := ends longer
    exact ⟨fields, bytes⟩
  · obtain ⟨fields, rfl⟩ := ends longer
    exact ⟨fields.symm, bytes.symm⟩

theorem append_eq_of_framed_append_eq {as bs xs ys : List UInt8}
    (same : framed as ++ xs = framed bs ++ ys) : as ++ xs = bs ++ ys := by
  simp only [framed, List.append_assoc] at same
  exact (List.append_inj same (by simp [lengthBytes_length])).2

variable {name name' : String} {model model' : Model} {config : Config} {stub : Stub}
  {extensions : List Extension}

theorem eq_of_stream_eq (short : name.utf8ByteSize < 2 ^ 32) (short' : name'.utf8ByteSize < 2 ^ 32)
    (same : stream (parts name model config stub extensions) =
      stream (parts name' model' config stub extensions)) : name = name' ∧ model = model' := by
  obtain ⟨fields⟩ := model
  obtain ⟨fields'⟩ := model'
  simp only [stream, parts, List.cons_append, List.nil_append, List.flatMap_cons, Part.bytes,
    List.append_assoc, List.append_cancel_left_eq] at same
  obtain ⟨rfl, behind⟩ := ofText_line_append_inj (append_eq_of_framed_append_eq same)
  have fits : (Bytes.ofText name).length < 2 ^ 32 := short
  have fits' : (Bytes.ofText name').length < 2 ^ 32 := short'
  rw [List.append_cancel_left_eq] at behind
  obtain ⟨names, _⟩ := framed_append_inj fits fits' behind
  exact ⟨Bytes.ofText_inj names, rfl⟩

end Fingerprint

end ModelMigration
