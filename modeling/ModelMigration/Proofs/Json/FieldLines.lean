import ModelMigration.Document
import ModelMigration.Proofs.Json.WrittenText

/-!
# Fields on one line

The one-line JSON text of a list of fields tells the list: every text of every field is quoted, so
no character moves from one part to the next.
-/

namespace ModelMigration

open Json Json.Value

theorem Field.compact_json (f : Field) :
    f.json.compact = '\x7b' :: (written "name" ++ ':' :: (written f.name ++ ',' ::
      (written "type" ++ ':' :: '\x7b' :: (written "db" ++ ':' :: (written f.type ++ '\x7d' :: ',' ::
        (written "modifiers" ++ ':' :: (written f.modifiers ++ ',' ::
          (written "index" ++ ':' :: (written f.index.text ++ ',' ::
            (written "foreignKey" ++ ':' :: (written f.foreignKey ++ ['\x7d']))))))))))) := by
  simp [Field.json, compact, compactMembers]

/-- A field on one line shows where it ends. -/
theorem Field.compact_json_append_inj {f g : Field} {xs ys : List Char}
    (same : f.json.compact ++ xs = g.json.compact ++ ys) : f = g ∧ xs = ys := by
  obtain ⟨name, type, modifiers, ⟨index, _⟩, foreignKey⟩ := f
  obtain ⟨name', type', modifiers', ⟨index', _⟩, foreignKey'⟩ := g
  simp only [compact_json, List.cons_append, List.append_assoc, List.nil_append, List.cons.injEq,
    true_and, List.append_cancel_left_eq] at same
  obtain rfl := (written_append_inj same).1
  simp only [List.cons.injEq, true_and, List.append_cancel_left_eq] at same
  obtain rfl := (written_append_inj same).1
  simp only [List.cons.injEq, true_and, List.append_cancel_left_eq] at same
  obtain rfl := (written_append_inj same).1
  simp only [List.cons.injEq, true_and, List.append_cancel_left_eq] at same
  obtain rfl := (written_append_inj same).1
  simp only [List.cons.injEq, true_and, List.append_cancel_left_eq] at same
  obtain rfl := (written_append_inj same).1
  simp only [List.cons.injEq, true_and, List.append_cancel_left_eq] at same
  exact ⟨rfl, same⟩

theorem compactItems_cons (x : Value) (items : List Value) :
    compactItems (x :: items) =
      x.compact ++ if items = [] then [] else ',' :: compactItems items := by
  cases items <;> simp [compactItems]

/-- The fields in a list on one line, with the bracket that closes it. -/
theorem compactItems_json_append_inj {fs gs : List Field} {xs ys : List Char}
    (same : compactItems (fs.map Field.json) ++ ']' :: xs =
      compactItems (gs.map Field.json) ++ ']' :: ys) : fs = gs ∧ xs = ys := by
  induction fs generalizing gs with
  | nil =>
      cases gs with
      | nil => simpa [compactItems] using same
      | cons g gs =>
          simp [compactItems, compactItems_cons, Field.compact_json] at same
  | cons f fs ih =>
      cases gs with
      | nil => simp [compactItems, compactItems_cons, Field.compact_json] at same
      | cons g gs =>
          simp only [List.map_cons, compactItems_cons, List.append_assoc] at same
          obtain ⟨first, behind⟩ := Field.compact_json_append_inj same
          -- What follows the first field is the bracket or a comma, which tells the lists apart.
          cases fs with
          | nil =>
              cases gs with
              | nil => exact ⟨by rw [first], by simpa using behind⟩
              | cons other others => simp at behind
          | cons second rest =>
              cases gs with
              | nil => simp at behind
              | cons other others =>
                  obtain ⟨later, behind⟩ := @ih (other :: others) (by simpa using behind)
                  exact ⟨by rw [first, later], behind⟩

theorem line_fields_inj {fs gs : List Field}
    (same : (Value.list (fs.map Field.json)).line = (Value.list (gs.map Field.json)).line) :
    fs = gs := by
  have chars := String.ofList_injective same
  simp only [compact, List.cons_append, List.cons.injEq, true_and] at chars
  exact (compactItems_json_append_inj chars).1

end ModelMigration
