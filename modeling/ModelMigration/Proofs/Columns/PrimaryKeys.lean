import Mathlib.Algebra.GroupWithZero.Nat
import ModelMigration.Proofs.Columns.Accepted

/-!
# Primary keys of a block

How many primary keys the statements of a block declare. The default key and the index of a column
keep to one between them; the modifiers called `primary` are not looked at and come on top.
-/

namespace ModelMigration

/-! ## Calls -/

/-- Whether the call declares the column to be the primary key, with an argument or without. -/
def Modifier.isPrimary (m : Modifier) : Bool := m.name = "primary"

/-- The calls chained onto a column, that of its index included. -/
def Column.chain (c : Column) : List Modifier :=
  c.modifiers ++ if c.index.isIndexed then [⟨c.index.text, none⟩] else []

theorem Column.calls_eq_join (c : Column) : c.calls = String.join (c.chain.map Modifier.call) := by
  unfold calls chain
  split
  · simp [Modifier.call, String.append_assoc]
  · simp

end ModelMigration
