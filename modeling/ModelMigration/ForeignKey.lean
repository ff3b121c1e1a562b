import ModelMigration.Error
import ModelMigration.Identifier
import ModelMigration.Text.Blank

/-!
# Foreign keys

A foreign key names a column and a table with a colon between them, as in `id:users`. White space
around either does not count, and a blank text stands for none.
-/

namespace ModelMigration

/-- The column that a foreign key refers to. -/
structure ForeignKey where
  column : String
  table : String
deriving DecidableEq, Repr

/-- The foreign key that a text stands for; `field` is named where the text is refused. -/
def ForeignKey.parse (field text : String) : Except Error (Option ForeignKey) :=
  if Text.isBlankText text then .ok none
  else
    match (Text.pieces ':' text).map Text.trimmed with
    | [column, table] =>
        if isIdentifier column && isIdentifier table then .ok (some ⟨column, table⟩)
        else .error (.invalidForeignKey field text)
    | _ => .error (.invalidForeignKey field text)

end ModelMigration
