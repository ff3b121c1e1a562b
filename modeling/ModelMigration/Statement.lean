import ModelMigration.Model

/-!
# Schema statements

The statements that declare the columns of a table, as they fill the body of a migration.
-/

namespace ModelMigration

/-- How far statements are indented: a number of levels, and the blanks of each. -/
structure Indent where
  level : Nat
  spaces : Nat
deriving DecidableEq, Repr

/-- Four blanks for each of the given levels. -/
def Indent.atLevel (level : Nat) : Indent := ⟨level, 4⟩

/-- The blanks in front of a statement. -/
def Indent.text (i : Indent) : String := String.ofList (List.replicate (i.level * i.spaces) ' ')

/-- The calls chained onto a column: its modifiers, then its index. -/
def Column.calls (c : Column) : String :=
  String.join (c.modifiers.map Modifier.call) ++
    if c.index.isIndexed then "->" ++ c.index.text ++ "()" else ""

/-- The constraint of a foreign key on the column of a name. -/
def ForeignKey.statement (k : ForeignKey) (i : Indent) (name : String) : String :=
  i.text ++ "$table->foreign('" ++ name ++ "')->references('" ++ k.column ++ "')->on('" ++
    k.table ++ "');\n\n"

/-- The statement of a column, with its foreign key behind it. -/
def Column.statement (c : Column) (i : Indent) : String :=
  i.text ++ "$table->" ++ c.type.name ++ "('" ++ c.name ++ "')" ++ c.calls ++ ";\n" ++
    match c.foreignKey? with
    | some key => key.statement i c.name
    | none => ""

/-- The statement that declares a counting key, for tables without a primary key of their own. -/
def defaultKeyStatement (i : Indent) : String := i.text ++ "$table->increments('id');\n\n"

/-- The statement that declares the columns for the times of creation and change. -/
def timestampsStatement : String := "$table->timestamps();"

/-- The statements of the columns, between the default key, if needed, and the timestamps. -/
def block (columns : List Column) (i : Indent) : String :=
  (if columns.any Column.isPrimary then "" else defaultKeyStatement i) ++
    String.join (columns.map fun c => c.statement i) ++ "\n" ++ i.text ++ timestampsStatement ++
    "\n"

/-- The statements of a model. -/
def Model.block (m : Model) (i : Indent) : Except Error String := do
  return ModelMigration.block (← m.columns) i

end ModelMigration
