import ModelMigration.Field

/-!
# Models

A model is the list of its fields. Their names differ, and at most one of them is the primary key.
-/

namespace ModelMigration

/-- The fields of a model, in order. -/
structure Model where
  fields : List Field
deriving DecidableEq, Repr

namespace Model

/-- The first field declared as primary key. -/
def primary? (m : Model) : Option Field := m.fields.find? Field.isPrimary

/-- Whether a field is declared as primary key. -/
def hasPrimary (m : Model) : Bool := m.primary?.isSome

/-- The first field of a name. -/
def field? (m : Model) (name : String) : Option Field := m.fields.find? fun f => f.name = name

/-- Checks each field in order, that its name is new included; `seen` are the names in front. -/
def validateFields : (seen : List String) → List Field → Except Error Unit
  | _, [] => .ok ()
  | seen, f :: fields => do
      f.validate
      if f.name ∈ seen then .error (.fieldValidation f.name "Duplicate field name")
      else validateFields (f.name :: seen) fields

/-- Checks that at most one field is the primary key. -/
def validatePrimary (m : Model) : Except Error Unit :=
  let names := (m.fields.filter Field.isPrimary).map Field.name
  match names with
  | _ :: second :: _ =>
      .error (.fieldValidation second
        ("Only one primary key is allowed, found: " ++ Text.joined ", " names))
  | _ => .ok ()

/-- Checks the fields first and the primary key then. -/
def validate (m : Model) : Except Error Unit := do
  validateFields [] m.fields
  m.validatePrimary

/-- The columns of the model, in order. -/
def columns (m : Model) : Except Error (List Column) := do
  m.validate
  m.fields.mapM Field.column

end Model

end ModelMigration
