/-!
# Column types

A column type is the name of the schema-builder method that declares the column. Some names belong
to the builder's own vocabulary; any other name is passed through.
-/

namespace ModelMigration

/-- A column type by its method name. -/
structure ColumnType where
  name : String
deriving DecidableEq, Repr

namespace ColumnType

/-- The names of the builder's vocabulary, in alphabetical order. -/
def vocabulary : List String := [
  "bigIncrements", "bigInteger", "binary", "boolean", "char", "date", "dateTime", "dateTimeTz",
  "decimal", "double", "enum", "float", "foreignId", "foreignUlid", "foreignUuid", "geography",
  "geometry", "geometryCollection", "id", "increments", "integer", "ipAddress", "json", "jsonb",
  "lineString", "longText", "macAddress", "mediumIncrements", "mediumInteger", "mediumText",
  "morphs", "multiLineString", "multiPoint", "multiPolygon", "nullableMorphs",
  "nullableTimestamps", "nullableUlidMorphs", "nullableUuidMorphs", "point", "polygon",
  "rememberToken", "set", "smallIncrements", "smallInteger", "softDeletes", "softDeletesTz",
  "string", "text", "time", "timeTz", "timestamp", "timestampTz", "tinyIncrements", "tinyInteger",
  "tinyText", "ulid", "ulidMorphs", "unsignedBigInteger", "unsignedDecimal", "unsignedInteger",
  "unsignedMediumInteger", "unsignedSmallInteger", "unsignedTinyInteger", "uuid", "uuidMorphs",
  "year"]

/-- The types of the builder's vocabulary. -/
def builtIn : List ColumnType := vocabulary.map fun name => ⟨name⟩

/-- Whether a name belongs to the vocabulary. -/
def isBuiltIn (name : String) : Bool := vocabulary.contains name

/-- The built-in type of a name, if there is one. -/
def ofName? (name : String) : Option ColumnType := if isBuiltIn name then some ⟨name⟩ else none

end ColumnType

end ModelMigration
