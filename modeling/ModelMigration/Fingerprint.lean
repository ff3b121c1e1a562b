import ModelMigration.Bytes.Hex
import ModelMigration.Bytes.Sha256
import ModelMigration.Bytes.Text
import ModelMigration.Document
import ModelMigration.Extension
import ModelMigration.Migration

/-!
# Fingerprints

The fingerprint of a migration is the SHA-256 digest of what it is made from. Each part is framed
by its length, and so is the label in front of it.
-/

namespace ModelMigration.Fingerprint

/-- One part of what is digested. -/
structure Part where
  label : String
  content : String
deriving DecidableEq, Repr

/-- A length as four bytes; a greater one is held at the greatest that fits. -/
def lengthBytes (n : Nat) : List UInt8 := Bytes.Sha256.bigEndian 4 (min n 0xFFFFFFFF)

/-- Bytes with their length in front. -/
def framed (bytes : List UInt8) : List UInt8 := lengthBytes bytes.length ++ bytes

/-- The bytes of a part: its label and its content, each framed. -/
def Part.bytes (p : Part) : List UInt8 :=
  framed (Bytes.ofText p.label) ++ framed (Bytes.ofText p.content)

/-- The parts of a migration. -/
def parts (name : String) (model : Model) (config : Config) (stub : Stub)
    (extensions : List Extension) : List Part :=
  [⟨"fields", (Json.Value.list (model.fields.map Field.json)).line⟩,
    ⟨"model", name⟩,
    ⟨"table", tableName config name⟩,
    ⟨"stub", stub.text⟩] ++ extensions.map fun e => ⟨"extension", e.name⟩

/-- The bytes that are digested. -/
def stream (parts : List Part) : List UInt8 := parts.flatMap Part.bytes

end ModelMigration.Fingerprint

namespace ModelMigration

/-- The fingerprint of a migration, in base sixteen. -/
def fingerprint (name : String) (model : Model) (config : Config) (stub : Stub)
    (extensions : List Extension) : String :=
  let parts := Fingerprint.parts name model config stub extensions
  String.ofList (Bytes.hex (Bytes.Sha256.digest (Fingerprint.stream parts)))

end ModelMigration
