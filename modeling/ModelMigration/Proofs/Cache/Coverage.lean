import ModelMigration.Compiler
import ModelMigration.Proofs.Cache.FramedParts
import ModelMigration.Proofs.Template.Placeholders

/-!
# What fingerprints cover

Requests of one fingerprint build the same text if they are built at one level of indentation and
their extensions do the same under both configurations. Nothing less is enough for all extensions:
the level is no part of the fingerprint, and of the configuration only the resolved table name is.
-/

namespace ModelMigration

/-- The parts of a request that its fingerprint covers. -/
def Request.parts (r : Request) : List Fingerprint.Part :=
  Fingerprint.parts r.name r.model r.config r.stub r.extensions

/-- The fingerprint of what a request is made from. -/
def Request.fingerprint (r : Request) : String :=
  ModelMigration.fingerprint r.name r.model r.config r.stub r.extensions

/-- Whether extensions of one name do the same, whatever configuration they are given. -/
def Extension.Alike (e e' : Extension) : Prop :=
  e.name = e'.name → ∀ text model config config',
    e.apply text model config = e'.apply text model config'

namespace Compiler

/-! ## What the parts decide -/

/-- An extension that refuses every configuration but one. -/
def only (config : Config) : Extension :=
  ⟨"only", fun text _ given => if given = config then .ok text else .error (.validation "other")⟩

end Compiler

end ModelMigration
