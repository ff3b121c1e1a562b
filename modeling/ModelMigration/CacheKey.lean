import ModelMigration.Bytes.Hex
import ModelMigration.Bytes.Text
import ModelMigration.Error

/-!
# Cache keys

The key of a cache entry is made from a hash and is a plain file name. A hash of ASCII letters,
digits, `-` and `_` stands in it as it is; any other one is written in base sixteen behind a `~`.
-/

namespace ModelMigration

/-- The key of a cache entry, which is its file name too. -/
structure CacheKey where
  text : String
deriving DecidableEq, Repr

namespace CacheKey

/-- What every key starts with. -/
def start : String := "migration_"

/-- Whether a character may stand in a key as it is. -/
def isSafe (c : Char) : Bool := c.isAlphanum || c = '-' || c = '_'

/-- The form of a hash in a key. -/
def stem (hash : String) : String :=
  if hash.toList.all isSafe then hash else String.ofList ('~' :: Bytes.hex (Bytes.ofText hash))

/-- The key of a hash that is not empty. -/
def ofHash (hash ext : String) : Except Error CacheKey :=
  if hash = "" then .error (.validation "Content hash cannot be empty")
  else .ok ⟨start ++ stem hash ++ ext⟩

end CacheKey

end ModelMigration
