import ModelMigration.Settings
import ModelMigration.Store.Cache
import ModelMigration.Store.Output

/-!
# Stores

The cache and the output that a compiler acts on, both in memory or both on a disk.
-/

namespace ModelMigration

/-- The parts of the surroundings that a compiler acts on. -/
structure Stores (m : Type → Type) where
  cache : Cache m
  output : Output m

/-- A cache and an output in memory. -/
structure Memory where
  cache : CacheMap
  output : OutputMap

namespace Memory

/-- The memory that holds nothing. -/
def empty : Memory := ⟨∅, ∅⟩

/-- A step on the cache of a memory. -/
def onCache {α : Type} (step : StateM CacheMap α) : StateM Memory α := fun memory =>
  let (x, cache) := step memory.cache
  (x, { memory with cache := cache })

/-- A step on the output of a memory. -/
def onOutput {α : Type} (step : StateM OutputMap α) : StateM Memory α := fun memory =>
  let (x, output) := step memory.output
  (x, { memory with output := output })

/-- The cache and the output of a memory. -/
def stores : Stores (StateM Memory) where
  cache := {
    contains := fun key => onCache (CacheMap.cache.contains key)
    read := fun key => onCache (CacheMap.cache.read key)
    write := fun key text => onCache (CacheMap.cache.write key text)
    keys := onCache CacheMap.cache.keys
    clear := onCache CacheMap.cache.clear }
  output := { put := fun path text => onOutput (OutputMap.output.put path text) }

end Memory

/-- The cache and the output of a disk. -/
def Disk.stores {m : Type → Type} [Monad m] (disk : Disk.Access m) (s : Settings) : Stores m where
  cache := Disk.cache disk s.cachePath
  output := Disk.output disk

end ModelMigration
