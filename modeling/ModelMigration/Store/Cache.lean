import ModelMigration.CacheKey
import ModelMigration.Disk.Access

/-!
# Caches

A cache keeps compiled migrations by key. On disk each entry is a file of its own in one directory,
which may hold other files too.
-/

namespace ModelMigration

/-- What is asked of a cache. -/
structure Cache (m : Type → Type) where
  contains : CacheKey → m Bool
  read : CacheKey → m (Except Error String)
  /-- Keeps a text, over an older one of the key. -/
  write : CacheKey → String → m (Except Error Unit)
  /-- The keys in use, in order. -/
  keys : m (Except Error (List CacheKey))
  /-- Removes all entries and gives their number. -/
  clear : m (Except Error Nat)

/-- The texts of a cache in memory, by the text of the key. -/
abbrev CacheMap := Std.ExtTreeMap String String

namespace CacheMap

/-- The keys in use, in order. -/
def keys (entries : CacheMap) : List CacheKey :=
  (Std.ExtTreeMap.keys entries).map fun text => ⟨text⟩

/-- The text of a key. -/
def read (entries : CacheMap) (key : CacheKey) : Except Error String :=
  match entries[key.text]? with
  | some text => .ok text
  | none => .error (.cacheMiss key.text)

/-- The cache in a state. -/
def cache : Cache (StateM CacheMap) where
  contains key := do return (← get).contains key.text
  read key := do return CacheMap.read (← get) key
  write key text := do
    modify fun entries => entries.insert key.text text
    return .ok ()
  keys := do return .ok (CacheMap.keys (← get))
  clear := do
    let count := (← get).size
    set (∅ : CacheMap)
    return .ok count

end CacheMap

namespace Disk

variable {m : Type → Type} [Monad m]

/-- The file of a cache entry. -/
def entryPath (root : Path) (key : CacheKey) : Path := root.join ⟨key.text⟩

/-- The keys of the entries in a directory, in order; none where there is no directory. -/
def cacheKeys (disk : Access m) (root : Path) : m (Except Error (List CacheKey)) := do
  if !(← disk.isDirectory root) then return .ok []
  else
    match ← disk.list root with
    | .error refusal =>
        return .error (.cacheRead root.text
          ("IO error for operation on " ++ root.text ++ ": " ++ refusal.message))
    | .ok entries =>
        let names := (entries.filter fun entry => entry.2 = .file).map Prod.fst
        let keys := names.filter fun name => CacheKey.start.toList.isPrefixOf name.toList
        return .ok ((keys.mergeSort fun a b => a ≤ b).map fun text => ⟨text⟩)

/-- Removes the entries of some keys one after another. -/
def removeEntries (disk : Access m) (root : Path) : List CacheKey → m (Except Error Unit)
  | [] => return .ok ()
  | key :: keys => do
      match ← disk.remove (entryPath root key) with
      | .ok () => removeEntries disk root keys
      | .error refusal => return .error (.cacheWrite key.text refusal.message)

/-- The cache in a directory. -/
def cache (disk : Access m) (root : Path) : Cache m where
  contains key := disk.isFile (entryPath root key)
  read key := do
    if !(← disk.isFile (entryPath root key)) then return .error (.cacheMiss key.text)
    else
      match ← disk.readText (entryPath root key) with
      | .ok text => return .ok text
      | .error refusal => return .error (.cacheRead key.text refusal.message)
  write key text := do
    match ← disk.makeDirectories root with
    | .error refusal => return .error (.directoryCreate root refusal.message)
    | .ok () =>
        match ← disk.writeText (entryPath root key) text with
        | .ok () => return .ok ()
        | .error refusal => return .error (.cacheWrite key.text refusal.message)
  keys := cacheKeys disk root
  clear := do
    match ← cacheKeys disk root with
    | .error error => return .error error
    | .ok keys =>
        match ← removeEntries disk root keys with
        | .error error => return .error error
        | .ok () => return .ok keys.length

end Disk

end ModelMigration
