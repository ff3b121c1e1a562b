import ModelMigration.Store.Cache

/-!
# Entries in memory

Looking up a key behind an insertion, and the listing of the keys: sorted, with each key once.
-/

namespace ModelMigration

theorem lt_of_compare_eq_lt {a b : String} (h : compare a b = .lt) : a < b :=
  compareOfLessAndEq_eq_lt.mp h

theorem CacheMap.getElem?_insert (cache : CacheMap) (key other : CacheKey) (text : String) :
    (cache.insert key.text text)[other.text]? =
      if key = other then some text else cache[other.text]? := by
  obtain ⟨name⟩ := key
  obtain ⟨name'⟩ := other
  simp only [Std.ExtTreeMap.getElem?_insert, Std.LawfulEqCmp.compare_eq_iff_eq, CacheKey.mk.injEq]

theorem CacheMap.keys_pairwise (cache : CacheMap) :
    (CacheMap.keys cache).Pairwise fun a b => a.text < b.text := by
  rw [CacheMap.keys, List.pairwise_map]
  have ordered := Std.ExtTreeMap.ordered_keys (t := cache)
  exact ordered.imp lt_of_compare_eq_lt

theorem CacheMap.mem_keys_iff {cache : CacheMap} {key : CacheKey} :
    key ∈ CacheMap.keys cache ↔ ∃ text, cache[key.text]? = some text := by
  rw [CacheMap.keys, List.mem_map, ← Option.isSome_iff_exists,
    ← Std.ExtTreeMap.mem_iff_isSome_getElem?, ← Std.ExtTreeMap.mem_keys]
  constructor
  · rintro ⟨text, mem, rfl⟩
    exact mem
  · intro mem
    exact ⟨key.text, mem, rfl⟩

theorem CacheMap.nodup_keys (cache : CacheMap) : (CacheMap.keys cache).Nodup :=
  (CacheMap.keys_pairwise cache).imp fun below same =>
    String.ne_of_lt below (congrArg CacheKey.text same)

theorem CacheMap.length_keys (cache : CacheMap) : (CacheMap.keys cache).length = cache.size := by
  rw [CacheMap.keys, List.length_map, Std.ExtTreeMap.length_keys]

/-- Sorted names are in order. -/
theorem pairwise_le_mergeSort (names : List String) :
    (names.mergeSort fun a b => a ≤ b).Pairwise fun a b => a ≤ b := by
  have sorted := @List.pairwise_mergeSort _ (fun a b : String => decide (a ≤ b))
    (fun a b c hab hbc => decide_eq_true
      (String.le_trans (of_decide_eq_true hab) (of_decide_eq_true hbc)))
    (fun a b => by simpa using String.le_total a b) names
  exact sorted.imp of_decide_eq_true

/-- Names without repetition, sorted, are the keys in memory if they are those of the entries. -/
theorem CacheMap.sorted_eq_keys {cache : CacheMap} {names : List String} (nodup : names.Nodup)
    (same : ∀ name, name ∈ names ↔ ∃ text, cache[name]? = some text) :
    ((names.mergeSort fun a b => a ≤ b).map fun text => (⟨text⟩ : CacheKey)) =
      CacheMap.keys cache := by
  have sorted : ((names.mergeSort fun a b => a ≤ b).map fun text =>
      (⟨text⟩ : CacheKey)).Pairwise fun a b => a.text ≤ b.text := by
    rw [List.pairwise_map]
    exact pairwise_le_mergeSort names
  have ordered : (CacheMap.keys cache).Pairwise fun a b => a.text ≤ b.text :=
    (CacheMap.keys_pairwise cache).imp fun below => String.lt_asymm below
  have perm : ((names.mergeSort fun a b => a ≤ b).map fun text => (⟨text⟩ : CacheKey)).Perm
      (CacheMap.keys cache) := by
    refine ((List.mergeSort_perm names _).map _).trans ?_
    rw [List.perm_ext_iff_of_nodup]
    · intro key
      rw [CacheMap.mem_keys_iff, ← same, List.mem_map]
      constructor
      · rintro ⟨name, mem, rfl⟩
        exact mem
      · intro mem
        exact ⟨key.text, mem, rfl⟩
    · rw [List.Nodup, List.pairwise_map]
      exact nodup.imp fun differ texts => differ (CacheKey.mk.inj texts)
    · exact CacheMap.nodup_keys cache
  -- Both lists are sorted and have the same members, so they are the same.
  exact perm.eq_of_pairwise (fun a b _ _ hab hba =>
    congrArg CacheKey.mk (String.le_antisymm hab hba)) sorted ordered

/-! ## Removing entries -/

theorem CacheMap.getElem?_erase (cache : CacheMap) (key other : CacheKey) :
    (cache.erase key.text)[other.text]? = if key = other then none else cache[other.text]? := by
  obtain ⟨name⟩ := key
  obtain ⟨name'⟩ := other
  simp only [Std.ExtTreeMap.getElem?_erase, Std.LawfulEqCmp.compare_eq_iff_eq, CacheKey.mk.injEq]

/-- The entries without those of some keys. -/
def CacheMap.without (cache : CacheMap) (keys : List CacheKey) : CacheMap :=
  keys.foldl (fun cache key => cache.erase key.text) cache

theorem CacheMap.getElem?_without (cache : CacheMap) (keys : List CacheKey) (other : CacheKey) :
    (CacheMap.without cache keys)[other.text]? =
      if other ∈ keys then none else cache[other.text]? := by
  induction keys generalizing cache with
  | nil => simp [CacheMap.without]
  | cons key keys ih =>
      have rest := ih (cache.erase key.text)
      rw [CacheMap.getElem?_erase] at rest
      rw [CacheMap.without, List.foldl_cons, ← CacheMap.without, rest]
      by_cases mem : other ∈ keys
      · simp [mem]
      · simp [mem, @eq_comm _ key other]

theorem CacheMap.without_keys (cache : CacheMap) :
    CacheMap.without cache (CacheMap.keys cache) = ∅ := by
  apply Std.ExtTreeMap.ext_getElem?
  intro name
  have none := CacheMap.getElem?_without cache (CacheMap.keys cache) ⟨name⟩
  rw [none]
  split
  · rfl
  · next absent =>
      cases kept : cache[name]? with
      | none => simp
      | some text => exact absurd (CacheMap.mem_keys_iff.mpr ⟨text, kept⟩) absent

end ModelMigration
