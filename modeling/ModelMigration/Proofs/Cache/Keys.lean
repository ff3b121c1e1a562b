import ModelMigration.CacheKey
import ModelMigration.Proofs.Path.Route

/-!
# Keys and hashes

Under one extension no two hashes share a key: a hash that stands in its key as it is holds no `~`,
and one written in base sixteen starts with it there. A key is a plain name wherever its extension
is one.
-/

namespace ModelMigration.CacheKey

theorem isSafe_eq_false_of_eq_tilde : isSafe '~' = false := by decide

/-- The form of a hash in a key tells the hash. -/
theorem stem_injective : Function.Injective stem := by
  intro hash other same
  simp only [stem] at same
  split at same <;> split at same
  · exact same
  · next safe _ =>
      have marked : '~' ∈ hash.toList := by simp [same]
      have := List.all_eq_true.mp safe '~' marked
      simp [isSafe_eq_false_of_eq_tilde] at this
  · next safe =>
      have marked : '~' ∈ other.toList := by simp [← same]
      have := List.all_eq_true.mp safe '~' marked
      simp [isSafe_eq_false_of_eq_tilde] at this
  · have digits := String.ofList_injective same
    exact Bytes.ofText_inj (Bytes.hex_inj (List.cons_inj_right '~' |>.mp digits))

theorem ofHash_eq_ok_iff {hash ext : String} {key : CacheKey} :
    ofHash hash ext = .ok key ↔ hash ≠ "" ∧ key = ⟨start ++ stem hash ++ ext⟩ := by
  by_cases empty : hash = ""
  · simp [ofHash, empty]
  · simp [ofHash, empty, eq_comm]

theorem ofHash_of_ne_empty {hash : String} (ext : String) (named : hash ≠ "") :
    ofHash hash ext = .ok ⟨start ++ stem hash ++ ext⟩ := ofHash_eq_ok_iff.mpr ⟨named, rfl⟩

theorem ofHash_inj {hash other ext : String} {key : CacheKey} (h : ofHash hash ext = .ok key)
    (h' : ofHash other ext = .ok key) : hash = other := by
  obtain ⟨_, rfl⟩ := ofHash_eq_ok_iff.mp h
  obtain ⟨_, same⟩ := ofHash_eq_ok_iff.mp h'
  have texts := congrArg String.toList (CacheKey.mk.inj same)
  simp only [String.toList_append, List.append_assoc, List.append_cancel_left_eq,
    List.append_cancel_right_eq] at texts
  exact stem_injective (String.toList_injective texts)

/-! ## Keys as paths -/

theorem text_of_ofHash {hash ext : String} {key : CacheKey} (h : ofHash hash ext = .ok key) :
    key.text = start ++ (stem hash ++ ext) := by
  obtain ⟨_, rfl⟩ := ofHash_eq_ok_iff.mp h
  exact String.append_assoc

end ModelMigration.CacheKey
