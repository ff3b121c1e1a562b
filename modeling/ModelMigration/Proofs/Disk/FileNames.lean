import ModelMigration.Naming
import ModelMigration.Proofs.Cache.Keys
import ModelMigration.Proofs.Disk.FilesIn
import ModelMigration.Proofs.Text.Lowering
import ModelMigration.Proofs.Time.Stamps

/-!
# Names of entries and migrations

The key of an entry and the name of a migration are file names as far as their extension and the
name of the model allow, and no migration is named like an entry: it starts with its year.
-/

namespace ModelMigration

open ModelMigration.Path

/-! ## Characters that no file name has -/

/-- Whether a text has neither a slash nor a NUL, so that it can stand in a file name. -/
def Nameable (text : String) : Prop := '/' ∉ text.toList ∧ '\x00' ∉ text.toList

instance (text : String) : Decidable (Nameable text) :=
  inferInstanceAs (Decidable ('/' ∉ text.toList ∧ '\x00' ∉ text.toList))

theorem Nameable.append {a b : String} (ha : Nameable a) (hb : Nameable b) : Nameable (a ++ b) := by
  unfold Nameable
  rw [String.toList_append, List.mem_append, List.mem_append, not_or, not_or]
  exact ⟨⟨ha.1, hb.1⟩, ha.2, hb.2⟩

theorem nameable_of_all {text : String} {ok : Char → Bool} (all : ∀ c ∈ text.toList, ok c = true)
    (slash : ok '/' = false) (nul : ok '\x00' = false) : Nameable text := by
  constructor
  · intro mem
    rw [all _ mem] at slash
    contradiction
  · intro mem
    rw [all _ mem] at nul
    contradiction

theorem fileName_of_nameable {name : String} (nameable : Nameable name)
    (long : 2 < name.toList.length) (short : name.utf8ByteSize ≤ Disk.FileTree.greatestName) :
    FileName name := by
  have part := partName_of_length long nameable.1
  exact ⟨part.filled, part.noSlash, nameable.2, part.noDot, part.noUp, short⟩

/-! ## Keys -/

namespace CacheKey

theorem isSafe_hexDigit {n : Nat} (h : n < 16) : isSafe (Bytes.hexDigit n) = true := by
  have all : ∀ a : Fin 16, isSafe (Bytes.hexDigit a) = true := by decide
  exact all ⟨n, h⟩

theorem isSafe_of_mem_hex {bytes : List UInt8} {c : Char} (mem : c ∈ Bytes.hex bytes) :
    isSafe c = true := by
  obtain ⟨b, _, mem⟩ := List.mem_flatMap.mp mem
  have small := b.toNat_lt
  rcases List.mem_cons.mp mem with rfl | mem
  · exact isSafe_hexDigit (by omega)
  · rw [List.mem_singleton.mp mem]
    exact isSafe_hexDigit (by omega)

theorem nameable_stem (hash : String) : Nameable (stem hash) := by
  have all : ∀ c ∈ (stem hash).toList, (isSafe c || c = '~') = true := by
    intro c mem
    unfold stem at mem
    split at mem
    · next safe => rw [List.all_eq_true.mp safe c mem, Bool.true_or]
    · rw [String.toList_ofList] at mem
      rcases List.mem_cons.mp mem with rfl | mem
      · decide
      · rw [isSafe_of_mem_hex mem, Bool.true_or]
  exact nameable_of_all all (by decide) (by decide)

theorem partName_of_ofHash {hash ext : String} {key : CacheKey}
    (h : ofHash hash ext = .ok key) (noSlash : '/' ∉ ext.toList) : PartName key.text := by
  have text := text_of_ofHash h
  have length := (by decide : start.toList.length = 10)
  refine partName_of_length ?_ ?_
  · rw [text, String.toList_append, List.length_append]
    omega
  · rw [text, String.toList_append, String.toList_append, List.mem_append, List.mem_append]
    rintro (inStart | inStem | inExt)
    · exact absurd inStart (by decide)
    · exact (nameable_stem hash).1 inStem
    · exact noSlash inExt

theorem nameable_of_ofHash {hash ext : String} {key : CacheKey} (h : ofHash hash ext = .ok key)
    (nameable : Nameable ext) : Nameable key.text := by
  have start' : Nameable start := ⟨by decide, by decide⟩
  rw [text_of_ofHash h]
  exact start'.append ((nameable_stem hash).append nameable)

theorem fileName_of_ofHash {hash ext : String} {key : CacheKey} (h : ofHash hash ext = .ok key)
    (nameable : Nameable ext) (short : key.text.utf8ByteSize ≤ Disk.FileTree.greatestName) :
    FileName key.text := by
  have part := partName_of_ofHash h nameable.1
  exact ⟨part.filled, part.noSlash, (nameable_of_ofHash h nameable).2, part.noDot, part.noUp, short⟩

theorem start_isPrefixOf_of_ofHash {hash ext : String} {key : CacheKey}
    (h : ofHash hash ext = .ok key) : start.toList.isPrefixOf key.text.toList = true := by
  rw [text_of_ofHash h, String.toList_append, List.isPrefixOf_iff_prefix]
  exact List.prefix_append _ _

end CacheKey

/-! ## Names of migrations -/

namespace Text

theorem nameable_lowered {text : String} (nameable : Nameable text) : Nameable (lowered text) :=
  ⟨not_mem_lowered nameable.1 (by decide +kernel), not_mem_lowered nameable.2 (by decide +kernel)⟩

end Text

/-- Whether a character can stand in a stamp. -/
def inStamp (c : Char) : Bool := c.isDigit || c = '-' || c = '+' || c = '_'

/-- Whether a text has only characters of stamps. -/
def StampText (text : String) : Prop := ∀ c ∈ text.toList, inStamp c = true

theorem stampText_of_all {text : String} (all : text.toList.all inStamp = true) : StampText text :=
  List.all_eq_true.mp all

theorem StampText.append {a b : String} (ha : StampText a) (hb : StampText b) :
    StampText (a ++ b) := by
  intro c mem
  rw [String.toList_append, List.mem_append] at mem
  rcases mem with inA | inB
  · exact ha c inA
  · exact hb c inB

theorem stampText_padded (width n : Nat) : StampText (Timestamp.padded width n) := by
  intro c mem
  rw [inStamp, Timestamp.isDigit_of_mem_padded mem]
  rfl

theorem stampText_yearText (year : Int) : StampText (Timestamp.yearText year) := by
  unfold Timestamp.yearText
  split
  · exact (stampText_of_all (by decide)).append (stampText_padded 4 _)
  · split
    · exact (stampText_of_all (by decide)).append (stampText_padded 4 _)
    · exact stampText_padded 4 _

theorem stampText_stamp (t : Timestamp) : StampText t.stamp := by
  have mark : StampText "_" := stampText_of_all (by decide)
  have none : StampText "" := stampText_of_all (by decide)
  unfold Timestamp.stamp Timestamp.format
  exact ((((((((((stampText_yearText _).append mark).append (stampText_padded 2 _)).append
    mark).append (stampText_padded 2 _)).append mark).append (stampText_padded 2 _)).append
    none).append (stampText_padded 2 _)).append none).append (stampText_padded 2 _)

theorem stamp_ne_empty (t : Timestamp) : t.stamp.toList ≠ [] := by
  unfold Timestamp.stamp Timestamp.format
  simp

theorem noSlash_migration {t : Timestamp} {model ext : String} (hm : '/' ∉ model.toList)
    (he : '/' ∉ ext.toList) : '/' ∉ (migrationFileName t model ext).toList := by
  have stamp := (nameable_of_all (stampText_stamp t) (by decide) (by decide)).1
  have lower := Text.not_mem_lowered hm (by decide)
  simp [migrationFileName, stamp, lower, he]

/-- A character that no stamp has is in the names of all migrations of a model, or in none. -/
theorem not_mem_migration {t u : Timestamp} {model ext : String} {c : Char}
    (noStamp : inStamp c = false) (absent : c ∉ (migrationFileName t model ext).toList) :
    c ∉ (migrationFileName u model ext).toList := by
  have stamp : c ∉ u.stamp.toList := by
    intro mem
    rw [stampText_stamp u c mem] at noStamp
    contradiction
  simp only [migrationFileName, String.toList_append, List.append_assoc, List.mem_append,
    not_or] at absent ⊢
  exact ⟨stamp, absent.2⟩

theorem two_lt_length_migration (t : Timestamp) (model ext : String) :
    2 < (migrationFileName t model ext).toList.length := by
  have length := (by decide : "_create_".toList.length = 8)
  unfold migrationFileName
  simp only [String.toList_append, List.length_append]
  omega

theorem partName_migration {t : Timestamp} {model ext : String} (hm : '/' ∉ model.toList)
    (he : '/' ∉ ext.toList) : PartName (migrationFileName t model ext) :=
  partName_of_length (two_lt_length_migration t model ext) (noSlash_migration hm he)

theorem fileName_migration {t : Timestamp} {model ext : String} (nameable : Nameable model)
    (nameable' : Nameable ext)
    (short : (migrationFileName t model ext).utf8ByteSize ≤ Disk.FileTree.greatestName) :
    FileName (migrationFileName t model ext) := by
  have stamp : Nameable t.stamp := nameable_of_all (stampText_stamp t) (by decide) (by decide)
  have create : Nameable "_create_" := ⟨by decide, by decide⟩
  have table : Nameable "s_table" := ⟨by decide, by decide⟩
  have whole : Nameable (migrationFileName t model ext) :=
    (((stamp.append create).append (Text.nameable_lowered nameable)).append table).append nameable'
  exact fileName_of_nameable whole (two_lt_length_migration t model ext) short

/-- A migration is not named like an entry. -/
theorem start_isPrefixOf_migration (t : Timestamp) (model ext : String) :
    CacheKey.start.toList.isPrefixOf (migrationFileName t model ext).toList = false := by
  have stamp := stampText_stamp t
  unfold migrationFileName StampText at *
  cases chars : t.stamp.toList with
  | nil => exact absurd chars (stamp_ne_empty t)
  | cons c cs =>
      have first : c ≠ 'm' := by
        rintro rfl
        have inside := stamp 'm' (by simp [chars])
        exact absurd inside (by decide)
      have start : CacheKey.start.toList = 'm' :: "igration_".toList := by decide
      rw [start]
      simp only [String.toList_append, chars, List.cons_append, List.isPrefixOf,
        beq_eq_false_iff_ne.mpr first.symm, Bool.false_and]

end ModelMigration
