import ModelMigration.Proofs.Disk.PlainPaths
import ModelMigration.Proofs.Disk.Writing
import ModelMigration.Proofs.Path.PartNames

/-!
# Files in a directory

A file name that is joined to the path of a directory leads to the file of that name in it, and
the file can be found, written and removed there.
-/

namespace ModelMigration

open Disk Disk.FileTree

namespace Path

/-- Whether a text can be the name of a file. -/
structure FileName (name : String) : Prop where
  filled : name ≠ ""
  noSlash : '/' ∉ name.toList
  noNul : '\x00' ∉ name.toList
  noDot : name ≠ "."
  noUp : name ≠ ".."
  short : name.utf8ByteSize ≤ greatestName

variable {dir : Path} {name : String}

theorem FileName.part (file : FileName name) : PartName name :=
  ⟨file.filled, file.noSlash, file.noDot, file.noUp⟩

theorem endsWithSlash_join_name (dir : Path) (file : FileName name) :
    endsWithSlash (dir.join ⟨name⟩) = false := by
  have filled : name.toList ≠ [] := by simpa using file.filled
  have last := List.getLast?_eq_some_getLast filled
  unfold endsWithSlash
  rw [text_join dir file.part.relative, String.toList_append, List.getLast?_append, last,
    decide_eq_false_iff_not]
  intro slash
  have same : name.toList.getLast filled = '/' := by simpa using slash
  exact file.noSlash (same ▸ List.getLast_mem filled)

theorem Plain.join_name (plain : dir.Plain) (file : FileName name)
    (limit : (dir.join ⟨name⟩).text.utf8ByteSize < pathLimit) : (dir.join ⟨name⟩).Plain := by
  have text := text_join dir file.part.relative
  refine ⟨?_, ?_, ?_, ?_, limit⟩
  · rw [isAbsolute_join dir file.part.relative, plain.relative]
  · rw [route_join_part dir file.part, List.mem_append, List.mem_singleton, not_or]
    exact ⟨plain.noUp, fun same => file.noUp same.symm⟩
  · rw [text, String.toList_append, List.mem_append, not_or]
    refine ⟨fun mem => ?_, file.noNul⟩
    rcases mem_front mem with inDir | slash
    · exact plain.noNul inDir
    · contradiction
  · intro part mem
    rw [segments_join_part dir file.part, List.mem_append, List.mem_singleton] at mem
    rcases mem with inDir | rfl
    · exact plain.short part inDir
    · exact file.short

end Path

namespace Disk.FileTree

open ModelMigration.Path

variable {t : FileTree} {dir : Path} {name : String} {entry : Entry} {content : ByteArray}

theorem target_join_name (rooted : t.Rooted) (file : FileName name)
    (plain : (dir.join ⟨name⟩).Plain) (stands : t.entry? (t.here ++ dir.route) = some .directory) :
    t.target (dir.join ⟨name⟩) = .ok (.named (t.here ++ dir.route) name) := by
  rw [route_eq] at stands ⊢
  exact target_of_directory rooted plain (segments_join_part dir file.part) file.noDot stands

theorem find_join_name (rooted : t.Rooted) (file : FileName name) (plain : (dir.join ⟨name⟩).Plain)
    (there : t.entry? (t.here ++ dir.route ++ [name]) = some entry) :
    t.find (dir.join ⟨name⟩) = .ok (t.here ++ dir.route ++ [name], entry) := by
  have target := target_join_name rooted file plain (rooted _ name entry there)
  refine find_of_target target file.short there fun slash => ?_
  rw [endsWithSlash_join_name dir file] at slash
  contradiction

theorem hasFile_join_name (rooted : t.Rooted) (file : FileName name)
    (plain : (dir.join ⟨name⟩).Plain) :
    t.hasFile (dir.join ⟨name⟩) = (t.file? (t.here ++ dir.route ++ [name])).isSome := by
  rw [Bool.eq_iff_iff, hasFile_eq_true_iff, Option.isSome_iff_exists]
  constructor
  · rintro ⟨place, content, found⟩
    have stands := stands_of_find found
    have place_eq := eq_of_find plain.noUp found
    rw [plain.placeOf_eq, route_join_part dir file.part, ← List.append_assoc] at place_eq
    rw [place_eq] at stands
    exact ⟨content, file?_eq_some_iff.mpr stands⟩
  · rintro ⟨content, there⟩
    exact ⟨_, content, find_join_name rooted file plain (file?_eq_some_iff.mp there)⟩

theorem write_join_name (rooted : t.Rooted) (file : FileName name) (plain : (dir.join ⟨name⟩).Plain)
    (stands : t.entry? (t.here ++ dir.route) = some .directory)
    (other : t.entry? (t.here ++ dir.route ++ [name]) ≠ some .directory) :
    t.write (dir.join ⟨name⟩) content =
      .ok (t.put (t.here ++ dir.route ++ [name]) (.file content)) :=
  write_eq_ok_iff.mpr ⟨_, name, target_join_name rooted file plain stands,
    endsWithSlash_join_name dir file, file.short, other, rfl⟩

theorem remove_join_name (rooted : t.Rooted) (file : FileName name)
    (plain : (dir.join ⟨name⟩).Plain)
    (there : t.file? (t.here ++ dir.route ++ [name]) = some content) :
    t.remove (dir.join ⟨name⟩) = .ok (t.without (t.here ++ dir.route ++ [name])) := by
  have entry := file?_eq_some_iff.mp there
  have target := target_join_name rooted file plain (rooted _ name _ entry)
  unfold remove
  rw [target]
  show (if greatestName < name.utf8ByteSize then _ else _) = _
  rw [if_neg (Nat.not_lt.mpr file.short), entry]
  show (if endsWithSlash (dir.join ⟨name⟩) = true then _ else _) = _
  rw [endsWithSlash_join_name dir file]
  rfl

end Disk.FileTree

end ModelMigration
