import ModelMigration.Proofs.Disk.FilesIn

/-!
# Directories that paths lead to

A path leads to a directory if the names joined to it lead into that directory. It does from the
first file on that was put there, for all names that fit, and whatever `..` parts the path has.
-/

namespace ModelMigration

open Disk Disk.FileTree

namespace Path

variable {dir : Path} {name : String}

/-- Whether a name can be given to a file in the directory of a path. -/
structure FitsIn (dir : Path) (name : String) : Prop where
  file : FileName name
  limit : (dir.join ⟨name⟩).text.utf8ByteSize < pathLimit

/-- A name that is not longer fits too. -/
theorem FitsIn.of_le {other : String} (fits : FitsIn dir name) (part : PartName other)
    (noNul : '\x00' ∉ other.toList) (shorter : other.utf8ByteSize ≤ name.utf8ByteSize) :
    FitsIn dir other := by
  have limit := fits.limit
  have short := Nat.le_trans shorter fits.file.short
  rw [text_join dir fits.file.part.relative, String.utf8ByteSize_append] at limit
  refine ⟨⟨part.filled, part.noSlash, noNul, part.noDot, part.noUp, short⟩, ?_⟩
  rw [text_join dir part.relative, String.utf8ByteSize_append]
  exact Nat.lt_of_le_of_lt (Nat.add_le_add_left shorter _) limit

end Path

namespace Disk.FileTree

open ModelMigration.Path

variable {t u v : FileTree} {dir : Path} {root : Location} {name last : String} {entry : Entry}
  {content : ByteArray} {parts others : List String} {place final : Location}

/-! ## Leading to a directory -/

/-- Whether a path leads to a directory at a location: the working directory for the empty path. -/
def LeadsTo (t : FileTree) (dir : Path) (root : Location) : Prop :=
  t.find (dir.join ⟨"."⟩) = .ok (root, .directory)

instance (t : FileTree) (dir : Path) (root : Location) : Decidable (t.LeadsTo dir root) :=
  decidable_of_iff ((t.find (dir.join ⟨"."⟩)).toOption = some (root, .directory)) (by
    unfold LeadsTo
    cases t.find (dir.join ⟨"."⟩) <;> simp [Except.toOption])

theorem isAbsolute_dot : Path.isAbsolute ⟨"."⟩ = false := by decide

theorem eq_of_followed_dot {next : Location} (step : Followed t place "." next) :
    next = place ∧ t.entry? place = some .directory := by
  generalize dot : "." = part at step
  cases step with
  | blank => exact absurd dot (by decide)
  | current passable => exact ⟨rfl, passable⟩
  | up => exact absurd dot (by decide)
  | name _ _ noDot => exact absurd dot.symm noDot

theorem leadsTo_iff : t.LeadsTo dir root ↔ ∃ start, t.origin (dir.join ⟨"."⟩) = .ok start ∧
    t.followAll start dir.segments = .ok root ∧ t.entry? root = some .directory := by
  have dot : Path.segments ⟨"."⟩ = ["."] := by decide
  unfold LeadsTo
  simp only [find_eq_ok_iff, segments_join dir isAbsolute_dot, dot, followAll_append_eq_ok_iff,
    followAll_cons_eq_ok_iff]
  constructor
  · rintro ⟨start, origin, ⟨middle, followed, _, step, ⟨⟩⟩, stands, _⟩
    obtain ⟨rfl, _⟩ := eq_of_followed_dot step
    exact ⟨start, origin, followed, stands⟩
  · rintro ⟨start, origin, followed, stands⟩
    exact ⟨start, origin, ⟨root, followed, root, .current stands, rfl⟩, stands, fun _ => trivial⟩

theorem LeadsTo.unique {other : Location} (leads : t.LeadsTo dir root)
    (leads' : t.LeadsTo dir other) : root = other := by
  have same := leads.symm.trans leads'
  cases same
  rfl

theorem Keeps.leadsTo (keeps : Keeps t u) (leads : t.LeadsTo dir root) : u.LeadsTo dir root := by
  obtain ⟨start, origin, followed, stands⟩ := leadsTo_iff.mp leads
  rw [← origin_congr keeps.here] at origin
  exact leadsTo_iff.mpr ⟨start, origin, keeps.followAll followed, keeps.directory _ stands⟩

/-- A path that is not empty finds the directory that it leads to. -/
theorem LeadsTo.find (leads : t.LeadsTo dir root) (filled : dir.text ≠ "") :
    t.find dir = .ok (root, .directory) := by
  obtain ⟨start, origin, followed, stands⟩ := leadsTo_iff.mp leads
  exact find_eq_ok_iff.mpr
    ⟨start, origin_of_join isAbsolute_dot filled origin, followed, stands, fun _ => rfl⟩

/-! ## Names in the directory -/

/-- Where a name leads, the names beside it lead too. -/
theorem leadsTo_of_target (part : PartName name)
    (ended : t.target (dir.join ⟨name⟩) = .ok (.named root last)) :
    last = name ∧ t.LeadsTo dir root := by
  obtain ⟨start, before, origin, segments, followed, stands, _⟩ := target_eq_named_iff.mp ended
  rw [segments_join_part dir part] at segments
  obtain ⟨rfl, ends⟩ := List.append_inj' segments rfl
  refine ⟨(List.cons.inj ends).1.symm, leadsTo_iff.mpr ⟨start, ?_, followed, stands⟩⟩
  obtain ⟨nul, _, limit, place⟩ := origin_eq_ok_iff.mp origin
  -- A `.` takes no more bytes than the name, so the path stays within the limit with it.
  have bytes : 0 < name.utf8ByteSize := by
    rw [Nat.pos_iff_ne_zero, Ne, String.utf8ByteSize_eq_zero_iff]
    exact part.filled
  rw [text_join dir part.relative, String.toList_append, List.mem_append, not_or] at nul
  rw [text_join dir part.relative, String.utf8ByteSize_append] at limit
  rw [isAbsolute_join dir part.relative] at place
  refine origin_eq_ok_iff.mpr ⟨?_, ?_, ?_, ?_⟩
  · rw [text_join dir isAbsolute_dot, String.toList_append, List.mem_append, not_or]
    exact ⟨nul.1, by decide⟩
  · simp [text_join dir isAbsolute_dot]
  · have dot : ".".utf8ByteSize = 1 := by decide
    rw [text_join dir isAbsolute_dot, String.utf8ByteSize_append]
    dsimp only at limit ⊢
    omega
  · rw [isAbsolute_join dir isAbsolute_dot, place]

theorem LeadsTo.target (leads : t.LeadsTo dir root) (fits : FitsIn dir name) :
    t.target (dir.join ⟨name⟩) = .ok (.named root name) := by
  obtain ⟨start, origin, followed, stands⟩ := leadsTo_iff.mp leads
  have part := fits.file.part
  obtain ⟨nul, _, _, place⟩ := origin_eq_ok_iff.mp origin
  rw [text_join dir isAbsolute_dot, String.toList_append, List.mem_append, not_or] at nul
  rw [isAbsolute_join dir isAbsolute_dot] at place
  refine target_eq_named_iff.mpr
    ⟨start, dir.segments, ?_, segments_join_part dir part, followed, stands, part.noDot, part.noUp⟩
  refine origin_eq_ok_iff.mpr ⟨?_, ?_, fits.limit, ?_⟩
  · rw [text_join dir part.relative, String.toList_append, List.mem_append, not_or]
    exact ⟨nul.1, fits.file.noNul⟩
  · simp [text_join dir part.relative, part.filled]
  · rw [isAbsolute_join dir part.relative, place]

theorem LeadsTo.find_name (leads : t.LeadsTo dir root) (fits : FitsIn dir name)
    (there : t.entry? (root ++ [name]) = some entry) :
    t.find (dir.join ⟨name⟩) = .ok (root ++ [name], entry) := by
  refine find_of_target (leads.target fits) fits.file.short there fun slash => ?_
  rw [endsWithSlash_join_name dir fits.file] at slash
  contradiction

theorem LeadsTo.eq_of_find (leads : t.LeadsTo dir root) (fits : FitsIn dir name)
    (found : t.find (dir.join ⟨name⟩) = .ok (place, entry)) : place = root ++ [name] := by
  have ended := leads.target fits
  rcases target_of_find found with special | ⟨directory, last, ended', rfl, _⟩
  · rw [special] at ended
    cases ended
  · rw [ended'] at ended
    cases ended
    rfl

theorem LeadsTo.hasFile (leads : t.LeadsTo dir root) (fits : FitsIn dir name) :
    t.hasFile (dir.join ⟨name⟩) = (t.file? (root ++ [name])).isSome := by
  rw [Bool.eq_iff_iff, hasFile_eq_true_iff, Option.isSome_iff_exists]
  constructor
  · rintro ⟨place, content, found⟩
    obtain rfl := leads.eq_of_find fits found
    have stands := stands_of_find found
    exact ⟨content, file?_eq_some_iff.mpr stands⟩
  · rintro ⟨content, there⟩
    exact ⟨_, content, leads.find_name fits (file?_eq_some_iff.mp there)⟩

theorem LeadsTo.free (leads : t.LeadsTo dir root) (fits : FitsIn dir name)
    (noDirectory : t.hasDirectory (dir.join ⟨name⟩) = false) :
    t.entry? (root ++ [name]) ≠ some .directory := by
  intro directory
  have there := hasDirectory_eq_true_iff.mpr ⟨_, leads.find_name fits directory⟩
  rw [noDirectory] at there
  contradiction

theorem LeadsTo.write (leads : t.LeadsTo dir root) (fits : FitsIn dir name)
    (other : t.entry? (root ++ [name]) ≠ some .directory) (content : ByteArray) :
    t.write (dir.join ⟨name⟩) content = .ok (t.put (root ++ [name]) (.file content)) :=
  write_eq_ok_iff.mpr ⟨root, name, leads.target fits, endsWithSlash_join_name dir fits.file,
    fits.file.short, other, rfl⟩

theorem LeadsTo.remove (leads : t.LeadsTo dir root) (fits : FitsIn dir name)
    (there : t.file? (root ++ [name]) = some content) :
    t.remove (dir.join ⟨name⟩) = .ok (t.without (root ++ [name])) := by
  unfold FileTree.remove
  rw [leads.target fits]
  show (if greatestName < name.utf8ByteSize then _ else _) = _
  rw [if_neg (Nat.not_lt.mpr fits.file.short), file?_eq_some_iff.mp there]
  show (if endsWithSlash (dir.join ⟨name⟩) = true then _ else _) = _
  rw [endsWithSlash_join_name dir fits.file]
  rfl

theorem LeadsTo.remove_of_none (leads : t.LeadsTo dir root) (fits : FitsIn dir name)
    (none : t.file? (root ++ [name]) = none) :
    ∃ refusal, t.remove (dir.join ⟨name⟩) = .error refusal := by
  unfold FileTree.remove
  rw [leads.target fits]
  show ∃ refusal, (if greatestName < name.utf8ByteSize then _ else _) = Except.error refusal
  rw [if_neg (Nat.not_lt.mpr fits.file.short)]
  unfold file? at none
  cases there : t.entry? (root ++ [name]) with
  | none => exact ⟨_, rfl⟩
  | some entry =>
      cases entry with
      | directory => exact ⟨_, rfl⟩
      | file content => simp [there] at none

/-! ## The parent of a name -/

/-- Where some parts lead to a directory, `.` parts may be added and left out. -/
theorem followAll_of_filter (filled : ∀ part ∈ others, part ≠ "")
    (same : others.filter (· ≠ ".") = parts.filter (· ≠ "."))
    (followed : t.followAll place parts = .ok final) (stands : t.entry? final = some .directory) :
    t.followAll place others = .ok final := by
  have without : t.followAll place (parts.filter (· ≠ ".")) = .ok final := by
    clear same
    induction parts generalizing place with
    | nil => exact followed
    | cons part parts ih =>
        obtain ⟨next, step, rest⟩ := followAll_cons_eq_ok_iff.mp followed
        have behind := ih rest
        by_cases dot : part = "."
        · subst dot
          obtain ⟨rfl, _⟩ := eq_of_followed_dot step
          simpa using behind
        · rw [List.filter_cons_of_pos (by simpa using dot)]
          exact followAll_cons_eq_ok_iff.mpr ⟨next, step, behind⟩
  rw [← same] at without
  clear same followed
  induction others generalizing place with
  | nil => exact without
  | cons part others ih =>
      have later := fun x mem => filled x (List.mem_cons_of_mem _ mem)
      by_cases dot : part = "."
      · subst dot
        have behind : t.followAll place (others.filter (· ≠ ".")) = .ok final := by
          simpa using without
        have passable := directory_of_followAll
          (fun x mem => later x (List.mem_filter.mp mem).1) behind stands
        exact followAll_cons_eq_ok_iff.mpr ⟨place, .current passable, ih later behind⟩
      · rw [List.filter_cons_of_pos (by simpa using dot)] at without
        obtain ⟨next, step, rest⟩ := followAll_cons_eq_ok_iff.mp without
        exact followAll_cons_eq_ok_iff.mpr ⟨next, step, ih later rest⟩

/-- The parent of a name in a directory finds the directory, unless it is empty. -/
theorem LeadsTo.find_parent {parent : Path} (leads : t.LeadsTo dir root) (fits : FitsIn dir name)
    (above : (dir.join ⟨name⟩).parent? = some parent) (filled : parent.text ≠ "") :
    t.find parent = .ok (root, .directory) := by
  obtain ⟨start, before, origin, segments, followed, stands, _⟩ :=
    target_eq_named_iff.mp (leads.target fits)
  have route : parent.route = dir.route := by
    have along := route_join_part dir fits.file.part
    obtain ⟨last, longer⟩ := exists_route_parent? above (by simp [along])
    rw [along] at longer
    exact (List.append_inj' longer rfl).1.symm
  refine find_eq_ok_iff.mpr ⟨start, ?_, ?_, stands, fun _ => rfl⟩
  · obtain ⟨rest, text⟩ := exists_text_parent? above
    obtain ⟨nul, _, limit, place⟩ := origin_eq_ok_iff.mp origin
    rw [text, String.toList_append, List.mem_append, not_or] at nul
    rw [text, String.utf8ByteSize_append] at limit
    rw [isAbsolute_of_text text filled] at place
    exact origin_eq_ok_iff.mpr ⟨nul.1, filled, by omega, place⟩
  · rw [segments_join_part dir fits.file.part] at segments
    obtain ⟨rfl, _⟩ := List.append_inj' segments rfl
    rw [route_eq, route_eq] at route
    exact followAll_of_filter (fun x mem => ne_blank_of_mem_segments mem) route followed stands

theorem LeadsTo.taken_makeParent (leads : t.LeadsTo dir root) (fits : FitsIn dir name) :
    taken (makeParent access (dir.join ⟨name⟩)) t = (.ok (), t) := by
  unfold makeParent
  cases above : (dir.join ⟨name⟩).parent? with
  | none => rfl
  | some parent =>
      simp only [taken_ite, taken_pure, taken_bind, taken_present]
      by_cases empty : parent.text = ""
      · rw [if_pos empty]
      · rw [if_neg empty, leads.find_parent fits above empty]
        rfl

end Disk.FileTree

end ModelMigration
