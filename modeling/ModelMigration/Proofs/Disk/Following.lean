import ModelMigration.Proofs.FallibleSteps
import ModelMigration.Proofs.Path.Parents

/-!
# Following a path

Where a path leads in a file tree, and what keeps it leading there. A path is followed through
directories only, so it still leads to its place in any tree that has the directories of the first.
-/

namespace ModelMigration.Disk.FileTree

open ModelMigration.Path

variable {t u : FileTree} {p : Path} {place final directory : Location} {name part : String}
  {parts : List String} {entry : Entry}

/-! ## Entries -/

instance : DecidableEq Entry
  | .directory, .directory => isTrue rfl
  | .directory, .file _ => isFalse (by simp)
  | .file _, .directory => isFalse (by simp)
  | .file a, .file b =>
      decidable_of_iff (a.data = b.data)
        ⟨fun same => congrArg Entry.file (ByteArray.ext same), fun same => by cases same; rfl⟩

@[simp] theorem entry?_nil (t : FileTree) : t.entry? [] = some .directory := if_pos rfl

@[simp] theorem here_put (t : FileTree) (place : Location) (entry : Entry) :
    (t.put place entry).here = t.here := rfl

theorem entry?_put (t : FileTree) (directory : Location) (name : String) (entry : Entry)
    (other : Location) : entry? (t.put (directory ++ [name]) entry) other =
      if directory ++ [name] = other then some entry else t.entry? other := by
  by_cases root : other = []
  · simp [root]
  · unfold entry? put
    simp only [root, if_false, Std.ExtTreeMap.getElem?_insert, Std.LawfulEqCmp.compare_eq_iff_eq]

@[simp] theorem entry?_put_self (t : FileTree) (directory : Location) (name : String)
    (entry : Entry) : entry? (t.put (directory ++ [name]) entry) (directory ++ [name]) = some entry := by
  simp [entry?_put]

/-- The content of the file at a location. -/
def file? (t : FileTree) (place : Location) : Option ByteArray :=
  match t.entry? place with
  | some (.file content) => some content
  | _ => none

theorem file?_eq_some_iff {content : ByteArray} :
    t.file? place = some content ↔ t.entry? place = some (.file content) := by
  unfold file?
  split <;> simp_all

theorem file?_put_file (t : FileTree) (directory : Location) (name : String) (content : ByteArray)
    (other : Location) : file? (t.put (directory ++ [name]) (.file content)) other =
      if directory ++ [name] = other then some content else t.file? other := by
  unfold file?
  rw [entry?_put]
  by_cases same : directory ++ [name] = other <;> simp [same]

/-- The tree without the entry at a place. -/
def without (t : FileTree) (place : Location) : FileTree :=
  { t with entries := t.entries.erase place }

theorem entry?_without (t : FileTree) (directory : Location) (name : String) (other : Location) :
    entry? (t.without (directory ++ [name])) other =
      if directory ++ [name] = other then none else t.entry? other := by
  by_cases root : other = []
  · simp [root]
  · unfold entry? without
    simp only [root, if_false, Std.ExtTreeMap.getElem?_erase, Std.LawfulEqCmp.compare_eq_iff_eq]

theorem file?_without (t : FileTree) (directory : Location) (name : String) (other : Location) :
    file? (t.without (directory ++ [name])) other =
      if directory ++ [name] = other then none else t.file? other := by
  unfold file?
  rw [entry?_without]
  by_cases same : directory ++ [name] = other <;> simp [same]

/-! ## Parts -/

theorem passable_eq_ok_iff : t.passable place = .ok () ↔ t.entry? place = some .directory := by
  unfold passable
  split <;> simp_all

/-- How one part of a path leads on from a location. -/
inductive Followed (t : FileTree) (place : Location) : String → Location → Prop
  | blank : Followed t place "" place
  | current (passable : t.entry? place = some .directory) : Followed t place "." place
  | up (passable : t.entry? place = some .directory) : Followed t place ".." place.dropLast
  | name {part : String} (passable : t.entry? place = some .directory) (filled : part ≠ "")
      (noDot : part ≠ ".") (noUp : part ≠ "..") (short : part.utf8ByteSize ≤ greatestName) :
      Followed t place part (place ++ [part])

theorem follow_eq_ok_iff : t.follow place part = .ok final ↔ Followed t place part final := by
  unfold follow
  by_cases blank : part = ""
  · constructor
    · rw [if_pos blank, blank]
      rintro ⟨⟩
      exact .blank
    · intro followed
      cases followed with
      | blank => exact if_pos rfl
      | current => exact absurd blank (by decide)
      | up => exact absurd blank (by decide)
      | name _ filled => exact absurd blank filled
  · rw [if_neg blank]
    cases passable : t.passable place with
    | error refusal =>
        have stuck : t.entry? place ≠ some .directory := fun directory => by
          simp [passable_eq_ok_iff.mpr directory] at passable
        constructor
        · rintro ⟨⟩
        · intro followed
          cases followed <;> contradiction
    | ok =>
        have directory := passable_eq_ok_iff.mp passable
        show (if part = "." then pure place else _) = _ ↔ _
        constructor
        · intro next
          by_cases dot : part = "."
          · rw [if_pos dot] at next
            cases next
            exact dot ▸ .current directory
          · by_cases up : part = ".."
            · rw [if_neg dot, if_pos up] at next
              cases next
              exact up ▸ .up directory
            · by_cases long : greatestName < part.utf8ByteSize
              · simp [dot, up, long] at next
              · rw [if_neg dot, if_neg up, if_neg long] at next
                cases next
                exact .name directory blank dot up (Nat.le_of_not_lt long)
        · intro followed
          cases followed with
          | blank => contradiction
          | current => rfl
          | up => rfl
          | name _ _ dot up short =>
              rw [if_neg dot, if_neg up, if_neg (Nat.not_lt.mpr short)]
              rfl

@[simp] theorem followAll_nil (t : FileTree) (place : Location) :
    t.followAll place [] = .ok place := rfl

theorem followAll_cons (t : FileTree) (place : Location) (part : String) (parts : List String) :
    t.followAll place (part :: parts) = (t.follow place part >>= (t.followAll · parts)) := rfl

theorem followAll_cons_eq_ok_iff : t.followAll place (part :: parts) = .ok final ↔
    ∃ next, Followed t place part next ∧ t.followAll next parts = .ok final := by
  simp only [followAll_cons, bind_eq_ok_iff, follow_eq_ok_iff]

theorem followAll_append_eq_ok_iff {front back : List String} :
    t.followAll place (front ++ back) = .ok final ↔
      ∃ middle, t.followAll place front = .ok middle ∧ t.followAll middle back = .ok final := by
  induction front generalizing place with
  | nil => simp
  | cons part front ih =>
      simp only [List.cons_append, followAll_cons_eq_ok_iff, ih]
      constructor
      · rintro ⟨next, followed, middle, inFront, behind⟩
        exact ⟨middle, ⟨next, followed, inFront⟩, behind⟩
      · rintro ⟨middle, ⟨next, followed, inFront⟩, behind⟩
        exact ⟨next, followed, middle, inFront, behind⟩

theorem followAll_filter (t : FileTree) (place : Location) (parts : List String) :
    t.followAll place (parts.filter (· ≠ "")) = t.followAll place parts := by
  induction parts generalizing place with
  | nil => rfl
  | cons part parts ih =>
      by_cases blank : part = ""
      · subst blank
        exact ih place
      · have kept : (part :: parts).filter (· ≠ "") = part :: parts.filter (· ≠ "") := by
          simp [blank]
        rw [kept, followAll_cons, followAll_cons]
        exact congrArg _ (funext ih)

end ModelMigration.Disk.FileTree
