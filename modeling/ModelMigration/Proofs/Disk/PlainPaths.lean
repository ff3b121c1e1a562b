import ModelMigration.Proofs.Disk.Places

/-!
# Plain paths

A plain path is relative, has no `..` parts and fits the limits of the system. In a rooted tree it
leads to the place that it spells whenever what it needs on the way is there, and a path that needs
a missing directory is not found.
-/

namespace ModelMigration

open Disk Disk.FileTree

namespace Path

/-- Whether a path is relative, without `..` parts, and neither too long nor with a part that is. -/
structure Plain (p : Path) : Prop where
  relative : p.isAbsolute = false
  noUp : ".." ∉ p.route
  noNul : '\x00' ∉ p.text.toList
  short : ∀ part ∈ p.segments, part.utf8ByteSize ≤ greatestName
  limit : p.text.utf8ByteSize < pathLimit

variable {p q : Path} {t : FileTree} {here : Location}

theorem plain_iff : p.Plain ↔ p.isAbsolute = false ∧ ".." ∉ p.route ∧ '\x00' ∉ p.text.toList ∧
    (∀ part ∈ p.segments, part.utf8ByteSize ≤ greatestName) ∧ p.text.utf8ByteSize < pathLimit :=
  ⟨fun plain => ⟨plain.relative, plain.noUp, plain.noNul, plain.short, plain.limit⟩,
    fun ⟨relative, noUp, noNul, short, limit⟩ => ⟨relative, noUp, noNul, short, limit⟩⟩

instance (p : Path) : Decidable p.Plain := decidable_of_iff' _ plain_iff

theorem Plain.placeOf_eq (plain : p.Plain) (here : Location) : placeOf here p = here ++ p.route := by
  simp [placeOf, plain.relative]

theorem Plain.origin (plain : p.Plain) (filled : p.text ≠ "") (t : FileTree) :
    t.origin p = .ok t.here :=
  origin_eq_ok_iff.mpr ⟨plain.noNul, filled, plain.limit, by simp [plain.relative]⟩

theorem Plain.parent (plain : p.Plain) (h : p.parent? = some q) : q.Plain := by
  obtain ⟨rest, text⟩ := exists_text_parent? h
  have above := route_isPrefix (components_isPrefix_of_parent? h)
  refine ⟨?_, fun up => plain.noUp (above.subset up), ?_, ?_, ?_⟩
  · by_cases empty : q.text = ""
    · simp [isAbsolute, empty]
    · rw [← isAbsolute_of_text text empty, plain.relative]
  · intro nul
    apply plain.noNul
    rw [text, String.toList_append]
    exact List.mem_append_left _ nul
  · intro part mem
    by_cases dot : part = "."
    · subst dot
      decide
    · have routed : part ∈ q.route := by
        rw [route_eq]
        exact List.mem_filter.mpr ⟨mem, by simpa using dot⟩
      exact plain.short part (mem_segments_of_mem_route (above.subset routed))
  · have limit := plain.limit
    rw [text, String.utf8ByteSize_append] at limit
    omega

theorem text_ne_empty_of_segments {last : String} {front : List String}
    (segments : p.segments = front ++ [last]) : p.text ≠ "" := by
  obtain ⟨text⟩ := p
  rintro rfl
  have none : Path.segments ⟨""⟩ = [] := by decide
  simp [none] at segments

end Path

namespace Disk.FileTree

open ModelMigration.Path

variable {p : Path} {t : FileTree} {place : Location} {last : String} {parts front : List String}

/-- Without a file in the way, parts lead to the place that they spell or are not found. -/
theorem followAll_or_notFound (plain : ∀ part ∈ parts, part ≠ "" ∧ part ≠ ".." ∧
      part.utf8ByteSize ≤ greatestName)
    (free : ∀ other, other <+: place ++ parts.filter (· ≠ ".") → t.file? other = none) :
    t.followAll place parts = .ok (place ++ parts.filter (· ≠ ".")) ∨
      t.followAll place parts = .error .notFound := by
  induction parts generalizing place with
  | nil => exact .inl (by simp)
  | cons part parts ih =>
      obtain ⟨filled, noUp, short⟩ := plain part List.mem_cons_self
      have others := fun x hx => plain x (List.mem_cons_of_mem _ hx)
      rw [followAll_cons]
      -- Nothing but a directory or nothing at all is met, since there is no file on the way.
      cases stands : t.entry? place with
      | none =>
          right
          have missing : t.follow place part = .error .notFound := by
            unfold follow passable
            rw [if_neg filled, stands]
            rfl
          rw [missing]
          rfl
      | some entry =>
          cases entry with
          | file content =>
              have noFile := free place (List.prefix_append _ _)
              rw [file?_eq_some_iff.mpr stands] at noFile
              contradiction
          | directory =>
              by_cases dot : part = "."
              · subst dot
                rw [follow_eq_ok_iff.mpr (.current stands)]
                exact ih others free
              · have spelled : place ++ (part :: parts).filter (· ≠ ".") =
                    place ++ [part] ++ parts.filter (· ≠ ".") := by simp [dot]
                rw [spelled] at free ⊢
                rw [follow_eq_ok_iff.mpr (.name stands filled dot noUp short)]
                exact ih others free

/-- Without a file in the way, what a plain path finds is a directory. -/
theorem entry?_of_find {found : Location × Entry} (plain : p.Plain)
    (free : ∀ other, other <+: t.here ++ p.route → t.file? other = none) (h : t.find p = .ok found) :
    t.entry? (t.here ++ p.route) = some .directory := by
  obtain ⟨place, entry⟩ := found
  have place_eq := eq_of_find plain.noUp h
  obtain ⟨_, _, _, stands, _⟩ := find_eq_ok_iff.mp h
  rw [place_eq, plain.placeOf_eq] at stands
  cases entry with
  | directory => exact stands
  | file content =>
      have noFile := free _ List.prefix_rfl
      rw [file?_eq_some_iff.mpr stands] at noFile
      contradiction

theorem plain_of_segments (plain : p.Plain) (segments : p.segments = front ++ [last]) :
    ∀ part ∈ front, part ≠ "" ∧ part ≠ ".." ∧ part.utf8ByteSize ≤ greatestName := by
  intro part mem
  have mem' : part ∈ p.segments := by simp [segments, mem]
  obtain ⟨filled, noUp⟩ := plain_segments plain.noUp part mem'
  exact ⟨filled, noUp, plain.short part mem'⟩

/-- A plain path ends at its last name in the directory that the parts in front spell. -/
theorem target_of_directory (rooted : Rooted t) (plain : p.Plain)
    (segments : p.segments = front ++ [last]) (noDot : last ≠ ".")
    (stands : t.entry? (t.here ++ front.filter (· ≠ ".")) = some .directory) :
    t.target p = .ok (.named (t.here ++ front.filter (· ≠ ".")) last) := by
  have followed := followAll_of_directory rooted (plain_of_segments plain segments) stands
  have noUp := (plain_segments plain.noUp last (by simp [segments])).2
  exact target_eq_named_iff.mpr ⟨t.here, front, plain.origin (text_ne_empty_of_segments segments) t,
    segments, followed, stands, noDot, noUp⟩

/-- Without that directory the end of the path is not found. -/
theorem target_of_missing (plain : p.Plain) (segments : p.segments = front ++ [last])
    (missing : t.entry? (t.here ++ front.filter (· ≠ ".")) ≠ some .directory)
    (free : ∀ other, other <+: t.here ++ front.filter (· ≠ ".") → t.file? other = none) :
    t.target p = .error .notFound := by
  rw [target_eq, plain.origin (text_ne_empty_of_segments segments) t, segments]
  simp only [List.reverse_append, List.reverse_cons, List.reverse_nil, List.nil_append,
    List.cons_append, List.reverse_reverse]
  show (t.followAll t.here front >>= _) = _
  rcases followAll_or_notFound (plain_of_segments plain segments) free with followed | followed
  · have noPassage : t.passable (t.here ++ front.filter (· ≠ ".")) = .error .notFound := by
      unfold passable
      cases stands : t.entry? (t.here ++ front.filter (· ≠ ".")) with
      | none => rfl
      | some entry =>
          cases entry with
          | directory => exact absurd stands missing
          | file content =>
              have noFile := free _ List.prefix_rfl
              rw [file?_eq_some_iff.mpr stands] at noFile
              contradiction
    rw [followed]
    show (t.passable _ >>= _) = _
    rw [noPassage]
    rfl
  · rw [followed]
    rfl

end Disk.FileTree

end ModelMigration
