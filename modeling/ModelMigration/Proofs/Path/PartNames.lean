import ModelMigration.Proofs.Path.Parents

/-!
# Names as parts of paths

A text without slashes that is no `.` and no `..` stands for one component, and comes last in every
path that it is joined to.
-/

namespace ModelMigration.Path

/-- Whether a text is one part of a path and a name. -/
structure PartName (name : String) : Prop where
  filled : name ≠ ""
  noSlash : '/' ∉ name.toList
  noDot : name ≠ "."
  noUp : name ≠ ".."

variable {p q : Path} {name : String}

theorem partName_of_length (long : 2 < name.toList.length) (noSlash : '/' ∉ name.toList) :
    PartName name := by
  have other : ∀ s : String, s.toList.length ≤ 2 → name ≠ s := by
    rintro s few rfl
    omega
  exact ⟨other "" (by decide), noSlash, other "." (by decide), other ".." (by decide)⟩

theorem PartName.relative (part : PartName name) : isAbsolute ⟨name⟩ = false := by
  unfold isAbsolute
  cases chars : name.toList with
  | nil => rfl
  | cons c cs =>
      have other : c ≠ '/' := by
        rintro rfl
        exact part.noSlash (by simp [chars])
      simpa using other

/-! ## Joining -/

/-- What stands in front of a relative path that is joined to a path. -/
def front (p : Path) : String :=
  if p.text = "" then "" else if p.text.toList.getLast? = some '/' then p.text else p.text ++ "/"

theorem text_join (p : Path) (relative : q.isAbsolute = false) :
    (p.join q).text = p.front ++ q.text := by
  simp only [join, front, relative, Bool.false_or, decide_eq_true_eq]
  split
  · rw [String.empty_append]
  · split <;> rfl

theorem mem_front {c : Char} (mem : c ∈ p.front.toList) : c ∈ p.text.toList ∨ c = '/' := by
  unfold front at mem
  split at mem
  · simp at mem
  · split at mem
    · exact .inl mem
    · simpa using mem

theorem isAbsolute_join (p : Path) (relative : q.isAbsolute = false) :
    (p.join q).isAbsolute = p.isAbsolute := by
  by_cases empty : p.text = ""
  · obtain rfl := eq_blank empty
    rw [join, if_pos (by simp), relative]
    rfl
  · obtain ⟨rest, text⟩ := exists_text_join relative empty
    exact isAbsolute_of_text text empty

theorem PartName.segments_eq (part : PartName name) : segments ⟨name⟩ = [name] := by
  have filled : name.toList ≠ [] := by simpa using part.filled
  rw [Path.segments_eq, segmentsOf_of_not_mem filled part.noSlash, String.ofList_toList]

theorem segments_join_part (dir : Path) (part : PartName name) :
    (dir.join ⟨name⟩).segments = dir.segments ++ [name] := by
  rw [segments_join dir part.relative, part.segments_eq]

theorem route_join_part (dir : Path) (part : PartName name) :
    (dir.join ⟨name⟩).route = dir.route ++ [name] := by
  have alone : route ⟨name⟩ = [name] := by
    rw [route_eq, part.segments_eq]
    simp [part.noDot]
  rw [route_join dir part.relative, alone]

theorem PartName.componentsOf_eq (part : PartName name) :
    componentsOf (partsOf name.toList) = [.name name] := by
  have blank : name.toList ≠ [] := by simpa using part.filled
  have dot : name.toList ≠ ['.'] := fun same => part.noDot (String.toList_injective same)
  have up : name.toList ≠ ['.', '.'] := fun same => part.noUp (String.toList_injective same)
  simp [partsOf, Text.split_of_not_mem part.noSlash, componentsOf, Component.ofPart?, blank, dot,
    up]

/-- A joined path has the components of both, but for a lead of the path behind. -/
theorem components_join {dir : Path} (filled : dir.text ≠ "") (relative : q.isAbsolute = false) :
    (dir.join q).components = dir.components ++ componentsOf (partsOf q.text.toList) := by
  simp only [join, relative, Bool.false_or, decide_eq_true_eq]
  rw [if_neg filled]
  split
  · next slash =>
      obtain ⟨front, same⟩ := List.getLast?_eq_some_iff.mp slash
      by_cases root : front = []
      · have text : dir.text = "/" := String.toList_injective (by rw [same, root]; rfl)
        have alone : dir.components = [.root] := by rw [components_eq, text]; decide
        have lead : leadOf (dir.text ++ q.text).toList = (.slash, q.text.toList) := by
          rw [text, String.toList_append]
          rfl
        rw [alone, components_eq, lead]
        rfl
      · have filled : String.ofList front ≠ "" := by simpa using root
        have first : dir.components =
            components ⟨String.ofList front⟩ ++ componentsOf (partsOf []) :=
          components_append_slash filled (by simp [same])
        have none : componentsOf (partsOf []) = [] := rfl
        rw [first, none, List.append_nil]
        exact components_append_slash filled (by simp [same])
  · exact components_append_slash filled (by simp)

theorem components_join_part (dir : Path) (part : PartName name) :
    (dir.join ⟨name⟩).components = dir.components ++ [.name name] := by
  by_cases empty : dir.text = ""
  · obtain rfl := eq_blank empty
    have none : components ⟨""⟩ = [] := by decide
    have alone : join ⟨""⟩ ⟨name⟩ = ⟨name⟩ := by simp [join]
    -- The name alone is its own only part, with no lead in front.
    have lead := leadOf_of_not_mem part.noSlash fun dot => part.noDot (String.toList_injective dot)
    rw [none, alone, components_eq, List.nil_append, lead, part.componentsOf_eq]
    rfl
  · rw [components_join empty part.relative, part.componentsOf_eq]

/-- A name stands directly in the directory that it is joined to. -/
theorem exists_parent?_join_part (dir : Path) (part : PartName name) :
    ∃ parent, (dir.join ⟨name⟩).parent? = some parent ∧ parent.components = dir.components := by
  have components := components_join_part dir part
  cases above : (dir.join ⟨name⟩).parent? with
  | none =>
      have route := route_eq_nil_of_parent? above
      rw [route_join_part dir part] at route
      simp at route
  | some parent =>
      refine ⟨parent, rfl, ?_⟩
      rcases components_parent? above with ⟨current, _⟩ | ⟨last, _, longer, _⟩
      · rw [components] at current
        exact absurd (congrArg List.getLast? current) (by simp)
      · rw [components] at longer
        exact (List.append_inj' longer rfl).1.symm

/-! ## Names at the end of paths -/

theorem ne_empty_of_mem_components (mem : Component.name name ∈ p.components) : name ≠ "" := by
  rw [components_eq, List.mem_append] at mem
  rcases mem with lead | behind
  · cases whole : (leadOf p.text.toList).1 <;> simp [whole, Lead.component?] at lead
  · obtain ⟨part, -, stands⟩ := List.mem_filterMap.mp behind
    simp only [Component.ofPart?, Bool.or_eq_true, decide_eq_true_eq] at stands
    split at stands
    · contradiction
    · next filled =>
        split at stands <;> cases stands
        simpa using (not_or.mp filled).1

theorem fileName?_ne_empty (h : p.fileName? = some name) : name ≠ "" := by
  unfold fileName? at h
  split at h
  · next last =>
      obtain rfl := Option.some.inj h
      exact ne_empty_of_mem_components (List.mem_of_getLast? last)
  · contradiction

/-- What is taken for the stem of a name is not empty. -/
theorem fileStem?_ne_empty {stem : String} (h : p.fileStem? = some stem) : stem ≠ "" := by
  obtain ⟨name, found, rfl⟩ := Option.map_eq_some_iff.mp h
  have filled := fileName?_ne_empty found
  split
  · exact filled
  · exact filled
  · dsimp only
    split
    · exact filled
    · next some => simpa using some

end ModelMigration.Path
