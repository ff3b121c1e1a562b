import ModelMigration.Text.Split

/-!
# Splitting and joining

A separator between two texts separates their pieces, and pieces without a separator are the pieces
of what they are joined to.
-/

namespace ModelMigration.Text

variable {sep : Char}

theorem split_append_sep (cs ds : List Char) :
    split sep (cs ++ sep :: ds) = split sep cs ++ split sep ds := by
  induction cs with
  | nil => simp [split]
  | cons c cs ih =>
      by_cases same : c = sep
      · simp [split, same, ih]
      · cases found : split sep cs with
        | nil => exact absurd found (split_ne_nil sep cs)
        | cons piece pieces => simp [split, same, ih, found]

theorem split_of_not_mem {cs : List Char} (free : sep ∉ cs) : split sep cs = [cs] := by
  induction cs with
  | nil => rfl
  | cons c cs ih =>
      rw [List.mem_cons, not_or] at free
      have rest := ih free.2
      have other : c ≠ sep := fun same => free.1 same.symm
      simp [split, other, rest]

/-- The pieces are the text without the separators. -/
theorem flatten_split (cs : List Char) : (split sep cs).flatten = cs.filter (· ≠ sep) := by
  induction cs with
  | nil => rfl
  | cons c cs ih =>
      by_cases same : c = sep
      · simpa [split, same] using ih
      · cases found : split sep cs with
        | nil => exact absurd found (split_ne_nil sep cs)
        | cons piece pieces => simpa [split, same, found] using ih

theorem join_cons_cons (piece next : List Char) (pieces : List (List Char)) :
    join [sep] (piece :: next :: pieces) = piece ++ sep :: join [sep] (next :: pieces) := by
  simp [join]

/-- Where a separator first occurs is told by the text. -/
theorem append_sep_inj {cs ds xs ys : List Char} (hc : sep ∉ cs) (hd : sep ∉ ds)
    (same : cs ++ sep :: xs = ds ++ sep :: ys) : cs = ds ∧ xs = ys := by
  rcases List.append_eq_append_iff.mp same with ⟨between, rfl, rest⟩ | ⟨between, rfl, rest⟩
  · cases between with
    | nil => simpa using rest
    | cons c between =>
        obtain ⟨rfl, _⟩ := List.cons.inj rest
        simp at hd
  · cases between with
    | nil => simpa using rest.symm
    | cons c between =>
        obtain ⟨rfl, _⟩ := List.cons.inj rest
        simp at hc

theorem split_join {pieces : List (List Char)} (some : pieces ≠ [])
    (free : ∀ piece ∈ pieces, sep ∉ piece) : split sep (join [sep] pieces) = pieces := by
  induction pieces with
  | nil => exact absurd rfl some
  | cons piece pieces ih =>
      have first := split_of_not_mem (free piece List.mem_cons_self)
      cases pieces with
      | nil => exact first
      | cons next pieces =>
          have rest := ih (by simp) fun x hx => free x (List.mem_cons_of_mem _ hx)
          rw [join_cons_cons, split_append_sep, first, rest]
          rfl

/-- The pieces of a text are the texts without separator that it is joined from. -/
theorem pieces_eq_iff {mark s : String} {texts : List String} (one : mark.toList = [sep]) :
    pieces sep s = texts ↔
      texts ≠ [] ∧ (∀ text ∈ texts, sep ∉ text.toList) ∧ s = joined mark texts := by
  constructor
  · rintro rfl
    refine ⟨by simp [pieces, split_ne_nil], ?_, ?_⟩
    · intro text mem
      obtain ⟨piece, inside, rfl⟩ := List.mem_map.mp mem
      rw [String.toList_ofList]
      exact not_mem_of_mem_split inside
    · rw [joined, pieces, one, List.map_map]
      simp [Function.comp_def, join_split]
  · rintro ⟨some, free, rfl⟩
    rw [pieces, joined, one, String.toList_ofList, split_join (by simpa using some)]
    · simp [Function.comp_def]
    · intro piece mem
      obtain ⟨text, inside, rfl⟩ := List.mem_map.mp mem
      exact free text inside

theorem pieces_eq_pair_iff {mark s front back : String} (one : mark.toList = [sep]) :
    pieces sep s = [front, back] ↔
      sep ∉ front.toList ∧ sep ∉ back.toList ∧ s = front ++ mark ++ back := by
  have whole : joined mark [front, back] = front ++ mark ++ back := by
    apply String.toList_injective
    simp [joined, join]
  simp [pieces_eq_iff one, whole, and_assoc]

theorem join_append {pieces others : List (List Char)} (some : pieces ≠ []) (more : others ≠ []) :
    join [sep] (pieces ++ others) = join [sep] pieces ++ sep :: join [sep] others := by
  induction pieces with
  | nil => exact absurd rfl some
  | cons piece pieces ih =>
      cases pieces with
      | nil =>
          cases others with
          | nil => exact absurd rfl more
          | cons other others => exact join_cons_cons piece other others
      | cons next pieces =>
          have rest := ih (by simp)
          simp only [List.cons_append] at rest ⊢
          rw [join_cons_cons, join_cons_cons, rest, List.append_assoc, List.cons_append]

theorem join_isPrefix {front pieces : List (List Char)} (fewer : front <+: pieces) :
    join [sep] front <+: join [sep] pieces := by
  obtain ⟨others, rfl⟩ := fewer
  by_cases none : front = []
  · simp [none, join]
  · by_cases all : others = []
    · simp [all]
    · rw [join_append none all]
      exact List.prefix_append _ _

theorem length_split_le (cs : List Char) : (split sep cs).length ≤ cs.length + 1 := by
  induction cs with
  | nil => simp [split]
  | cons c cs ih =>
      by_cases same : c = sep
      · simp only [split, same, if_true, List.length_cons]
        omega
      · cases found : split sep cs with
        | nil => exact absurd found (split_ne_nil sep cs)
        | cons piece pieces =>
            rw [found] at ih
            simp only [split, same, if_false, found, List.length_cons] at ih ⊢
            omega

end ModelMigration.Text
