/-!
# Pieces between separators

A text falls into the pieces between the occurrences of one character. There is always at least
one piece, and joining the pieces gives the text back.
-/

namespace ModelMigration.Text

/-- The pieces between the occurrences of `sep`. -/
def split (sep : Char) : List Char → List (List Char)
  | [] => [[]]
  | c :: cs =>
      if c = sep then [] :: split sep cs
      else
        match split sep cs with
        | [] => [[c]]
        | piece :: pieces => (c :: piece) :: pieces

/-- The pieces with `sep` between them. -/
def join (sep : List Char) : List (List Char) → List Char
  | [] => []
  | [piece] => piece
  | piece :: pieces => piece ++ sep ++ join sep pieces

/-- The pieces of a text between the occurrences of `sep`. -/
def pieces (sep : Char) (s : String) : List String := (split sep s.toList).map String.ofList

/-- The texts one after another with `sep` between them. -/
def joined (sep : String) (texts : List String) : String :=
  String.ofList (join sep.toList (texts.map String.toList))

theorem split_ne_nil (sep : Char) (cs : List Char) : split sep cs ≠ [] := by
  cases cs with
  | nil => simp [split]
  | cons c cs =>
      simp only [split]
      split
      · simp
      · split <;> simp

theorem join_split (sep : Char) (cs : List Char) : join [sep] (split sep cs) = cs := by
  induction cs with
  | nil => rfl
  | cons c cs ih =>
      simp only [split]
      split
      · next same =>
          cases found : split sep cs with
          | nil => exact absurd found (split_ne_nil sep cs)
          | cons piece pieces =>
            rw [found] at ih
            simp [join, ih, same]
      · cases found : split sep cs with
        | nil => exact absurd found (split_ne_nil sep cs)
        | cons piece pieces =>
            rw [found] at ih
            cases pieces <;> simp_all [join]

/-- No piece holds the separator. -/
theorem not_mem_of_mem_split {sep : Char} {cs piece : List Char} (mem : piece ∈ split sep cs) :
    sep ∉ piece := by
  induction cs generalizing piece with
  | nil => simp_all [split]
  | cons c cs ih =>
      simp only [split] at mem
      split at mem
      · rcases List.mem_cons.mp mem with rfl | tail
        · simp
        · exact ih tail
      · next other =>
          cases found : split sep cs with
          | nil => exact absurd found (split_ne_nil sep cs)
          | cons first rest =>
              rw [found] at mem
              rcases List.mem_cons.mp mem with rfl | tail
              · have := ih (found ▸ List.mem_cons_self)
                simp only [List.mem_cons, not_or]
                exact ⟨fun same => other same.symm, this⟩
              · exact ih (found ▸ List.mem_cons_of_mem _ tail)

end ModelMigration.Text
