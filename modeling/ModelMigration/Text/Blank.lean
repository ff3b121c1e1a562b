import ModelMigration.Text.Span

/-!
# Blank characters

The characters with the Unicode property `White_Space`, and trimming by them.
-/

namespace ModelMigration.Text

/-- The characters with the property `White_Space`. -/
def blankSpans : List Span := [
  ⟨0x9, 0xD, 1⟩, ⟨0x20, 0x20, 1⟩, ⟨0x85, 0x85, 1⟩, ⟨0xA0, 0xA0, 1⟩, ⟨0x1680, 0x1680, 1⟩,
  ⟨0x2000, 0x200A, 1⟩, ⟨0x2028, 0x2029, 1⟩, ⟨0x202F, 0x202F, 1⟩, ⟨0x205F, 0x205F, 1⟩,
  ⟨0x3000, 0x3000, 1⟩]

/-- Whether a character is white space. -/
def isBlank (c : Char) : Bool := Span.cover blankSpans c

/-- The characters without the white space in front. -/
def trimLeft (cs : List Char) : List Char := cs.dropWhile isBlank

/-- The characters without the white space at either end. -/
def trim (cs : List Char) : List Char := (trimLeft (trimLeft cs).reverse).reverse

/-- Whether there is nothing but white space. -/
def allBlank (cs : List Char) : Bool := cs.all isBlank

/-- The text without the white space at either end. -/
def trimmed (s : String) : String := String.ofList (trim s.toList)

/-- Whether the text is empty or nothing but white space. -/
def isBlankText (s : String) : Bool := allBlank s.toList

theorem trimLeft_eq_nil_iff (cs : List Char) : trimLeft cs = [] ↔ allBlank cs = true := by
  induction cs with
  | nil => simp [trimLeft, allBlank]
  | cons c cs ih =>
      cases blank : isBlank c with
      | true => simpa [trimLeft, allBlank, List.dropWhile_cons, blank] using ih
      | false => simp [trimLeft, allBlank, blank]

theorem trim_eq_nil_of_allBlank {cs : List Char} (h : allBlank cs = true) : trim cs = [] := by
  rw [trim, (trimLeft_eq_nil_iff cs).mpr h]
  rfl

end ModelMigration.Text
