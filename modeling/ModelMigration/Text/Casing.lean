import ModelMigration.Text.Letters
import ModelMigration.Text.LowerCase

/-!
# Lower case

A text in lower case, by the full case map: a character may become several, and a capital sigma at
the end of a word becomes the final form `ς`.
-/

namespace ModelMigration.Text

/-- Whether the first character that is not ignored for casing is a cased letter. -/
def meetsCased (cs : List Char) : Bool :=
  match cs.dropWhile isCaseIgnorable with
  | [] => false
  | c :: _ => isCased c

/-- A capital sigma stands at the end of a word: a cased letter before it and none behind. -/
def endsWord (before behind : List Char) : Bool := meetsCased before && !meetsCased behind

/-- The lower case of the characters, `before` being those in front of them, nearest first. -/
def lowerAfter : (before : List Char) → List Char → List Char
  | _, [] => []
  | before, c :: cs =>
      (if c = 'Σ' then [if endsWord before cs then 'ς' else 'σ'] else lowercaseForm c) ++
        lowerAfter (c :: before) cs

/-- The text in lower case. -/
def lowered (s : String) : String := String.ofList (lowerAfter [] s.toList)

end ModelMigration.Text
