import ModelMigration.Text.Alphanumeric
import ModelMigration.Text.Letters
import ModelMigration.Text.LowerCase
import ModelMigration.Text.UpperCase

/-!
# Words of an identifier

Text such as `blog_post`, `BlogPost` or `HTTPServer` falls into words. Characters that are neither
letters nor digits separate words, and so does a change of case: a word ends after a lower-case
letter that a capital follows, and before the last of several capitals that a lower-case letter
follows.
-/

namespace ModelMigration.Text

/-- The case of the letter that a word was last seen to hold. -/
inductive Case where
  | none
  | lower
  | upper
deriving DecidableEq, Repr

/-- The case of the word behind a character; one without case leaves it as it was. -/
def Case.after (current : Case) (c : Char) : Case :=
  if isLowercase c then .lower else if isUppercase c then .upper else current

/--
The words of a run without separators. `word` holds the characters of the word under way, the last
first, and `current` its case.
-/
def wordsFrom (word : List Char) (current : Case) : List Char → List (List Char)
  | [] => []
  | [c] => [(c :: word).reverse]
  | c :: next :: cs =>
      if current.after c = .lower && isUppercase next then
        (c :: word).reverse :: wordsFrom [] .none (next :: cs)
      else if current = .upper && isUppercase c && isLowercase next then
        word.reverse :: wordsFrom [c] .none (next :: cs)
      else wordsFrom (c :: word) (current.after c) (next :: cs)

/-- The runs of letters and digits of a text, some of them empty. -/
def runs : List Char → List (List Char)
  | [] => [[]]
  | c :: cs =>
      match runs cs with
      | [] => [[]]
      | run :: others => if isAlphanumeric c then (c :: run) :: others else [] :: run :: others

/-- The words of a text, in order. -/
def words (cs : List Char) : List (List Char) := (runs cs).flatMap (wordsFrom [] .none)

/-- The characters behind the first of a word in lower case; a last capital sigma is a final one. -/
def lowerTail : List Char → List Char
  | [] => []
  | ['Σ'] => ['ς']
  | c :: cs => lowercaseForm c ++ lowerTail cs

/-- The word with a capital in front and lower case behind it. -/
def capitalized : List Char → List Char
  | [] => []
  | c :: cs => uppercaseForm c ++ lowerTail cs

/-- The words of a text, each capitalized, put together. -/
def pascalCase (s : String) : String := String.ofList ((words s.toList).flatMap capitalized)

end ModelMigration.Text
