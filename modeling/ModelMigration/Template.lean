import ModelMigration.Text.Search

/-!
# Templates

A template is a text with tokens: names between double braces. Values are put in for the tokens
name after name, each search running over the text as the values in front left it.
-/

namespace ModelMigration

/-- The token of a name. -/
def token (name : String) : String := "\x7b\x7b" ++ name ++ "\x7d\x7d"

/-- Values for names, each name once, in the order in which the names were first given. -/
structure Placeholders where
  values : List (String × String)
deriving DecidableEq, Repr

namespace Placeholders

/-- No values. -/
def empty : Placeholders := ⟨[]⟩

/-- The pairs with one more at the end; an earlier value of the name gives way in its place. -/
def insertIn (name value : String) : List (String × String) → List (String × String)
  | [] => [(name, value)]
  | (other, old) :: rest =>
      if other = name then (other, value) :: rest else (other, old) :: insertIn name value rest

/-- The values with one more, over an earlier one of the name. -/
def insert (p : Placeholders) (name value : String) : Placeholders := ⟨insertIn name value p.values⟩

/-- The values of the pairs, put in from the first to the last. -/
def ofList (pairs : List (String × String)) : Placeholders :=
  pairs.foldl (fun p pair => p.insert pair.1 pair.2) empty

/-- The value of a name. -/
def get? (p : Placeholders) (name : String) : Option String := p.values.lookup name

end Placeholders

/-- The template with values for tokens; tokens without a value stay. -/
def substitute (template : String) (p : Placeholders) : String :=
  p.values.foldl (fun text pair => Text.replaced (token pair.1) pair.2 text) template

/-- The characters of the names that are looked for. -/
def isTokenChar (c : Char) : Bool := c.isAlphanum || c = '_'

/-- The name of the token that the text starts with, if it starts with one. -/
def tokenName? (text : List Char) : Option String :=
  match text with
  | '\x7b' :: '\x7b' :: rest =>
      let name := rest.takeWhile isTokenChar
      match rest.dropWhile isTokenChar with
      | '\x7d' :: '\x7d' :: _ => if name = [] then none else some (String.ofList name)
      | _ => none
  | _ => none

/--
The names of the tokens of a text from left to right, once the next `skip` characters, which belong
to a token already found, are dropped.
-/
def tokenNamesFrom : (skip : Nat) → List Char → List String
  | _, [] => []
  | skip + 1, _ :: cs => tokenNamesFrom skip cs
  | 0, c :: cs =>
      match tokenName? (c :: cs) with
      | some name => name :: tokenNamesFrom (name.length + 3) cs
      | none => tokenNamesFrom 0 cs

/-- The names of the tokens of a text from left to right, no two of which overlap. -/
def tokenNames (text : List Char) : List String := tokenNamesFrom 0 text

/-- The names of the tokens of a text, each once, in order of their first appearance. -/
def unresolved (text : String) : List String := (tokenNames text.toList).eraseDups

/-- A template with a name of its own. -/
structure Stub where
  name : String
  text : String
deriving DecidableEq, Repr

/-- The template's text with values for tokens. -/
def Stub.render (s : Stub) (p : Placeholders) : String := substitute s.text p

end ModelMigration
