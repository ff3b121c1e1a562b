import ModelMigration.Json.Scan

/-!
# Lists and members of a JSON text

How the elements of a list and the members of an object follow one another.
-/

namespace ModelMigration.Json

/-- What follows in a bracket: another item, or the end behind the closing bracket. -/
inductive Step where
  | item (rest : List Char)
  | closed (rest : List Char)

/-- Moves to the next element of a list, `first` in front of the first one. -/
def nextElement (first : Bool) (cs : List Char) : Except Stop Step :=
  match skipSpace cs with
  | [] => stop .endOfList []
  | ']' :: rest => .ok (.closed rest)
  | c :: rest =>
      if first then .ok (.item (c :: rest))
      else if c = ',' then
        match skipSpace rest with
        | [] => stop .endOfValue []
        | ']' :: rest => stopAt .trailingComma (']' :: rest)
        | rest => .ok (.item rest)
      else stopAt .listGoesOn (c :: rest)

/-- Reads the end of a list of which all elements have been read. -/
def closeList (cs : List Char) : Except Stop (List Char) :=
  match skipSpace cs with
  | [] => stop .endOfList []
  | ']' :: rest => .ok rest
  | ',' :: rest =>
      match skipSpace rest with
      | ']' :: rest => stopAt .trailingComma (']' :: rest)
      | rest => stopAt .trailingCharacters rest
  | rest => stopAt .trailingCharacters rest

/-- Reads the elements of a list behind its opening bracket or behind an element. -/
def elements {α : Type} (item : Scanner α) : (fuel : Nat) → (first : Bool) → Scanner (List α)
  | 0, _, cs => stop .endOfList cs
  | fuel + 1, first, cs => do
      match ← nextElement first cs with
      | .closed rest => .ok ([], rest)
      | .item rest =>
          let (x, rest) ← item rest
          let (xs, rest) ← elements item fuel false rest
          .ok (x :: xs, rest)

/-- Reads a list. -/
def list {α : Type} (item : Scanner α) : Scanner (List α) := fun cs =>
  match skipSpace cs with
  | [] => stop .endOfValue []
  | '[' :: rest => elements item (rest.length + 1) true rest
  | rest => unfit "a sequence" rest

/-- Moves behind the opening quote of the next key of an object. -/
def nextKey (first : Bool) (cs : List Char) : Except Stop Step :=
  match skipSpace cs with
  | [] => stop .endOfObject []
  | '\x7d' :: rest => .ok (.closed rest)
  | c :: rest =>
      if first then
        if c = '"' then .ok (.item rest) else stopAt .keyNotText (c :: rest)
      else if c = ',' then
        match skipSpace rest with
        | [] => stop .endOfValue []
        | '"' :: rest => .ok (.item rest)
        | '\x7d' :: rest => stopAt .trailingComma ('\x7d' :: rest)
        | rest => stopAt .keyNotText rest
      else stopAt .objectGoesOn (c :: rest)

/-- Reads the colon between a key and its value. -/
def colon (cs : List Char) : Except Stop (List Char) :=
  match skipSpace cs with
  | [] => stop .endOfObject []
  | ':' :: rest => .ok rest
  | rest => stopAt .colonExpected rest

end ModelMigration.Json
