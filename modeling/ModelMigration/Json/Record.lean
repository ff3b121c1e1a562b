import ModelMigration.Json.List
import ModelMigration.Json.Skip

/-!
# Records in a JSON text

A record is an object with known keys. Members with other keys are passed over, a known key may not
be repeated, and one that is left out takes its default or is missed. A list of the values in the
order of the keys stands for the record too; values at its end may be left out in the same way.
-/

namespace ModelMigration.Json

/-- A key of a record, how its value is read, and the value of a key left out, if it may be. -/
structure Slot (α : Type) where
  key : String
  read : Scanner α
  default? : Option α

/-- The value of a slot among the members found. -/
def Slot.value? {α : Type} (slot : Slot α) (found : List (String × α)) : Except Cause α :=
  match found.lookup slot.key with
  | some x => .ok x
  | none =>
      match slot.default? with
      | some x => .ok x
      | none => .error (.missingKey slot.key)

/-- The values of the slots in order, given the members found. -/
def settle {α : Type} (slots : List (Slot α)) (found : List (String × α)) : Except Cause (List α) :=
  slots.mapM fun slot => slot.value? found

/-- Reads the members of a record and gives those with known keys. -/
def members {α : Type} (slots : List (Slot α)) :
    (fuel : Nat) → (first : Bool) → (found : List (String × α)) → Scanner (List (String × α))
  | 0, _, _, cs => stop .endOfObject cs
  | fuel + 1, first, found, cs => do
      match ← nextKey first cs with
      | .closed rest => .ok (found, rest)
      | .item rest =>
          let (key, rest) ← textBody rest
          match slots.find? fun slot => slot.key = key with
          | none =>
              let rest ← skipValue (← colon rest)
              members slots fuel false found rest
          | some slot =>
              if (found.lookup key).isSome then stop (.repeatedKey key) (skipSpace rest)
              else
                let (x, rest) ← slot.read (← colon rest)
                members slots fuel false (found ++ [(key, x)]) rest

/-- Reads the values of a record that is written as a list; `read` of them have been read. -/
def positional {α : Type} (record : String) (needed : Nat) :
    List (Slot α) → (read : Nat) → Scanner (List α)
  | [], _, cs => do .ok ([], ← closeList cs)
  | slot :: slots, read, cs => do
      match ← nextElement (read = 0) cs with
      | .item rest =>
          let (x, rest) ← slot.read rest
          let (xs, rest) ← positional record needed slots (read + 1) rest
          .ok (x :: xs, rest)
      | .closed rest =>
          match slot.default? with
          | some x => do
              let (xs, _) ← positional record needed slots (read + 1) (']' :: rest)
              .ok (x :: xs, rest)
          | none => stop (.tooShort read record needed) rest

/-- Reads a record: the values of the slots, in their order. -/
def record {α : Type} (name : String) (slots : List (Slot α)) : Scanner (List α) := fun cs =>
  match skipSpace cs with
  | [] => stop .endOfValue []
  | '[' :: rest => positional name slots.length slots 0 rest
  | '\x7b' :: rest => do
      let (found, rest) ← members slots (rest.length + 1) true [] rest
      match settle slots found with
      | .ok values => .ok (values, rest)
      | .error cause => stop cause rest
  | rest => unfit name rest

/-- Reads a text that holds one value and nothing else but white space. -/
def readWhole {α : Type} (scan : Scanner α) (s : String) : Except Fault α :=
  let result := do
    let (x, rest) ← scan s.toList
    match skipSpace rest with
    | [] => .ok x
    | rest => stopAt .trailingCharacters rest
  match result with
  | .ok x => .ok x
  | .error found =>
      let bytes := s.toUTF8.data.toList
      .error (.behind found.cause (bytes.take (bytes.length - found.left)))

end ModelMigration.Json
