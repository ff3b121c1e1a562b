import ModelMigration.Json.Record

/-!
# JSON values

Any JSON value, how it is read, and how it is written on one line or indented.
-/

namespace ModelMigration.Json

/-- A JSON value; the members of an object keep their order. -/
inductive Value where
  | null
  | bool (b : Bool)
  | number (n : Number)
  | text (s : String)
  | list (items : List Value)
  | object (members : List (String × Value))

/-- Reads the members of an object behind its opening bracket or behind a member. -/
def entries {α : Type} (item : Scanner α) :
    (fuel : Nat) → (first : Bool) → Scanner (List (String × α))
  | 0, _, cs => stop .endOfObject cs
  | fuel + 1, first, cs => do
      match ← nextKey first cs with
      | .closed rest => .ok ([], rest)
      | .item rest =>
          let (key, rest) ← textBody rest
          let (x, rest) ← item (← colon rest)
          let (xs, rest) ← entries item fuel false rest
          .ok ((key, x) :: xs, rest)

/-- Reads a value in which at most `depth` brackets are open at one place. -/
def value : (depth : Nat) → Scanner Value
  | depth, cs =>
      match skipSpace cs with
      | [] => stop .endOfValue []
      | 'n' :: rest => do .ok (.null, ← word ['u', 'l', 'l'] rest)
      | 't' :: rest => do .ok (.bool true, ← word ['r', 'u', 'e'] rest)
      | 'f' :: rest => do .ok (.bool false, ← word ['a', 'l', 's', 'e'] rest)
      | '"' :: rest => do
          let (s, rest) ← textBody rest
          .ok (.text s, rest)
      | '[' :: rest =>
          match depth with
          | 0 => stopAt .tooDeep ('[' :: rest)
          | depth + 1 => do
              let (items, rest) ← elements (value depth) (rest.length + 1) true rest
              .ok (.list items, rest)
      | '\x7b' :: rest =>
          match depth with
          | 0 => stopAt .tooDeep ('\x7b' :: rest)
          | depth + 1 => do
              let (members, rest) ← entries (value depth) (rest.length + 1) true rest
              .ok (.object members, rest)
      | c :: rest =>
          if c = '-' || c.isDigit then do
            let (n, rest) ← number (c :: rest)
            .ok (.number n, rest)
          else stopAt .valueExpected (c :: rest)

/-- The number of brackets that may be open at one place of a value. -/
def greatestDepth : Nat := 127

/-- The value that a text holds. -/
def Value.read (s : String) : Except Fault Value := readWhole (value greatestDepth) s

/-! ## Writing -/

/-- The letters of a control character's number. -/
def unitDigits (n : Nat) : List Char :=
  let digits := Nat.toDigits 16 n
  List.replicate (4 - digits.length) '0' ++ digits

/-- How a character is written in a text. -/
def escaped (c : Char) : List Char :=
  match c with
  | '"' => ['\\', '"']
  | '\\' => ['\\', '\\']
  | '\x08' => ['\\', 'b']
  | '\x0c' => ['\\', 'f']
  | '\n' => ['\\', 'n']
  | '\r' => ['\\', 'r']
  | '\t' => ['\\', 't']
  | c => if isControl c then '\\' :: 'u' :: unitDigits c.toNat else [c]

/-- A text as it is written. -/
def written (s : String) : List Char := '"' :: s.toList.flatMap escaped ++ ['"']

namespace Value

mutual

/-- The value on one line, without white space. -/
def compact : Value → List Char
  | .null => ['n', 'u', 'l', 'l']
  | .bool b => (if b then "true" else "false").toList
  | .number n => n.text.toList
  | .text s => written s
  | .list items => '[' :: compactItems items ++ [']']
  | .object members => '\x7b' :: compactMembers members ++ ['\x7d']

/-- The elements with commas between them. -/
def compactItems : List Value → List Char
  | [] => []
  | [x] => x.compact
  | x :: y :: rest => x.compact ++ ',' :: compactItems (y :: rest)

/-- The members with commas between them. -/
def compactMembers : List (String × Value) → List Char
  | [] => []
  | [(key, x)] => written key ++ ':' :: x.compact
  | (key, x) :: y :: rest => written key ++ ':' :: x.compact ++ ',' :: compactMembers (y :: rest)

end

/-- A line break with the given number of steps of indentation behind it. -/
def lineBreak (level : Nat) : List Char := '\n' :: List.replicate (2 * level) ' '

mutual

/-- The value with each element and member on a line of its own, indented by two blanks a step. -/
def pretty (level : Nat) : Value → List Char
  | .null => ['n', 'u', 'l', 'l']
  | .bool b => (if b then "true" else "false").toList
  | .number n => n.text.toList
  | .text s => written s
  | .list [] => ['[', ']']
  | .list (x :: items) => '[' :: prettyItems (level + 1) (x :: items) ++ lineBreak level ++ [']']
  | .object [] => ['\x7b', '\x7d']
  | .object (m :: members) =>
      '\x7b' :: prettyMembers (level + 1) (m :: members) ++ lineBreak level ++ ['\x7d']

/-- The elements, each on its own line. -/
def prettyItems (level : Nat) : List Value → List Char
  | [] => []
  | [x] => lineBreak level ++ x.pretty level
  | x :: y :: rest => lineBreak level ++ x.pretty level ++ ',' :: prettyItems level (y :: rest)

/-- The members, each on its own line. -/
def prettyMembers (level : Nat) : List (String × Value) → List Char
  | [] => []
  | [(key, x)] => lineBreak level ++ written key ++ ':' :: ' ' :: x.pretty level
  | (key, x) :: y :: rest =>
      lineBreak level ++ written key ++ ':' :: ' ' :: x.pretty level ++
        ',' :: prettyMembers level (y :: rest)

end

/-- The value on one line. -/
def line (x : Value) : String := String.ofList x.compact

/-- The value on indented lines. -/
def indented (x : Value) : String := String.ofList (x.pretty 0)

end Value

end ModelMigration.Json
