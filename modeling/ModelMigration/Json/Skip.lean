import ModelMigration.Json.Scan

/-!
# Passing over values

A member with an unknown key is passed over. Its value has to be well formed, but numbers may be of
any size, escapes may stand for half a pair, and lists and objects may be nested to any depth.
-/

namespace ModelMigration.Json.Skip

/-- The bracket that a value under way stands in. -/
inductive Frame where
  | list
  | object
deriving DecidableEq, Repr

/-- The cause where a bracket is not closed. -/
def Frame.unclosed : Frame → Cause
  | .list => .endOfList
  | .object => .endOfObject

/-- The cause where something else than a comma or the closing bracket follows. -/
def Frame.goesOn : Frame → Cause
  | .list => .listGoesOn
  | .object => .objectGoesOn

/-- The closing bracket. -/
def Frame.closing : Frame → Char
  | .list => ']'
  | .object => '\x7d'

/-- Passes over the power of ten behind its letter. -/
def power (cs : List Char) : Except Stop (List Char) :=
  match (exponentSign cs).2 with
  | [] => stop .badNumber []
  | c :: rest =>
      if c.isDigit then .ok (rest.dropWhile Char.isDigit) else stopAt .badNumber (c :: rest)

/-- Passes over a power of ten, if there is one. -/
def optionalPower : List Char → Except Stop (List Char)
  | 'e' :: cs => power cs
  | 'E' :: cs => power cs
  | cs => .ok cs

/-- Passes over what follows the whole part of a number. -/
def afterWhole : List Char → Except Stop (List Char)
  | '.' :: cs =>
      if digitNext cs then optionalPower (cs.dropWhile Char.isDigit) else stopAt .badNumber cs
  | cs => optionalPower cs

/-- Passes over a number behind its sign. -/
def unsigned : List Char → Except Stop (List Char)
  | [] => stop .badNumber []
  | '0' :: cs => if digitNext cs then stopAt .badNumber cs else afterWhole cs
  | c :: cs =>
      if c.isDigit then afterWhole (cs.dropWhile Char.isDigit) else stopAt .badNumber (c :: cs)

/-- Passes over a text behind its opening quote. -/
def textFrom : (fuel : Nat) → List Char → Except Stop (List Char)
  | _, [] => stop .endOfText []
  | 0, cs => stop .endOfText cs
  | fuel + 1, c :: cs =>
      if c = '"' then .ok cs
      else if c = '\\' then
        match cs with
        | [] => stop .endOfText []
        | 'u' :: rest => do
            let (_, rest) ← hexUnit rest
            textFrom fuel rest
        | e :: rest => if (simpleEscape? e).isSome then textFrom fuel rest else stopAt .badEscape cs
      else if isControl c then stop .controlCharacter (c :: cs)
      else textFrom fuel cs

/-- Passes over a text behind its opening quote. -/
def text (cs : List Char) : Except Stop (List Char) := textFrom cs.length cs

/-- Passes over the key of a member and its colon. -/
def key (cs : List Char) : Except Stop (List Char) :=
  match skipSpace cs with
  | [] => stop .endOfObject []
  | '"' :: rest => do
      match skipSpace (← text rest) with
      | [] => stop .endOfObject []
      | ':' :: rest => .ok rest
      | rest => stopAt .colonExpected rest
  | rest => stopAt .keyNotText rest

/-- Passes over what has to stand in front of a value in a bracket. -/
def Frame.lead (frame : Frame) (cs : List Char) : Except Stop (List Char) :=
  match frame with
  | .list => .ok cs
  | .object => key cs

/-- What passing over one part of a value leads to. -/
inductive Next where
  /-- The part was a value of its own. -/
  | ended (rest : List Char)
  /-- The part was an opening bracket. -/
  | opened (frame : Frame) (rest : List Char)

/-- Passes over a value without brackets, or over an opening bracket. -/
def part (cs : List Char) : Except Stop Next :=
  match skipSpace cs with
  | [] => stop .endOfValue []
  | 'n' :: rest => do return .ended (← word ['u', 'l', 'l'] rest)
  | 't' :: rest => do return .ended (← word ['r', 'u', 'e'] rest)
  | 'f' :: rest => do return .ended (← word ['a', 'l', 's', 'e'] rest)
  | '-' :: rest => do return .ended (← unsigned rest)
  | '"' :: rest => do return .ended (← text rest)
  | '[' :: rest => .ok (.opened .list rest)
  | '\x7b' :: rest => .ok (.opened .object rest)
  | c :: rest =>
      if c.isDigit then do return .ended (← unsigned (c :: rest))
      else stopAt .valueExpected (c :: rest)

mutual

/--
Passes over a value that stands in the given brackets, the innermost first, and over their rest.
-/
def value : (fuel : Nat) → List Frame → List Char → Except Stop (List Char)
  | 0, _, cs => stop .endOfValue cs
  | fuel + 1, frames, cs => do
      match ← part cs with
      | .ended rest => behind fuel true frames rest
      | .opened frame rest => behind fuel false (frame :: frames) rest

/--
Passes over the rest of the given brackets, either behind a value, where a comma may follow, or
behind the innermost opening bracket.
-/
def behind : (fuel : Nat) → (comma : Bool) → List Frame → List Char → Except Stop (List Char)
  | _, _, [], cs => .ok cs
  | 0, _, frame :: _, cs => stop frame.unclosed cs
  | fuel + 1, comma, frame :: frames, cs =>
      match skipSpace cs with
      | [] => stop frame.unclosed []
      | c :: rest =>
          if comma && c = ',' then do value fuel (frame :: frames) (← frame.lead rest)
          else if c = frame.closing then behind fuel true frames rest
          else if comma then stopAt frame.goesOn (c :: rest)
          else do value fuel (frame :: frames) (← frame.lead (c :: rest))

end

end Skip

/-- Passes over a value. -/
def skipValue (cs : List Char) : Except Stop (List Char) := Skip.value (2 * cs.length + 2) [] cs

end ModelMigration.Json
