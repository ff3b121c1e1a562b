/-!
# Faults of a JSON text

What can be wrong with a JSON text, where, and how it is said.
-/

namespace ModelMigration.Json

/-- What a JSON text is refused for. -/
inductive Cause where
  | endOfList
  | endOfObject
  | endOfText
  | endOfValue
  | colonExpected
  | listGoesOn
  | objectGoesOn
  | wordExpected
  | valueExpected
  | badEscape
  | badNumber
  | numberTooLarge
  | controlCharacter
  | keyNotText
  | loneSurrogate
  | brokenSurrogatePair
  | trailingComma
  | trailingCharacters
  | tooDeep
  /-- A value of one kind stands where another is expected. -/
  | wrongKind (found expected : String)
  /-- A list stands for a record and has too few elements. -/
  | tooShort (length : Nat) (record : String) (needed : Nat)
  | missingKey (key : String)
  | repeatedKey (key : String)
deriving DecidableEq, Repr

/-- The three sorts of causes. -/
inductive Category where
  /-- The text ends too early. -/
  | incomplete
  /-- The text is no JSON. -/
  | malformed
  /-- The text is JSON, but not of the value expected. -/
  | unfit
deriving DecidableEq, Repr

namespace Cause

/-- The sort of a cause. -/
def category : Cause → Category
  | endOfList | endOfObject | endOfText | endOfValue => .incomplete
  | wrongKind .. | tooShort .. | missingKey _ | repeatedKey _ => .unfit
  | _ => .malformed

/-- How a number of elements is said. -/
def elements (n : Nat) : String := if n = 1 then "1 element" else toString n ++ " elements"

/-- What is said of a cause. -/
def message : Cause → String
  | endOfList => "EOF while parsing a list"
  | endOfObject => "EOF while parsing an object"
  | endOfText => "EOF while parsing a string"
  | endOfValue => "EOF while parsing a value"
  | colonExpected => "expected `:`"
  | listGoesOn => "expected `,` or `]`"
  | objectGoesOn => "expected `,` or `\x7d`"
  | wordExpected => "expected ident"
  | valueExpected => "expected value"
  | badEscape => "invalid escape"
  | badNumber => "invalid number"
  | numberTooLarge => "number out of range"
  | controlCharacter => "control character (\\u0000-\\u001F) found while parsing a string"
  | keyNotText => "key must be a string"
  | loneSurrogate => "lone leading surrogate in hex escape"
  | brokenSurrogatePair => "unexpected end of hex escape"
  | trailingComma => "trailing comma"
  | trailingCharacters => "trailing characters"
  | tooDeep => "recursion limit exceeded"
  | wrongKind found expected => "invalid type: " ++ found ++ ", expected " ++ expected
  | tooShort length record needed =>
      "invalid length " ++ toString length ++ ", expected " ++ record ++ " with " ++ elements needed
  | missingKey key => "missing field `" ++ key ++ "`"
  | repeatedKey key => "duplicate field `" ++ key ++ "`"

end Cause

/-- A cause with its place: the line, from one, and the number of bytes read of it. -/
structure Fault where
  cause : Cause
  line : Nat
  column : Nat
deriving DecidableEq, Repr

/-- The place of a fault, as it follows the message. -/
def Fault.place (f : Fault) : String :=
  " at line " ++ toString f.line ++ " column " ++ toString f.column

/-- What is said of a fault: the cause and the place. -/
def Fault.message (f : Fault) : String := f.cause.message ++ f.place

/-- The place behind the given bytes. -/
def Fault.behind (cause : Cause) (bytes : List UInt8) : Fault where
  cause := cause
  line := 1 + bytes.count 10
  column := (bytes.reverse.takeWhile (· ≠ 10)).length

end ModelMigration.Json
