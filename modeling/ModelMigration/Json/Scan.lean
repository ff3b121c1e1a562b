import ModelMigration.Json.Fault
import ModelMigration.Json.Number
import ModelMigration.Text.Quoted

/-!
# Scanning a JSON text

The parts of a JSON text without brackets: white space, words, numbers and texts. A scanner takes
the characters in front of it and gives what it found with the characters behind, or says what
stopped it.
-/

namespace ModelMigration.Json

/-- What stopped a scanner, and the number of bytes it left unread. -/
structure Stop where
  cause : Cause
  left : Nat
deriving DecidableEq, Repr

/-- What a scanner does with the characters in front of it. -/
abbrev Scanner (α : Type) := List Char → Except Stop (α × List Char)

/-- The number of bytes of a text in UTF-8. -/
def byteCount : List Char → Nat
  | [] => 0
  | c :: cs => c.utf8Size + byteCount cs

/-- Stops behind what has been read. -/
def stop {α : Type} (cause : Cause) (rest : List Char) : Except Stop α :=
  .error ⟨cause, byteCount rest⟩

/-- Stops behind the next byte, if there is one. -/
def stopAt {α : Type} (cause : Cause) (rest : List Char) : Except Stop α :=
  .error ⟨cause, byteCount rest - 1⟩

/-- The white space between the parts of a JSON text. -/
def isSpace (c : Char) : Bool := c = ' ' || c = '\n' || c = '\t' || c = '\r'

/-- The characters behind the white space. -/
def skipSpace (cs : List Char) : List Char := cs.dropWhile isSpace

/-- Reads the characters of a word. -/
def word : List Char → List Char → Except Stop (List Char)
  | [], cs => .ok cs
  | _ :: _, [] => stop .endOfValue []
  | w :: rest, c :: cs => if w = c then word rest cs else stopAt .wordExpected (c :: cs)

/-! ## Numbers -/

/-- The value of a digit. -/
def digitValue (c : Char) : Nat := c.toNat - '0'.toNat

/-- Adds digits to a number as long as it does not pass `limit`. -/
def accumulate (limit : Nat) : Nat → List Char → Nat × List Char
  | n, [] => (n, [])
  | n, c :: cs =>
      if c.isDigit && n * 10 + digitValue c ≤ limit then accumulate limit (n * 10 + digitValue c) cs
      else (n, c :: cs)

/-- Whether a digit comes next. -/
def digitNext : List Char → Bool
  | [] => false
  | c :: _ => c.isDigit

/-- The double made of a significand and a power of ten. -/
def double (negative : Bool) (significand : Nat) (exponent : Int) : Scanner Number := fun rest =>
  match doubleOf? significand exponent with
  | some x => .ok (.double negative x, rest)
  | none => stop .numberTooLarge rest

/-- The greatest power of ten that is counted. -/
def greatestExponent : Nat := 0x7FFFFFFF

/-- The sign of a power of ten, whether it is negative. -/
def exponentSign : List Char → Bool × List Char
  | '+' :: cs => (false, cs)
  | '-' :: cs => (true, cs)
  | cs => (false, cs)

/-- Reads the power of ten behind its letter; `exponent` is that of the digits in front. -/
def power (negative : Bool) (significand : Nat) (exponent : Int) : Scanner Number := fun cs =>
  match exponentSign cs with
  | (_, []) => stop .endOfValue []
  | (down, c :: cs) =>
      if !c.isDigit then stopAt .badNumber (c :: cs)
      else
        let (n, rest) := accumulate greatestExponent (digitValue c) cs
        if digitNext rest then
          if significand ≠ 0 && !down then stopAt .numberTooLarge rest
          else .ok (.double negative .zero, rest.dropWhile Char.isDigit)
        else double negative significand (if down then exponent - n else exponent + n) rest

/-- Reads a power of ten, if there is one. -/
def optionalPower (negative : Bool) (significand : Nat) (exponent : Int) : Scanner Number
  | 'e' :: cs => power negative significand exponent cs
  | 'E' :: cs => power negative significand exponent cs
  | cs => double negative significand exponent cs

/--
Reads the digits behind the point, of which there is one at least. Digits that the significand
cannot take are dropped.
-/
def fraction (negative : Bool) (significand : Nat) (exponent : Int) : Scanner Number := fun cs =>
  let (n, rest) := accumulate greatestWord significand cs
  let taken := cs.length - rest.length
  if digitNext rest then optionalPower negative n (exponent - taken) (rest.dropWhile Char.isDigit)
  else if taken = 0 then
    match rest with
    | [] => stop .endOfValue []
    | _ => stopAt .badNumber rest
  else optionalPower negative n (exponent - taken) rest

/-- Reads what follows the whole part of a number. -/
def afterWhole (negative : Bool) (significand : Nat) : Scanner Number
  | '.' :: cs => fraction negative significand 0 cs
  | 'e' :: cs => power negative significand 0 cs
  | 'E' :: cs => power negative significand 0 cs
  | cs => .ok (wholeNumber negative significand, cs)

/-- Reads what follows the digits that the significand took, `dropped` more having no room in it. -/
def afterDropped (negative : Bool) (significand dropped : Nat) : Scanner Number
  | '.' :: cs => fraction negative significand dropped cs
  | cs => optionalPower negative significand dropped cs

/-- Reads a number behind its sign. -/
def unsigned (negative : Bool) : Scanner Number
  | [] => stop .endOfValue []
  | '0' :: cs => if digitNext cs then stopAt .badNumber cs else afterWhole negative 0 cs
  | c :: cs =>
      if !c.isDigit then stopAt .badNumber (c :: cs)
      else
        let (n, rest) := accumulate greatestWord (digitValue c) cs
        if digitNext rest then
          let behind := rest.dropWhile Char.isDigit
          afterDropped negative n (rest.length - behind.length) behind
        else afterWhole negative n rest

/-- Reads a number. -/
def number : Scanner Number
  | '-' :: cs => unsigned true cs
  | cs => unsigned false cs

/-! ## Texts -/

/-- The value of a digit in base sixteen. -/
def hexValue? (c : Char) : Option Nat :=
  if c.isDigit then some (c.toNat - '0'.toNat)
  else if 'a' ≤ c && c ≤ 'f' then some (c.toNat - 'a'.toNat + 10)
  else if 'A' ≤ c && c ≤ 'F' then some (c.toNat - 'A'.toNat + 10)
  else none

/-- Reads four digits in base sixteen. -/
def hexUnit : Scanner Nat := fun cs =>
  match cs with
  | a :: b :: c :: d :: rest =>
      match hexValue? a, hexValue? b, hexValue? c, hexValue? d with
      | some a, some b, some c, some d => .ok (((a * 16 + b) * 16 + c) * 16 + d, rest)
      | _, _, _, _ => .error ⟨.badEscape, byteCount cs - 4⟩
  | _ => if byteCount cs < 4 then stop .endOfText [] else .error ⟨.badEscape, byteCount cs - 4⟩

/-- The units that begin a pair. -/
def isLeading (n : Nat) : Bool := 0xD800 ≤ n && n ≤ 0xDBFF

/-- The units that end a pair. -/
def isTrailing (n : Nat) : Bool := 0xDC00 ≤ n && n ≤ 0xDFFF

/-- The character of a pair of units. -/
def pair (leading trailing : Nat) : Char :=
  Char.ofNat ((leading - 0xD800) * 0x400 + (trailing - 0xDC00) + 0x10000)

/-- Reads the second unit of a pair. -/
def secondUnit (leading : Nat) : Scanner Char
  | [] => stop .endOfText []
  | '\\' :: [] => stop .endOfText []
  | '\\' :: 'u' :: cs => do
      let (trailing, rest) ← hexUnit cs
      if isTrailing trailing then .ok (pair leading trailing, rest) else stop .loneSurrogate rest
  | '\\' :: cs => stopAt .brokenSurrogatePair cs
  | cs => stopAt .brokenSurrogatePair cs

/-- The characters that a backslash and one character stand for. -/
def simpleEscape? : Char → Option Char
  | '"' => some '"'
  | '\\' => some '\\'
  | '/' => some '/'
  | 'b' => some '\x08'
  | 'f' => some '\x0c'
  | 'n' => some '\n'
  | 'r' => some '\r'
  | 't' => some '\t'
  | _ => none

/-- Reads an escape behind its backslash. -/
def escape : Scanner Char
  | [] => stop .endOfText []
  | 'u' :: cs => do
      let (unit, rest) ← hexUnit cs
      if isTrailing unit then stop .loneSurrogate rest
      else if isLeading unit then secondUnit unit rest
      else .ok (Char.ofNat unit, rest)
  | c :: cs =>
      match simpleEscape? c with
      | some d => .ok (d, cs)
      | none => stopAt .badEscape (c :: cs)

/-- Whether a character may not stand in a text. -/
def isControl (c : Char) : Bool := c.toNat < 0x20

/-- Reads the characters of a text behind its opening quote. -/
def textFrom : (fuel : Nat) → Scanner (List Char)
  | _, [] => stop .endOfText []
  | 0, cs => stop .endOfText cs
  | fuel + 1, c :: cs =>
      if c = '"' then .ok ([], cs)
      else if c = '\\' then do
        let (d, rest) ← escape cs
        let (ds, rest) ← textFrom fuel rest
        .ok (d :: ds, rest)
      else if isControl c then stop .controlCharacter cs
      else do
        let (ds, rest) ← textFrom fuel cs
        .ok (c :: ds, rest)

/-- Reads a text behind its opening quote. -/
def textBody : Scanner String := fun cs => do
  let (chars, rest) ← textFrom cs.length cs
  .ok (String.ofList chars, rest)

/-! ## Values of the wrong kind -/

/-- Reads a value without brackets and says what it is; of one with brackets only its kind. -/
def describe : Scanner String
  | [] => stop .endOfValue []
  | 'n' :: cs => do .ok ("null", ← word ['u', 'l', 'l'] cs)
  | 't' :: cs => do .ok ("boolean `true`", ← word ['r', 'u', 'e'] cs)
  | 'f' :: cs => do .ok ("boolean `false`", ← word ['a', 'l', 's', 'e'] cs)
  | '"' :: cs => do
      let (s, rest) ← textBody cs
      .ok ("string " ++ Text.quoted s, rest)
  | '[' :: cs => .ok ("sequence", '[' :: cs)
  | '\x7b' :: cs => .ok ("map", '\x7b' :: cs)
  | c :: cs =>
      if c = '-' || c.isDigit then do
        let (n, rest) ← number (c :: cs)
        .ok (n.described, rest)
      else stopAt .valueExpected (c :: cs)

/-- Refuses the value in front for its kind. -/
def unfit {α : Type} (expected : String) (cs : List Char) : Except Stop α := do
  let (found, rest) ← describe cs
  stop (.wrongKind found expected) rest

/-- Reads a value that has to be a text. -/
def text : Scanner String := fun cs =>
  match skipSpace cs with
  | [] => stop .endOfValue []
  | '"' :: rest => textBody rest
  | rest => unfit "a string" rest

/-- Reads a text, or nothing where `null` stands. -/
def textOrNull : Scanner (Option String) := fun cs =>
  match skipSpace cs with
  | 'n' :: rest => do .ok (none, ← word ['u', 'l', 'l'] rest)
  | rest => do
      let (s, rest) ← text rest
      .ok (some s, rest)

end ModelMigration.Json
