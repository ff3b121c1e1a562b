/-!
# Bytes of a text

The UTF-8 form of a text, and the text that bytes stand for. Bytes that are not UTF-8 can still be
shown: each longest beginning of a character that breaks off becomes one replacement character.
-/

namespace ModelMigration.Bytes

/-- The UTF-8 form of a text. -/
def ofText (s : String) : List UInt8 := s.toUTF8.data.toList

/-- Equal bytes come from equal texts. -/
theorem ofText_inj {s t : String} (same : ofText s = ofText t) : s = t := by
  have data : s.toUTF8.data = t.toUTF8.data := Array.toList_inj.mp same
  exact String.toByteArray_inj.mp (ByteArray.ext data)

/-- Whether a byte continues a character, and is at least `low` and at most `high`. -/
def continues (low high : Nat) (b : UInt8) : Bool := low ≤ b.toNat && b.toNat ≤ high

/--
The continuation bytes that a leading byte asks for, as bounds of each; none for a byte that leads
nothing. The bounds of the first rule out long spellings, surrogates and values that are no
characters.
-/
def continuation (lead : UInt8) : Option (List (Nat × Nat)) :=
  let n := lead.toNat
  if n < 0x80 then some []
  else if 0xC2 ≤ n && n ≤ 0xDF then some [(0x80, 0xBF)]
  else if n = 0xE0 then some [(0xA0, 0xBF), (0x80, 0xBF)]
  else if n = 0xED then some [(0x80, 0x9F), (0x80, 0xBF)]
  else if 0xE1 ≤ n && n ≤ 0xEF then some [(0x80, 0xBF), (0x80, 0xBF)]
  else if n = 0xF0 then some [(0x90, 0xBF), (0x80, 0xBF), (0x80, 0xBF)]
  else if 0xF1 ≤ n && n ≤ 0xF3 then some [(0x80, 0xBF), (0x80, 0xBF), (0x80, 0xBF)]
  else if n = 0xF4 then some [(0x80, 0x8F), (0x80, 0xBF), (0x80, 0xBF)]
  else none

/-- The bytes at the front that fit the bounds one by one, up to the first that does not. -/
def fitting : List (Nat × Nat) → List UInt8 → List UInt8
  | (low, high) :: bounds, b :: bytes =>
      if continues low high b then b :: fitting bounds bytes else []
  | _, _ => []

/-- The bits that a leading byte gives to its character, with the number of continuation bytes. -/
def leadBits (lead : UInt8) : Nat → Nat
  | 0 => lead.toNat
  | 1 => lead.toNat % 32
  | 2 => lead.toNat % 16
  | _ => lead.toNat % 8

/-- The character of a leading byte and its continuation. -/
def assemble (lead : UInt8) (others : List UInt8) : Char :=
  Char.ofNat (others.foldl (fun n b => n * 64 + b.toNat % 64) (leadBits lead others.length))

/-- The characters of the bytes, those of the next `skip` being part of a character already read. -/
def shownFrom : (skip : Nat) → List UInt8 → List Char
  | _, [] => []
  | skip + 1, _ :: bytes => shownFrom skip bytes
  | 0, lead :: bytes =>
      match continuation lead with
      | none => '\uFFFD' :: shownFrom 0 bytes
      | some bounds =>
          let others := fitting bounds bytes
          let shown := if others.length = bounds.length then assemble lead others else '\uFFFD'
          shown :: shownFrom others.length bytes

/-- The bytes as text, whatever they are. -/
def shown (bytes : List UInt8) : String := String.ofList (shownFrom 0 bytes)

end ModelMigration.Bytes
