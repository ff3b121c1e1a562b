import Mathlib.Algebra.Group.Nat.Defs
import ModelMigration.Fingerprint
import ModelMigration.Proofs.Json.FieldLines

/-!
# What a fingerprint is made from

The bytes that are digested tell the parts, as long as every part is short enough for its length
to fit in four bytes; and the parts tell all of a request that its text depends on.
-/

namespace ModelMigration

namespace Fingerprint

/-! ## Frames -/

theorem lengthBytes_length (n : Nat) : (lengthBytes n).length = 4 := by
  simp [lengthBytes, Bytes.Sha256.bigEndian]

/-- Four bytes tell a length that fits in them. -/
theorem lengthBytes_inj {m n : Nat} (hm : m < 2 ^ 32) (hn : n < 2 ^ 32)
    (same : lengthBytes m = lengthBytes n) : m = n := by
  have low : ∀ {a b : Nat}, UInt8.ofNat a = UInt8.ofNat b → a % 256 = b % 256 := by
    intro a b h
    simpa using congrArg UInt8.toNat h
  have heldM : min m 0xFFFFFFFF = m := by omega
  have heldN : min n 0xFFFFFFFF = n := by omega
  simp only [lengthBytes, heldM, heldN, Bytes.Sha256.bigEndian, List.range_succ, List.range_zero,
    List.nil_append, List.cons_append, List.map_cons, List.map_nil, List.cons.injEq, and_true,
    Nat.shiftRight_eq_div_pow] at same
  -- Byte by byte, the lengths agree up to a multiple of what the byte counts in.
  obtain ⟨h0, h1, h2, h3⟩ := same
  have := low h0
  have := low h1
  have := low h2
  have := low h3
  omega

/-- A frame shows where it ends. -/
theorem framed_append_inj {as bs xs ys : List UInt8} (ha : as.length < 2 ^ 32)
    (hb : bs.length < 2 ^ 32) (same : framed as ++ xs = framed bs ++ ys) : as = bs ∧ xs = ys := by
  simp only [framed, List.append_assoc] at same
  obtain ⟨lengths, rest⟩ := List.append_inj same (by simp [lengthBytes_length])
  exact List.append_inj rest (lengthBytes_inj ha hb lengths)

/-- Whether the lengths of a part fit in four bytes. -/
structure Part.Fits (p : Part) : Prop where
  label : (Bytes.ofText p.label).length < 2 ^ 32
  content : (Bytes.ofText p.content).length < 2 ^ 32

theorem Part.bytes_append_inj {p q : Part} {xs ys : List UInt8} (hp : p.Fits) (hq : q.Fits)
    (same : p.bytes ++ xs = q.bytes ++ ys) : p = q ∧ xs = ys := by
  simp only [Part.bytes, List.append_assoc] at same
  obtain ⟨labels, rest⟩ := framed_append_inj hp.label hq.label same
  obtain ⟨contents, behind⟩ := framed_append_inj hp.content hq.content rest
  obtain ⟨label, content⟩ := p
  obtain ⟨label', content'⟩ := q
  obtain rfl := Bytes.ofText_inj labels
  obtain rfl := Bytes.ofText_inj contents
  exact ⟨rfl, behind⟩

theorem Part.bytes_ne_nil (p : Part) : p.bytes ≠ [] := by
  intro empty
  have lengths := congrArg List.length empty
  simp [Part.bytes, framed, lengthBytes_length] at lengths

/-- The bytes that are digested tell the parts and their order. -/
theorem stream_inj {ps qs : List Part} (hp : ∀ p ∈ ps, p.Fits) (hq : ∀ q ∈ qs, q.Fits)
    (same : stream ps = stream qs) : ps = qs := by
  induction ps generalizing qs with
  | nil =>
      cases qs with
      | nil => rfl
      | cons q qs => simp [stream, Part.bytes_ne_nil] at same
  | cons p ps ih =>
      cases qs with
      | nil => simp [stream, Part.bytes_ne_nil] at same
      | cons q qs =>
          simp only [stream, List.flatMap_cons] at same
          obtain ⟨first, rest⟩ := Part.bytes_append_inj (hp p List.mem_cons_self)
            (hq q List.mem_cons_self) same
          rw [first, ih (fun x hx => hp x (List.mem_cons_of_mem _ hx))
            (fun x hx => hq x (List.mem_cons_of_mem _ hx)) rest]

/-! ## Parts -/

/-- The parts tell the model, its name and table, the text of the template, and the names of the
extensions in order. -/
theorem parts_inj {name name' : String} {model model' : Model} {config config' : Config}
    {stub stub' : Stub} {extensions extensions' : List Extension}
    (same : parts name model config stub extensions =
      parts name' model' config' stub' extensions') :
    name = name' ∧ model = model' ∧ tableName config name = tableName config' name' ∧
      stub.text = stub'.text ∧ extensions.map Extension.name = extensions'.map Extension.name := by
  obtain ⟨fields⟩ := model
  obtain ⟨fields'⟩ := model'
  simp only [parts, List.cons_append, List.nil_append, List.cons.injEq, Part.mk.injEq, true_and]
    at same
  obtain ⟨lines, names, tables, stubs, rest⟩ := same
  have extensionNames := congrArg (List.map Part.content) rest
  simp only [List.map_map] at extensionNames
  exact ⟨names, congrArg Model.mk (line_fields_inj lines), tables, stubs, extensionNames⟩

variable {name name' : String} {model model' : Model} {config config' : Config} {stub stub' : Stub}
  {extensions extensions' : List Extension}

/-- The labels are short, so the lengths fit as soon as those of the contents do. -/
theorem parts_fit
    (short : ∀ p ∈ parts name model config stub extensions, p.content.utf8ByteSize < 2 ^ 32) :
    ∀ p ∈ parts name model config stub extensions, p.Fits := by
  intro p mem
  refine ⟨?_, short p mem⟩
  simp only [parts, List.cons_append, List.nil_append, List.mem_cons, List.mem_map] at mem
  rcases mem with rfl | rfl | rfl | rfl | ⟨e, _, rfl⟩ <;> dsimp only <;> decide

/--
Where no part is too long for its length, the digested bytes are equal for equal fields, names,
tables, template texts and lists of extension names, and for nothing else.
-/
theorem stream_eq_iff
    (short : ∀ p ∈ parts name model config stub extensions, p.content.utf8ByteSize < 2 ^ 32)
    (short' : ∀ p ∈ parts name' model' config' stub' extensions',
      p.content.utf8ByteSize < 2 ^ 32) :
    stream (parts name model config stub extensions) =
        stream (parts name' model' config' stub' extensions') ↔
      model.fields = model'.fields ∧ name = name' ∧
        tableName config name = tableName config' name' ∧ stub.text = stub'.text ∧
        extensions.map Extension.name = extensions'.map Extension.name := by
  constructor
  · intro same
    obtain ⟨names, models, tables, stubs, extensionNames⟩ :=
      parts_inj (stream_inj (parts_fit short) (parts_fit short') same)
    exact ⟨congrArg Model.fields models, names, tables, stubs, extensionNames⟩
  · rintro ⟨fields, rfl, tables, stubs, extensionNames⟩
    have rest : extensions.map (fun e => Part.mk "extension" e.name) =
        extensions'.map fun e => Part.mk "extension" e.name := by
      have labelled := congrArg (List.map (Part.mk "extension")) extensionNames
      rw [List.map_map, List.map_map] at labelled
      exact labelled
    simp only [parts, fields, tables, stubs, rest]

/-- A letter that moves between the names of two extensions is seen, and so is a quote in the name
of a field that looks like the end of the name. -/
theorem stream_eq_iff_moved_letter :
    let plain : Field := .plain "a" "string"
    let quoted : Field := .plain "a\",\"type\":\x7b\"db\":\"string" "string"
    let some := parts "Tag" ⟨[plain]⟩ ⟨none, "out"⟩ ⟨"stub", "class"⟩
      [.append "ab" "", .append "c" ""]
    let moved := parts "Tag" ⟨[plain]⟩ ⟨none, "out"⟩ ⟨"stub", "class"⟩
      [.append "a" "", .append "bc" ""]
    let other := parts "Tag" ⟨[quoted]⟩ ⟨none, "out"⟩ ⟨"stub", "class"⟩
      [.append "ab" "", .append "c" ""]
    (∀ p ∈ some, p.content.utf8ByteSize < 2 ^ 32) ∧ (∀ p ∈ moved, p.content.utf8ByteSize < 2 ^ 32) ∧
      (∀ p ∈ other, p.content.utf8ByteSize < 2 ^ 32) ∧ stream some ≠ stream moved ∧
      stream some ≠ stream other := by
  intro plain quoted some moved other
  have short : ∀ p ∈ some, p.content.utf8ByteSize < 2 ^ 32 := by decide +kernel
  have shortMoved : ∀ p ∈ moved, p.content.utf8ByteSize < 2 ^ 32 := by decide +kernel
  have shortOther : ∀ p ∈ other, p.content.utf8ByteSize < 2 ^ 32 := by decide +kernel
  refine ⟨short, shortMoved, shortOther, ?_, ?_⟩
  · intro same
    have names := ((stream_eq_iff short shortMoved).mp same).2.2.2.2
    exact absurd names (by decide)
  · intro same
    have fields := ((stream_eq_iff short shortOther).mp same).1
    exact absurd fields (by decide)

end Fingerprint

/-! ## Digests -/

theorem digest_eq_of_fingerprint_eq {name name' : String} {model model' : Model}
    {config config' : Config} {stub stub' : Stub} {extensions extensions' : List Extension}
    (same : fingerprint name model config stub extensions =
      fingerprint name' model' config' stub' extensions') :
    Bytes.Sha256.digest (Fingerprint.stream
        (Fingerprint.parts name model config stub extensions)) =
      Bytes.Sha256.digest (Fingerprint.stream
        (Fingerprint.parts name' model' config' stub' extensions')) :=
  Bytes.hex_inj (String.ofList_injective same)

end ModelMigration
