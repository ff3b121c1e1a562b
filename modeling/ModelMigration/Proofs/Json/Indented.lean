import Mathlib.Data.List.Forall2
import ModelMigration.Proofs.Json.WrittenText

/-!
# Indented values are read back

A reader that takes a value of its kind from the indented text, whatever stands behind it, stops
right behind the value. Lists and records are read back as soon as their elements and members are.
-/

namespace ModelMigration.Json

open Value

/-! ## White space -/

/-- Whether all characters are white space. -/
def Spacing (cs : List Char) : Prop := ∀ c ∈ cs, isSpace c = true

theorem spacing_nil : Spacing [] := by simp [Spacing]

theorem spacing_blank : Spacing [' '] := by simp [Spacing, isSpace]

theorem spacing_lineBreak (level : Nat) : Spacing (lineBreak level) := by
  intro c mem
  rcases List.mem_cons.mp mem with rfl | blank
  · decide
  · rw [(List.mem_replicate.mp blank).2]
    decide

/-- White space is passed over up to the first other character. -/
theorem skipSpace_spacing {space : List Char} (spacing : Spacing space) {c : Char}
    (solid : isSpace c = false) (cs : List Char) : skipSpace (space ++ c :: cs) = c :: cs := by
  unfold skipSpace
  rw [List.dropWhile_append_of_pos spacing]
  simp [solid]

theorem skipSpace_cons {c : Char} (solid : isSpace c = false) (cs : List Char) :
    skipSpace (c :: cs) = c :: cs := skipSpace_spacing spacing_nil solid cs

/-! ## Readers -/

/-- Whether a reader takes a value for `x` from its indented text and stops behind it. -/
def Reads {α : Type} (scan : Scanner α) (x : Value) (a : α) : Prop :=
  ∀ space level rest, Spacing space → scan (space ++ x.pretty level ++ rest) = .ok (a, rest)

theorem Reads.map {α β : Type} {scan : Scanner α} {x : Value} {a : α} (reads : Reads scan x a)
    (f : α → β) :
    Reads (fun cs => do
      let (v, rest) ← scan cs
      .ok (f v, rest)) x (f a) := by
  intro space level rest spacing
  simp only [reads space level rest spacing, bind, Except.bind]

theorem reads_text (s : String) : Reads text (.text s) s := by
  intro space level rest spacing
  simp only [pretty, written, List.append_assoc, List.cons_append, List.nil_append, text]
  rw [skipSpace_spacing spacing (by decide)]
  exact textBody_flatMap_escaped s rest

theorem reads_textOrNull (s : String) : Reads textOrNull (.text s) (some s) := by
  intro space level rest spacing
  simp only [pretty, written, List.append_assoc, List.cons_append, List.nil_append, textOrNull]
  rw [skipSpace_spacing spacing (by decide)]
  have read := reads_text s [] level rest spacing_nil
  simp only [pretty, written, List.append_assoc, List.cons_append, List.nil_append] at read
  show (text ('"' :: (s.toList.flatMap escaped ++ '"' :: rest)) >>= fun found =>
    Except.ok (some found.1, found.2)) = _
  rw [read]
  rfl

/-! ## Lists -/

/-- What stands in front of an item in a bracket: a comma, unless the item is the first. -/
def comma (first : Bool) : List Char := if first then [] else [',']

/-- Whether the indented text of a value starts with a character that is neither white space nor
closes a list. -/
def Opens (x : Value) : Prop :=
  ∀ level, ∃ c cs, x.pretty level = c :: cs ∧ isSpace c = false ∧ c ≠ ']'

theorem opens_object (members : List (String × Value)) : Opens (.object members) := by
  intro level
  cases members with
  | nil => exact ⟨_, _, rfl, by decide, by decide⟩
  | cons m members => exact ⟨_, _, rfl, by decide, by decide⟩

theorem nextElement_item {space : List Char} (spacing : Spacing space) {c : Char}
    (solid : isSpace c = false) (goesOn : c ≠ ']') (first : Bool) (cs : List Char) :
    nextElement first (comma first ++ (space ++ c :: cs)) = .ok (.item (c :: cs)) := by
  unfold nextElement comma
  cases first with
  | true =>
      rw [if_pos rfl, List.nil_append, skipSpace_spacing spacing solid]
      simp
  | false =>
      rw [if_neg Bool.false_ne_true, List.singleton_append, skipSpace_cons (by decide)]
      have front := skipSpace_spacing spacing solid cs
      grind

theorem nextElement_closed {space : List Char} (spacing : Spacing space) (first : Bool)
    (rest : List Char) : nextElement first (space ++ ']' :: rest) = .ok (.closed rest) := by
  unfold nextElement
  rw [skipSpace_spacing spacing (by decide)]
  rfl

theorem prettyItems_cons (level : Nat) (x : Value) (items : List Value) :
    prettyItems level (x :: items) = lineBreak level ++ x.pretty level ++
      if items = [] then [] else ',' :: prettyItems level items := by
  cases items <;> simp [prettyItems]

theorem length_le_length_prettyItems (level : Nat) (items : List Value) :
    items.length ≤ (prettyItems level items).length := by
  induction items with
  | nil => simp
  | cons x items ih =>
      rw [prettyItems_cons]
      by_cases last : items = []
      · simp [last, lineBreak]
      · simp [last, lineBreak]
        omega

/-- The elements of a list are read back up to the bracket that closes it. -/
theorem elements_prettyItems {α : Type} {item : Scanner α} {items : List Value} {as : List α}
    (reads : List.Forall₂ (Reads item) items as) (opens : ∀ x ∈ items, Opens x) (some : items ≠ [])
    {fuel : Nat} (enough : items.length < fuel) (first : Bool) (level : Nat) {space : List Char}
    (spacing : Spacing space) (rest : List Char) :
    elements item fuel first (comma first ++ (prettyItems level items ++ (space ++ ']' :: rest))) =
      .ok (as, rest) := by
  induction reads generalizing fuel first with
  | nil => contradiction
  | @cons x a items as read reads ih =>
      obtain ⟨fuel, rfl⟩ : ∃ n, fuel = n + 1 := ⟨fuel - 1, by simp at enough; omega⟩
      obtain ⟨c, cs, starts, solid, goesOn⟩ := opens x List.mem_cons_self level
      have others := fun y mem => opens y (List.mem_cons_of_mem _ mem)
      have here := read [] level
      simp only [starts, List.nil_append, List.cons_append] at here
      rw [prettyItems_cons, starts, elements]
      simp only [List.append_assoc, List.cons_append]
      rw [nextElement_item (spacing_lineBreak level) solid goesOn]
      by_cases last : items = []
      · -- The bracket takes one step more than the elements.
        subst last
        cases reads
        obtain ⟨fuel, rfl⟩ : ∃ n, fuel = n + 1 := ⟨fuel - 1, by simp at enough; omega⟩
        simp only [if_true, List.nil_append, here _ spacing_nil, bind, Except.bind, elements,
          nextElement_closed spacing]
      · have behind := ih others last (by simpa using enough) false
        simp only [comma, Bool.false_eq_true, if_false, List.cons_append, List.nil_append] at behind
        simp only [last, if_false, List.cons_append, here _ spacing_nil, bind, Except.bind, behind]

theorem reads_list {α : Type} {item : Scanner α} {items : List Value} {as : List α}
    (reads : List.Forall₂ (Reads item) items as) (opens : ∀ x ∈ items, Opens x) :
    Reads (list item) (.list items) as := by
  intro space level rest spacing
  cases items with
  | nil =>
      cases reads
      have closed : nextElement true (']' :: rest) = .ok (.closed rest) :=
        nextElement_closed spacing_nil true rest
      have none : elements item ((']' :: rest).length + 1) true (']' :: rest) = .ok ([], rest) := by
        simp only [elements, closed, bind, Except.bind]
      simp only [pretty, List.append_assoc, List.cons_append, List.nil_append, list]
      rw [skipSpace_spacing spacing (by decide)]
      exact none
  | cons x items =>
      simp only [pretty, List.append_assoc, List.cons_append, List.nil_append, list]
      rw [skipSpace_spacing spacing (by decide)]
      have length := length_le_length_prettyItems (level + 1) (x :: items)
      have enough : (x :: items).length < (prettyItems (level + 1) (x :: items) ++
          (lineBreak level ++ ']' :: rest)).length + 1 := by
        rw [List.length_append]
        omega
      exact elements_prettyItems reads opens (by simp) enough true (level + 1)
        (spacing_lineBreak level) rest

/-! ## Records -/

theorem nextKey_item {space : List Char} (spacing : Spacing space) (first : Bool) (cs : List Char) :
    nextKey first (comma first ++ (space ++ '"' :: cs)) = .ok (.item cs) := by
  have front := skipSpace_spacing spacing (c := '"') (by decide) cs
  unfold nextKey comma
  cases first with
  | true =>
      rw [if_pos rfl, List.nil_append, front]
      rfl
  | false =>
      rw [if_neg Bool.false_ne_true, List.singleton_append, skipSpace_cons (by decide)]
      simp [front]

theorem nextKey_closed {space : List Char} (spacing : Spacing space) (first : Bool)
    (rest : List Char) : nextKey first (space ++ '\x7d' :: rest) = .ok (.closed rest) := by
  unfold nextKey
  rw [skipSpace_spacing spacing (by decide)]
  rfl

theorem colon_cons (rest : List Char) : colon (':' :: rest) = .ok rest := by
  unfold colon
  rw [skipSpace_cons (by decide)]
  rfl

theorem prettyMembers_cons (level : Nat) (key : String) (x : Value)
    (ms : List (String × Value)) :
    prettyMembers level ((key, x) :: ms) =
      lineBreak level ++ (written key ++ ':' :: ' ' :: x.pretty level) ++
        if ms = [] then [] else ',' :: prettyMembers level ms := by
  cases ms <;> simp [prettyMembers]

theorem length_le_length_prettyMembers (level : Nat) (ms : List (String × Value)) :
    ms.length ≤ (prettyMembers level ms).length := by
  induction ms with
  | nil => simp
  | cons m ms ih =>
      obtain ⟨key, x⟩ := m
      rw [prettyMembers_cons]
      by_cases last : ms = []
      · simp [last, lineBreak]
      · simp [last, lineBreak]
        omega

/-- Whether a member is read back, by the slot of its key, to the value found under the key. -/
def Finds {α : Type} (slots : List (Slot α)) (m : String × Value) (found : String × α) : Prop :=
  m.1 = found.1 ∧
    ∃ slot, (slots.find? fun slot => slot.key = found.1) = some slot ∧ Reads slot.read m.2 found.2

/-- The members of a record are read back up to the bracket that closes it. -/
theorem members_prettyMembers {α : Type} {slots : List (Slot α)} {ms : List (String × Value)}
    {entries : List (String × α)} (finds : List.Forall₂ (Finds slots) ms entries) (some : ms ≠ [])
    {fuel : Nat} (enough : ms.length < fuel) (first : Bool) {found : List (String × α)}
    (distinct : ((found ++ entries).map Prod.fst).Nodup) (level : Nat) {space : List Char}
    (spacing : Spacing space) (rest : List Char) :
    members slots fuel first found
        (comma first ++ (prettyMembers level ms ++ (space ++ '\x7d' :: rest))) =
      .ok (found ++ entries, rest) := by
  induction finds generalizing fuel first found with
  | nil => contradiction
  | @cons m e ms entries find finds ih =>
      obtain ⟨key, x⟩ := m
      obtain ⟨key, a⟩ := e
      obtain ⟨rfl, slot, known, read⟩ := find
      obtain ⟨fuel, rfl⟩ : ∃ n, fuel = n + 1 := ⟨fuel - 1, by simp at enough; omega⟩
      have here := read [' '] level
      simp only [List.cons_append, List.nil_append] at here
      -- No key stands twice, so what was found so far has none like this one.
      have unseen : found.lookup key = none := by
        rw [List.lookup_eq_none_iff]
        intro e mem
        have apart := (List.nodup_append.mp (by simpa using distinct)).2.2
        grind
      have later : (((found ++ [(key, a)]) ++ entries).map Prod.fst).Nodup := by
        simpa using distinct
      rw [prettyMembers_cons, members]
      simp only [written, List.append_assoc, List.cons_append, List.nil_append]
      rw [nextKey_item (spacing_lineBreak level)]
      simp only [bind, Except.bind, textBody_flatMap_escaped, known, unseen, Option.isSome_none,
        Bool.false_eq_true, if_false, colon_cons, here _ spacing_blank]
      by_cases last : ms = []
      · subst last
        cases finds
        obtain ⟨fuel, rfl⟩ : ∃ n, fuel = n + 1 := ⟨fuel - 1, by simp at enough; omega⟩
        simp only [if_true, List.nil_append, members, nextKey_closed spacing, bind, Except.bind]
      · have behind := ih last (by simpa using enough) false later
        simp only [comma, Bool.false_eq_true, if_false, List.cons_append, List.nil_append,
          List.append_assoc] at behind
        simp only [last, if_false, List.cons_append, behind]

theorem reads_record {α : Type} (name : String) {slots : List (Slot α)}
    {ms : List (String × Value)} {entries : List (String × α)} {values : List α}
    (finds : List.Forall₂ (Finds slots) ms entries) (distinct : (entries.map Prod.fst).Nodup)
    (settled : settle slots entries = .ok values) :
    Reads (record name slots) (.object ms) values := by
  intro space level rest spacing
  cases ms with
  | nil =>
      cases finds
      have closed : nextKey true ('\x7d' :: rest) = .ok (.closed rest) :=
        nextKey_closed spacing_nil true rest
      have none : members slots (('\x7d' :: rest).length + 1) true [] ('\x7d' :: rest) =
          .ok ([], rest) := by
        simp only [members, closed, bind, Except.bind]
      simp only [pretty, List.append_assoc, List.cons_append, List.nil_append, record]
      rw [skipSpace_spacing spacing (by decide)]
      simp only [none, bind, Except.bind, settled]
  | cons m ms =>
      have length := length_le_length_prettyMembers (level + 1) (m :: ms)
      have enough : (m :: ms).length < (prettyMembers (level + 1) (m :: ms) ++
          (lineBreak level ++ '\x7d' :: rest)).length + 1 := by
        rw [List.length_append]
        omega
      have distinct : (([] ++ entries).map Prod.fst).Nodup := distinct
      have read := members_prettyMembers finds (by simp) enough true distinct (level + 1)
        (spacing_lineBreak level) rest
      simp only [comma, if_true, List.nil_append] at read
      simp only [pretty, List.append_assoc, List.cons_append, List.nil_append, record]
      rw [skipSpace_spacing spacing (by decide)]
      simp only [read, bind, Except.bind, settled]

/-! ## Whole texts -/

/-- An indented text that holds one value and nothing else is read back. -/
theorem readWhole_indented {α : Type} {scan : Scanner α} {x : Value} {a : α} (reads : Reads scan x a) :
    readWhole scan x.indented = .ok a := by
  have read := reads [] 0 [] spacing_nil
  simp only [List.nil_append, List.append_nil] at read
  simp [readWhole, indented, read, skipSpace, bind, Except.bind]

end ModelMigration.Json
