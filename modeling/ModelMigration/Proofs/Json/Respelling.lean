import Mathlib.Data.List.Nodup
import ModelMigration.Proofs.FallibleSteps
import ModelMigration.Proofs.Json.Skipping

/-!
# Lists and records in any spelling

A reader takes a value from its characters if it stops right behind them with that value, whatever
white space is in front and whatever follows. Lists are taken as soon as their elements are, and
records as soon as the members with known keys are, in any order and between any other members.
-/

namespace ModelMigration.Json

variable {α β : Type} {scan item : Scanner α} {raw cs gap v v' : List Char} {s : String}
  {values values' : List (List Char)} {entries entries' : List (String × List Char)}
  {slots : List (Slot α)} {slot : Slot α}

/-! ## Readers -/

/-- Whether a reader takes a value from its characters, wherever they stand. -/
def Takes (scan : Scanner α) (v : List Char) (a : α) : Prop :=
  ∀ gap rest, Spacing gap → scan (gap ++ (v ++ rest)) = .ok (a, rest)

theorem Takes.here {a : α} (takes : Takes scan v a) (rest : List Char) :
    scan (v ++ rest) = .ok (a, rest) :=
  takes [] rest spacing_nil

theorem Takes.map {a : α} (takes : Takes scan v a) (f : α → β) :
    Takes (fun cs => do
      let (x, rest) ← scan cs
      .ok (f x, rest)) v (f a) := by
  intro gap rest spacing
  simp only [takes gap rest spacing, bind, Except.bind]

/-- Whether characters are a text, in any spelling. -/
def TextOf (v : List Char) (s : String) : Prop :=
  ∃ raw, Spells raw s.toList ∧ v = '"' :: (raw ++ ['"'])

theorem TextOf.formed (isText : TextOf v s) : Formed .value v := by
  obtain ⟨raw, spells, rfl⟩ := isText
  exact .text spells.quotable

theorem takes_text (isText : TextOf v s) : Takes text v s := by
  obtain ⟨raw, spells, rfl⟩ := isText
  intro gap rest spacing
  simp only [List.cons_append, List.append_assoc, List.nil_append, text]
  rw [skipSpace_spacing spacing (by decide)]
  exact textBody_of_spells spells rest

/-! ## Lists -/

/-- Whether characters are a list of some values. -/
def ListOf (v : List Char) (values : List (List Char)) : Prop :=
  ∃ cs, Formed (.items true values) cs ∧ v = '[' :: cs

theorem ListOf.formed (list : ListOf v values) : Formed .value v := by
  obtain ⟨cs, items, rfl⟩ := list
  exact .list items

theorem nextElement_append (first : Bool) (spacing : Spacing gap) (cs : List Char) :
    nextElement first (gap ++ cs) = nextElement first cs := by
  unfold nextElement
  rw [skipSpace_append spacing]

/-- The next element of a list is read behind the white space and the comma in front of it. -/
theorem nextElement_of_item {space : List Char} (first : Bool) (spacing : Spacing gap)
    (spacing' : Spacing space) (value : Formed .value v) (cs : List Char) :
    nextElement first (gap ++ (comma first ++ (space ++ (v ++ cs)))) = .ok (.item (v ++ cs)) := by
  obtain ⟨c, others, rfl, solid, goesOn⟩ := exists_start value
  rw [nextElement_append first spacing, List.cons_append,
    nextElement_item spacing' solid goesOn]

theorem length_le_of_items {first : Bool} (formed : Formed (.items first values) cs) :
    values.length ≤ cs.length := by
  induction values generalizing first cs with
  | nil => simp
  | cons v values ih =>
      cases formed with
      | item spacing spacing' value behind =>
          obtain ⟨c, others, rfl, _⟩ := exists_start value
          have := ih behind
          simp only [List.length_append, List.length_cons]
          omega

/-- The elements of a list are taken up to the bracket that closes it. -/
theorem elements_of_formed {as : List α} (takes : List.Forall₂ (Takes item) values as)
    {first : Bool} (formed : Formed (.items first values) cs) {fuel : Nat}
    (enough : values.length < fuel) (rest : List Char) :
    elements item fuel first (cs ++ rest) = .ok (as, rest) := by
  induction takes generalizing first cs fuel with
  | nil =>
      obtain ⟨fuel, rfl⟩ := exists_fuel enough
      cases formed with
      | closeList spacing =>
          simp only [List.append_assoc, List.singleton_append, elements,
            nextElement_closed spacing, bind, Except.bind]
  | cons take takes ih =>
      obtain ⟨fuel, rfl⟩ := exists_fuel enough
      cases formed with
      | item spacing spacing' value behind =>
          have later := ih behind (by simpa using enough)
          rw [elements]
          simp only [List.append_assoc]
          rw [nextElement_of_item first spacing spacing' value]
          simp only [take.here, later, bind, Except.bind]

theorem takes_list {as : List α} (list : ListOf v values)
    (takes : List.Forall₂ (Takes item) values as) : Takes (Json.list item) v as := by
  obtain ⟨cs, formed, rfl⟩ := list
  intro gap rest spacing
  have length := length_le_of_items formed
  have enough : values.length < (cs ++ rest).length + 1 := by
    rw [List.length_append]
    omega
  simp only [List.cons_append, Json.list]
  rw [skipSpace_spacing spacing (by decide)]
  exact elements_of_formed takes formed enough rest

/-! ## Records as objects -/

/-- Whether characters are an object with some members, of which the keys are spelled in any way. -/
def ObjectOf (v : List Char) (entries : List (String × List Char)) : Prop :=
  ∃ members cs, Formed (.members true members) cs ∧ v = '\x7b' :: cs ∧
    List.Forall₂ (fun m e => Spells m.1 e.1.toList ∧ m.2 = e.2) members entries

theorem ObjectOf.formed (object : ObjectOf v entries) : Formed .value v := by
  obtain ⟨members, cs, items, rfl, _⟩ := object
  exact .object items

theorem nextKey_append (first : Bool) (spacing : Spacing gap) (cs : List Char) :
    nextKey first (gap ++ cs) = nextKey first cs := by
  unfold nextKey
  rw [skipSpace_append spacing]

theorem colon_append (spacing : Spacing gap) (rest : List Char) :
    colon (gap ++ ':' :: rest) = .ok rest := by
  unfold colon
  rw [skipSpace_spacing spacing (by decide)]
  rfl

theorem length_le_of_members {first : Bool} {members : List (List Char × List Char)}
    (formed : Formed (.members first members) cs) : members.length ≤ cs.length := by
  induction members generalizing first cs with
  | nil => simp
  | cons m members ih =>
      cases formed with
      | member spacing spacing' key before after value behind =>
          have := ih behind
          simp only [List.length_append, List.length_cons]
          omega

/-- What is found of the members of an object: those with a known key, by what its reader takes. -/
inductive Collects (slots : List (Slot α)) :
    List (String × List Char) → List (String × α) → Prop
  | nil : Collects slots [] []
  | unknown {key : String} {v : List Char} {entries : List (String × List Char)}
      {found : List (String × α)} (other : (slots.find? fun slot => slot.key = key) = none)
      (behind : Collects slots entries found) : Collects slots ((key, v) :: entries) found
  | known {key : String} {v : List Char} {slot : Slot α} {a : α}
      {entries : List (String × List Char)} {found : List (String × α)}
      (known : (slots.find? fun slot => slot.key = key) = some slot) (takes : Takes slot.read v a)
      (behind : Collects slots entries found) :
      Collects slots ((key, v) :: entries) ((key, a) :: found)

/-- The next key of an object is read behind the white space and the comma in front of it. -/
theorem nextKey_of_member {space : List Char} (first : Bool) (spacing : Spacing gap)
    (spacing' : Spacing space) (cs : List Char) :
    nextKey first (gap ++ (comma first ++ (space ++ '"' :: cs))) = .ok (.item cs) := by
  rw [nextKey_append first spacing, nextKey_item spacing']

/-- The members of an object are taken up to the bracket that closes it. -/
theorem members_of_formed {more : List (String × α)} (collects : Collects slots entries more)
    (found : List (String × α)) {first : Bool} {members : List (List Char × List Char)}
    (formed : Formed (.members first members) cs)
    (keys : List.Forall₂ (fun m e => Spells m.1 e.1.toList ∧ m.2 = e.2) members entries)
    (once : ((found ++ more).map Prod.fst).Nodup) {fuel : Nat} (enough : members.length < fuel)
    (rest : List Char) :
    Json.members slots fuel first found (cs ++ rest) = .ok (found ++ more, rest) := by
  induction collects generalizing first cs fuel found members with
  | nil =>
      obtain ⟨fuel, rfl⟩ := exists_fuel enough
      cases keys
      cases formed with
      | closeObject spacing =>
          simp only [List.append_assoc, List.singleton_append, Json.members,
            nextKey_closed spacing, bind, Except.bind, List.append_nil]
  | @unknown key v entries more other collects ih =>
      obtain ⟨fuel, rfl⟩ := exists_fuel enough
      cases keys with
      | cons spelled keys =>
          obtain ⟨spells, rfl⟩ := spelled
          cases formed with
          | @member _ _ gap space raw before after v cs spacing spacing' _ spacingBefore
              spacingAfter value behind =>
              have later := ih found behind keys once (by simpa using enough)
              have passed := skipValue_of_formed value spacingAfter (ends_of_members behind rest)
              have read := textBody_of_spells spells
              rw [Json.members]
              simp only [List.append_assoc, List.cons_append]
              rw [nextKey_of_member first spacing spacing']
              simp only [bind, Except.bind, read, other, colon_append spacingBefore, passed, later]
  | @known key v slot a entries more known takes collects ih =>
      obtain ⟨fuel, rfl⟩ := exists_fuel enough
      cases keys with
      | cons spelled keys =>
          obtain ⟨spells, rfl⟩ := spelled
          cases formed with
          | @member _ _ gap space raw before after v cs spacing spacing' _ spacingBefore
              spacingAfter value behind =>
              -- No known key stands twice, so what was found so far has none like this one.
              have unseen : found.lookup key = none := by
                rw [List.lookup_eq_none_iff]
                intro e mem
                have apart := (List.nodup_append.mp (by simpa using once)).2.2
                grind
              have later := ih (found ++ [(key, a)]) behind keys (by simpa using once)
                (by simpa using enough)
              have read := textBody_of_spells spells
              rw [Json.members]
              simp only [List.append_assoc, List.cons_append]
              rw [nextKey_of_member first spacing spacing']
              simp only [bind, Except.bind, read, known, unseen, Option.isSome_none,
                Bool.false_eq_true, if_false, colon_append spacingBefore,
                takes after (cs ++ rest) spacingAfter, later, List.append_assoc, List.cons_append,
                List.nil_append]

/-! ## The values of a record -/

/-- Whether a value is that of a slot: taken from the member with its key, or its default. -/
def Settles (entries : List (String × List Char)) (slot : Slot α) (a : α) : Prop :=
  match entries.lookup slot.key with
  | some v => Takes slot.read v a
  | none => slot.default? = some a

theorem Takes.unique {a b : α} (takes : Takes scan v a) (takes' : Takes scan v b) : a = b := by
  have same := (takes [] [] spacing_nil).symm.trans (takes' [] [] spacing_nil)
  cases same
  rfl

theorem lookup_eq_some_of_mem {key : String} (mem : (key, v) ∈ entries)
    (once : (entries.map Prod.fst).count key ≤ 1) : entries.lookup key = some v := by
  induction entries with
  | nil => contradiction
  | cons e entries ih =>
      obtain ⟨key', v'⟩ := e
      rw [List.map_cons, List.count_cons] at once
      rcases List.mem_cons.mp mem with same | later
      · cases same
        simp
      · have inKeys : key ∈ entries.map Prod.fst := List.mem_map.mpr ⟨_, later, rfl⟩
        have some := List.one_le_count_iff.mpr inKeys
        have other : key ≠ key' := by
          rintro rfl
          simp at once
          omega
        rw [List.lookup_cons, beq_false_of_ne other]
        exact ih later (by omega)

theorem exists_collects (each : ∀ key v slot, (key, v) ∈ entries →
    (slots.find? fun slot => slot.key = key) = some slot → ∃ a, Takes slot.read v a) :
    ∃ found, Collects slots entries found := by
  induction entries with
  | nil => exact ⟨[], .nil⟩
  | cons e entries ih =>
      obtain ⟨key, v⟩ := e
      obtain ⟨found, behind⟩ := ih fun key v slot mem =>
        each key v slot (List.mem_cons_of_mem _ mem)
      cases known : slots.find? fun slot => slot.key = key with
      | none => exact ⟨found, .unknown known behind⟩
      | some slot =>
          obtain ⟨a, takes⟩ := each key v slot List.mem_cons_self known
          exact ⟨_, .known known takes behind⟩

/-- What is found under a known key is what its reader takes from the first member with it. -/
theorem Collects.lookup {found : List (String × α)} (collects : Collects slots entries found)
    (known : (slots.find? fun other => other.key = slot.key) = some slot) :
    (entries.lookup slot.key = none → found.lookup slot.key = none) ∧
      ∀ v, entries.lookup slot.key = some v →
        ∃ a, found.lookup slot.key = some a ∧ Takes slot.read v a := by
  induction collects with
  | nil => simp
  | @unknown key v entries found other behind ih =>
      have differ : slot.key ≠ key := by
        rintro rfl
        rw [known] at other
        contradiction
      simpa [List.lookup_cons, beq_false_of_ne differ] using ih
  | @known key v slot' a entries found known' takes behind ih =>
      by_cases same : slot.key = key
      · subst same
        obtain rfl := Option.some.inj (known.symm.trans known')
        simp [takes]
      · simpa [List.lookup_cons, beq_false_of_ne same] using ih

theorem Collects.count_le {found : List (String × α)} (collects : Collects slots entries found)
    (key : String) : (found.map Prod.fst).count key ≤ (entries.map Prod.fst).count key := by
  induction collects with
  | nil => simp
  | unknown other behind ih =>
      rw [List.map_cons, List.count_cons]
      omega
  | known known takes behind ih =>
      simp only [List.map_cons, List.count_cons]
      omega

theorem Collects.value?_eq_ok_iff {found : List (String × α)}
    (collects : Collects slots entries found)
    (known : (slots.find? fun other => other.key = slot.key) = some slot) {a : α} :
    slot.value? found = .ok a ↔ Settles entries slot a := by
  obtain ⟨absent, present⟩ := collects.lookup known
  unfold Settles Slot.value?
  cases entry : entries.lookup slot.key with
  | none =>
      rw [absent entry]
      cases slot.default? <;> simp
  | some v =>
      obtain ⟨b, there, takes⟩ := present v entry
      simp only [there, Except.ok.injEq]
      exact ⟨fun same => same ▸ takes, fun takes' => takes.unique takes'⟩

theorem Collects.known_of_mem {found : List (String × α)} (collects : Collects slots entries found)
    {key : String} (mem : key ∈ found.map Prod.fst) : ∃ slot ∈ slots, slot.key = key := by
  induction collects with
  | nil => contradiction
  | unknown other behind ih => exact ih mem
  | known known takes behind ih =>
      rcases List.mem_cons.mp mem with rfl | later
      · exact ⟨_, List.mem_of_find?_eq_some known, by simpa using List.find?_some known⟩
      · exact ih later

theorem find?_eq_some_of_mem (distinct : (slots.map Slot.key).Nodup) (mem : slot ∈ slots) :
    (slots.find? fun other => other.key = slot.key) = some slot := by
  induction slots with
  | nil => contradiction
  | cons other slots ih =>
      rw [List.map_cons, List.nodup_cons] at distinct
      rcases List.mem_cons.mp mem with rfl | later
      · simp
      · have differ : other.key ≠ slot.key := by
          intro same
          exact distinct.1 (same ▸ List.mem_map_of_mem later)
        rw [List.find?_cons_of_neg (by simpa using differ)]
        exact ih distinct.2 later

/-- A record is taken from an object, its values in the order of the slots. -/
theorem takes_object (name : String) (object : ObjectOf v entries)
    (distinct : (slots.map Slot.key).Nodup)
    (once : ∀ slot ∈ slots, (entries.map Prod.fst).count slot.key ≤ 1) {as : List α}
    (settles : List.Forall₂ (Settles entries) slots as) : Takes (record name slots) v as := by
  obtain ⟨found, collects⟩ : ∃ found, Collects slots entries found := by
    refine exists_collects fun key v slot mem known => ?_
    have slotMem := List.mem_of_find?_eq_some known
    obtain rfl : slot.key = key := by simpa using List.find?_some known
    obtain ⟨a, settled⟩ := exists_of_forall₂_of_mem settles slotMem
    rw [Settles, lookup_eq_some_of_mem mem (once slot slotMem)] at settled
    exact ⟨a, settled⟩
  -- Each known key is found once at most, so that none is refused as repeated.
  have nodup : (found.map Prod.fst).Nodup := by
    rw [List.nodup_iff_count_le_one]
    intro key
    by_cases mem : key ∈ found.map Prod.fst
    · obtain ⟨slot, slotMem, rfl⟩ := collects.known_of_mem mem
      exact Nat.le_trans (collects.count_le slot.key) (once slot slotMem)
    · rw [List.count_eq_zero_of_not_mem mem]
      exact Nat.zero_le 1
  have settled : settle slots found = .ok as := by
    rw [settle, mapM_eq_ok_iff]
    have inSlots := (List.forall₂_and_left slots as).mpr ⟨fun slot mem => mem, settles⟩
    refine inSlots.imp fun slot a both => ?_
    exact (collects.value?_eq_ok_iff (find?_eq_some_of_mem distinct both.1)).mpr both.2
  obtain ⟨members, cs, formed, rfl, keys⟩ := object
  intro gap rest spacing
  have length := length_le_of_members formed
  have enough : members.length < (cs ++ rest).length + 1 := by
    rw [List.length_append]
    omega
  have read := members_of_formed collects [] formed keys nodup enough rest
  simp only [List.cons_append, record]
  rw [skipSpace_spacing spacing (by decide)]
  simp only [read, bind, Except.bind, List.nil_append, settled]

/-! ## Records as lists -/

/-- The values of slots that are taken from a list in order, with defaults at its end. -/
inductive Fills : List (Slot α) → List (List Char) → List α → Prop
  | nil : Fills [] [] []
  | item {slot : Slot α} {slots : List (Slot α)} {v : List Char} {values : List (List Char)} {a : α}
      {as : List α} (takes : Takes slot.read v a) (behind : Fills slots values as) :
      Fills (slot :: slots) (v :: values) (a :: as)
  | default {slot : Slot α} {slots : List (Slot α)} {a : α} {as : List α}
      (default : slot.default? = some a) (behind : Fills slots [] as) :
      Fills (slot :: slots) [] (a :: as)

theorem closeList_append (spacing : Spacing gap) (rest : List Char) :
    closeList (gap ++ ']' :: rest) = .ok rest := by
  unfold closeList
  rw [skipSpace_spacing spacing (by decide)]
  rfl

theorem positional_of_formed (name : String) (needed : Nat) {as : List α}
    (fills : Fills slots values as) (read : Nat)
    (formed : Formed (.items (read = 0) values) cs) (rest : List Char) :
    positional name needed slots read (cs ++ rest) = .ok (as, rest) := by
  induction fills generalizing read cs rest with
  | nil =>
      cases formed with
      | closeList spacing =>
          simp only [List.append_assoc, List.singleton_append, positional,
            closeList_append spacing, bind, Except.bind]
  | item takes behind ih =>
      cases formed with
      | item spacing spacing' value items =>
          have later := ih (read + 1) (by simpa using items) rest
          rw [positional]
          simp only [List.append_assoc]
          rw [nextElement_of_item _ spacing spacing' value]
          simp only [takes.here, later, bind, Except.bind]
  | default default behind ih =>
      cases formed with
      | closeList spacing =>
          have closing : Formed (.items (read + 1 = 0) []) [']'] := .closeList spacing_nil
          have later := ih (read + 1) closing rest
          simp only [List.append_assoc, List.singleton_append] at later ⊢
          simp only [positional, nextElement_closed spacing, default, later, bind, Except.bind]

theorem takes_positional (name : String) (list : ListOf v values) {as : List α}
    (fills : Fills slots values as) : Takes (record name slots) v as := by
  obtain ⟨cs, formed, rfl⟩ := list
  intro gap rest spacing
  simp only [List.cons_append, record]
  rw [skipSpace_spacing spacing (by decide)]
  exact positional_of_formed name _ fills 0 formed rest

end ModelMigration.Json
