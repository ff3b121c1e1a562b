import ModelMigration.Proofs.Json.Respelling

/-!
# What is accepted is taken

A reader that accepts a value of some text accepts it wherever it stands, for the same, and stops
right behind it. For texts this is read off the grammar, for lists and records it follows from their
elements and members: what is accepted of them has been taken item by item.
-/

namespace ModelMigration.Json

variable {α : Type} {scan item : Scanner α} {raw cs rest rest' gap v : List Char} {s : String}
  {values : List (List Char)} {entries : List (String × List Char)} {slots : List (Slot α)}

/-- Whether a reader that accepts a value somewhere takes it. -/
def Local (scan : Scanner α) (v : List Char) : Prop :=
  ∀ gap rest a rest', Spacing gap → scan (gap ++ (v ++ rest)) = .ok (a, rest') →
    Takes scan v a ∧ rest' = rest

theorem Takes.isLocal {a : α} (takes : Takes scan v a) : Local scan v := by
  intro gap rest b rest' spacing accepted
  rw [takes gap rest spacing] at accepted
  cases accepted
  exact ⟨takes, rfl⟩

/-! ## Texts -/

/-- Behind a unit that begins a pair only one that ends it is accepted. -/
theorem secondUnit_eq_ok {m : Nat} {c : Char} (quotable : Quotable raw)
    (accepted : secondUnit m (raw ++ '"' :: rest) = .ok (c, rest')) :
    ∃ u n behind, raw = '\\' :: 'u' :: (u ++ behind) ∧ HexUnit u n ∧ isTrailing n = true ∧
      Quotable behind ∧ c = pair m n ∧ rest' = behind ++ '"' :: rest := by
  cases quotable with
  | nil => simp [secondUnit, stopAt] at accepted
  | plain stands behind => simp [secondUnit, stands.2.1, stopAt] at accepted
  | @short e d raw escape behind =>
      have notUnit : e ≠ 'u' := by
        rintro rfl
        contradiction
      simp [secondUnit, notUnit, stopAt] at accepted
  | @unit u raw n digits behind =>
      simp only [List.cons_append, List.append_assoc, secondUnit, hexUnit_append digits, bind,
        Except.bind] at accepted
      by_cases trailing : isTrailing n = true
      · rw [if_pos trailing] at accepted
        obtain ⟨same, same'⟩ := Prod.mk.inj (Except.ok.inj accepted)
        exact ⟨u, n, raw, rfl, digits, trailing, behind, same.symm, same'.symm⟩
      · rw [if_neg trailing] at accepted
        contradiction

/-- An escape by its unit is accepted for a character of its own or with the unit behind it. -/
theorem escape_eq_ok {u : List Char} {n : Nat} {c : Char} (digits : HexUnit u n)
    (accepted : escape ('u' :: (u ++ rest)) = .ok (c, rest')) :
    isTrailing n = false ∧ (isLeading n = false ∧ c = Char.ofNat n ∧ rest' = rest ∨
      isLeading n = true ∧ secondUnit n rest = .ok (c, rest')) := by
  simp only [escape, hexUnit_append digits, bind, Except.bind] at accepted
  cases trailing : isTrailing n with
  | true =>
      rw [trailing, if_pos rfl] at accepted
      contradiction
  | false =>
      rw [trailing, if_neg Bool.false_ne_true] at accepted
      cases leading : isLeading n with
      | true =>
          rw [leading, if_pos rfl] at accepted
          exact ⟨rfl, .inr ⟨rfl, accepted⟩⟩
      | false =>
          rw [leading, if_neg Bool.false_ne_true] at accepted
          obtain ⟨same, same'⟩ := Prod.mk.inj (Except.ok.inj accepted)
          exact ⟨rfl, .inl ⟨rfl, same.symm, same'.symm⟩⟩

/-- Characters that are accepted between quotes spell what they are read as. -/
theorem spells_of_textFrom {fuel : Nat} (quotable : Quotable raw)
    (accepted : textFrom fuel (raw ++ '"' :: rest) = .ok (cs, rest')) :
    Spells raw cs ∧ rest' = rest := by
  -- A pair is two escapes of the grammar, so the induction is on the fuel.
  induction fuel generalizing raw cs with
  | zero => cases quotable <;> simp [textFrom, stop] at accepted
  | succ fuel ih =>
      cases quotable with
      | nil =>
          simp only [List.nil_append, textFrom, if_pos, Except.ok.injEq, Prod.mk.injEq] at accepted
          exact ⟨accepted.1 ▸ .nil, accepted.2.symm⟩
      | plain stands behind =>
          simp only [List.cons_append, textFrom, stands.1, stands.2.1, stands.2.2,
            Bool.false_eq_true, if_false, bind_eq_ok_iff, Prod.exists, Except.ok.injEq,
            Prod.mk.injEq] at accepted
          obtain ⟨ds, behindDs, later, rfl, rfl⟩ := accepted
          obtain ⟨spells, same⟩ := ih behind later
          exact ⟨.plain stands spells, same⟩
      | short short behind =>
          simp only [List.cons_append, textFrom, Char.reduceEq, if_false, if_true,
            escape_short short, bind_eq_ok_iff, Prod.exists, Except.ok.injEq,
            Prod.mk.injEq] at accepted
          obtain ⟨_, _, ⟨rfl, rfl⟩, ds, behindDs, later, rfl, rfl⟩ := accepted
          obtain ⟨spells, same⟩ := ih behind later
          exact ⟨.short short spells, same⟩
      | unit digits behind =>
          simp only [List.cons_append, List.append_assoc, textFrom, Char.reduceEq, if_false,
            if_true, bind_eq_ok_iff, Prod.exists, Except.ok.injEq, Prod.mk.injEq] at accepted
          obtain ⟨d, behindD, escaped, ds, behindDs, later, rfl, rfl⟩ := accepted
          obtain ⟨noTrailing, ⟨noLeading, rfl, rfl⟩ | ⟨leading, second⟩⟩ :=
            escape_eq_ok digits escaped
          · obtain ⟨spells, same⟩ := ih behind later
            exact ⟨.unit digits noLeading noTrailing spells, same⟩
          · obtain ⟨u, n, raw, rfl, digits', trailing, behind, isPair, rfl⟩ :=
              secondUnit_eq_ok behind second
            rw [isPair]
            obtain ⟨spells, same⟩ := ih behind later
            exact ⟨.pair digits digits' leading trailing spells, same⟩

theorem unfit_ne_ok {expected : String} {result : α × List Char} :
    unfit expected cs ≠ .ok result := by
  intro accepted
  obtain ⟨_, _, stopped⟩ := bind_eq_ok_iff.mp accepted
  contradiction

/-- A value opens with a quote only if it is one between quotes. -/
theorem quotable_or_start (formed : Formed .value v) :
    (∃ raw, Quotable raw ∧ v = '"' :: (raw ++ ['"'])) ∨
      ∃ c behind, v = c :: behind ∧ isSpace c = false ∧ c ≠ '"' := by
  cases formed with
  | word word =>
      rcases word with rfl | rfl | rfl <;> exact .inr ⟨_, _, rfl, by decide, by decide⟩
  | number numeral =>
      obtain ⟨isSign, whole, _, _⟩ := numeral
      rcases isSign with rfl | rfl
      · obtain ⟨c, behind, rfl, digit⟩ := Skip.exists_digit whole
        exact .inr ⟨c, _, rfl, isSpace_of_isDigit digit, ne_of_isDigit digit rfl⟩
      · exact .inr ⟨_, _, rfl, by decide, by decide⟩
  | text quotable => exact .inl ⟨_, quotable, rfl⟩
  | list items => exact .inr ⟨_, _, rfl, by decide, by decide⟩
  | object items => exact .inr ⟨_, _, rfl, by decide, by decide⟩

/-- A value that is accepted as a text is one. -/
theorem textOf_of_text (formed : Formed .value v) (spacing : Spacing gap)
    (accepted : text (gap ++ (v ++ rest)) = .ok (s, rest')) : TextOf v s ∧ rest' = rest := by
  unfold text at accepted
  rcases quotable_or_start formed with ⟨raw, quotable, rfl⟩ | ⟨c, behind, rfl, solid, noQuote⟩
  · rw [List.cons_append, List.append_assoc, List.singleton_append,
      skipSpace_spacing spacing (by decide)] at accepted
    obtain ⟨⟨cs, behind⟩, read, whole⟩ := bind_eq_ok_iff.mp accepted
    obtain ⟨rfl, rfl⟩ := Prod.mk.inj (Except.ok.inj whole)
    obtain ⟨spells, same⟩ := spells_of_textFrom quotable read
    exact ⟨⟨raw, by rwa [String.toList_ofList], rfl⟩, same⟩
  · rw [List.cons_append, skipSpace_spacing spacing solid] at accepted
    split at accepted
    · contradiction
    · simp_all
    · exact absurd accepted unfit_ne_ok

/-! ## Lists -/

/-- The elements of a list that is accepted have been taken. -/
theorem takes_of_elements {as : List α} {first : Bool} (each : ∀ v ∈ values, Local item v)
    (formed : Formed (.items first values) cs) {fuel : Nat}
    (accepted : elements item fuel first (cs ++ rest) = .ok (as, rest')) :
    List.Forall₂ (Takes item) values as ∧ rest' = rest := by
  induction values generalizing first cs fuel as with
  | nil =>
      cases formed with
      | closeList spacing =>
          cases fuel with
          | zero => contradiction
          | succ fuel =>
              simp only [List.append_assoc, List.singleton_append, elements,
                nextElement_closed spacing, bind, Except.bind, Except.ok.injEq,
                Prod.mk.injEq] at accepted
              exact ⟨accepted.1 ▸ .nil, accepted.2.symm⟩
  | cons v values ih =>
      cases formed with
      | item spacing spacing' value behind =>
          cases fuel with
          | zero => contradiction
          | succ fuel =>
              rw [elements] at accepted
              simp only [List.append_assoc] at accepted
              rw [nextElement_of_item first spacing spacing' value] at accepted
              obtain ⟨_, ⟨⟩, accepted⟩ := bind_eq_ok_iff.mp accepted
              obtain ⟨⟨a, behindA⟩, here, accepted⟩ := bind_eq_ok_iff.mp accepted
              obtain ⟨⟨as, behindAs⟩, later, ⟨⟩⟩ := bind_eq_ok_iff.mp accepted
              obtain ⟨takes, rfl⟩ := each _ List.mem_cons_self [] _ a behindA spacing_nil here
              obtain ⟨others, same⟩ :=
                ih (fun v mem => each v (List.mem_cons_of_mem _ mem)) behind later
              exact ⟨.cons takes others, same⟩

/-- A list that is accepted has elements that are taken. -/
theorem takes_of_list {as : List α} (list : ListOf v values) (each : ∀ v ∈ values, Local item v)
    (spacing : Spacing gap) (accepted : Json.list item (gap ++ (v ++ rest)) = .ok (as, rest')) :
    List.Forall₂ (Takes item) values as ∧ rest' = rest := by
  obtain ⟨cs, formed, rfl⟩ := list
  simp only [List.cons_append, Json.list] at accepted
  rw [skipSpace_spacing spacing (by decide)] at accepted
  exact takes_of_elements each formed accepted

/-! ## Records as objects -/

/-- The members of an object that is accepted have been found. -/
theorem collects_of_members {found found' : List (String × α)}
    (each : ∀ key v slot, (key, v) ∈ entries →
      (slots.find? fun slot => slot.key = key) = some slot → Local slot.read v)
    {first : Bool} {members : List (List Char × List Char)}
    (formed : Formed (.members first members) cs)
    (keys : List.Forall₂ (fun m e => Spells m.1 e.1.toList ∧ m.2 = e.2) members entries)
    {fuel : Nat}
    (accepted : Json.members slots fuel first found (cs ++ rest) = .ok (found', rest')) :
    (∃ more, Collects slots entries more ∧ found' = found ++ more) ∧ rest' = rest := by
  induction keys generalizing first cs fuel found with
  | nil =>
      cases formed with
      | closeObject spacing =>
          cases fuel with
          | zero => contradiction
          | succ fuel =>
              simp only [List.append_assoc, List.singleton_append, Json.members,
                nextKey_closed spacing, bind, Except.bind, Except.ok.injEq,
                Prod.mk.injEq] at accepted
              exact ⟨⟨[], .nil, by simp [accepted.1]⟩, accepted.2.symm⟩
  | @cons m e members entries spelled keys ih =>
      obtain ⟨raw, v⟩ := m
      obtain ⟨key, v'⟩ := e
      obtain ⟨spells, rfl⟩ := spelled
      have others : ∀ key v slot, (key, v) ∈ entries →
          (slots.find? fun slot => slot.key = key) = some slot → Local slot.read v :=
        fun key v slot mem => each key v slot (List.mem_cons_of_mem _ mem)
      cases formed with
      | @member _ _ gap space _ before after _ cs spacing spacing' _ spacingBefore spacingAfter
          value behind =>
          cases fuel with
          | zero => contradiction
          | succ fuel =>
              have read := textBody_of_spells spells
              rw [Json.members] at accepted
              simp only [List.append_assoc, List.cons_append] at accepted
              rw [nextKey_of_member first spacing spacing'] at accepted
              simp only [bind, Except.bind, read, colon_append spacingBefore] at accepted
              cases known : slots.find? fun slot => slot.key = key with
              | none =>
                  have passed :=
                    skipValue_of_formed value spacingAfter (ends_of_members behind rest)
                  simp only [known, passed] at accepted
                  obtain ⟨⟨more, collects, whole⟩, same⟩ := ih others behind accepted
                  exact ⟨⟨more, .unknown known collects, whole⟩, same⟩
              | some slot =>
                  simp only [known] at accepted
                  by_cases repeated : (found.lookup key).isSome = true
                  · rw [if_pos repeated] at accepted
                    contradiction
                  · rw [if_neg repeated] at accepted
                    obtain ⟨⟨a, behindA⟩, here, accepted⟩ := bind_eq_ok_iff.mp accepted
                    obtain ⟨takes, rfl⟩ :=
                      each key v slot List.mem_cons_self known after _ a _ spacingAfter here
                    obtain ⟨⟨more, collects, rfl⟩, same⟩ := ih others behind accepted
                    exact ⟨⟨(key, a) :: more, .known known takes collects, by simp⟩, same⟩

/-- The values of a record that is accepted as an object settle its slots. -/
theorem settles_of_record {name : String} {as : List α} (object : ObjectOf v entries)
    (distinct : (slots.map Slot.key).Nodup)
    (each : ∀ slot ∈ slots, ∀ v, (slot.key, v) ∈ entries → Local slot.read v)
    (spacing : Spacing gap)
    (accepted : record name slots (gap ++ (v ++ rest)) = .ok (as, rest')) :
    List.Forall₂ (Settles entries) slots as ∧ rest' = rest := by
  obtain ⟨members, cs, formed, rfl, keys⟩ := object
  simp only [List.cons_append, record] at accepted
  rw [skipSpace_spacing spacing (by decide)] at accepted
  obtain ⟨⟨found, behind⟩, read, closed⟩ := bind_eq_ok_iff.mp accepted
  have known : ∀ key v slot, (key, v) ∈ entries →
      (slots.find? fun slot => slot.key = key) = some slot → Local slot.read v := by
    intro key v slot mem found
    obtain rfl : slot.key = key := by simpa using List.find?_some found
    exact each slot (List.mem_of_find?_eq_some found) v mem
  obtain ⟨⟨_, collects, rfl⟩, rfl⟩ := collects_of_members known formed keys read
  cases settled : settle slots found with
  | error cause =>
      simp only [settled] at closed
      contradiction
  | ok values =>
      simp only [settled, Except.ok.injEq, Prod.mk.injEq] at closed
      obtain ⟨rfl, rfl⟩ := closed
      rw [settle, mapM_eq_ok_iff] at settled
      have inSlots := (List.forall₂_and_left slots values).mpr ⟨fun slot mem => mem, settled⟩
      refine ⟨inSlots.imp fun slot a both => ?_, rfl⟩
      exact (collects.value?_eq_ok_iff (find?_eq_some_of_mem distinct both.1)).mp both.2

/-! ## Records as lists -/

theorem skipSpace_of_closeList (closed : closeList cs = .ok rest) : skipSpace cs = ']' :: rest := by
  unfold closeList at closed
  split at closed
  · contradiction
  · cases closed
    assumption
  · split at closed <;> contradiction
  · contradiction

/-- A list does not end where an element follows. -/
theorem closeList_ne_ok {first : Bool} (formed : Formed (.items first (v :: values)) cs) :
    closeList (cs ++ rest) ≠ .ok rest' := by
  intro closed
  have bracket := skipSpace_of_closeList closed
  cases formed with
  | item spacing spacing' value behind =>
      obtain ⟨c, others, rfl, solid, goesOn⟩ := exists_start value
      simp only [List.append_assoc, List.cons_append] at bracket
      rw [skipSpace_append spacing] at bracket
      cases first with
      | true =>
          rw [comma, if_pos rfl, List.nil_append, skipSpace_spacing spacing' solid] at bracket
          exact goesOn (List.cons.inj bracket).1
      | false => simp [comma, skipSpace, isSpace] at bracket

/-- The values of a record that is accepted as a list fill its slots. -/
theorem fills_of_positional {name : String} {needed : Nat} {as : List α} (read : Nat)
    (each : ∀ p ∈ slots.zip values, Local p.1.read p.2)
    (formed : Formed (.items (read = 0) values) cs)
    (accepted : positional name needed slots read (cs ++ rest) = .ok (as, rest')) :
    Fills slots values as ∧ rest' = rest := by
  induction slots generalizing values read cs rest rest' as with
  | nil =>
      obtain ⟨behind, closed, ⟨⟩⟩ := bind_eq_ok_iff.mp accepted
      cases formed with
      | closeList spacing =>
          simp only [List.append_assoc, List.singleton_append, closeList_append spacing,
            Except.ok.injEq] at closed
          exact ⟨.nil, closed.symm⟩
      | item spacing spacing' value behind =>
          exact absurd closed (closeList_ne_ok (.item spacing spacing' value behind))
  | cons slot slots ih =>
      rw [positional] at accepted
      cases values with
      | nil =>
          cases formed with
          | closeList spacing =>
              have closing : Formed (.items (read + 1 = 0) []) [']'] := .closeList spacing_nil
              simp only [List.append_assoc, List.singleton_append, nextElement_closed spacing,
                bind, Except.bind] at accepted
              cases default : slot.default? with
              | none =>
                  simp only [default] at accepted
                  contradiction
              | some a =>
                  simp only [default] at accepted
                  obtain ⟨⟨as, behindAs⟩, later, ⟨⟩⟩ := bind_eq_ok_iff.mp accepted
                  exact ⟨.default default (ih (read + 1) (by simp) closing later).1, rfl⟩
      | cons v values =>
          cases formed with
          | item spacing spacing' value behind =>
              simp only [List.append_assoc] at accepted
              rw [nextElement_of_item _ spacing spacing' value] at accepted
              obtain ⟨_, ⟨⟩, accepted⟩ := bind_eq_ok_iff.mp accepted
              obtain ⟨⟨a, behindA⟩, here, accepted⟩ := bind_eq_ok_iff.mp accepted
              obtain ⟨⟨as, behindAs⟩, later, ⟨⟩⟩ := bind_eq_ok_iff.mp accepted
              obtain ⟨takes, rfl⟩ := each _ List.mem_cons_self [] _ a behindA spacing_nil here
              have others : ∀ p ∈ slots.zip values, Local p.1.read p.2 :=
                fun p mem => each p (List.mem_cons_of_mem _ mem)
              obtain ⟨fills, same⟩ := ih (read + 1) others (by simpa using behind) later
              exact ⟨.item takes fills, same⟩

theorem fills_of_record {name : String} {as : List α} (list : ListOf v values)
    (each : ∀ p ∈ slots.zip values, Local p.1.read p.2) (spacing : Spacing gap)
    (accepted : record name slots (gap ++ (v ++ rest)) = .ok (as, rest')) :
    Fills slots values as ∧ rest' = rest := by
  obtain ⟨cs, formed, rfl⟩ := list
  simp only [List.cons_append, record] at accepted
  rw [skipSpace_spacing spacing (by decide)] at accepted
  exact fills_of_positional 0 each formed accepted

end ModelMigration.Json
