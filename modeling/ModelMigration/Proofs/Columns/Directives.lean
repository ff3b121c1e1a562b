import ModelMigration.ForeignKey
import ModelMigration.Modifier
import ModelMigration.Proofs.FallibleSteps
import ModelMigration.Proofs.Text.Identifiers
import ModelMigration.Proofs.Text.Pieces

/-!
# Directives

The texts that spell modifiers, and those that spell foreign keys. A text is read exactly if it
spells something, and as what it spells; of the modifiers the leftmost directive that spells none is
refused, as it was written.
-/

namespace ModelMigration

open Text

/-! ## Padded pieces -/

theorem pieces_of_isBlankText {sep : Char} {text : String} (dark : isBlank sep = false)
    (blank : isBlankText text = true) : pieces sep text = [text] := by
  have mark : (String.ofList [sep]).toList = [sep] := String.toList_ofList
  refine (pieces_eq_iff mark).mpr ⟨by simp, ?_, ?_⟩
  · intro piece mem inside
    rw [List.mem_singleton.mp mem] at inside
    rw [List.all_eq_true.mp blank sep inside] at dark
    contradiction
  · simp [joined, join]

/-- The pieces of two padded texts with the separator between them, in which it is not. -/
theorem pieces_of_around {sep : Char} {mark a b front back : String} (one : mark.toList = [sep])
    (dark : isBlank sep = false) (ha : Around a front) (hb : Around b back)
    (freeA : sep ∉ a.toList) (freeB : sep ∉ b.toList) :
    pieces sep (front ++ mark ++ back) = [front, back] := by
  rw [← mem_iff_of_around ha dark] at freeA
  rw [← mem_iff_of_around hb dark] at freeB
  exact (pieces_eq_pair_iff one).mpr ⟨freeA, freeB, rfl⟩

/-! ## One modifier -/

namespace Modifier

/-- Whether the modifier can be written: its name is an identifier, and an argument is there, has no
separators and no white space at its ends. -/
structure Sound (m : Modifier) : Prop where
  name : isIdentifier m.name = true
  argument : ∀ a ∈ m.argument?, a ≠ "" ∧ ',' ∉ a.toList ∧ ':' ∉ a.toList ∧ Tight a

/-- Whether a directive is the name of the modifier, with a comma and its argument behind if it has
one, and any white space around either. -/
def SpelledAs (m : Modifier) (directive : String) : Prop :=
  match m.argument? with
  | none => Around m.name directive
  | some a => ∃ front back, Around m.name front ∧ Around a back ∧ directive = front ++ "," ++ back

/-- Whether a text is a directive: it spells a modifier. -/
def IsDirective (text : String) : Prop := ∃ m : Modifier, m.Sound ∧ m.SpelledAs text

theorem ofTokens_eq_ok_iff {name : String} {argument? : Option String} {m : Modifier} :
    ofTokens name argument? = .ok m ↔
      isIdentifier name = true ∧ argument? ≠ some "" ∧ m = ⟨name, argument?⟩ := by
  unfold ofTokens
  split
  · next empty => simp [empty, isIdentifier]
  · split
    · next bad => simp_all
    · next good =>
        split
        · next none => simp [none]
        · next some =>
            simp only [Bool.not_eq_true', Bool.not_eq_false] at good
            simp [good, some, eq_comm]

theorem SpelledAs.not_isBlankText {m : Modifier} {text : String} (sound : m.Sound)
    (spelled : m.SpelledAs text) : isBlankText text = false := by
  obtain ⟨name, _ | a⟩ := m
  · exact not_isBlankText_of_around sound.name spelled
  · obtain ⟨front, back, around, _, rfl⟩ := spelled
    have filled := not_isBlankText_of_around sound.name around
    exact not_isBlankText_append (not_isBlankText_append filled _) _

theorem SpelledAs.colon_not_mem {m : Modifier} {text : String} (sound : m.Sound)
    (spelled : m.SpelledAs text) : ':' ∉ text.toList := by
  have dark : isBlank ':' = false := by decide
  have name := not_mem_of_isIdentifier (c := ':') sound.name (by decide)
  obtain ⟨_, _ | a⟩ := m
  · rwa [mem_iff_of_around spelled dark]
  · obtain ⟨front, back, around, behind, rfl⟩ := spelled
    have argument := (sound.argument a rfl).2.2.1
    simp [mem_iff_of_around around dark, mem_iff_of_around behind dark, name, argument]

/-- A directive is read as the modifier that it spells. -/
theorem ofDirective_eq_ok_iff {text : String} {m : Modifier} (free : ':' ∉ text.toList) :
    ofDirective text = .ok m ↔ m.Sound ∧ m.SpelledAs text := by
  have dark : isBlank ',' = false := by decide
  have comma : ",".toList = [','] := by decide
  constructor
  · intro h
    unfold ofDirective at h
    generalize parts : pieces ',' text = tokens at h
    rcases tokens with _ | ⟨front, _ | ⟨back, _ | ⟨_, _⟩⟩⟩
    · cases h
    · obtain ⟨ident, _, rfl⟩ := ofTokens_eq_ok_iff.mp h
      have whole : text = front := by simpa [joined, join] using ((pieces_eq_iff comma).mp parts).2.2
      rw [whole]
      exact ⟨⟨ident, by simp⟩, around_trimmed front⟩
    · obtain ⟨ident, filled, rfl⟩ := ofTokens_eq_ok_iff.mp h
      obtain ⟨_, noComma, whole⟩ := (pieces_eq_pair_iff comma).mp parts
      refine ⟨⟨ident, ?_⟩, front, back, around_trimmed front, around_trimmed back, whole⟩
      rintro _ ⟨⟩
      have inside : ∀ c, isBlank c = false → c ∈ (trimmed back).toList → c ∈ back.toList :=
        fun c visible => (mem_iff_of_around (around_trimmed back) visible).mpr
      refine ⟨fun none => filled (congrArg _ none), ?_, ?_, tight_trimmed back⟩
      · exact fun mem => noComma (inside _ dark mem)
      · intro mem
        rw [whole] at free
        simp [inside _ (by decide) mem] at free
    · cases h
  · rintro ⟨sound, spelled⟩
    have name := not_mem_of_isIdentifier (c := ',') sound.name (by decide)
    have tight := tight_of_isIdentifier sound.name
    obtain ⟨_, _ | a⟩ := m
    · have whole : pieces ',' text = [text] :=
        (pieces_eq_iff comma).mpr ⟨by simp, by simpa [mem_iff_of_around spelled dark] using name,
          by simp [joined, join]⟩
      rw [ofDirective, whole]
      change ofTokens (trimmed text) none = _
      rw [trimmed_eq_iff.mpr ⟨tight, spelled⟩]
      exact ofTokens_eq_ok_iff.mpr ⟨sound.name, by simp, rfl⟩
    · obtain ⟨front, back, around, behind, rfl⟩ := spelled
      obtain ⟨filled, noComma, _, closed⟩ := sound.argument a rfl
      rw [ofDirective, pieces_of_around comma dark around behind name noComma]
      change ofTokens (trimmed front) (some (trimmed back)) = _
      rw [trimmed_eq_iff.mpr ⟨tight, around⟩, trimmed_eq_iff.mpr ⟨closed, behind⟩]
      exact ofTokens_eq_ok_iff.mpr ⟨sound.name, by simpa using filled, rfl⟩

theorem exists_ofDirective_iff {text : String} (free : ':' ∉ text.toList) :
    (∃ m, ofDirective text = .ok m) ↔ IsDirective text := by
  simp only [ofDirective_eq_ok_iff free, IsDirective]

/-! ## Lists of modifiers -/

/-- The directive of a modifier, without white space. -/
def directive (m : Modifier) : String :=
  match m.argument? with
  | none => m.name
  | some a => m.name ++ "," ++ a

/-- The directives of the modifiers with colons between them. -/
def print (modifiers : List Modifier) : String := joined ":" (modifiers.map directive)

/-- Whether a text spells the modifiers, one in each piece between colons; white space spells none. -/
def Spell (modifiers : List Modifier) (text : String) : Prop :=
  isBlankText text = true ∧ modifiers = [] ∨
    List.Forall₂ (fun piece m => m.Sound ∧ m.SpelledAs piece) (pieces ':' text) modifiers

theorem spelledAs_directive (m : Modifier) : m.SpelledAs m.directive := by
  obtain ⟨name, _ | a⟩ := m
  · exact Around.refl name
  · exact ⟨name, a, Around.refl name, Around.refl a, rfl⟩

theorem spell_joined {directives : List String} {modifiers : List Modifier}
    (each : List.Forall₂ (fun text m => m.Sound ∧ m.SpelledAs text) directives modifiers) :
    Spell modifiers (joined ":" directives) := by
  cases directives with
  | nil =>
      cases each
      exact .inl ⟨rfl, rfl⟩
  | cons first others =>
      have colons : ∀ text ∈ first :: others, ':' ∉ text.toList :=
        ((List.forall₂_and_left _ _).mp (each.imp fun _ _ h => ⟨h.2.colon_not_mem h.1, h⟩)).1
      have parts : pieces ':' (joined ":" (first :: others)) = first :: others :=
        (pieces_eq_iff (by decide)).mpr ⟨List.cons_ne_nil _ _, colons, rfl⟩
      right
      rwa [parts]

theorem spell_print {modifiers : List Modifier} (sound : ∀ m ∈ modifiers, m.Sound) :
    Spell modifiers (print modifiers) := by
  apply spell_joined
  rw [List.forall₂_map_left_iff, List.forall₂_same]
  exact fun m mem => ⟨sound m mem, spelledAs_directive m⟩

theorem Spell.sound {modifiers : List Modifier} {text : String} (h : Spell modifiers text) :
    ∀ m ∈ modifiers, m.Sound := by
  rcases h with ⟨_, rfl⟩ | each
  · simp
  · have spelled : List.Forall₂ (fun m piece => Sound m ∧ SpelledAs m piece) modifiers
        (pieces ':' text) := each.flip
    exact ((List.forall₂_and_left _ _).mp spelled).1

/-- White space is no directive. -/
theorem not_isBlankText_of_forall₂ {modifiers : List Modifier} {text : String}
    (each : List.Forall₂ (fun piece m => m.Sound ∧ m.SpelledAs piece) (pieces ':' text) modifiers) :
    isBlankText text = false := by
  cases blank : isBlankText text with
  | false => rfl
  | true =>
      rw [pieces_of_isBlankText (by decide) blank] at each
      obtain ⟨m, _, ⟨sound, spelled⟩, _⟩ := List.forall₂_cons_left_iff.mp each
      rw [← spelled.not_isBlankText sound, blank]

variable {field text : String}

theorem colon_not_mem_of_mem_pieces {piece : String} (mem : piece ∈ pieces ':' text) :
    ':' ∉ piece.toList := by
  have colon : ":".toList = [':'] := by decide
  exact ((pieces_eq_iff colon).mp rfl).2.1 piece mem

theorem parse_of_blank (blank : isBlankText text = true) : parse field text = .ok [] := by
  rw [parse, if_pos blank]

theorem parse_of_filled (filled : isBlankText text = false) :
    parse field text = (pieces ':' text).mapM fun piece =>
      (ofDirective piece).mapError fun fault => .invalidModifier field piece fault.message := by
  rw [parse, filled, if_neg Bool.false_ne_true]
  congr 1
  funext piece
  cases ofDirective piece <;> rfl

theorem forall₂_ofDirective_iff {texts : List String} {modifiers : List Modifier}
    (free : ∀ text ∈ texts, ':' ∉ text.toList) :
    List.Forall₂ (fun text m => ofDirective text = .ok m) texts modifiers ↔
      List.Forall₂ (fun text m => m.Sound ∧ m.SpelledAs text) texts modifiers := by
  induction texts generalizing modifiers with
  | nil => simp
  | cons first others ih =>
      rw [List.forall_mem_cons] at free
      simp only [List.forall₂_cons_left_iff, ofDirective_eq_ok_iff free.1, ih free.2]

/-- A text is read as the modifiers that it spells. -/
theorem parse_eq_ok_iff {modifiers : List Modifier} :
    parse field text = .ok modifiers ↔ Spell modifiers text := by
  cases blank : isBlankText text with
  | true =>
      rw [parse_of_blank blank, Spell]
      constructor
      · rintro ⟨⟩
        exact .inl ⟨blank, rfl⟩
      · rintro (⟨_, rfl⟩ | each)
        · rfl
        · rw [not_isBlankText_of_forall₂ each] at blank
          contradiction
  | false =>
      rw [parse_of_filled blank, mapM_eq_ok_iff, Spell]
      simp only [mapError_eq_ok_iff, forall₂_ofDirective_iff fun _ => colon_not_mem_of_mem_pieces,
        blank, Bool.false_eq_true, false_and, false_or]

theorem Spell.unique {as bs : List Modifier} (ha : Spell as text) (hb : Spell bs text) :
    as = bs := by
  have first : parse "" text = .ok as := parse_eq_ok_iff.mpr ha
  have second : parse "" text = .ok bs := parse_eq_ok_iff.mpr hb
  exact Except.ok.inj (first.symm.trans second)

/-- A text is refused for the leftmost of its pieces that is no directive. -/
theorem parse_eq_error_iff {e : Error} :
    parse field text = .error e ↔
      isBlankText text = false ∧ ∃ front piece back, pieces ':' text = front ++ piece :: back ∧
        (∀ before ∈ front, IsDirective before) ∧ ¬ IsDirective piece ∧
        ∃ fault, ofDirective piece = .error fault ∧
          e = .invalidModifier field piece fault.message := by
  cases blank : isBlankText text with
  | true => simp [parse_of_blank blank]
  | false =>
      rw [parse_of_filled blank, mapM_eq_error_iff]
      simp only [mapError_eq_ok_iff, true_and]
      apply exists_congr
      intro front
      apply exists_congr
      intro piece
      apply exists_congr
      intro back
      apply and_congr_right
      intro split
      have free : ∀ text ∈ front ++ piece :: back, ':' ∉ text.toList :=
        fun _ mem => colon_not_mem_of_mem_pieces (split ▸ mem)
      have before : (∀ text ∈ front, ∃ m, ofDirective text = .ok m) ↔
          ∀ text ∈ front, IsDirective text :=
        forall₂_congr fun text mem =>
          exists_ofDirective_iff (free text (List.mem_append_left _ mem))
      rw [before, ← exists_ofDirective_iff (free piece (by simp))]
      apply and_congr_right
      intro _
      cases ofDirective piece <;> simp [Except.mapError, eq_comm]

/--
Modifiers are read exactly as they are spelled: directives with white space around names and
arguments give the modifiers that they spell, in order; what is read is sound, is spelled by the
text, and is read again from its printed form; and a text is refused exactly if it is not white
space and has a piece that is no directive, for the leftmost such piece as it is written.
-/
theorem modifiers_read_exactly (field : String) :
    (∀ (directives : List String) (modifiers : List Modifier),
      List.Forall₂ (fun text m => m.Sound ∧ m.SpelledAs text) directives modifiers →
        parse field (joined ":" directives) = .ok modifiers) ∧
    (∀ text modifiers, parse field text = .ok modifiers →
      Spell modifiers text ∧ (∀ m ∈ modifiers, m.Sound) ∧
        parse field (print modifiers) = .ok modifiers) ∧
    (∀ text, (∃ e, parse field text = .error e) ↔
      isBlankText text = false ∧ ∃ piece ∈ pieces ':' text, ¬ IsDirective piece) ∧
    ∀ text e, parse field text = .error e →
      ∃ front piece back, pieces ':' text = front ++ piece :: back ∧
        (∀ before ∈ front, IsDirective before) ∧ ¬ IsDirective piece ∧
        ∃ fault, ofDirective piece = .error fault ∧
          e = .invalidModifier field piece fault.message := by
  refine ⟨fun _ _ each => parse_eq_ok_iff.mpr (spell_joined each), ?_, ?_, ?_⟩
  · intro text modifiers read
    have spelled := parse_eq_ok_iff.mp read
    exact ⟨spelled, spelled.sound, parse_eq_ok_iff.mpr (spell_print spelled.sound)⟩
  · intro text
    constructor
    · rintro ⟨e, refused⟩
      obtain ⟨filled, front, piece, back, split, _, bad, _⟩ := parse_eq_error_iff.mp refused
      exact ⟨filled, piece, by simp [split], bad⟩
    · rintro ⟨filled, piece, mem, bad⟩
      cases read : parse field text with
      | error e => exact ⟨e, rfl⟩
      | ok modifiers =>
          rcases parse_eq_ok_iff.mp read with ⟨blank, _⟩ | each
          · rw [blank] at filled
            contradiction
          · obtain ⟨m, spelled⟩ := exists_of_forall₂_of_mem each mem
            exact absurd ⟨m, spelled⟩ bad
  · intro text e refused
    exact (parse_eq_error_iff.mp refused).2

/-- White space of any kind around a name and an argument, and a bad name behind a good one. -/
theorem modifiers_read_exactly_padded :
    List.Forall₂ (fun text (m : Modifier) => m.Sound ∧ m.SpelledAs text)
        [" nullable\t", "default ,\u00a00"] [⟨"nullable", none⟩, ⟨"default", some "0"⟩] ∧
      parse "price" " nullable\t:default ,\u00a00" =
        .ok [⟨"nullable", none⟩, ⟨"default", some "0"⟩] ∧
      parse "price" "nullable: drop table :," =
        .error (.invalidModifier "price" " drop table "
          (ModifierFault.badName "drop table").message) ∧
      ¬ IsDirective " drop table " := by
  have spelled : List.Forall₂ (fun text (m : Modifier) => m.Sound ∧ m.SpelledAs text)
      [" nullable\t", "default ,\u00a00"] [⟨"nullable", none⟩, ⟨"default", some "0"⟩] := by
    refine .cons ⟨⟨by decide, by simp⟩, " ", "\t", rfl, rfl, by decide +kernel⟩
      (.cons ⟨⟨by decide, ?_⟩, "default ", "\u00a00", ?_, ?_, by decide⟩ .nil)
    · rintro _ ⟨⟩
      refine ⟨by decide, by decide, by decide, ?_, ?_⟩
      · rintro _ ⟨⟩
        rfl
      · rintro _ ⟨⟩
        rfl
    · exact ⟨"", " ", rfl, rfl, by decide +kernel⟩
    · exact ⟨"\u00a0", "", rfl, rfl, by decide +kernel⟩
  have refused : parse "price" "nullable: drop table :," =
      .error (.invalidModifier "price" " drop table "
        (ModifierFault.badName "drop table").message) := by decide +kernel
  have whole : joined ":" [" nullable\t", "default ,\u00a00"] = " nullable\t:default ,\u00a00" := by
    decide +kernel
  have read := (modifiers_read_exactly "price").1 _ _ spelled
  rw [whole] at read
  obtain ⟨front, piece, back, _, _, bad, _, _, same⟩ :=
    (modifiers_read_exactly "price").2.2.2 _ _ refused
  obtain ⟨_, rfl, _⟩ := Error.invalidModifier.inj same
  exact ⟨spelled, read, refused, bad⟩

end Modifier

/-! ## Foreign keys -/

namespace ForeignKey

/-- Whether both names of the foreign key are identifiers. -/
structure Sound (k : ForeignKey) : Prop where
  column : isIdentifier k.column = true
  table : isIdentifier k.table = true

/-- Whether a text is the column and the table with a colon between them, and any white space around
either. -/
def SpelledAs (k : ForeignKey) (text : String) : Prop :=
  ∃ front back, Around k.column front ∧ Around k.table back ∧ text = front ++ ":" ++ back

/-- Whether a text spells the foreign key, or spells none by being white space. -/
def Spell (key? : Option ForeignKey) (text : String) : Prop :=
  match key? with
  | none => isBlankText text = true
  | some k => k.Sound ∧ k.SpelledAs text

variable {field text : String}

theorem SpelledAs.not_isBlankText {k : ForeignKey} (sound : k.Sound) (spelled : k.SpelledAs text) :
    isBlankText text = false := by
  obtain ⟨front, back, around, _, rfl⟩ := spelled
  have filled := not_isBlankText_of_around sound.column around
  exact not_isBlankText_append (not_isBlankText_append filled _) _

theorem SpelledAs.pieces_eq {k : ForeignKey} (sound : k.Sound) (spelled : k.SpelledAs text) :
    (pieces ':' text).map trimmed = [k.column, k.table] := by
  have colon : ":".toList = [':'] := by decide
  have column := not_mem_of_isIdentifier (c := ':') sound.column (by decide)
  have table := not_mem_of_isIdentifier (c := ':') sound.table (by decide)
  obtain ⟨front, back, around, behind, rfl⟩ := spelled
  rw [pieces_of_around colon (by decide) around behind column table, List.map_cons, List.map_cons,
    trimmed_eq_iff.mpr ⟨tight_of_isIdentifier sound.column, around⟩,
    trimmed_eq_iff.mpr ⟨tight_of_isIdentifier sound.table, behind⟩]
  rfl

theorem spelledAs_of_pieces {front back : String} (parts : pieces ':' text = [front, back]) :
    SpelledAs ⟨trimmed front, trimmed back⟩ text := by
  have colon : ":".toList = [':'] := by decide
  exact ⟨front, back, around_trimmed front, around_trimmed back,
    ((pieces_eq_pair_iff colon).mp parts).2.2⟩

/-- A text is read as the foreign key that it spells. -/
theorem parse_eq_ok_iff {key? : Option ForeignKey} :
    parse field text = .ok key? ↔ Spell key? text := by
  unfold parse
  split
  · next blank =>
      cases key? with
      | none => simp [Spell, blank]
      | some k =>
          constructor
          · rintro ⟨⟩
          · rintro ⟨sound, spelled⟩
            rw [spelled.not_isBlankText sound] at blank
            contradiction
  · next filled =>
      constructor
      · intro h
        generalize parts : pieces ':' text = tokens at h
        rcases tokens with _ | ⟨front, _ | ⟨back, _ | ⟨_, _⟩⟩⟩
        · cases h
        · cases h
        · change (if isIdentifier (trimmed front) && isIdentifier (trimmed back) then _ else _) = _ at h
          split at h
          · next both =>
              obtain ⟨column, table⟩ := Bool.and_eq_true_iff.mp both
              cases h
              exact ⟨⟨column, table⟩, spelledAs_of_pieces parts⟩
          · cases h
        · cases h
      · cases key? with
        | none => exact fun blank => absurd blank filled
        | some k =>
            rintro ⟨sound, spelled⟩
            simp only [spelled.pieces_eq sound, sound.column, sound.table, Bool.and_self, if_true]

theorem parse_eq_error_iff {e : Error} :
    parse field text = .error e ↔
      (¬ ∃ key?, Spell key? text) ∧ e = .invalidForeignKey field text := by
  have failure : ∀ e, parse field text = .error e → e = .invalidForeignKey field text := by
    intro e h
    unfold parse at h
    split at h
    · cases h
    · split at h
      · split at h
        · cases h
        · exact (Except.error.inj h).symm
      · exact (Except.error.inj h).symm
  constructor
  · intro h
    refine ⟨?_, failure e h⟩
    rintro ⟨key?, spelled⟩
    rw [parse_eq_ok_iff.mpr spelled] at h
    cases h
  · rintro ⟨none, rfl⟩
    cases read : parse field text with
    | ok key? => exact absurd ⟨key?, parse_eq_ok_iff.mp read⟩ none
    | error e => rw [failure e read]

end ForeignKey

end ModelMigration
