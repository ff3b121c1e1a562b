import Mathlib.Data.List.Chain
import Mathlib.Data.List.Infix
import ModelMigration.Proofs.Text.Pieces
import ModelMigration.Proofs.Text.Replacing
import ModelMigration.Template

/-!
# Filling a template

A template in pieces, and what it is filled with at once. Putting in values name after name comes to
the same: as long as the values that are searched again bring in no brace, two open braces stand in
the text only where a token of the template starts.
-/

namespace ModelMigration

open Text

/-! ## Pieces -/

/-- A piece of a template: text that stays, or a token. -/
inductive Piece where
  | literal (text : String)
  | token (name : String)
deriving DecidableEq, Repr

/-- A name without braces. -/
def Braceless (name : String) : Prop := '\x7b' ∉ name.toList ∧ '\x7d' ∉ name.toList

instance (name : String) : Decidable (Braceless name) :=
  inferInstanceAs (Decidable ('\x7b' ∉ name.toList ∧ '\x7d' ∉ name.toList))

namespace Piece

def text : Piece → String
  | literal text => text
  | token name => ModelMigration.token name

/-- Whether two braces open nowhere in the piece but in front of a name without braces. -/
def Plain : Piece → Prop
  | literal text => ¬ ['\x7b', '\x7b'] <:+: text.toList
  | token name => Braceless name

instance : DecidablePred Plain
  | literal text => inferInstanceAs (Decidable (¬ ['\x7b', '\x7b'] <:+: text.toList))
  | token name => inferInstanceAs (Decidable (Braceless name))

/-- Whether a piece may stand in front of another: no two literal pieces are neighbours, and none in
front of a token ends in an open brace. -/
def Precedes : Piece → Piece → Prop
  | literal _, literal _ => False
  | literal text, token _ => text.toList.getLast? ≠ some '\x7b'
  | token _, _ => True

instance : DecidableRel Precedes
  | literal _, literal _ => inferInstanceAs (Decidable False)
  | literal text, token _ => inferInstanceAs (Decidable (text.toList.getLast? ≠ some '\x7b'))
  | token _, literal _ => inferInstanceAs (Decidable True)
  | token _, token _ => inferInstanceAs (Decidable True)

/-- The piece with the value of its name in place of a token; a token without a value stays. -/
def fill (values : String → Option String) : Piece → Piece
  | literal text => literal text
  | token name =>
      match values name with
      | some value => literal value
      | none => token name

end Piece

/-- The text that the pieces make up. -/
def assembled (pieces : List Piece) : String := String.join (pieces.map Piece.text)

theorem assembled_cons (piece : Piece) (pieces : List Piece) :
    assembled (piece :: pieces) = piece.text ++ assembled pieces := by
  rw [assembled, List.map_cons, String.join_cons]
  rfl

theorem assembled_append (pieces others : List Piece) :
    assembled (pieces ++ others) = assembled pieces ++ assembled others := by
  rw [assembled, List.map_append, String.join_append]
  rfl

@[simp] theorem toList_assembled_cons (piece : Piece) (pieces : List Piece) :
    (assembled (piece :: pieces)).toList = piece.text.toList ++ (assembled pieces).toList := by
  rw [assembled_cons, String.toList_append]

/-- A regular template: tokens of names without braces, and literal pieces between them. -/
structure Template where
  pieces : List Piece
  plain : ∀ piece ∈ pieces, piece.Plain
  apart : pieces.IsChain Piece.Precedes

namespace Template

def text (t : Template) : String := assembled t.pieces

/-- The text with the values of their names for all tokens at once. -/
def filled (t : Template) (values : String → Option String) : String :=
  assembled (t.pieces.map (Piece.fill values))

end Template

/-- The value of a name is of no matter to pieces that do not have its token. -/
theorem map_fill_append_singleton {pieces : List Piece} {values : List (String × String)}
    {name value : String} (absent : ∀ piece ∈ pieces, piece ≠ .token name) :
    pieces.map (Piece.fill ((values ++ [(name, value)]).lookup ·)) =
      pieces.map (Piece.fill (values.lookup ·)) := by
  refine List.map_congr_left fun piece mem => ?_
  cases piece with
  | literal text => rfl
  | token other =>
      have distinct : other ≠ name := fun same => absent _ mem (congrArg Piece.token same)
      have unknown : List.lookup other [(name, value)] = none := by
        simp [List.lookup_singleton, distinct]
      rw [Piece.fill, Piece.fill, List.lookup_append, unknown, Option.or_none]

/-! ## Open braces -/

/-- Whether two open braces stand in the text of the pieces only where a token starts: no literal
piece has them, or one at its end with another piece behind. -/
inductive Parted : List Piece → Prop
  | nil : Parted []
  | literal {text : String} {rest : List Piece} (plain : (Piece.literal text).Plain)
      (closed : rest ≠ [] → text.toList.getLast? ≠ some '\x7b') (parted : Parted rest) :
      Parted (.literal text :: rest)
  | token {name : String} {rest : List Piece} (plain : Braceless name) (parted : Parted rest) :
      Parted (.token name :: rest)

theorem Template.parted (t : Template) : Parted t.pieces := by
  obtain ⟨pieces, plain, apart⟩ := t
  induction pieces with
  | nil => exact .nil
  | cons piece rest ih =>
      have others := ih (fun p hp => plain p (List.mem_cons_of_mem _ hp)) apart.of_cons
      have first := plain piece List.mem_cons_self
      cases piece with
      | token name => exact .token first others
      | literal text =>
          refine .literal first (fun some => ?_) others
          cases rest with
          | nil => exact absurd rfl some
          | cons next rest =>
              cases next with
              | literal other => exact absurd (List.isChain_cons_cons.mp apart).1 id
              | token name => exact (List.isChain_cons_cons.mp apart).1

theorem plain_of_not_mem {value : String} (free : '\x7b' ∉ value.toList) :
    (Piece.literal value).Plain :=
  fun inside => free (inside.subset List.mem_cons_self)

theorem Parted.fill {pieces : List Piece} {values : String → Option String} (parted : Parted pieces)
    (free : ∀ name value, values name = some value → '\x7b' ∉ value.toList) :
    Parted (pieces.map (Piece.fill values)) := by
  induction parted with
  | nil => exact .nil
  | literal plain closed _ ih =>
      exact .literal plain (fun some => closed fun none => some (by simp [none])) ih
  | @token name rest plain _ ih =>
      rw [List.map_cons, Piece.fill]
      split
      · next value found =>
          have absent := free name value found
          exact .literal (plain_of_not_mem absent)
            (fun _ last => absent (List.mem_of_getLast? last)) ih
      · exact .token plain ih

/-! ## One name -/

theorem toList_token (name : String) :
    (token name).toList = '\x7b' :: '\x7b' :: (name.toList ++ ['\x7d', '\x7d']) := by
  simp [token]

theorem token_ne_nil (name : String) : (token name).toList ≠ [] := by
  simp [toList_token]

theorem token_opens (name : String) : ['\x7b', '\x7b'] <+: (token name).toList := by
  simp [toList_token]

theorem eq_of_token_starts {name other : String} {rest : List Char} (free : Braceless name)
    (freeOther : Braceless other)
    (starts : (token name).toList <+: (token other).toList ++ rest) : name = other := by
  obtain ⟨behind, same⟩ := starts
  simp only [toList_token, List.cons_append, List.cons.injEq, true_and, List.append_assoc] at same
  exact String.toList_injective (append_sep_inj free.2 freeOther.2 same).1

theorem replace_token_append {name other : String} (value rest : List Char)
    (free : Braceless name) (freeOther : Braceless other) (distinct : name ≠ other) :
    replace (token name).toList value ((token other).toList ++ rest) =
      (token other).toList ++ replace (token name).toList value rest := by
  have none : ¬ (token name).toList <+: (token other).toList ++ rest :=
    fun starts => distinct (eq_of_token_starts free freeOther starts)
  -- Behind the first brace of the token there is one more, and none behind that.
  have plain : ¬ ['\x7b', '\x7b'] <:+: '\x7b' :: (other.toList ++ ['\x7d', '\x7d']) := by
    have absent : '\x7b' ∉ other.toList ++ ['\x7d', '\x7d'] := by simp [freeOther.1]
    rw [List.infix_cons_iff]
    rintro (atFront | further)
    · exact absent ((List.cons_prefix_cons.mp atFront).2.subset List.mem_cons_self)
    · exact absent (further.subset List.mem_cons_self)
  have closed : ('\x7b' :: (other.toList ++ ['\x7d', '\x7d'])).getLast? ≠ some '\x7b' := by
    simp [List.getLast?_cons]
  rw [toList_token other, List.cons_append] at none ⊢
  rw [replace_cons (token_ne_nil name) none,
    replace_append_of_plain (token_opens name) plain fun _ => closed]
  rfl

theorem replaced_assembled {pieces : List Piece} {name : String} (parted : Parted pieces)
    (free : Braceless name) (value : String) :
    replaced (token name) value (assembled pieces) =
      assembled (pieces.map (Piece.fill ([(name, value)].lookup ·))) := by
  apply String.toList_injective
  rw [replaced, String.toList_ofList]
  induction parted with
  | nil => exact replace_nil (token_ne_nil name)
  | @literal text rest plain closed _ ih =>
      have apart : (assembled rest).toList ≠ [] → text.toList.getLast? ≠ some '\x7b' := by
        intro some
        refine closed ?_
        rintro rfl
        exact some rfl
      rw [toList_assembled_cons, Piece.text, replace_append_of_plain (token_opens name) plain apart,
        ih, List.map_cons, toList_assembled_cons, Piece.fill, Piece.text]
  | @token other rest plain _ ih =>
      rw [toList_assembled_cons, Piece.text]
      by_cases same : other = name
      · subst same
        rw [replace_append _ _ (token_ne_nil other), ih]
        simp [Piece.fill, Piece.text]
      · rw [replace_token_append _ _ free plain (Ne.symm same), ih]
        simp [Piece.fill, Piece.text, same]

/-! ## All names -/

@[simp] theorem Piece.fill_none : Piece.fill (fun _ => none) = id := by
  funext piece
  cases piece <;> rfl

/-- What is filled twice could be filled at once, with the value given first where there are two. -/
theorem Piece.fill_fill (first second : String → Option String) (piece : Piece) :
    (piece.fill first).fill second = piece.fill fun name => (first name).or (second name) := by
  cases piece with
  | literal text => rfl
  | token name => cases given : first name <;> simp [fill, given]

theorem foldl_replaced_assembled {pieces : List Piece} {values : List (String × String)}
    (parted : Parted pieces) (names : ∀ pair ∈ values, Braceless pair.1)
    (free : ∀ pair ∈ values.dropLast, '\x7b' ∉ pair.2.toList) :
    values.foldl (fun text pair => replaced (token pair.1) pair.2 text) (assembled pieces) =
      assembled (pieces.map (Piece.fill (values.lookup ·))) := by
  induction values generalizing pieces with
  | nil => simp
  | cons pair values ih =>
      obtain ⟨name, value⟩ := pair
      rw [List.foldl_cons, replaced_assembled parted (names _ List.mem_cons_self)]
      by_cases last : values = []
      · -- Nothing is searched behind the last value.
        subst last
        rfl
      · rw [List.dropLast_cons_of_ne_nil last] at free
        have again : Parted (pieces.map (Piece.fill ([(name, value)].lookup ·))) := by
          refine parted.fill fun other text found => ?_
          rw [List.lookup_singleton, Option.ite_none_right_eq_some, Option.some.injEq] at found
          exact found.2 ▸ free _ List.mem_cons_self
        have both : ∀ other, List.lookup other ((name, value) :: values) =
            ([(name, value)].lookup other).or (values.lookup other) := by
          intro other
          change List.lookup other ([(name, value)] ++ values) = _
          exact List.lookup_append
        rw [ih again (fun x hx => names x (List.mem_cons_of_mem _ hx))
          (fun x hx => free x (List.mem_cons_of_mem _ hx)), List.map_map]
        simp only [Function.comp_def, Piece.fill_fill, both]

/-- Values put in name after name come to the same as all put in at once, if only the last of them
may bring in an open brace. -/
theorem Template.substitute_text (t : Template) {p : Placeholders}
    (names : ∀ pair ∈ p.values, Braceless pair.1)
    (free : ∀ pair ∈ p.values.dropLast, '\x7b' ∉ pair.2.toList) :
    substitute t.text p = t.filled p.get? :=
  foldl_replaced_assembled t.parted names free

end ModelMigration
