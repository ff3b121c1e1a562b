import ModelMigration.Proofs.Template.Filling
import ModelMigration.Proofs.Text.FirstOccurrence

/-!
# Tokens left in a text

The scan for tokens takes them from left to right, each where the one in front of it has ended. No
occurrence of a token is passed over for that: behind the first brace of a token there is one more
open brace and none behind that, so that no token starts inside another, and one that starts where
more than two braces open starts at the last two of them.
-/

namespace ModelMigration

open Text

/-- Whether a text is a name whose tokens are looked for. -/
structure IsTokenName (name : String) : Prop where
  filled : name ≠ ""
  chars : ∀ c ∈ name.toList, isTokenChar c

variable {name other : String} {text rest : List Char}

theorem IsTokenName.braceless (named : IsTokenName name) : Braceless name :=
  ⟨fun mem => absurd (named.chars _ mem) (by decide),
    fun mem => absurd (named.chars _ mem) (by decide)⟩

/-! ## The scan -/

/-- A token is found at the front of a text where the text starts with it. -/
theorem tokenName?_eq_some_iff :
    tokenName? text = some name ↔ IsTokenName name ∧ (token name).toList <+: text := by
  constructor
  · intro found
    unfold tokenName? at found
    split at found
    · next rest =>
        dsimp only at found
        split at found
        · next others closed =>
            obtain ⟨filled, rfl⟩ : rest.takeWhile isTokenChar ≠ [] ∧
                String.ofList (rest.takeWhile isTokenChar) = name := by simpa using found
            refine ⟨⟨by simpa using filled, fun c mem => ?_⟩, others, ?_⟩
            · rw [String.toList_ofList] at mem
              exact List.all_eq_true.mp List.all_takeWhile c mem
            · have whole := List.takeWhile_append_dropWhile (p := isTokenChar) (l := rest)
              rw [closed] at whole
              simpa [toList_token] using whole
        · contradiction
    · contradiction
  · rintro ⟨named, others, rfl⟩
    have filled : name.toList ≠ [] := by simpa using named.filled
    have closed : isTokenChar '\x7d' = false := by decide
    simp only [toList_token, List.cons_append, List.append_assoc, tokenName?,
      List.takeWhile_append_of_pos named.chars, List.dropWhile_append_of_pos named.chars,
      List.takeWhile_cons, List.dropWhile_cons, closed]
    simp [filled]

theorem tokenNames_cons_of_none {c : Char} {cs : List Char} (none : tokenName? (c :: cs) = none) :
    tokenNames (c :: cs) = tokenNames cs := by
  simp only [tokenNames, tokenNamesFrom, none]

theorem tokenNamesFrom_length (skipped rest : List Char) :
    tokenNamesFrom skipped.length (skipped ++ rest) = tokenNames rest := by
  induction skipped with
  | nil => rfl
  | cons c skipped ih => simpa [tokenNamesFrom] using ih

/-- The scan goes on behind a token. -/
theorem tokenNames_token_append (named : IsTokenName name) (rest : List Char) :
    tokenNames ((token name).toList ++ rest) = name :: tokenNames rest := by
  have found : tokenName? ((token name).toList ++ rest) = some name :=
    tokenName?_eq_some_iff.mpr ⟨named, List.prefix_append _ _⟩
  have behind : name.length + 3 = ('\x7b' :: (name.toList ++ ['\x7d', '\x7d'])).length := by
    simp [String.length_toList]
  rw [toList_token, List.cons_append] at found ⊢
  rw [tokenNames, tokenNamesFrom, found]
  dsimp only
  rw [behind, tokenNamesFrom_length]

/-- The cases of the scan: the text is at its end, no token starts it, or one does. -/
@[elab_as_elim]
theorem scan_induction {motive : List Char → Prop} (nil : motive [])
    (skip : ∀ c cs, tokenName? (c :: cs) = none → motive cs → motive (c :: cs))
    (found : ∀ name rest, IsTokenName name → motive rest → motive ((token name).toList ++ rest))
    (text : List Char) : motive text := by
  match text with
  | [] => exact nil
  | c :: cs =>
      cases start : tokenName? (c :: cs) with
      | none => exact skip c cs start (scan_induction nil skip found cs)
      | some name =>
          obtain ⟨named, rest, whole⟩ := tokenName?_eq_some_iff.mp start
          have shorter : rest.length < (c :: cs).length := by
            have some := List.length_pos_iff.mpr (token_ne_nil name)
            rw [← whole, List.length_append]
            omega
          exact whole ▸ found name rest named (scan_induction nil skip found rest)
termination_by text.length
decreasing_by
  · exact Nat.lt_succ_self cs.length
  · exact shorter

/-! ## No token is hidden -/

/-- No token starts inside another, whatever follows the other. -/
theorem misses_token_inside (name : String) (named : IsTokenName other) :
    Misses (token name).toList ('\x7b' :: (other.toList ++ ['\x7d', '\x7d'])) := by
  have free : '\x7b' ∉ other.toList ++ ['\x7d', '\x7d'] := by simp [named.braceless.1]
  refine .cons (fun rest starts => ?_) (toList_token name ▸ .of_not_mem free)
  -- The second brace of the token would have to stand in front of what follows the first.
  have second : ['\x7b'] <+: other.toList ++ ['\x7d', '\x7d'] ++ rest :=
    (List.cons_prefix_cons.mp ((token_opens name).trans starts)).2
  cases chars : other.toList ++ ['\x7d', '\x7d'] with
  | nil => simp at chars
  | cons c cs =>
      rw [chars, List.cons_append, List.cons_prefix_cons] at second
      exact free (chars ▸ second.1 ▸ List.mem_cons_self)

/-- The token of a name starts nowhere in that of another name. -/
theorem misses_token (named : IsTokenName name) (namedOther : IsTokenName other)
    (distinct : name ≠ other) : Misses (token name).toList (token other).toList := by
  rw [toList_token other]
  refine .cons (fun rest starts => distinct ?_) (misses_token_inside name namedOther)
  rw [← toList_token other] at starts
  exact eq_of_token_starts named.braceless namedOther.braceless starts

theorem token_infix_token_append_iff (named : IsTokenName name) (namedOther : IsTokenName other) :
    (token name).toList <:+: (token other).toList ++ rest ↔
      name = other ∨ (token name).toList <:+: rest := by
  by_cases same : name = other
  · subst same
    simp [(List.prefix_append _ _).isInfix]
  · rw [(misses_token named namedOther same).infix_append_iff, or_iff_right same]

/-- The names that are found are those whose tokens occur. -/
theorem mem_tokenNames :
    name ∈ tokenNames text ↔ IsTokenName name ∧ (token name).toList <:+: text := by
  induction text using scan_induction with
  | nil =>
      refine iff_of_false List.not_mem_nil fun ⟨_, occurs⟩ => ?_
      exact token_ne_nil name (List.infix_nil.mp occurs)
  | skip c cs none ih =>
      have missed : IsTokenName name → ¬ (token name).toList <+: c :: cs := fun named starts => by
        rw [tokenName?_eq_some_iff.mpr ⟨named, starts⟩] at none
        contradiction
      rw [tokenNames_cons_of_none none, ih, List.infix_cons_iff]
      exact and_congr_right fun named => (or_iff_right (missed named)).symm
  | found other rest namedOther ih =>
      rw [tokenNames_token_append namedOther, List.mem_cons, ih]
      constructor
      · rintro (rfl | ⟨named, later⟩)
        · exact ⟨namedOther, (List.prefix_append _ _).isInfix⟩
        · exact ⟨named, (token_infix_token_append_iff named namedOther).mpr (.inr later)⟩
      · rintro ⟨named, occurs⟩
        exact ((token_infix_token_append_iff named namedOther).mp occurs).imp id fun later =>
          ⟨named, later⟩

/-! ## The order -/

/-- Whether the tokens of two names occur in a text, that of the first name for the first time in
front of that of the other. -/
def Ahead (text : List Char) (name other : String) : Prop :=
  ∃ before rest before' rest', FirstCut (token name).toList text before rest ∧
    FirstCut (token other).toList text before' rest' ∧ before.length < before'.length

theorem Ahead.ne (ahead : Ahead text name other) : name ≠ other := by
  rintro rfl
  obtain ⟨before, rest, before', rest', cut, cut', less⟩ := ahead
  obtain ⟨rfl, -⟩ := cut.unique cut'
  exact Nat.lt_irrefl _ less

theorem Ahead.cons {c : Char} (ahead : Ahead text name other)
    (missed : ¬ (token name).toList <+: c :: text) (missed' : ¬ (token other).toList <+: c :: text) :
    Ahead (c :: text) name other := by
  obtain ⟨before, rest, before', rest', cut, cut', less⟩ := ahead
  exact ⟨_, _, _, _, cut.cons missed, cut'.cons missed', Nat.succ_lt_succ less⟩

theorem Ahead.append {front : List Char} (ahead : Ahead text name other)
    (misses : Misses (token name).toList front) (misses' : Misses (token other).toList front) :
    Ahead (front ++ text) name other := by
  obtain ⟨before, rest, before', rest', cut, cut', less⟩ := ahead
  refine ⟨_, _, _, _, misses.firstCut_append cut, misses'.firstCut_append cut', ?_⟩
  rw [List.length_append, List.length_append]
  omega

/-- The name of the token that a text starts with is ahead of the others that are found. -/
theorem ahead_of_mem (named : IsTokenName name) (mem : other ∈ tokenNames rest)
    (distinct : other ≠ name) : Ahead ((token name).toList ++ rest) name other := by
  obtain ⟨namedOther, occurs⟩ := mem_tokenNames.mp mem
  obtain ⟨before, others, cut⟩ := exists_firstCut_of_infix occurs
  refine ⟨[], rest, _, _, Misses.nil.firstCut (token_ne_nil name),
    (misses_token namedOther named distinct).firstCut_append cut, ?_⟩
  have some := List.length_pos_iff.mpr (token_ne_nil name)
  rw [List.length_append, List.length_nil]
  omega

/-- Names found behind a character at which no token starts keep their order. -/
theorem pairwise_ahead_cons {c : Char} {cs : List Char} {names : List String}
    (none : tokenName? (c :: cs) = none) (found : ∀ n ∈ names, n ∈ tokenNames cs)
    (order : names.Pairwise (Ahead cs)) : names.Pairwise (Ahead (c :: cs)) := by
  have missed : ∀ n ∈ names, ¬ (token n).toList <+: c :: cs := by
    intro n mem starts
    rw [tokenName?_eq_some_iff.mpr ⟨(mem_tokenNames.mp (found n mem)).1, starts⟩] at none
    contradiction
  exact order.imp_of_mem fun first second ahead => ahead.cons (missed _ first) (missed _ second)

/-- Names found behind a token keep their order, but for the name of the token. -/
theorem pairwise_ahead_behind {names : List String} (named : IsTokenName name)
    (found : ∀ n ∈ names, n ∈ tokenNames rest ∧ n ≠ name) (order : names.Pairwise (Ahead rest)) :
    names.Pairwise (Ahead ((token name).toList ++ rest)) := by
  have misses : ∀ n ∈ names, Misses (token n).toList (token name).toList := by
    intro n mem
    exact misses_token (mem_tokenNames.mp (found n mem).1).1 named (found n mem).2
  exact order.imp_of_mem fun first second ahead => ahead.append (misses _ first) (misses _ second)

theorem mem_chosen {n : String} {chosen : String → Bool}
    (mem : n ∈ ((tokenNames text).filter chosen).eraseDups) :
    n ∈ tokenNames text ∧ chosen n = true :=
  List.mem_filter.mp (List.mem_eraseDups.mp mem)

/-- The names that are found stand in the order of their first tokens, each once, and so do those
of them that are chosen: what follows a name are the ones found behind it, but for the name. -/
theorem pairwise_ahead (text : List Char) (chosen : String → Bool) :
    ((tokenNames text).filter chosen).eraseDups.Pairwise (Ahead text) := by
  induction text using scan_induction generalizing chosen with
  | nil => exact .nil
  | skip c cs none ih =>
      rw [tokenNames_cons_of_none none]
      exact pairwise_ahead_cons none (fun n mem => (mem_chosen mem).1) (ih chosen)
  | found name rest named ih =>
      rw [tokenNames_token_append named]
      by_cases taken : chosen name
      · have others : ∀ n, n ∈ ((tokenNames rest).filter fun n => !n == name && chosen n).eraseDups →
            n ∈ tokenNames rest ∧ n ≠ name := by
          intro n mem
          obtain ⟨found, other⟩ := mem_chosen mem
          exact ⟨found, by simpa using (Bool.and_eq_true_iff.mp other).1⟩
        rw [List.filter_cons_of_pos taken, List.eraseDups_cons, List.filter_filter,
          List.pairwise_cons]
        exact ⟨fun n mem => ahead_of_mem named (others n mem).1 (others n mem).2,
          pairwise_ahead_behind named others (ih _)⟩
      · rw [List.filter_cons_of_neg taken]
        refine pairwise_ahead_behind named (fun n mem => ?_) (ih chosen)
        obtain ⟨found, chosenToo⟩ := mem_chosen mem
        exact ⟨found, fun same => taken (same ▸ chosenToo)⟩

/-! ## The list -/

theorem mem_unresolved {text : String} :
    name ∈ unresolved text ↔ IsTokenName name ∧ (token name).toList <:+: text.toList := by
  rw [unresolved, List.mem_eraseDups, mem_tokenNames]

theorem pairwise_unresolved (text : String) : (unresolved text).Pairwise (Ahead text.toList) := by
  simpa [unresolved] using pairwise_ahead text.toList fun _ => true

/-- Putting in a value for a name changes the texts in which its token occurs, and no others. -/
theorem substitute_ne_iff {text value : String} (other : value ≠ token name) :
    substitute text (Placeholders.empty.insert name value) ≠ text ↔
      (token name).toList <:+: text.toList := by
  have put : substitute text (Placeholders.empty.insert name value) =
      replaced (token name) value text := rfl
  rw [put, replaced, ne_eq, ← String.toList_inj, String.toList_ofList]
  constructor
  · intro changed
    by_contra absent
    exact changed <| replace_of_not_infix (token_ne_nil name) absent
  · intro occurs stays
    exact other (String.toList_injective (eq_of_replace_eq (token_ne_nil name) occurs stays))

/--
The list of the names left in a text has each name once, holds the names of letters, digits and
underscores whose tokens occur in the text, wherever that is, and no others, and is in the order in
which their tokens first occur. It holds such a name exactly where putting in a value for it, other
than the token, changes the text.
-/
theorem unresolved_lists_tokens (text : String) :
    (unresolved text).Nodup ∧
    (∀ name, name ∈ unresolved text ↔
      IsTokenName name ∧ (token name).toList <:+: text.toList) ∧
    (unresolved text).Pairwise (Ahead text.toList) ∧
    ∀ name, IsTokenName name → ∀ value, value ≠ token name →
      (name ∈ unresolved text ↔
        substitute text (Placeholders.empty.insert name value) ≠ text) := by
  refine ⟨(pairwise_unresolved text).imp Ahead.ne, fun _ => mem_unresolved,
    pairwise_unresolved text, fun name named value other => ?_⟩
  rw [substitute_ne_iff other, mem_unresolved, and_iff_right named]

example : unresolved ("\x7b" ++ token "b" ++ token (token "a") ++ token "b") = ["b", "a"] := by
  decide +kernel

end ModelMigration
