import Mathlib.Data.List.Infix
import ModelMigration.Text.Search

/-!
# The first occurrence of a pattern

A text is cut at the first occurrence of a pattern. Where no occurrence starts in the front of a
text, the first one is the one behind it.
-/

namespace ModelMigration.Text

variable {pattern text before rest front : List Char}

/-- Whether a text is cut at the first occurrence of a pattern. -/
structure FirstCut (pattern text before rest : List Char) : Prop where
  whole : text = before ++ pattern ++ rest
  first : ∀ {other others}, text = other ++ pattern ++ others → before.length ≤ other.length

/-- There is one first occurrence at most. -/
theorem FirstCut.unique {before' rest' : List Char} (cut : FirstCut pattern text before rest)
    (cut' : FirstCut pattern text before' rest') : before = before' ∧ rest = rest' := by
  have length : before.length = before'.length :=
    le_antisymm (cut.first cut'.whole) (cut'.first cut.whole)
  have same := cut.whole.symm.trans cut'.whole
  rw [List.append_assoc, List.append_assoc] at same
  obtain ⟨fronts, behind⟩ := List.append_inj same length
  exact ⟨fronts, List.append_cancel_left behind⟩

/-- An occurrence that does not start with the text is one without the first character too. -/
theorem occurrence_of_cons {c : Char} {cs : List Char} (missed : after? pattern (c :: cs) = none)
    (whole : c :: cs = before ++ pattern ++ rest) :
    ∃ shorter, before = c :: shorter ∧ cs = shorter ++ pattern ++ rest := by
  cases before with
  | nil =>
      have starts : after? pattern (c :: cs) = some rest := after?_eq_some_iff.mpr whole
      rw [missed] at starts
      contradiction
  | cons b shorter =>
      obtain ⟨rfl, behind⟩ := List.cons.inj whole
      exact ⟨shorter, rfl, behind⟩

theorem firstCut_of_cut? (found : cut? pattern text = some (before, rest)) :
    FirstCut pattern text before rest := by
  refine ⟨eq_of_cut? found, fun {other others} whole => ?_⟩
  induction text generalizing before other with
  | nil =>
      have nothing := List.append_eq_nil_iff.mp (List.append_eq_nil_iff.mp (eq_of_cut? found).symm).1
      simp [nothing.1]
  | cons c text ih =>
      rw [cut?] at found
      split at found
      · obtain ⟨rfl, -⟩ := Prod.mk.inj (Option.some.inj found)
        exact Nat.zero_le _
      · next missed =>
          obtain ⟨⟨shorter, _⟩, later, shape⟩ := Option.map_eq_some_iff.mp found
          obtain ⟨rfl, rfl⟩ := Prod.mk.inj shape
          obtain ⟨otherShorter, rfl, behind⟩ := occurrence_of_cons missed whole
          exact Nat.succ_le_succ (ih later behind)

theorem exists_cut?_of_occurrence (whole : text = before ++ pattern ++ rest) :
    ∃ cut, cut? pattern text = some cut := by
  induction text generalizing before with
  | nil =>
      have nothing := List.append_eq_nil_iff.mp (List.append_eq_nil_iff.mp whole.symm).1
      exact ⟨([], []), by simp [cut?, nothing.2]⟩
  | cons c text ih =>
      rw [cut?]
      split
      · exact ⟨_, rfl⟩
      · next missed =>
          obtain ⟨shorter, -, behind⟩ := occurrence_of_cons missed whole
          obtain ⟨cut, later⟩ := ih behind
          exact ⟨_, Option.map_eq_some_iff.mpr ⟨cut, later, rfl⟩⟩

/-- The search finds the first occurrence. -/
theorem cut?_eq_some_iff :
    cut? pattern text = some (before, rest) ↔ FirstCut pattern text before rest := by
  refine ⟨firstCut_of_cut?, fun cut => ?_⟩
  obtain ⟨⟨before', rest'⟩, found⟩ := exists_cut?_of_occurrence cut.whole
  obtain ⟨rfl, rfl⟩ := (firstCut_of_cut? found).unique cut
  exact found

/-- The search fails where there is no occurrence, and only there. -/
theorem cut?_eq_none_iff : cut? pattern text = none ↔ ¬ pattern <:+: text := by
  constructor
  · rintro failed ⟨before, rest, whole⟩
    obtain ⟨cut, found⟩ := exists_cut?_of_occurrence whole.symm
    rw [failed] at found
    contradiction
  · intro absent
    refine Option.eq_none_iff_forall_ne_some.mpr fun ⟨before, rest⟩ found => ?_
    exact absent ⟨before, rest, (eq_of_cut? found).symm⟩

theorem exists_firstCut_of_infix (occurs : pattern <:+: text) :
    ∃ before rest, FirstCut pattern text before rest := by
  obtain ⟨before, rest, whole⟩ := occurs
  obtain ⟨⟨before', rest'⟩, found⟩ := exists_cut?_of_occurrence whole.symm
  exact ⟨before', rest', firstCut_of_cut? found⟩

/-- Before the first occurrence starts, none does. -/
theorem FirstCut.clear {back : List Char} (cut : FirstCut pattern text before rest)
    (filled : back ≠ []) (ends : back <:+ before) : ¬ pattern <+: back ++ (pattern ++ rest) := by
  rintro ⟨others, same⟩
  obtain ⟨front, rfl⟩ := ends
  have sooner : text = front ++ pattern ++ others := by
    rw [cut.whole, List.append_assoc, List.append_assoc, List.append_assoc, same]
  have short := cut.first sooner
  rw [List.length_append] at short
  have some := List.length_pos_iff.mpr filled
  omega

/-- The first occurrence stays the first behind one more character, unless one starts there. -/
theorem FirstCut.cons {c : Char} (cut : FirstCut pattern text before rest)
    (missed : ¬ pattern <+: c :: text) : FirstCut pattern (c :: text) (c :: before) rest := by
  refine ⟨congrArg (c :: ·) cut.whole, fun {other others} whole => ?_⟩
  cases other with
  | nil => exact absurd ⟨others, whole.symm⟩ missed
  | cons d other => exact Nat.succ_le_succ (cut.first (List.cons.inj whole).2)

/-! ## Fronts without an occurrence -/

/-- Whether no occurrence of a pattern starts in the front of a text, whatever stands behind it. -/
inductive Misses (pattern : List Char) : List Char → Prop
  | nil : Misses pattern []
  | cons {c : Char} {cs : List Char} (here : ∀ rest, ¬ pattern <+: c :: cs ++ rest)
      (later : Misses pattern cs) : Misses pattern (c :: cs)

namespace Misses

theorem append {behind : List Char} (misses : Misses pattern front)
    (further : Misses pattern behind) : Misses pattern (front ++ behind) := by
  induction misses with
  | nil => exact further
  | cons here _ ih =>
      rw [List.cons_append]
      refine .cons (fun rest => ?_) ih
      rw [← List.cons_append, List.append_assoc]
      exact here (behind ++ rest)

/-- No pattern starts where its first character does not stand. -/
theorem of_not_mem {mark : Char} (free : mark ∉ front) : Misses (mark :: pattern) front := by
  induction front with
  | nil => exact .nil
  | cons c front ih =>
      rw [List.mem_cons, not_or] at free
      exact .cons (fun _ starts => free.1 (List.cons_prefix_cons.mp starts).1) (ih free.2)

theorem join {texts : List String} (each : ∀ text ∈ texts, Misses pattern text.toList) :
    Misses pattern (String.join texts).toList := by
  induction texts with
  | nil => exact .nil
  | cons text texts ih =>
      rw [List.forall_mem_cons] at each
      rw [String.join_cons, String.toList_append]
      exact each.1.append (ih each.2)

/-- The occurrences behind such a front are all there are. -/
theorem infix_append_iff (misses : Misses pattern front) :
    pattern <:+: front ++ rest ↔ pattern <:+: rest := by
  induction misses with
  | nil => rfl
  | cons here _ ih =>
      rw [List.cons_append, List.infix_cons_iff, ih]
      exact or_iff_right (here rest)

/-- The first occurrence behind such a front is the first of all. -/
theorem firstCut_append (misses : Misses pattern front)
    (cut : FirstCut pattern text before rest) :
    FirstCut pattern (front ++ text) (front ++ before) rest := by
  induction misses with
  | nil => exact cut
  | cons here _ ih => exact ih.cons (here text)

/-- The first occurrence behind such a front is the one that follows it at once. -/
theorem firstCut (misses : Misses pattern front) (nonempty : pattern ≠ []) :
    FirstCut pattern (front ++ pattern ++ rest) front rest := by
  refine cut?_eq_some_iff.mp ?_
  induction misses with
  | nil =>
      obtain ⟨p, others, rfl⟩ := List.exists_cons_of_ne_nil nonempty
      have here : after? (p :: others) (p :: others ++ rest) = some rest :=
        after?_eq_some_iff.mpr rfl
      rw [List.nil_append, List.cons_append, cut?, ← List.cons_append, here]
  | @cons c front here _ ih =>
      have missed : after? pattern (c :: (front ++ pattern ++ rest)) = none := by
        refine Option.eq_none_iff_forall_ne_some.mpr fun others found => ?_
        rw [after?_eq_some_iff, List.append_assoc, ← List.cons_append] at found
        exact here _ ⟨others, found.symm⟩
      rw [List.cons_append, List.cons_append, cut?, missed, ih]
      rfl

end Misses

end ModelMigration.Text
