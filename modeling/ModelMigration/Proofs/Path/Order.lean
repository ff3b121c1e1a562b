import ModelMigration.Proofs.Path.Parents
import ModelMigration.Proofs.Text.ByteOrder

/-!
# Spellings of paths and their order

What a spelling tells of a path are its start, a slash or a `.`, and the segments other than `.`.
Paths are ordered by their components, so two of them stand in order unless they are alike.
-/

namespace ModelMigration.Path

/-! ## Spellings -/

/-- Whether a `.` that is a part of its own stands in front of a path. -/
def StartsWithDot (p : Path) : Prop := p.text = "." ∨ ['.', '/'] <+: p.text.toList

instance (p : Path) : Decidable p.StartsWithDot :=
  inferInstanceAs (Decidable (p.text = "." ∨ ['.', '/'] <+: p.text.toList))

/-- The component that a segment stands for. -/
def Component.ofSegment (segment : String) : Component :=
  if segment = ".." then .up else .name segment

theorem componentsOf_eq (parts : List (List Char)) :
    componentsOf parts = (parts.filterMap leadsThrough?).map Component.ofSegment := by
  rw [componentsOf, List.map_filterMap]
  congr 1
  funext part
  rw [leadsThrough?_eq]
  by_cases none : part = [] ∨ part = ['.']
  · simp [Component.ofPart?, none]
  · by_cases up : part = ['.', '.']
    · subst up
      rfl
    · have other : String.ofList part ≠ ".." := fun same =>
        up (by simpa using congrArg String.toList same)
      simp [Component.ofPart?, none, up, Component.ofSegment, other]

theorem component?_leadOf (p : Path) : (leadOf p.text.toList).1.component?.toList =
    if p.isAbsolute then [.root] else if p.StartsWithDot then [.current] else [] := by
  have alone : p.text = "." ↔ p.text.toList = ['.'] := by simp [← String.toList_inj]
  simp only [isAbsolute, StartsWithDot, alone]
  generalize p.text.toList = cs
  fun_cases leadOf cs with
  | case1 body => rfl
  | case2 => rfl
  | case3 body => simp [Lead.component?]
  | case4 _ notSlash notDot notDotSlash =>
      have slash : cs.head? ≠ some '/' := by
        intro starts
        obtain ⟨body, same⟩ := List.head?_eq_some_iff.mp starts
        exact notSlash body same
      have dot : ¬ (cs = ['.'] ∨ ['.', '/'] <+: cs) := by
        rintro (same | ⟨body, same⟩)
        · exact notDot same
        · exact notDotSlash body same.symm
      rw [if_neg (by simpa using slash), if_neg dot]
      rfl

/-- The components of a path are the start of its spelling and the segments other than `.`. -/
theorem components_eq_segments (p : Path) : p.components =
    (if p.isAbsolute then [.root] else if p.StartsWithDot then [.current] else []) ++
      (p.segments.filter (· ≠ ".")).map Component.ofSegment := by
  rw [components_eq, component?_leadOf, componentsOf_eq, leadsThrough_leadOf, ← route_eq_filterMap,
    route_eq]

theorem head?_components_eq_current_iff (p : Path) :
    p.components.head? = some .current ↔ p.isAbsolute = false ∧ p.StartsWithDot := by
  have other : ((p.segments.filter (· ≠ ".")).map Component.ofSegment).head? ≠ some .current := by
    rw [List.head?_map]
    intro starts
    obtain ⟨segment, -, stands⟩ := Option.map_eq_some_iff.mp starts
    unfold Component.ofSegment at stands
    split at stands <;> cases stands
  rw [components_eq_segments]
  by_cases absolute : p.isAbsolute
  · simp [absolute]
  · by_cases dot : p.StartsWithDot
    · simp [absolute, dot]
    · simpa [absolute, dot] using other

theorem not_startsWithDot {p : Path} (absolute : p.isAbsolute = true) : ¬ p.StartsWithDot := by
  rw [isAbsolute, decide_eq_true_eq] at absolute
  rintro (alone | ⟨body, same⟩)
  · rw [alone] at absolute
    exact absurd absolute (by decide)
  · rw [← same] at absolute
    exact absurd absolute (by simp)

/--
Two paths are alike if both start with a slash, both with a `.`, or both with neither, and their
segments other than `.` are the same: repeated slashes, a slash at the end and inner `.` parts do
not count.
-/
theorem components_eq_iff {p q : Path} : p.components = q.components ↔
    p.isAbsolute = q.isAbsolute ∧ (p.StartsWithDot ↔ q.StartsWithDot) ∧
      p.segments.filter (· ≠ ".") = q.segments.filter (· ≠ ".") := by
  constructor
  · intro same
    have absolute : p.isAbsolute = q.isAbsolute := by rw [isAbsolute_eq, isAbsolute_eq, same]
    refine ⟨absolute, ?_, ?_⟩
    · have heads := (head?_components_eq_current_iff p).symm.trans
        (same ▸ head?_components_eq_current_iff q)
      cases slash : q.isAbsolute with
      | true =>
          exact iff_of_false (not_startsWithDot (absolute.trans slash)) (not_startsWithDot slash)
      | false => simpa [absolute, slash] using heads
    · rw [← route_eq, ← route_eq, route, route, same]
  · rintro ⟨absolute, dot, segments⟩
    rw [components_eq_segments, components_eq_segments, absolute, segments]
    simp only [dot]

/-! ## The order of components -/

/-- Whether a component comes before another: the root, a `.` and a `..` come before names, in this
order, and names stand in the order of their bytes. -/
def Component.Before (x y : Component) : Prop :=
  x.rank < y.rank ∨ x.rank = y.rank ∧ Bytes.ofText x.label < Bytes.ofText y.label

/-- Whether a path comes before another, by their components. -/
def Before (p q : Path) : Prop := List.Lex Component.Before p.components q.components

theorem Component.compare_eq_lt_iff {x y : Component} : compare x y = .lt ↔ x.Before y := by
  have labels : compare x.label y.label = .lt ↔ x.label < y.label := compareOfLessAndEq_eq_lt
  have same : compare x y = (compare x.rank y.rank).then (compare x.label y.label) := rfl
  rw [same, Ordering.then_eq_lt, labels, Nat.compare_eq_lt, Nat.compare_eq_eq, Before,
    Bytes.ofText_lt_iff]

theorem compare_components_eq_lt_iff {xs ys : List Component} :
    compare xs ys = .lt ↔ List.Lex Component.Before xs ys := by
  induction xs generalizing ys with
  | nil => cases ys <;> simp
  | cons x xs ih =>
      cases ys with
      | nil => simp
      | cons y ys =>
          rw [List.compare_cons_cons, Ordering.then_eq_lt, Component.compare_eq_lt_iff, ih,
            Std.LawfulEqOrd.compare_eq_iff_eq, List.cons_lex_cons_iff]

/-- Of two paths one comes before the other, unless they are alike. -/
theorem components_eq_iff_not_before {p q : Path} :
    p.components = q.components ↔ ¬ p.Before q ∧ ¬ q.Before p := by
  have swapped : compare q.components p.components = .lt ↔
      compare p.components q.components = .gt := Std.OrientedCmp.gt_iff_lt.symm
  unfold Before
  rw [← compare_components_eq_lt_iff, ← compare_components_eq_lt_iff, swapped,
    ← Std.LawfulEqOrd.compare_eq_iff_eq]
  cases compare p.components q.components <;> decide

end ModelMigration.Path
