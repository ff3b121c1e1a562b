import ModelMigration.Proofs.Path.Route

/-!
# Parents

The parent of a path has the components of the path but for the last one, and so has every path
among the ancestors a beginning of them. A parent never ends with a `.` that follows a name.
-/

namespace ModelMigration.Path

/-! ## Leads -/

theorem lead_append_body (cs : List Char) : (leadOf cs).1.text ++ (leadOf cs).2 = cs := by
  fun_cases leadOf cs <;> rfl

theorem leadOf_text (lead : Lead) : leadOf lead.text = (lead, []) := by
  cases lead <;> rfl

theorem leadOf_append_slash {cs : List Char} (some : cs ≠ []) (ds : List Char) :
    leadOf (cs ++ '/' :: ds) = ((leadOf cs).1, (leadOf cs).2 ++ '/' :: ds) := by
  match cs, some with
  | '/' :: body, _ => rfl
  | ['.'], _ => rfl
  | '.' :: '/' :: body, _ => rfl
  | c :: rest, _ =>
      by_cases slash : c = '/'
      · subst slash
        rfl
      · by_cases dot : c = '.'
        · subst dot
          cases rest with
          | nil => rfl
          | cons d rest =>
              by_cases inner : d = '/'
              · subst inner
                rfl
              · simp [leadOf, inner]
        · simp [leadOf, slash, dot]

theorem leadOf_of_not_mem {cs : List Char} (free : '/' ∉ cs) (noDot : cs ≠ ['.']) :
    leadOf cs = (.bare, cs) := by
  fun_cases leadOf cs with
  | case1 => simp at free
  | case2 => contradiction
  | case3 => simp at free
  | case4 => rfl

/-- The lead stays in front of fewer parts of the body. -/
theorem leadOf_text_append_join {cs : List Char} {front : List (List Char)}
    (prefixed : front <+: partsOf (leadOf cs).2) :
    leadOf ((leadOf cs).1.text ++ Text.join ['/'] front) = ((leadOf cs).1, Text.join ['/'] front) := by
  obtain ⟨others, parts⟩ := prefixed
  have body : Text.join ['/'] (front ++ others) = (leadOf cs).2 := by
    rw [parts, partsOf, Text.join_split]
  by_cases none : front = []
  · simpa [none, Text.join] using leadOf_text (leadOf cs).1
  · by_cases all : others = []
    · rw [all, List.append_nil] at body
      rw [body, lead_append_body]
    · rw [Text.join_append none all] at body
      by_cases empty : (leadOf cs).1.text ++ Text.join ['/'] front = []
      · rw [List.append_eq_nil_iff] at empty
        simpa [empty.2] using leadOf_text (leadOf cs).1
      · have longer := leadOf_append_slash empty (Text.join ['/'] others)
        rw [List.append_assoc, body, lead_append_body] at longer
        have lead := congrArg Prod.fst longer
        have rest := congrArg Prod.snd longer
        rw [← body, List.append_cancel_right_eq] at rest
        exact Prod.ext lead.symm rest.symm

/-! ## Parts that stand for components -/

/-- The components of the parts behind the lead. -/
def componentsOf (parts : List (List Char)) : List Component := parts.filterMap Component.ofPart?

theorem components_eq (p : Path) : p.components =
    (leadOf p.text.toList).1.component?.toList ++
      componentsOf (partsOf (leadOf p.text.toList).2) := rfl

theorem componentsOf_trimParts (parts : List (List Char)) :
    componentsOf (trimParts parts) = componentsOf parts := by
  have dropped : ∀ l : List (List Char),
      componentsOf (l.dropWhile fun part => (Component.ofPart? part).isNone).reverse =
        componentsOf l.reverse := by
    intro l
    induction l with
    | nil => rfl
    | cons part l ih =>
        cases found : Component.ofPart? part with
        | none => simpa [componentsOf, found] using ih
        | some c => simp [found]
  simpa [trimParts] using dropped parts.reverse

theorem components_append_slash {p q : Path} {ds : List Char} (filled : q.text ≠ "")
    (text : p.text.toList = q.text.toList ++ '/' :: ds) :
    p.components = q.components ++ componentsOf (partsOf ds) := by
  have some : q.text.toList ≠ [] := by simpa using filled
  rw [components_eq, components_eq, text, leadOf_append_slash some]
  simp only [partsOf, Text.split_append_sep, componentsOf, List.filterMap_append, List.append_assoc]

theorem trimParts_isPrefix (parts : List (List Char)) : trimParts parts <+: parts := by
  rw [← List.reverse_suffix, trimParts, List.reverse_reverse]
  exact List.dropWhile_suffix _

/-- The last part left stands for a component. -/
theorem ofPart?_of_trimParts_concat {parts front : List (List Char)} {last : List Char}
    (h : trimParts parts = front ++ [last]) : ∃ c, Component.ofPart? last = some c := by
  have reversed := congrArg List.reverse h
  rw [trimParts, List.reverse_reverse, List.reverse_append] at reversed
  have kept := List.head?_dropWhile_not (fun part => (Component.ofPart? part).isNone) parts.reverse
  rw [reversed] at kept
  simpa [Option.isNone_iff_eq_none, Option.isSome_iff_exists] using kept

/-! ## Parents -/

theorem components_of_lead {cs : List Char} {front : List (List Char)}
    (prefixed : front <+: partsOf (leadOf cs).2) :
    components ⟨String.ofList ((leadOf cs).1.text ++ Text.join ['/'] front)⟩ =
      (leadOf cs).1.component?.toList ++ componentsOf front := by
  have free : ∀ part ∈ front, '/' ∉ part := fun part mem =>
    Text.not_mem_of_mem_split (prefixed.subset mem)
  simp only [components, String.toList_ofList, leadOf_text_append_join prefixed, partsOf]
  by_cases none : front = []
  · simp [none, componentsOf, Text.join, Text.split, Component.ofPart?]
  · rw [Text.split_join none free, componentsOf]

/-- A path with a parent has nothing but a `.` in it, or ends with a part for a component. -/
theorem parent?_eq_some {p q : Path} (h : p.parent? = some q) :
    (p.components = [.current] ∧ q = ⟨""⟩) ∨
      ∃ front last, trimParts (partsOf (leadOf p.text.toList).2) = front ++ [last] ∧
        q = ⟨String.ofList
          ((leadOf p.text.toList).1.text ++ Text.join ['/'] (trimParts front))⟩ := by
  simp only [parent?] at h
  rcases List.eq_nil_or_concat (trimParts (partsOf (leadOf p.text.toList).2)) with
    trimmed | ⟨front, last, trimmed⟩
  · left
    have none := componentsOf_trimParts (partsOf (leadOf p.text.toList).2)
    rw [trimmed] at none h
    simp only [Option.ite_none_right_eq_some, Option.some.injEq] at h
    obtain ⟨dot, rfl⟩ := h
    refine ⟨?_, rfl⟩
    rw [components_eq, ← none, dot]
    rfl
  · right
    rw [List.concat_eq_append] at trimmed
    have some : front ++ [last] ≠ [] := by simp
    rw [trimmed] at h
    refine ⟨front, last, trimmed, ?_⟩
    split at h
    · next empty => exact absurd empty some
    · next parts _ => simpa using h.symm

theorem exists_part?_of_ofPart? {part : List Char} {c : Component}
    (stands : Component.ofPart? part = some c) : ∃ name, c.part? = some name := by
  simp only [Component.ofPart?] at stands
  split at stands
  · contradiction
  · split at stands <;> cases stands
    · exact ⟨_, rfl⟩
    · exact ⟨_, rfl⟩

/-- The parent of a path has all its components but the last, which leads somewhere, unless the
path is a `.` alone. -/
theorem components_parent? {p q : Path} (h : p.parent? = some q) :
    (p.components = [.current] ∧ q = ⟨""⟩) ∨
      ∃ last name, p.components = q.components ++ [last] ∧ last.part? = some name := by
  rcases parent?_eq_some h with current | ⟨front, last, trimmed, rfl⟩
  · exact .inl current
  · obtain ⟨c, stands⟩ := ofPart?_of_trimParts_concat trimmed
    obtain ⟨name, leads⟩ := exists_part?_of_ofPart? stands
    have parts := componentsOf_trimParts (partsOf (leadOf p.text.toList).2)
    have prefixed : trimParts front <+: partsOf (leadOf p.text.toList).2 :=
      (trimParts_isPrefix front).trans
        ((List.prefix_append front [last]).trans (trimmed ▸ trimParts_isPrefix _))
    refine .inr ⟨c, name, ?_, leads⟩
    rw [components_of_lead prefixed, componentsOf_trimParts, List.append_assoc, components_eq,
      ← parts, trimmed]
    simp [componentsOf, stands]

theorem components_isPrefix_of_parent? {p q : Path} (h : p.parent? = some q) :
    q.components <+: p.components := by
  rcases components_parent? h with ⟨_, rfl⟩ | ⟨last, _, components, _⟩
  · exact List.nil_prefix
  · rw [components]
    exact List.prefix_append _ _

theorem exists_route_parent? {p q : Path} (h : p.parent? = some q) (routed : p.route ≠ []) :
    ∃ name, p.route = q.route ++ [name] := by
  rcases components_parent? h with ⟨current, _⟩ | ⟨last, name, components, leads⟩
  · exact absurd (by rw [route, current]; rfl) routed
  · refine ⟨name, ?_⟩
    rw [route, components, List.filterMap_append, route]
    simp [leads]

theorem exists_text_parent? {p q : Path} (h : p.parent? = some q) :
    ∃ rest, p.text = q.text ++ rest := by
  have prefixed : q.text.toList <+: p.text.toList := by
    rcases parent?_eq_some h with ⟨_, rfl⟩ | ⟨front, last, trimmed, rfl⟩
    · exact List.nil_prefix
    · have fewer : trimParts front <+: partsOf (leadOf p.text.toList).2 :=
        (trimParts_isPrefix front).trans
          ((List.prefix_append front [last]).trans (trimmed ▸ trimParts_isPrefix _))
      have joined := @Text.join_isPrefix '/' _ _ fewer
      rw [partsOf, Text.join_split] at joined
      have longer := (List.prefix_append_right_inj (leadOf p.text.toList).1.text).mpr joined
      rw [lead_append_body] at longer
      rwa [String.toList_ofList]
  obtain ⟨rest, same⟩ := prefixed
  exact ⟨String.ofList rest, by simp [← String.toList_inj, same]⟩

/-- A path without a parent leads nowhere. -/
theorem route_eq_nil_of_parent? {p : Path} (h : p.parent? = none) : p.route = [] := by
  simp only [parent?] at h
  split at h
  · next trimmed =>
      have none := componentsOf_trimParts (partsOf (leadOf p.text.toList).2)
      rw [trimmed] at none
      rw [route, components_eq, ← none]
      cases (leadOf p.text.toList).1 <;> rfl
  · contradiction

theorem length_components_le (p : Path) : p.components.length ≤ p.text.length + 1 := by
  have text : p.text.length = (leadOf p.text.toList).1.text.length + (leadOf p.text.toList).2.length := by
    rw [← List.length_append, lead_append_body, String.length_toList]
  have lead : (leadOf p.text.toList).1.component?.toList.length ≤
      (leadOf p.text.toList).1.text.length := by
    cases (leadOf p.text.toList).1 <;> simp [Lead.component?, Lead.text]
  have parts := @Text.length_split_le '/' (leadOf p.text.toList).2
  have fewer := List.length_filterMap_le Component.ofPart? (partsOf (leadOf p.text.toList).2)
  rw [components_eq, List.length_append, componentsOf, text]
  unfold partsOf at fewer ⊢
  omega

/-- Whether a path ends with a `.` that follows a name. -/
def EndsInDot (p : Path) : Prop := p.segments.getLast? = some "." ∧ p.route ≠ []

instance (p : Path) : Decidable p.EndsInDot :=
  inferInstanceAs (Decidable (p.segments.getLast? = some "." ∧ p.route ≠ []))

theorem segmentsOf_ne_dot {part : List Char} (free : '/' ∉ part) {c : Component}
    (stands : Component.ofPart? part = some c) {cs : List Char}
    (front : cs = [] ∨ cs = ['.'] ∨ ∃ ds, cs = ds ++ ['/']) :
    (segmentsOf (cs ++ part)).getLast? ≠ some "." := by
  have blank : part ≠ [] := by
    rintro rfl
    simp [Component.ofPart?] at stands
  have dot : String.ofList part ≠ "." := by
    intro same
    have chars : part = ['.'] := by simpa using congrArg String.toList same
    simp [chars, Component.ofPart?] at stands
  have alone := segmentsOf_of_not_mem blank free
  rcases front with rfl | rfl | ⟨ds, rfl⟩
  · simpa [alone] using dot
  · have free' : '/' ∉ '.' :: part := by simpa using free
    have alone' := segmentsOf_of_not_mem (List.cons_ne_nil '.' part) free'
    simpa [alone', ← String.toList_inj] using blank
  · rw [List.append_assoc, List.singleton_append, segmentsOf_append_slash, alone,
      List.getLast?_concat]
    simpa using dot

/-- A parent ends with a part for a component, unless it has no part behind its lead. -/
theorem not_endsInDot_of_parent? {p q : Path} (h : p.parent? = some q) : ¬ q.EndsInDot := by
  rintro ⟨dot, routed⟩
  rcases parent?_eq_some h with ⟨_, rfl⟩ | ⟨front, last, trimmed, rfl⟩
  · exact absurd (by decide) routed
  · rcases List.eq_nil_or_concat (trimParts front) with none | ⟨init, part, some⟩
    · have unrouted : ∀ lead : Lead, route ⟨String.ofList (lead.text ++ [])⟩ = [] := by
        intro lead
        cases lead <;> decide
      rw [none] at routed
      exact routed (unrouted _)
    -- The last part that is kept stands for a component, and what is in front of it is the lead or
    -- ends with a slash.
    · rw [List.concat_eq_append] at some
      obtain ⟨c, stands⟩ := ofPart?_of_trimParts_concat some
      have mem : part ∈ partsOf (leadOf p.text.toList).2 := by
        apply (trimParts_isPrefix _).subset
        rw [trimmed]
        apply List.mem_append_left
        apply (trimParts_isPrefix front).subset
        simp [some]
      have free : '/' ∉ part := Text.not_mem_of_mem_split mem
      rw [segments_eq, String.toList_ofList, some] at dot
      by_cases first : init = []
      · have lead : ∀ lead : Lead,
            lead.text = [] ∨ lead.text = ['.'] ∨ ∃ ds, lead.text = ds ++ ['/'] := by
          intro lead
          cases lead <;> simp [Lead.text]
        rw [first, List.nil_append] at dot
        exact segmentsOf_ne_dot free stands (lead _) dot
      · rw [Text.join_append first (by simp), ← List.append_assoc, List.append_cons] at dot
        exact segmentsOf_ne_dot free stands (.inr (.inr ⟨_, rfl⟩)) dot

/-! ## Ancestors -/

theorem head?_componentsOf_ne_root (parts : List (List Char)) :
    (componentsOf parts).head? ≠ some .root := by
  intro root
  obtain ⟨part, _, stands⟩ := List.mem_filterMap.mp (List.mem_of_head? root)
  simp only [Component.ofPart?] at stands
  split at stands
  · simp at stands
  · split at stands <;> simp at stands

theorem isAbsolute_eq (p : Path) : p.isAbsolute = decide (p.components.head? = some .root) := by
  rw [isAbsolute, components_eq]
  generalize p.text.toList = cs
  fun_cases leadOf cs with
  | case1 => simp [Lead.component?]
  | case2 => simp [Lead.component?]
  | case3 => simp [Lead.component?]
  -- Without a lead the first component is that of a part, and no part stands for the root.
  | case4 _ notSlash =>
      have bare : cs.head? ≠ some '/' := by
        intro slash
        obtain ⟨rest, same⟩ := List.head?_eq_some_iff.mp slash
        exact notSlash rest same
      simp [Lead.component?, bare, head?_componentsOf_ne_root]

theorem route_isPrefix {p q : Path} (prefixed : q.components <+: p.components) :
    q.route <+: p.route := prefixed.filterMap _

end ModelMigration.Path
