import Mathlib.Data.List.Induction
import Mathlib.Data.List.Nodup
import ModelMigration.Migration

/-!
# Placeholders

What is given for a name: the value that was put in for it last. In which order the values of
different names were put in is seen in their list, but not in what is given for a name.
-/

namespace ModelMigration

namespace Placeholders

variable {pairs others : List (String × String)}

theorem lookup_cons_eq_ite (pair : String × String) (values : List (String × String))
    (name : String) :
    List.lookup name (pair :: values) =
      if name = pair.1 then some pair.2 else values.lookup name := by
  rw [List.lookup_cons]
  by_cases here : name = pair.1
  · simp [here]
  · simp [here, beq_eq_false_iff_ne.mpr here]

theorem lookup_insertIn (values : List (String × String)) (name value other : String) :
    (insertIn name value values).lookup other =
      if other = name then some value else values.lookup other := by
  induction values with
  | nil => exact lookup_cons_eq_ite _ _ _
  | cons pair rest ih =>
      rw [insertIn, lookup_cons_eq_ite pair]
      by_cases same : pair.1 = name
      · rw [if_pos same, lookup_cons_eq_ite, same]
        split <;> rfl
      · rw [if_neg same, lookup_cons_eq_ite, ih]
        by_cases here : other = pair.1
        · simp [here, same]
        · simp [here]

theorem get?_insert (p : Placeholders) (name value other : String) :
    (p.insert name value).get? other = if other = name then some value else p.get? other :=
  lookup_insertIn p.values name value other

/-- The value of a name is the last one of the pairs. -/
theorem get?_ofList (pairs : List (String × String)) (name : String) :
    (ofList pairs).get? name = pairs.reverse.lookup name := by
  induction pairs using List.reverseRecOn with
  | nil => rfl
  | append_singleton pairs pair ih =>
      have last : ofList (pairs ++ [pair]) = (ofList pairs).insert pair.1 pair.2 := by
        simp [ofList]
      rw [last, get?_insert, ih, List.reverse_append, List.reverse_singleton, List.singleton_append,
        lookup_cons_eq_ite]

theorem mem_insertIn {values : List (String × String)} {name value : String}
    {pair : String × String} (mem : pair ∈ insertIn name value values) :
    pair = (name, value) ∨ pair ∈ values := by
  induction values with
  | nil => exact .inl (List.mem_singleton.mp mem)
  | cons first rest ih =>
      rw [insertIn] at mem
      split at mem
      · next same =>
          rcases List.mem_cons.mp mem with rfl | behind
          · exact .inl (by rw [same])
          · exact .inr (List.mem_cons_of_mem _ behind)
      · rcases List.mem_cons.mp mem with rfl | behind
        · exact .inr List.mem_cons_self
        · exact (ih behind).imp id (List.mem_cons_of_mem _)

theorem mem_of_mem_ofList {pair : String × String} (mem : pair ∈ (ofList pairs).values) :
    pair ∈ pairs := by
  induction pairs using List.reverseRecOn with
  | nil => exact absurd mem List.not_mem_nil
  | append_singleton pairs last ih =>
      rw [ofList, List.foldl_append] at mem
      rcases mem_insertIn mem with rfl | before
      · exact List.mem_append_right _ List.mem_cons_self
      · exact List.mem_append_left _ (ih before)

/-- With one value for each name, the order of the pairs does not matter. -/
theorem lookup_eq_of_perm (perm : pairs.Perm others) (names : (pairs.map Prod.fst).Nodup)
    (name : String) : pairs.lookup name = others.lookup name := by
  induction perm with
  | nil => rfl
  | cons pair _ ih =>
      rw [lookup_cons_eq_ite, lookup_cons_eq_ite, ih (List.nodup_cons.mp names).2]
  | swap first second rest =>
      have distinct : second.1 ≠ first.1 := by
        have apart := (List.nodup_cons.mp names).1
        rw [List.map_cons, List.mem_cons, not_or] at apart
        exact apart.1
      simp only [lookup_cons_eq_ite]
      by_cases here : name = first.1
      · simp [here, distinct.symm]
      · simp [here]
  | trans perm _ ih ih' => exact (ih names).trans (ih' ((perm.map _).nodup names))

theorem get?_ofList_of_perm (perm : pairs.Perm others) (names : (pairs.map Prod.fst).Nodup) :
    (ofList pairs).get? = (ofList others).get? := by
  have reversed : pairs.reverse.Perm others.reverse :=
    (List.reverse_perm pairs).trans (perm.trans (List.reverse_perm others).symm)
  have distinct : (pairs.reverse.map Prod.fst).Nodup := by
    rw [List.map_reverse]
    exact List.nodup_reverse.mpr names
  funext name
  rw [get?_ofList, get?_ofList, lookup_eq_of_perm reversed distinct]

end Placeholders

theorem migrationValues_values (model table fields : String) :
    (migrationValues model table fields).values =
      [("class_name", model), ("table_name", table), ("fields", fields)] := by
  simp [migrationValues, Placeholders.ofList, Placeholders.insert, Placeholders.insertIn,
    Placeholders.empty]

end ModelMigration
