import ModelMigration.Store.Output

/-!
# Files in memory

A text that is put under a path is found under every spelling of it. Where no two of the paths are
spellings of one, the output holds a file for each text that was put.
-/

namespace ModelMigration.OutputMap

theorem get?_congr {o : OutputMap} {path other : Path}
    (same : path.components = other.components) : o.get? path = o.get? other := by
  unfold get?
  rw [same]

theorem getElem?_put (o : OutputMap) (path : Path) (text : String)
    (components : List Path.Component) : (o.put path text)[components]? =
      if path.components = components then some ((o[components]?.map Prod.fst).getD path, text)
      else o[components]? := by
  unfold put
  cases held : o[path.components]? <;>
    · rw [Std.ExtTreeMap.getElem?_insert]
      simp only [Std.LawfulEqCmp.compare_eq_iff_eq]
      split
      · next same => rw [← same, held]; rfl
      · rfl

theorem get?_put (o : OutputMap) (path other : Path) (text : String) :
    (o.put path text).get? other =
      if path.components = other.components then some text else o.get? other := by
  rw [get?, getElem?_put]
  split <;> rfl

/-! ## Files under paths of their own -/

theorem files_eq (o : OutputMap) : o.files = (Std.ExtTreeMap.toList o).map Prod.snd := by
  obtain ⟨⟨tree⟩⟩ := o
  induction tree using Quotient.inductionOn with
  | h tree =>
      have entries := @Std.DTreeMap.Internal.Impl.Const.toList_eq_toListModel_map _ _ tree.inner
      have values := @Std.DTreeMap.Internal.Impl.values_eq_map_snd _ _ tree.inner
      calc _ = tree.inner.values := rfl
        _ = (Std.DTreeMap.Internal.Impl.Const.toList tree.inner).map Prod.snd := by
            rw [values, entries, List.map_map]
            rfl

theorem nodup_toList (o : OutputMap) : (Std.ExtTreeMap.toList o).Nodup :=
  Std.ExtTreeMap.distinct_keys_toList.imp fun differ same => differ (by simp [same])

theorem toList_insert_perm {o : OutputMap} {key : List Path.Component} {file : Path × String}
    (new : o[key]? = none) :
    (Std.ExtTreeMap.toList (o.insert key file)).Perm ((key, file) :: Std.ExtTreeMap.toList o) := by
  have fresh : (key, file) ∉ Std.ExtTreeMap.toList o := by
    rw [Std.ExtTreeMap.mem_toList_iff_getElem?_eq_some, new]
    simp
  rw [List.perm_ext_iff_of_nodup (nodup_toList _) (List.nodup_cons.mpr ⟨fresh, nodup_toList o⟩)]
  rintro ⟨k, v⟩
  rw [List.mem_cons, Std.ExtTreeMap.mem_toList_iff_getElem?_eq_some,
    Std.ExtTreeMap.mem_toList_iff_getElem?_eq_some, Std.ExtTreeMap.getElem?_insert]
  by_cases same : key = k
  · subst same
    simp [new, eq_comm]
  · simp [Std.LawfulEqCmp.compare_eq_iff_eq, same, Ne.symm same]

/-- A text under a new path is one more file. -/
theorem files_put_perm {o : OutputMap} {path : Path} (text : String)
    (new : o.get? path = none) : (o.put path text).files.Perm ((path, text) :: o.files) := by
  have absent : o[path.components]? = none := by simpa [get?] using new
  have inserted : o.put path text = o.insert path.components (path, text) := by
    rw [put, absent]
  rw [files_eq, files_eq, inserted]
  exact (toList_insert_perm absent).map Prod.snd

/-! ## Many files -/

/-- The output with the text of each file under its path, the last files put last. -/
def putAll (o : OutputMap) (files : List (Path × String)) : OutputMap :=
  files.foldl (fun o file => o.put file.1 file.2) o

@[simp] theorem putAll_nil (o : OutputMap) : o.putAll [] = o := rfl

@[simp] theorem putAll_cons (o : OutputMap) (file : Path × String) (files : List (Path × String)) :
    o.putAll (file :: files) = (o.put file.1 file.2).putAll files := rfl

theorem putAll_append (o : OutputMap) (files later : List (Path × String)) :
    o.putAll (files ++ later) = (o.putAll files).putAll later :=
  List.foldl_append

variable {files : List (Path × String)}

theorem get?_putAll_of_not_mem {o : OutputMap} {path : Path}
    (absent : ∀ file ∈ files, file.1.components ≠ path.components) :
    (o.putAll files).get? path = o.get? path := by
  induction files generalizing o with
  | nil => rfl
  | cons file files ih =>
      have others := ih (o := o.put file.1 file.2) fun x mem =>
        absent x (List.mem_cons_of_mem _ mem)
      rw [get?_put, if_neg (absent file List.mem_cons_self)] at others
      exact others

theorem get?_putAll {o : OutputMap} (apart : (files.map (·.1.components)).Nodup) :
    ∀ file ∈ files, (o.putAll files).get? file.1 = some file.2 := by
  induction files generalizing o with
  | nil => simp
  | cons file files ih =>
      rw [List.map_cons, List.nodup_cons] at apart
      rintro other (_ | ⟨_, mem⟩)
      · have kept : ((o.put file.1 file.2).putAll files).get? file.1 =
            (o.put file.1 file.2).get? file.1 :=
          get?_putAll_of_not_mem fun x mem same =>
            apart.1 (List.mem_map.mpr ⟨x, mem, same⟩)
        rw [get?_put, if_pos rfl] at kept
        exact kept
      · exact ih apart.2 other mem

theorem files_putAll_perm {o : OutputMap} (apart : (files.map (·.1.components)).Nodup)
    (new : ∀ file ∈ files, o.get? file.1 = none) :
    (o.putAll files).files.Perm (files ++ o.files) := by
  induction files generalizing o with
  | nil => exact .refl _
  | cons file files ih =>
      rw [List.map_cons, List.nodup_cons] at apart
      have stillNew : ∀ x ∈ files, (o.put file.1 file.2).get? x.1 = none := by
        intro x mem
        rw [get?_put, if_neg fun same => apart.1 (List.mem_map.mpr ⟨x, mem, same.symm⟩)]
        exact new x (List.mem_cons_of_mem _ mem)
      have first := files_put_perm file.2 (new file List.mem_cons_self)
      exact (ih apart.2 stillNew).trans ((first.append_left files).trans List.perm_middle)

end ModelMigration.OutputMap
