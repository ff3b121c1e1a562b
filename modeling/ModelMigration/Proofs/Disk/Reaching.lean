import ModelMigration.Proofs.Disk.Making
import ModelMigration.Proofs.Disk.PlainPaths

/-!
# Reaching a directory

Making the directory of a plain path succeeds when no file is in the way and the path does not end
with a `.` behind a name. What is missing is tried from the inside to the outside until something
can be made, and is then made from the outside to the inside.
-/

namespace ModelMigration.Disk.FileTree

open ModelMigration.Path

variable {t u v : FileTree} {p : Path} {directory : Location} {name : String}

/-- What making the directory at a place leads to. -/
structure Reached (t v : FileTree) (place : Location) : Prop where
  grown : Grown (· <+: place) t v
  rooted : v.Rooted
  stands : v.entry? place = some .directory

theorem Reached.put (grown : Grown (· <+: directory ++ [name]) t v) (rooted : v.Rooted)
    (stands : v.entry? directory = some .directory) (free : v.entry? (directory ++ [name]) = none) :
    Reached t (v.put (directory ++ [name]) .directory) (directory ++ [name]) where
  grown := grown.trans (grown_put_directory free List.prefix_rfl)
  rooted := rooted.put stands (.inl rfl)
  stands := entry?_put_self _ _ _ _

theorem hasDirectory_of_stands (rooted : t.Rooted) (plain : p.Plain) (filled : p.text ≠ "")
    (stands : t.entry? (t.here ++ p.route) = some .directory) : t.hasDirectory p = true := by
  rw [← plain.placeOf_eq] at stands
  have found := find_of_directory rooted plain.noUp plain.short (plain.origin filled t) stands
  exact hasDirectory_eq_true_iff.mpr ⟨_, found⟩

theorem stands_of_hasDirectory (plain : p.Plain) (there : t.hasDirectory p = true) :
    t.entry? (t.here ++ p.route) = some .directory := by
  obtain ⟨place, found⟩ := hasDirectory_eq_true_iff.mp there
  have stands := stands_of_find found
  rw [← plain.placeOf_eq, ← eq_of_find plain.noUp found, stands]

theorem exists_segments {q : Path} (noDot : ¬ p.EndsInDot) (routed : p.route = q.route ++ [name]) :
    ∃ front, p.segments = front ++ [name] ∧ name ≠ "." ∧ front.filter (· ≠ ".") = q.route := by
  rcases List.eq_nil_or_concat p.segments with none | ⟨front, last, some⟩
  · rw [route_eq, none] at routed
    simp at routed
  · rw [List.concat_eq_append] at some
    have noDot' : last ≠ "." := by
      rintro rfl
      exact noDot ⟨by simp [some], by simp [routed]⟩
    rw [route_eq, some] at routed
    simp only [List.filter_append, List.filter_cons, noDot', ne_eq, not_false_eq_true,
      decide_true, if_true, List.filter_nil] at routed
    obtain ⟨same, ends⟩ := List.append_inj' routed rfl
    cases ends
    exact ⟨front, some, noDot', by simpa using same⟩

/-- Below a directory a plain path can be made. -/
theorem makeDirectory_of_parent {q : Path} (rooted : t.Rooted) (plain : p.Plain)
    (noDot : ¬ p.EndsInDot) (route : p.route = q.route ++ [name])
    (stands : t.entry? (t.here ++ q.route) = some .directory)
    (absent : t.entry? (t.here ++ q.route ++ [name]) = none) :
    t.makeDirectory p = .ok (t.put (t.here ++ q.route ++ [name]) .directory) := by
  obtain ⟨front, segments, noDot', spelled⟩ := exists_segments noDot route
  have short := plain.short name (by simp [segments])
  have target : t.target p = .ok (.named (t.here ++ q.route) name) := by
    rw [← spelled] at stands ⊢
    exact target_of_directory rooted plain segments noDot' stands
  unfold makeDirectory
  rw [target]
  show (if greatestName < name.utf8ByteSize then _ else _) = _
  rw [if_neg (Nat.not_lt.mpr short), absent]
  rfl

/-- Without its parent a plain path cannot be made. -/
theorem makeDirectory_of_missing {q : Path} (plain : p.Plain) (noDot : ¬ p.EndsInDot)
    (route : p.route = q.route ++ [name])
    (missing : t.entry? (t.here ++ q.route) ≠ some .directory)
    (free : ∀ place, place <+: t.here ++ q.route → t.file? place = none) :
    t.makeDirectory p = .error .notFound := by
  obtain ⟨front, segments, _, spelled⟩ := exists_segments noDot route
  rw [← spelled] at missing free
  unfold makeDirectory
  rw [target_of_missing plain segments missing free]
  rfl

theorem entry?_eq_none_of_hasDirectory (rooted : t.Rooted) (plain : p.Plain) (filled : p.text ≠ "")
    (noFile : t.file? (t.here ++ p.route) = none) (noDirectory : ¬ t.hasDirectory p = true) :
    t.entry? (t.here ++ p.route) = none := by
  cases entry : t.entry? (t.here ++ p.route) with
  | none => rfl
  | some entry' =>
      cases entry' with
      | file content =>
          rw [file?_eq_some_iff.mpr entry] at noFile
          contradiction
      | directory => exact absurd (hasDirectory_of_stands rooted plain filled entry) noDirectory

/-- The outermost directory that can be made is made, and from there the others can be. -/
theorem makeOutermost_reaches {fuel : Nat} (enough : p.components.length < fuel) (plain : p.Plain)
    (noDot : ¬ p.EndsInDot) (rooted : t.Rooted) (working : t.entry? t.here = some .directory)
    (free : ∀ place, place <+: t.here ++ p.route → t.file? place = none) (missing : List Path) :
    ∃ made u v,
      taken (access.makeOutermost (ancestorsFrom fuel p) missing) t = (.ok (made ++ missing), u) ∧
      (∀ rest, taken (access.makeEach (made ++ rest)) u = taken (access.makeEach rest) v) ∧
      Reached t v (t.here ++ p.route) := by
  induction fuel generalizing p missing with
  | zero => omega
  | succ fuel ih =>
      simp only [ancestorsFrom, Access.makeOutermost, taken_ite, taken_pure, taken_bind,
        taken_makeDirectory]
      cases parent : p.parent? with
      | none =>
          -- A path without a parent leads nowhere, and the working directory is there.
          have route := route_eq_nil_of_parent? parent
          rw [route, List.append_nil]
          exact ⟨[], t, t, rfl, fun _ => rfl, Grown.refl _ t, rooted, working⟩
      | some q =>
          rw [if_neg (by simp)]
          by_cases there : t.hasDirectory p = true
          · simp only [makeDirectory_of_hasDirectory there, changed, taken_bind, taken_isDirectory,
              there, if_true, taken_pure]
            exact ⟨[], t, t, rfl, fun _ => rfl, Grown.refl _ t, rooted,
              stands_of_hasDirectory plain there⟩
          · have filled : p.text ≠ "" := by
              intro empty
              obtain rfl := eq_blank empty
              have none : Path.parent? ⟨""⟩ = none := by decide
              rw [none] at parent
              contradiction
            have routed : p.route ≠ [] := by
              intro none
              apply there
              apply hasDirectory_of_stands rooted plain filled
              rw [none, List.append_nil, working]
            obtain ⟨name, route⟩ := exists_route_parent? parent routed
            have place : t.here ++ p.route = t.here ++ q.route ++ [name] := by
              rw [route, List.append_assoc]
            have absent := entry?_eq_none_of_hasDirectory rooted plain filled
              (free _ List.prefix_rfl) there
            rw [place] at free absent ⊢
            have above : ∀ place, place <+: t.here ++ q.route → t.file? place = none :=
              fun place h => free place (h.trans (List.prefix_append _ _))
            -- Below a directory the path is the outermost one that can be made. Otherwise it is
            -- put off, and the parent is made first.
            by_cases stands : t.entry? (t.here ++ q.route) = some .directory
            · simp only [makeDirectory_of_parent rooted plain noDot route stands absent, changed,
                taken_pure]
              exact ⟨[], _, _, rfl, fun _ => rfl,
                Reached.put (Grown.refl _ t) rooted stands absent⟩
            · simp only [makeDirectory_of_missing plain noDot route stands above, changed]
              have fewer : q.components.length < fuel := by
                rcases components_parent? parent with ⟨current, _⟩ | ⟨last, _, components, _⟩
                · exact absurd (by rw [Path.route, current]; rfl) routed
                · rw [components, List.length_append, List.length_singleton] at enough
                  omega
              obtain ⟨made, u, v, outermost, each, reached⟩ := ih fewer (plain.parent parent)
                (not_endsInDot_of_parent? parent) above (p :: missing)
              have here := reached.grown.here
              have absent' : v.entry? (t.here ++ q.route ++ [name]) = none := by
                rcases reached.grown.entry (t.here ++ q.route ++ [name]) with same | ⟨_, _, within⟩
                · rw [same, absent]
                · exact absurd within (not_concat_isPrefix _ _)
              have madeNow : v.makeDirectory p =
                  .ok (v.put (t.here ++ q.route ++ [name]) .directory) := by
                have stands' := reached.stands
                rw [← here] at stands' absent' ⊢
                exact makeDirectory_of_parent reached.rooted plain noDot route stands' absent'
              refine ⟨made ++ [p], u, _, ?_, fun rest => ?_, Reached.put
                (reached.grown.mono fun place h => h.trans (List.prefix_append _ _))
                reached.rooted reached.stands absent'⟩
              · rw [outermost, List.append_assoc]
                rfl
              · rw [List.append_assoc, List.singleton_append, each]
                simp only [Access.makeEach, taken_bind, taken_makeDirectory, madeNow, changed]

/-- Making the directory of a plain path reaches it. -/
theorem makeDirectories_reaches (plain : p.Plain) (noDot : ¬ p.EndsInDot) (rooted : t.Rooted)
    (working : t.entry? t.here = some .directory)
    (free : ∀ place, place <+: t.here ++ p.route → t.file? place = none) :
    ∃ v, taken (access.makeDirectories p) t = (.ok (), v) ∧ Reached t v (t.here ++ p.route) := by
  have enough : p.components.length < p.text.length + 2 := Nat.lt_succ_of_le (length_components_le p)
  obtain ⟨made, u, v, outermost, each, reached⟩ :=
    makeOutermost_reaches enough plain noDot rooted working free []
  refine ⟨v, ?_, reached⟩
  have rest := each []
  rw [List.append_nil] at outermost rest
  simp only [Access.makeDirectories, taken_bind, ancestors, outermost]
  exact rest

end ModelMigration.Disk.FileTree
