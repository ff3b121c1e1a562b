import Mathlib.Data.List.DropRight
import ModelMigration.PathTemplate
import ModelMigration.Proofs.Path.PartNames
import ModelMigration.Proofs.Template.Filling
import ModelMigration.Proofs.Text.FirstOccurrence

/-!
# Path templates with a token in front

A token stands for the base path or one of its folders, so a template that starts with one and the
relative template of the folder should name one directory. They do if the base path is absolute and
loses nothing but slashes when it is put in for the token. A relative base path is put in and then
joined once more, so they do only where it leads nowhere.
-/

namespace ModelMigration

open Text

/-! ## Putting in one token -/

/-- No token starts in front of a text where there are no braces. -/
theorem token_infix_append_iff {name front rest : String} (plain : '\x7b' ∉ front.toList) :
    (token name).toList <:+: (front ++ rest).toList ↔ (token name).toList <:+: rest.toList := by
  rw [String.toList_append, toList_token]
  exact (Misses.of_not_mem plain).infix_append_iff

theorem substitute_cons (text : String) (pair : String × String) (values : List (String × String)) :
    substitute text ⟨pair :: values⟩ =
      substitute (replaced (token pair.1) pair.2 text) ⟨values⟩ := rfl

theorem substitute_of_free {text : String} {values : List (String × String)}
    (free : ∀ name ∈ values.map Prod.fst, ¬ (token name).toList <:+: text.toList) :
    substitute text ⟨values⟩ = text := by
  induction values with
  | nil => rfl
  | cons pair values ih =>
      rw [List.map_cons, List.forall_mem_cons] at free
      have first : replaced (token pair.1) pair.2 text = text := by
        apply String.toList_injective
        rw [replaced, String.toList_ofList, replace_of_not_infix (token_ne_nil pair.1) free.1]
      rw [substitute_cons, first, ih free.2]

/-- One token in front of a text without tokens. -/
theorem substitute_token_append {name value rest : String} {values : List (String × String)}
    (found : values.lookup name = some value) (braceless : Braceless name)
    (names : ∀ name ∈ values.map Prod.fst, Braceless name) (plain : '\x7b' ∉ value.toList)
    (free : ∀ name ∈ values.map Prod.fst, ¬ (token name).toList <:+: rest.toList) :
    substitute (token name ++ rest) ⟨values⟩ = value ++ rest := by
  induction values with
  | nil => contradiction
  | cons pair values ih =>
      obtain ⟨other, new⟩ := pair
      rw [List.map_cons, List.forall_mem_cons] at names free
      by_cases same : name = other
      · subst same
        obtain rfl : new = value := by simpa using found
        have first : replaced (token name) new (token name ++ rest) = new ++ rest := by
          apply String.toList_injective
          rw [replaced, String.toList_ofList, String.toList_append, String.toList_append,
            replace_append _ _ (token_ne_nil name),
            replace_of_not_infix (token_ne_nil name) free.1]
        -- The value brings in no brace, so there is no token left.
        have later : ∀ other ∈ values.map Prod.fst,
            ¬ (token other).toList <:+: (new ++ rest).toList := by
          intro other mem
          rw [token_infix_append_iff plain]
          exact free.2 other mem
        rw [substitute_cons, first, substitute_of_free later]
      · have first : replaced (token other) new (token name ++ rest) = token name ++ rest := by
          apply String.toList_injective
          rw [replaced, String.toList_ofList, String.toList_append,
            replace_token_append _ _ names.1 braceless (Ne.symm same),
            replace_of_not_infix (token_ne_nil other) free.1]
        rw [List.lookup_cons, beq_false_of_ne same] at found
        rw [substitute_cons, first, ih found names.2 free.2]

/-! ## Slashes at the end -/

namespace Path

variable {p q : Path}

theorem componentsOf_slashes (n : Nat) : componentsOf (partsOf (List.replicate n '/')) = [] := by
  induction n with
  | zero => rfl
  | succ n ih =>
      simpa [partsOf, split, List.replicate_succ, componentsOf, Component.ofPart?] using ih

theorem isAbsolute_congr (same : p.components = q.components) : p.isAbsolute = q.isAbsolute := by
  rw [isAbsolute_eq, isAbsolute_eq, same]

theorem text_ne_empty_of_isAbsolute (absolute : p.isAbsolute = true) : p.text ≠ "" := by
  intro empty
  rw [eq_blank empty] at absolute
  contradiction

/-- Slashes at the end do not count. -/
theorem components_append_slashes {n : Nat} (filled : q.text ≠ "")
    (text : p.text.toList = q.text.toList ++ List.replicate n '/') :
    p.components = q.components := by
  cases n with
  | zero =>
      rw [List.replicate_zero, List.append_nil] at text
      rw [components_eq, components_eq, text]
  | succ n =>
      rw [List.replicate_succ] at text
      rw [components_append_slash filled text, componentsOf_slashes, List.append_nil]

theorem components_slash_append (text : String) (relative : q.isAbsolute = false) :
    components ⟨text ++ "/" ++ q.text⟩ =
      components ⟨text ++ "/"⟩ ++ componentsOf (partsOf q.text.toList) := by
  have joined : join ⟨text ++ "/"⟩ q = ⟨text ++ "/" ++ q.text⟩ := by
    simp [join, relative]
  rw [← joined, components_join (by simp) relative]

/-- Other characters than dots and slashes are all in the parts that a path leads through. -/
theorem count_route {c : Char} (noSlash : c ≠ '/') (noDot : c ≠ '.') (p : Path) :
    (p.route.map String.toList).flatten.count c = p.text.toList.count c := by
  have kept : (p.text.toList.filter (· ≠ '/')).count c = p.text.toList.count c :=
    List.count_filter (decide_eq_true noSlash)
  rw [← kept, ← flatten_split, route_eq_filterMap]
  induction split '/' p.text.toList with
  | nil => rfl
  | cons part parts ih =>
      rw [List.filterMap_cons, leadsThrough?_eq, List.flatten_cons, List.count_append, ← ih]
      by_cases blank : part = []
      · simp [blank]
      · by_cases dot : part = ['.']
        · simp [dot, noDot.symm]
        · simp [blank, dot]

/-- Parts without a component are those that lead nowhere. -/
theorem componentsOf_eq_nil_iff (text : String) :
    componentsOf (partsOf text.toList) = [] ↔ route ⟨text⟩ = [] := by
  have route : route ⟨text⟩ = (componentsOf (partsOf text.toList)).filterMap Component.part? := by
    rw [route_eq_filterMap, componentsOf, List.filterMap_filterMap]
    rfl
  rw [route]
  constructor
  · intro none
    rw [none]
    rfl
  · intro nowhere
    by_contra some
    obtain ⟨c, others, first⟩ := List.exists_cons_of_ne_nil some
    have mem : c ∈ componentsOf (partsOf text.toList) := by simp [first]
    obtain ⟨part, -, stands⟩ := List.mem_filterMap.mp mem
    obtain ⟨name, leads⟩ := exists_part?_of_ofPart? stands
    rw [List.filterMap_eq_nil_iff] at nowhere
    rw [nowhere c mem] at leads
    contradiction

end Path

namespace PathTemplate

open ModelMigration.Path

/-! ## Folders -/

/-- The tokens of a path template and what they stand for, as seen from the base path. -/
def folders : List (String × String) :=
  [("base_path", ""), ("app_path", "app/"), ("database_path", "database/"),
    ("storage_path", "storage/")]

variable {base : Path} {name folder s : String}

theorem map_fst_values (base : Path) : (values base).map Prod.fst = folders.map Prod.fst := by
  simp only [values, folders, List.map_cons, List.map_nil]

theorem lookup_values (base : Path) (mem : (name, folder) ∈ folders) :
    ∃ value, (values base).lookup name = some value ∧
      value ++ "/" = trimmedBase base ++ "/" ++ folder := by
  simp only [folders, List.mem_cons, Prod.mk.injEq, List.not_mem_nil, or_false] at mem
  rcases mem with ⟨rfl, rfl⟩ | ⟨rfl, rfl⟩ | ⟨rfl, rfl⟩ | ⟨rfl, rfl⟩
  · exact ⟨_, rfl, String.toList_injective (by simp)⟩
  · exact ⟨_, rfl, String.toList_injective (by simp)⟩
  · exact ⟨_, rfl, String.toList_injective (by simp)⟩
  · exact ⟨_, rfl, String.toList_injective (by simp)⟩

/-- The slashes and backslashes at the end of a base path. -/
def trailing (base : Path) : List Char :=
  base.text.toList.rtakeWhile fun c => c = '/' || c = '\\'

theorem toList_text (base : Path) :
    base.text.toList = (trimmedBase base).toList ++ trailing base := by
  rw [trimmedBase, String.toList_ofList]
  exact List.rdropWhile_append_rtakeWhile.symm

/-- A template with a token in front is put together from the trimmed base path, while the relative
one stays. -/
theorem expand_eq (mem : (name, folder) ∈ folders) (plain : '\x7b' ∉ base.text.toList)
    (free : ∀ other ∈ folders.map Prod.fst, ¬ (token other).toList <:+: s.toList) :
    expand base (token name ++ "/" ++ s) = ⟨trimmedBase base ++ "/" ++ (folder ++ s)⟩ ∧
      expand base (folder ++ s) = ⟨folder ++ s⟩ := by
  have clear : '\x7b' ∉ folder.toList := by
    have all : ∀ pair ∈ folders, '\x7b' ∉ pair.2.toList := by decide
    exact all _ mem
  constructor
  · obtain ⟨value, found, whole⟩ := lookup_values base mem
    have trimmed : '\x7b' ∉ (trimmedBase base).toList := by
      rw [toList_text, List.mem_append, not_or] at plain
      exact plain.1
    have clearValue : '\x7b' ∉ value.toList := by
      have both : '\x7b' ∉ (value ++ "/").toList := by
        rw [whole]
        simp [trimmed, clear]
      rw [String.toList_append, List.mem_append, not_or] at both
      exact both.1
    have names : ∀ other ∈ (values base).map Prod.fst, Braceless other := by
      rw [map_fst_values]
      decide
    have named : name ∈ (values base).map Prod.fst := by
      rw [map_fst_values]
      exact List.mem_map_of_mem mem
    have behind : ∀ other ∈ (values base).map Prod.fst,
        ¬ (token other).toList <:+: ("/" ++ s).toList := by
      rw [map_fst_values]
      intro other inFolders
      rw [token_infix_append_iff (by decide)]
      exact free other inFolders
    have put := substitute_token_append found (names name named) names clearValue behind
    rw [expand, String.append_assoc, put, ← String.append_assoc, whole, String.append_assoc]
  · have behind : ∀ other ∈ (values base).map Prod.fst,
        ¬ (token other).toList <:+: (folder ++ s).toList := by
      rw [map_fst_values]
      intro other inFolders
      rw [token_infix_append_iff clear]
      exact free other inFolders
    rw [expand, substitute_of_free behind]

/-! ## Meeting at the base path -/

theorem isAbsolute_folder_append (mem : (name, folder) ∈ folders)
    (relative : isAbsolute ⟨s⟩ = false) : isAbsolute ⟨folder ++ s⟩ = false := by
  simp only [folders, List.mem_cons, Prod.mk.injEq, List.not_mem_nil, or_false] at mem
  rcases mem with ⟨rfl, rfl⟩ | ⟨rfl, rfl⟩ | ⟨rfl, rfl⟩ | ⟨rfl, rfl⟩
  · rwa [String.empty_append]
  · simp [isAbsolute]
  · simp [isAbsolute]
  · simp [isAbsolute]

theorem isAbsolute_trimmedBase_append (filled : trimmedBase base ≠ "") (rest : String) :
    isAbsolute ⟨trimmedBase base ++ rest⟩ = base.isAbsolute := by
  have whole : base.text = trimmedBase base ++ String.ofList (trailing base) := by
    apply String.toList_injective
    rw [toList_text, String.toList_append, String.toList_ofList]
  have trimmed : isAbsolute ⟨trimmedBase base ++ rest⟩ = isAbsolute ⟨trimmedBase base⟩ :=
    isAbsolute_of_text rfl filled
  exact trimmed.trans (isAbsolute_of_text whole filled).symm

/-- An absolute base path loses nothing that names it if it loses nothing but slashes. -/
theorem components_trimmedBase_iff (absolute : base.isAbsolute = true) :
    components ⟨trimmedBase base ++ "/"⟩ = base.components ↔ '\\' ∉ trailing base := by
  constructor
  · intro same
    have routes : route ⟨trimmedBase base ++ "/"⟩ = base.route :=
      congrArg (List.filterMap Component.part?) same
    have counts := count_route (c := '\\') (by decide) (by decide) base
    rw [← routes, count_route (by decide) (by decide), toList_text base, String.toList_append,
      List.count_append, List.count_append] at counts
    rw [← List.count_eq_zero]
    exact (Nat.add_left_cancel counts).symm
  · intro free
    have slashes : ∀ c ∈ trailing base, c = '/' := by
      intro c mem
      have either := List.mem_rtakeWhile_imp mem
      simp only [Bool.or_eq_true, decide_eq_true_eq] at either
      exact either.resolve_right fun same => free (same ▸ mem)
    have text := toList_text base
    rw [List.eq_replicate_of_mem slashes] at text
    cases length : (trailing base).length with
    | zero =>
        have filled := text_ne_empty_of_isAbsolute absolute
        rw [length, List.replicate_zero, List.append_nil] at text
        have longer : (trimmedBase base ++ "/").toList =
            base.text.toList ++ List.replicate 1 '/' := by
          simp [text]
        exact components_append_slashes filled longer
    | succ n =>
        have filled : trimmedBase base ++ "/" ≠ "" := by simp
        rw [length, List.replicate_succ] at text
        have longer : base.text.toList =
            (trimmedBase base ++ "/").toList ++ List.replicate n '/' := by
          simp [text]
        exact (components_append_slashes filled longer).symm

theorem resolve_of_relative {template : String}
    (relative : (expand base template).isAbsolute = false) :
    resolve base template = base.join (expand base template) := by
  rw [resolve, relative, if_neg Bool.false_ne_true]

theorem resolve_of_absolute {template : String}
    (absolute : (expand base template).isAbsolute = true) :
    resolve base template = expand base template := by
  rw [resolve, if_pos absolute]

section

variable {template r : String} (pasted : expand base template = ⟨trimmedBase base ++ "/" ++ r⟩)
  (relative : isAbsolute ⟨r⟩ = false)

include pasted relative

/-- Behind an absolute base path nothing is joined once more. -/
theorem resolve_agrees_iff_of_absolute (absolute : base.isAbsolute = true) :
    (resolve base template).components = (base.join ⟨r⟩).components ↔ '\\' ∉ trailing base := by
  have filled := text_ne_empty_of_isAbsolute absolute
  have front : (expand base template).isAbsolute = true := by
    rw [pasted]
    by_cases none : trimmedBase base = ""
    · rw [none]
      simp [isAbsolute]
    · rw [String.append_assoc, isAbsolute_trimmedBase_append none, absolute]
  rw [resolve_of_absolute front, pasted, components_join filled relative,
    components_slash_append _ relative, List.append_cancel_right_eq,
    components_trimmedBase_iff absolute]

/-- A relative base path of which nothing is left leaves the root directory in front. -/
theorem resolve_ne_of_trimmedBase_eq (absolute : base.isAbsolute = false)
    (none : trimmedBase base = "") :
    (resolve base template).components ≠ (base.join ⟨r⟩).components := by
  intro same
  have front : (expand base template).isAbsolute = true := by
    rw [pasted, none]
    simp [isAbsolute]
  rw [resolve_of_absolute front] at same
  have rooted : (base.join ⟨r⟩).isAbsolute = true := (isAbsolute_congr same).symm.trans front
  rw [isAbsolute_join base relative, absolute] at rooted
  exact Bool.false_ne_true rooted

/-- Any other relative base path is joined once more. -/
theorem resolve_agrees_iff_of_relative (absolute : base.isAbsolute = false)
    (some : trimmedBase base ≠ "") :
    (resolve base template).components = (base.join ⟨r⟩).components ↔
      route ⟨trimmedBase base⟩ = [] := by
  have filled : base.text ≠ "" := by
    intro empty
    apply some
    rw [eq_blank empty]
    rfl
  have front : (expand base template).isAbsolute = false := by
    rw [pasted, String.append_assoc, isAbsolute_trimmedBase_append some, absolute]
  have parts : componentsOf (partsOf (trimmedBase base ++ "/" ++ r).toList) =
      componentsOf (partsOf (trimmedBase base).toList) ++ componentsOf (partsOf r.toList) := by
    simp [partsOf, componentsOf, split_append_sep]
  rw [resolve_of_relative front, components_join filled front, pasted,
    components_join filled relative, parts, List.append_cancel_left_eq, List.append_left_eq_self,
    componentsOf_eq_nil_iff]

end

/--
A token in front of a template and its folder name one directory in two cases: the base path is
absolute and only slashes are taken from its end, or it is relative, leads nowhere and is not empty
without its end. Any other relative base path is in the directory of the token twice, or not at all.
-/
theorem resolve_token_agrees_iff (mem : (name, folder) ∈ folders)
    (plain : '\x7b' ∉ base.text.toList) (relative : isAbsolute ⟨s⟩ = false)
    (free : ∀ other ∈ folders.map Prod.fst, ¬ (token other).toList <:+: s.toList) :
    (resolve base (token name ++ "/" ++ s)).components = (resolve base (folder ++ s)).components ↔
      base.isAbsolute = true ∧ '\\' ∉ trailing base ∨
      base.isAbsolute = false ∧ trimmedBase base ≠ "" ∧ route ⟨trimmedBase base⟩ = [] := by
  obtain ⟨pasted, kept⟩ := expand_eq mem plain free
  have behind : isAbsolute ⟨folder ++ s⟩ = false := isAbsolute_folder_append mem relative
  have joined : resolve base (folder ++ s) = base.join ⟨folder ++ s⟩ := by
    rw [resolve_of_relative (kept ▸ behind), kept]
  rw [joined]
  cases absolute : base.isAbsolute with
  | true =>
      rw [resolve_agrees_iff_of_absolute pasted behind absolute]
      simp
  | false =>
      by_cases none : trimmedBase base = ""
      · have apart := resolve_ne_of_trimmedBase_eq pasted behind absolute none
        simp [apart, none]
      · rw [resolve_agrees_iff_of_relative pasted behind absolute none]
        simp [none]

/-- A base path with slashes at its end, and one that is the directory it is meant from. -/
theorem resolve_token_agrees_iff_slashes :
    (resolve ⟨"/srv/app//"⟩ (token "app_path" ++ "/" ++ "\x7bx\x7d")).components =
        (resolve ⟨"/srv/app//"⟩ ("app/" ++ "\x7bx\x7d")).components ∧
      (resolve ⟨"./."⟩ (token "storage_path" ++ "/" ++ "x/")).components =
        (resolve ⟨"./."⟩ ("storage/" ++ "x/")).components := by
  constructor
  · exact (resolve_token_agrees_iff (by decide) (by decide) (by decide) (by decide)).mpr
      (.inl ⟨by decide, by decide⟩)
  · exact (resolve_token_agrees_iff (by decide) (by decide) (by decide) (by decide)).mpr
      (.inr ⟨by decide, by decide, by decide⟩)

/-- A relative base path comes twice, an empty one leads to the root directory, and a backslash at
the end, which is part of a name, is lost. -/
theorem resolve_token_apart :
    (resolve ⟨"a"⟩ (token "base_path" ++ "/" ++ "b")).components ≠ (resolve ⟨"a"⟩ "b").components ∧
      (resolve ⟨""⟩ (token "base_path" ++ "/" ++ "b")).components ≠ (resolve ⟨""⟩ "b").components ∧
      (resolve ⟨"/srv\\"⟩ (token "base_path" ++ "/" ++ "b")).components ≠
        (resolve ⟨"/srv\\"⟩ "b").components := by
  decide +kernel

end PathTemplate

end ModelMigration
