import ModelMigration.Proofs.Disk.Following

/-!
# Places of paths

What a path finds and what it ends at, said of its segments. A path without `..` parts leads to the
place that its route spells, and it leads there as soon as that place is a directory, given that
nothing stands in a tree but in directories.
-/

namespace ModelMigration.Disk.FileTree

open ModelMigration.Path

variable {t u : FileTree} {p : Path} {start place final directory : Location} {name : String}
  {parts : List String} {entry : Entry}

/-! ## Finding and targets -/

theorem find_eq_ok_iff : t.find p = .ok (place, entry) ↔
    ∃ start, t.origin p = .ok start ∧ t.followAll start p.segments = .ok place ∧
      t.entry? place = some entry ∧ (endsWithSlash p = true → entry = .directory) := by
  unfold find segments
  simp only [bind_eq_ok_iff, followAll_filter]
  constructor
  · rintro ⟨start, origin, final, followed, found⟩
    refine ⟨start, origin, ?_⟩
    split at found
    · cases found
    · next content stands =>
        split at found
        · cases found
        · next slash =>
            cases found
            exact ⟨followed, stands, fun slash' => absurd slash' slash⟩
    · next stands =>
        cases found
        exact ⟨followed, stands, fun _ => rfl⟩
  · rintro ⟨start, origin, followed, stands, slash⟩
    refine ⟨start, origin, place, followed, ?_⟩
    rw [stands]
    cases entry with
    | directory => rfl
    | file content =>
        have noSlash : ¬ endsWithSlash p = true := fun slash' => nomatch slash slash'
        exact if_neg noSlash

theorem dropWhile_blank_eq {l : List String} :
    (l.dropWhile fun part => part = "") = [] ∧ l.filter (· ≠ "") = [] ∨
      ∃ last rest, (l.dropWhile fun part => part = "") = last :: rest ∧
        l.filter (· ≠ "") = last :: rest.filter (· ≠ "") := by
  induction l with
  | nil => simp
  | cons part l ih =>
      by_cases blank : part = ""
      · simpa [blank] using ih
      · right
        exact ⟨part, l, by simp [blank], by simp [blank]⟩

theorem target_eq (t : FileTree) (p : Path) : t.target p = (do
    let start ← t.origin p
    match p.segments.reverse with
    | [] => return .special
    | last :: before =>
        let directory ← t.followAll start before.reverse
        t.passable directory
        if last = "." || last = ".." then return .special else return .named directory last) := by
  unfold target segments
  rw [← List.filter_reverse]
  rcases dropWhile_blank_eq (l := (partsOf p).reverse) with ⟨dropped, kept⟩ | ⟨last, rest, dropped, kept⟩
  · rw [dropped, kept]
  · rw [dropped, kept]
    simp only [← List.filter_reverse, followAll_filter]

theorem target_eq_named_iff : t.target p = .ok (.named directory name) ↔
    ∃ start front, t.origin p = .ok start ∧ p.segments = front ++ [name] ∧
      t.followAll start front = .ok directory ∧ t.entry? directory = some .directory ∧
      name ≠ "." ∧ name ≠ ".." := by
  rw [target_eq, bind_eq_ok_iff]
  constructor
  · rintro ⟨start, origin, ended⟩
    split at ended
    · cases ended
    · next last before reversed =>
        simp only [bind_eq_ok_iff] at ended
        obtain ⟨place, followed, ⟨⟩, passable, ended⟩ := ended
        split at ended
        · cases ended
        · next plain =>
            cases ended
            have segments := congrArg List.reverse reversed
            rw [List.reverse_reverse, List.reverse_cons] at segments
            simp only [Bool.or_eq_true, decide_eq_true_eq, not_or] at plain
            exact ⟨start, before.reverse, origin, segments, followed,
              passable_eq_ok_iff.mp passable, plain⟩
  · rintro ⟨start, front, origin, segments, followed, stands, noDot, noUp⟩
    refine ⟨start, origin, ?_⟩
    have passable := passable_eq_ok_iff.mpr stands
    simp only [segments, List.reverse_append, List.reverse_cons, List.reverse_nil, List.nil_append,
      List.cons_append, List.reverse_reverse, bind_eq_ok_iff]
    exact ⟨directory, followed, (), passable, by simp [noDot, noUp, pure, Except.pure]⟩

/-- What a path ends at is found by it, as far as its name can stand. -/
theorem find_of_target (ended : t.target p = .ok (.named directory name))
    (short : name.utf8ByteSize ≤ greatestName) (stands : t.entry? (directory ++ [name]) = some entry)
    (slash : endsWithSlash p = true → entry = .directory) :
    t.find p = .ok (directory ++ [name], entry) := by
  obtain ⟨start, front, origin, segments, followed, passable, noDot, noUp⟩ :=
    target_eq_named_iff.mp ended
  have filled : name ≠ "" := ne_blank_of_mem_segments (by simp [segments] : name ∈ p.segments)
  refine find_eq_ok_iff.mpr ⟨start, origin, ?_, stands, slash⟩
  rw [segments, followAll_append_eq_ok_iff]
  refine ⟨directory, followed, ?_⟩
  rw [followAll_cons_eq_ok_iff]
  exact ⟨_, .name passable filled noDot noUp short, rfl⟩

/-- What a path finds is at its end, unless the path ends with the root, `.` or `..`. -/
theorem target_of_find (found : t.find p = .ok (place, entry)) :
    t.target p = .ok .special ∨ ∃ directory name, t.target p = .ok (.named directory name) ∧
      place = directory ++ [name] ∧ name.utf8ByteSize ≤ greatestName := by
  obtain ⟨start, origin, followed, stands, slash⟩ := find_eq_ok_iff.mp found
  rcases List.eq_nil_or_concat p.segments with none | ⟨front, last, some⟩
  · left
    rw [target_eq, bind_eq_ok_iff]
    exact ⟨start, origin, by rw [none]; rfl⟩
  · rw [List.concat_eq_append] at some
    rw [some, followAll_append_eq_ok_iff] at followed
    obtain ⟨middle, inFront, behind⟩ := followed
    obtain ⟨next, step, ⟨⟩⟩ := followAll_cons_eq_ok_iff.mp behind
    -- Whether the last segment is `.` or `..`, the path ends there at a directory.
    have special : ∀ part, p.segments = front ++ [part] → (part = "." ∨ part = "..") →
        t.entry? middle = Option.some .directory → t.target p = .ok .special := by
      intro part segments dots passable
      rw [target_eq, bind_eq_ok_iff]
      refine ⟨start, origin, ?_⟩
      simp only [segments, List.reverse_append, List.reverse_cons, List.reverse_nil,
        List.nil_append, List.cons_append, List.reverse_reverse, bind_eq_ok_iff]
      exact ⟨middle, inFront, (), passable_eq_ok_iff.mpr passable, if_pos (by simpa using dots)⟩
    cases step with
    | blank => exact absurd rfl (ne_blank_of_mem_segments (by simp [some] : "" ∈ p.segments))
    | current passable => exact .inl (special _ some (.inl rfl) passable)
    | up passable => exact .inl (special _ some (.inr rfl) passable)
    | name passable filled noDot noUp short =>
        right
        exact ⟨middle, last, target_eq_named_iff.mpr
          ⟨start, front, origin, some, inFront, passable, noDot, noUp⟩, rfl, short⟩

/-! ## Trees with the same directories -/

/-- Whether a tree has the directories of another one and works in the same directory. -/
structure Keeps (t u : FileTree) : Prop where
  here : u.here = t.here
  directory : ∀ place, t.entry? place = some .directory → u.entry? place = some .directory

theorem origin_congr (here : u.here = t.here) (p : Path) : u.origin p = t.origin p := by
  unfold origin
  rw [here]

theorem Keeps.followAll (keeps : Keeps t u) (h : t.followAll place parts = .ok final) :
    u.followAll place parts = .ok final := by
  induction parts generalizing place with
  | nil => exact h
  | cons part parts ih =>
      rw [followAll_cons_eq_ok_iff] at h ⊢
      obtain ⟨next, step, rest⟩ := h
      refine ⟨next, ?_, ih rest⟩
      cases step with
      | blank => exact .blank
      | current passable => exact .current (keeps.directory _ passable)
      | up passable => exact .up (keeps.directory _ passable)
      | name passable filled noDot noUp short =>
          exact .name (keeps.directory _ passable) filled noDot noUp short

theorem Keeps.target (keeps : Keeps t u) (ended : t.target p = .ok (.named directory name)) :
    u.target p = .ok (.named directory name) := by
  obtain ⟨start, front, origin, segments, followed, passable, plain⟩ := target_eq_named_iff.mp ended
  rw [← origin_congr keeps.here] at origin
  exact target_eq_named_iff.mpr ⟨start, front, origin, segments, keeps.followAll followed,
    keeps.directory _ passable, plain⟩

/-! ## Routes without `..` parts -/

/-- Without `..` parts, the place is spelled by the parts that were followed. -/
theorem eq_of_followAll (plain : ∀ part ∈ parts, part ≠ "" ∧ part ≠ "..")
    (h : t.followAll place parts = .ok final) : final = place ++ parts.filter (· ≠ ".") := by
  induction parts generalizing place with
  | nil =>
      cases h
      simp
  | cons part parts ih =>
      obtain ⟨next, step, rest⟩ := followAll_cons_eq_ok_iff.mp h
      have first := plain part List.mem_cons_self
      have behind := ih (fun x hx => plain x (List.mem_cons_of_mem _ hx)) rest
      cases step with
      | blank => exact absurd rfl first.1
      | current passable => exact behind
      | up passable => exact absurd rfl first.2
      | name passable filled noDot noUp short => simpa [noDot] using behind

theorem plain_segments (noUp : ".." ∉ p.route) : ∀ part ∈ p.segments, part ≠ "" ∧ part ≠ ".." := by
  intro part mem
  refine ⟨ne_blank_of_mem_segments mem, ?_⟩
  rintro rfl
  exact up_not_mem_segments noUp mem

/-- The place that a path without `..` parts spells, given the directory that it is meant from. -/
def placeOf (here : Location) (p : Path) : Location :=
  (if p.isAbsolute then [] else here) ++ p.route

theorem origin_eq_ok_iff : t.origin p = .ok start ↔
    '\x00' ∉ p.text.toList ∧ p.text ≠ "" ∧ p.text.utf8ByteSize < pathLimit ∧
      start = if p.isAbsolute then [] else t.here := by
  unfold origin
  simp only [List.contains_eq_mem, decide_eq_true_eq]
  by_cases nul : '\x00' ∈ p.text.toList
  · rw [if_pos nul]
    exact ⟨nofun, fun h => absurd nul h.1⟩
  · rw [if_neg nul]
    by_cases empty : p.text = ""
    · rw [if_pos empty]
      exact ⟨nofun, fun h => absurd empty h.2.1⟩
    · rw [if_neg empty]
      by_cases long : pathLimit ≤ p.text.utf8ByteSize
      · rw [if_pos long]
        exact ⟨nofun, fun h => absurd h.2.2.1 (Nat.not_lt.mpr long)⟩
      · rw [if_neg long, Except.ok.injEq]
        exact ⟨fun same => ⟨nul, empty, Nat.lt_of_not_le long, same.symm⟩,
          fun h => h.2.2.2.symm⟩

theorem origin_of_join {q : Path} (relative : q.isAbsolute = false) (some : p.text ≠ "")
    (origin : t.origin (p.join q) = .ok start) : t.origin p = .ok start := by
  obtain ⟨rest, text⟩ := exists_text_join relative some
  have absolute := isAbsolute_of_text text some
  obtain ⟨nul, _, short, same⟩ := origin_eq_ok_iff.mp origin
  rw [text, String.toList_append, List.mem_append, not_or] at nul
  rw [text, String.utf8ByteSize_append] at short
  rw [absolute] at same
  exact origin_eq_ok_iff.mpr ⟨nul.1, some, by omega, same⟩

theorem eq_of_find (noUp : ".." ∉ p.route) (found : t.find p = .ok (place, entry)) :
    place = placeOf t.here p := by
  obtain ⟨start, origin, followed, _⟩ := find_eq_ok_iff.mp found
  obtain ⟨_, _, _, rfl⟩ := origin_eq_ok_iff.mp origin
  rw [placeOf, route_eq]
  exact eq_of_followAll (plain_segments noUp) followed

theorem stands_of_find (found : t.find p = .ok (place, entry)) : t.entry? place = some entry :=
  let ⟨_, _, _, stands, _⟩ := find_eq_ok_iff.mp found
  stands

theorem eq_route_of_find (absolute : p.isAbsolute = true) (noUp : ".." ∉ p.route)
    (found : t.find p = .ok (place, entry)) : place = p.route := by
  rw [eq_of_find noUp found, placeOf, if_pos absolute, List.nil_append]

theorem length_le_of_followAll (h : t.followAll place parts = .ok final) :
    ∀ part ∈ parts, part.utf8ByteSize ≤ greatestName := by
  induction parts generalizing place with
  | nil => simp
  | cons part parts ih =>
      obtain ⟨next, step, rest⟩ := followAll_cons_eq_ok_iff.mp h
      rw [List.forall_mem_cons]
      refine ⟨?_, ih rest⟩
      cases step with
      | name passable filled noDot noUp short => exact short
      | _ => decide

theorem directory_of_followAll (filled : ∀ part ∈ parts, part ≠ "")
    (h : t.followAll place parts = .ok final) (stands : t.entry? final = some .directory) :
    t.entry? place = some .directory := by
  cases parts with
  | nil =>
      cases h
      exact stands
  | cons part parts =>
      obtain ⟨next, step, rest⟩ := followAll_cons_eq_ok_iff.mp h
      cases step with
      | blank => exact absurd rfl (filled "" List.mem_cons_self)
      | current passable => exact passable
      | up passable => exact passable
      | name passable => exact passable

/-! ## Rooted trees -/

/-- Whether nothing stands in a tree but in directories. -/
def Rooted (t : FileTree) : Prop :=
  ∀ directory name entry, t.entry? (directory ++ [name]) = some entry →
    t.entry? directory = some .directory

theorem not_concat_isPrefix (place : Location) (name : String) : ¬ place ++ [name] <+: place := by
  intro above
  have length := above.length_le
  rw [List.length_append, List.length_singleton] at length
  omega

/-- Whatever is put into a directory, unless a file takes the place of one. -/
theorem Rooted.put (rooted : Rooted t) (stands : t.entry? directory = some .directory)
    (fits : entry = .directory ∨ t.entry? (directory ++ [name]) ≠ some .directory) :
    Rooted (t.put (directory ++ [name]) entry) := by
  have kept : ∀ place, t.entry? place = some .directory →
      entry? (t.put (directory ++ [name]) entry) place = some .directory := by
    intro place directory'
    rw [entry?_put]
    by_cases same : directory ++ [name] = place
    · rcases fits with fits | noDirectory
      · rw [if_pos same, fits]
      · rw [same] at noDirectory
        contradiction
    · rw [if_neg same, directory']
  intro above last entry' there
  rw [entry?_put] at there
  by_cases same : directory ++ [name] = above ++ [last]
  · obtain ⟨rfl, _⟩ := List.append_inj' same rfl
    exact kept _ stands
  · rw [if_neg same] at there
    exact kept _ (rooted above last entry' there)

theorem mem_spine_iff {here : Location} : place ∈ spine here ↔ place ≠ [] ∧ place <+: here := by
  unfold spine
  rw [List.mem_map]
  constructor
  · rintro ⟨i, mem, rfl⟩
    rw [List.mem_range] at mem
    refine ⟨?_, List.take_prefix _ _⟩
    rw [Ne, ← List.length_eq_zero_iff, List.length_take]
    omega
  · rintro ⟨filled, prefixed⟩
    have length := prefixed.length_le
    have some : place.length ≠ 0 := by simpa using filled
    refine ⟨place.length - 1, List.mem_range.mpr (by omega), ?_⟩
    rw [Nat.sub_add_cancel (by omega)]
    exact (List.prefix_iff_eq_take.mp prefixed).symm

theorem getElem?_foldl_insert (places : List Location) (entries : Std.ExtTreeMap Location Entry) :
    (places.foldl (fun entries place => entries.insert place .directory) entries)[place]? =
      if place ∈ places then some Entry.directory else entries[place]? := by
  induction places generalizing entries with
  | nil => simp
  | cons first places ih =>
      rw [List.foldl_cons, ih, Std.ExtTreeMap.getElem?_insert]
      by_cases mem : place ∈ places
      · simp [mem]
      · simp only [mem, if_false, List.mem_cons, or_false, Std.LawfulEqCmp.compare_eq_iff_eq,
          @eq_comm _ place first]

theorem entry?_empty (here place : Location) :
    entry? (empty here) place = if place <+: here then some .directory else none := by
  unfold entry? empty
  by_cases root : place = []
  · simp [root]
  · rw [if_neg root]
    dsimp only
    rw [getElem?_foldl_insert]
    by_cases above : place <+: here
    · rw [if_pos (mem_spine_iff.mpr ⟨root, above⟩), if_pos above]
    · rw [if_neg fun mem => above (mem_spine_iff.mp mem).2, if_neg above]
      exact Std.ExtTreeMap.getElem?_empty

theorem rooted_empty (here : Location) : Rooted (empty here) := by
  intro directory name entry there
  rw [entry?_empty] at there
  have above : directory ++ [name] <+: here := by
    by_cases above : directory ++ [name] <+: here
    · exact above
    · rw [if_neg above] at there
      contradiction
  rw [entry?_empty, if_pos ((List.prefix_append _ _).trans above)]

theorem Rooted.directory_of_isPrefix (rooted : Rooted t) (stands : t.entry? final = some .directory)
    (above : place <+: final) : t.entry? place = some .directory := by
  obtain ⟨names, rfl⟩ := above
  induction names generalizing place with
  | nil => simpa using stands
  | cons name names ih =>
      have next : t.entry? (place ++ [name]) = some .directory := ih (by simpa using stands)
      exact rooted place name _ next

/-- In a rooted tree the parts lead to the place that they spell if it is a directory. -/
theorem followAll_of_directory (rooted : Rooted t)
    (plain : ∀ part ∈ parts, part ≠ "" ∧ part ≠ ".." ∧ part.utf8ByteSize ≤ greatestName)
    (stands : t.entry? (place ++ parts.filter (· ≠ ".")) = some .directory) :
    t.followAll place parts = .ok (place ++ parts.filter (· ≠ ".")) := by
  induction parts generalizing place with
  | nil => simp
  | cons part parts ih =>
      have passable := rooted.directory_of_isPrefix stands (List.prefix_append _ _)
      obtain ⟨filled, noUp, short⟩ := plain part List.mem_cons_self
      have others := fun x hx => plain x (List.mem_cons_of_mem _ hx)
      rw [followAll_cons_eq_ok_iff]
      -- The place that the parts spell lies below all on the way, so each of these is a directory.
      by_cases dot : part = "."
      · subst dot
        exact ⟨place, .current passable, ih others stands⟩
      · have kept : (part :: parts).filter (· ≠ ".") = part :: parts.filter (· ≠ ".") := by
          simp [dot]
        rw [kept] at stands ⊢
        refine ⟨place ++ [part], .name passable filled dot noUp short, ?_⟩
        have rest := @ih (place ++ [part]) others (by simpa using stands)
        simpa using rest

theorem find_of_directory (rooted : Rooted t) (noUp : ".." ∉ p.route)
    (short : ∀ part ∈ p.segments, part.utf8ByteSize ≤ greatestName)
    (origin : t.origin p = .ok start) (stands : t.entry? (placeOf t.here p) = some .directory) :
    t.find p = .ok (placeOf t.here p, .directory) := by
  obtain ⟨_, _, _, rfl⟩ := origin_eq_ok_iff.mp origin
  have plain : ∀ part ∈ p.segments, part ≠ "" ∧ part ≠ ".." ∧ part.utf8ByteSize ≤ greatestName :=
    fun part mem =>
      ⟨(plain_segments noUp part mem).1, (plain_segments noUp part mem).2, short part mem⟩
  rw [placeOf, route_eq] at stands
  have followed := followAll_of_directory rooted plain stands
  rw [← route_eq, ← placeOf] at followed stands
  exact find_eq_ok_iff.mpr ⟨_, origin, followed, stands, fun _ => rfl⟩

end ModelMigration.Disk.FileTree
