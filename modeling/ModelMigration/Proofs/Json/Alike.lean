import ModelMigration.Proofs.Json.Accepting

/-!
# Values that are read alike

Two spellings of one text, lists of elements that are alike, and records with the same members up to
order, members with other keys and members of a default: whatever of them is accepted, the other is
accepted too, for the same value.
-/

namespace ModelMigration.Json

variable {α β : Type} {scan item : Scanner α} {gap v v' : List Char} {s s' : String}
  {values values' : List (List Char)} {entries entries' : List (String × List Char)}
  {slots : List (Slot α)} {slot : Slot α} {alike : List Char → List Char → Prop}

/-! ## What is alike -/

/-- Whether two values are spellings of the same text, if either of them is a text. -/
def TextAlike (v v' : List Char) : Prop :=
  Formed .value v ∧ Formed .value v' ∧ ∀ s, TextOf v s ↔ TextOf v' s

theorem TextOf.textAlike (isText : TextOf v s) (isText' : TextOf v' s) : TextAlike v v' := by
  refine ⟨isText.formed, isText'.formed, fun t => ⟨fun other => ?_, fun other => ?_⟩⟩
  · rwa [(takes_text other).unique (takes_text isText)]
  · rwa [(takes_text other).unique (takes_text isText')]

/-- Whether neither of two values opens with one of some characters. -/
def OpenOtherwise (openings : List Char) (v v' : List Char) : Prop :=
  Formed .value v ∧ Formed .value v' ∧ ∀ c ∈ openings, v.head? ≠ some c ∧ v'.head? ≠ some c

/-- Whether two values are lists of elements that are alike one by one, or no lists. -/
inductive ListAlike (alike : List Char → List Char → Prop) (v v' : List Char) : Prop
  | lists {values values' : List (List Char)} (list : ListOf v values) (list' : ListOf v' values')
      (elements : List.Forall₂ alike values values')
  | others (others : OpenOtherwise ['['] v v')

/-- A known key of a record: which values of it are alike, and which are its default. -/
structure Key where
  name : String
  alike : List Char → List Char → Prop
  isDefault : List Char → Prop

/-- Whether a member is left out or has the default of its key as its value. -/
def Key.Defaulted (key : Key) (v? : Option (List Char)) : Prop := ∀ v, v? = some v → key.isDefault v

theorem Key.defaulted_none (key : Key) : key.Defaulted none := nofun

theorem Key.defaulted_some {key : Key} (isDefault : key.isDefault v) : key.Defaulted (some v) :=
  fun _ same => Option.some.inj same ▸ isDefault

/-- Whether two members with a key have values that are alike, or each is the default or left
out. -/
inductive Key.MemberAlike (key : Key) (v? v?' : Option (List Char)) : Prop
  | values {v v' : List Char} (there : v? = some v) (there' : v?' = some v')
      (alike : key.alike v v')
  | defaults (defaulted : key.Defaulted v?) (defaulted' : key.Defaulted v?')

/-- Whether the values of some keys in order are alike. Behind the values of all keys there may be
more in both lists. -/
inductive InOrder : List Key → List (List Char) → List (List Char) → Prop
  | nil {keys : List Key} : InOrder keys [] []
  | cons {key : Key} {keys : List Key} {v v' : List Char} {values values' : List (List Char)}
      (alike : key.alike v v') (behind : InOrder keys values values') :
      InOrder (key :: keys) (v :: values) (v' :: values')
  | beyond {v v' : List Char} {values values' : List (List Char)} :
      InOrder [] (v :: values) (v' :: values')

/-- Whether no key of a record stands twice among the members of an object. -/
def Once (keys : List Key) (entries : List (String × List Char)) : Prop :=
  ∀ key ∈ keys, (entries.map Prod.fst).count key.name ≤ 1

instance (keys : List Key) (entries : List (String × List Char)) : Decidable (Once keys entries) :=
  inferInstanceAs (Decidable (∀ key ∈ keys, (entries.map Prod.fst).count key.name ≤ 1))

/-- Whether two values are spellings of the same record: objects that differ in the order of their
members, in members with other keys and in members of a default, or lists of the values in order; or
neither is an object or a list, so that neither is accepted as a record. -/
inductive RecordAlike (keys : List Key) (v v' : List Char) : Prop
  | objects {entries entries' : List (String × List Char)} (object : ObjectOf v entries)
      (object' : ObjectOf v' entries') (once : Once keys entries) (once' : Once keys entries')
      (members : ∀ key ∈ keys,
        key.MemberAlike (entries.lookup key.name) (entries'.lookup key.name))
  | lists {values values' : List (List Char)} (list : ListOf v values) (list' : ListOf v' values')
      (inOrder : InOrder keys values values')
  | others (others : OpenOtherwise ['[', '\x7b'] v v')

/-! ## Either may be the other -/

theorem TextAlike.symm (alike : TextAlike v v') : TextAlike v' v :=
  ⟨alike.2.1, alike.1, fun s => (alike.2.2 s).symm⟩

theorem OpenOtherwise.symm {openings : List Char} (others : OpenOtherwise openings v v') :
    OpenOtherwise openings v' v :=
  ⟨others.2.1, others.1, fun c mem => (others.2.2 c mem).symm⟩

theorem ListAlike.symm (each : ∀ v v', alike v v' → alike v' v) (lists : ListAlike alike v v') :
    ListAlike alike v' v := by
  cases lists with
  | lists list list' elements =>
      exact .lists list' list (List.Forall₂.flip (elements.imp fun v v' => each v v'))
  | others others => exact .others others.symm

/-- Whether the values of a key are alike either way. -/
def Key.Symmetric (key : Key) : Prop := ∀ v v', key.alike v v' → key.alike v' v

theorem Key.MemberAlike.symm {key : Key} (symmetric : key.Symmetric) {v? v?' : Option (List Char)}
    (member : key.MemberAlike v? v?') : key.MemberAlike v?' v? := by
  cases member with
  | values there there' alike => exact .values there' there (symmetric _ _ alike)
  | defaults defaulted defaulted' => exact .defaults defaulted' defaulted

theorem InOrder.symm {keys : List Key} (symmetric : ∀ key ∈ keys, key.Symmetric)
    (inOrder : InOrder keys values values') : InOrder keys values' values := by
  induction inOrder with
  | nil => exact .nil
  | @cons key keys v v' values values' alike behind ih =>
      exact .cons (symmetric key List.mem_cons_self v v' alike)
        (ih fun key mem => symmetric key (List.mem_cons_of_mem _ mem))
  | beyond => exact .beyond

theorem RecordAlike.symm {keys : List Key} (symmetric : ∀ key ∈ keys, key.Symmetric)
    (record : RecordAlike keys v v') : RecordAlike keys v' v := by
  cases record with
  | objects object object' once once' members =>
      exact .objects object' object once' once fun key mem =>
        (members key mem).symm (symmetric key mem)
  | lists list list' inOrder => exact .lists list' list (inOrder.symm symmetric)
  | others others => exact .others others.symm

/-! ## What a reader makes of values that are alike -/

/-- Whether a reader that accepts the first of two values accepts the second for the same. -/
structure Follows (scan : Scanner α) (same : α → α → Prop) (v v' : List Char) : Prop where
  isLocal : Local scan v
  exists_taken : ∀ a, Takes scan v a → ∃ a', Takes scan v' a' ∧ same a a'

theorem Takes.accepted {a : α} (takes : Takes scan v a) :
    scan ([] ++ (v ++ [])) = .ok (a, []) :=
  takes [] [] spacing_nil

theorem follows_of_rejected {same : α → α → Prop}
    (rejected : ∀ gap rest a, Spacing gap → scan (gap ++ (v ++ rest)) ≠ .ok a) :
    Follows scan same v v' where
  isLocal gap rest _ _ spacing accepted := absurd accepted (rejected gap rest _ spacing)
  exists_taken _ takes := absurd takes.accepted (rejected [] [] _ spacing_nil)

theorem Follows.imp {same same' : α → α → Prop} (follows : Follows scan same v v')
    (weaker : ∀ a a', same a a' → same' a a') : Follows scan same' v v' where
  isLocal := follows.isLocal
  exists_taken a takes := by
    obtain ⟨a', takes', equal⟩ := follows.exists_taken a takes
    exact ⟨a', takes', weaker a a' equal⟩

theorem Follows.map {same : α → α → Prop} {same' : β → β → Prop} (follows : Follows scan same v v')
    (f : α → β) (kept : ∀ a a', same a a' → same' (f a) (f a')) :
    Follows (fun cs => do
      let (x, rest) ← scan cs
      .ok (f x, rest)) same' v v' where
  isLocal := by
    intro gap rest b rest' spacing accepted
    obtain ⟨⟨a, behind⟩, read, ⟨⟩⟩ := bind_eq_ok_iff.mp accepted
    obtain ⟨takes, same⟩ := follows.isLocal gap rest a _ spacing read
    exact ⟨takes.map f, same⟩
  exists_taken := by
    intro b takes
    obtain ⟨⟨a, behind⟩, read, ⟨⟩⟩ := bind_eq_ok_iff.mp takes.accepted
    obtain ⟨taken, _⟩ := follows.isLocal [] [] a _ spacing_nil read
    obtain ⟨a', takes', equal⟩ := follows.exists_taken a taken
    exact ⟨f a', takes'.map f, kept a a' equal⟩

theorem follows_text (alike : TextAlike v v') : Follows text Eq v v' where
  isLocal := by
    intro gap rest s rest' spacing accepted
    obtain ⟨isText, same⟩ := textOf_of_text alike.1 spacing accepted
    exact ⟨takes_text isText, same⟩
  exists_taken := by
    intro s takes
    obtain ⟨isText, _⟩ := textOf_of_text alike.1 spacing_nil takes.accepted
    exact ⟨s, takes_text ((alike.2.2 s).mp isText), rfl⟩

/-! ## Lists -/

theorem list_ne_ok {openings rest : List Char} (others : OpenOtherwise openings v v')
    (brackets : '[' ∈ openings) (spacing : Spacing gap) {as : List α × List Char} :
    list item (gap ++ (v ++ rest)) ≠ .ok as := by
  intro accepted
  obtain ⟨c, behind, rfl, solid, _⟩ := exists_start others.1
  have noList := (others.2.2 '[' brackets).1
  rw [list, List.cons_append, skipSpace_spacing spacing solid] at accepted
  split at accepted
  · contradiction
  · simp_all
  · exact unfit_ne_ok accepted

theorem takes_of_alike {as : List α} (each : ∀ v v', alike v v' → Follows item Eq v v')
    (elements : List.Forall₂ alike values values') (takes : List.Forall₂ (Takes item) values as) :
    List.Forall₂ (Takes item) values' as := by
  induction elements generalizing as with
  | nil => exact takes
  | cons first behind ih =>
      cases takes with
      | cons take takes =>
          obtain ⟨a', take', rfl⟩ := (each _ _ first).exists_taken _ take
          exact .cons take' (ih takes)

theorem follows_list (each : ∀ v v', alike v v' → Follows item Eq v v')
    (lists : ListAlike alike v v') : Follows (list item) Eq v v' := by
  cases lists with
  | others others =>
      exact follows_of_rejected fun _ _ _ spacing => list_ne_ok others (by simp) spacing
  | @lists values values' list list' elements =>
      have isLocal : ∀ v ∈ values, Local item v := by
        intro v mem
        obtain ⟨v', alike⟩ := exists_of_forall₂_of_mem elements mem
        exact (each v v' alike).isLocal
      refine ⟨fun gap rest as rest' spacing accepted => ?_, fun as takes => ?_⟩
      · obtain ⟨taken, same⟩ := takes_of_list list isLocal spacing accepted
        exact ⟨takes_list list taken, same⟩
      · obtain ⟨taken, _⟩ := takes_of_list list isLocal spacing_nil takes.accepted
        exact ⟨as, takes_list list' (takes_of_alike each elements taken), rfl⟩

/-! ## Records -/

/-- Whether the values of some slots are the same one by one, up to a view of those with a key. -/
inductive SameValues (view : String → α → β) : List (Slot α) → List α → List α → Prop
  | nil : SameValues view [] [] []
  | cons {slot : Slot α} {slots : List (Slot α)} {a a' : α} {as as' : List α}
      (same : view slot.key a = view slot.key a') (behind : SameValues view slots as as') :
      SameValues view (slot :: slots) (a :: as) (a' :: as')

/-- Whether a slot reads the values of a key, up to a view of them. -/
structure Key.ReadBy (view : String → α → β) (key : Key) (slot : Slot α) : Prop where
  name : slot.key = key.name
  follows : ∀ v v', key.alike v v' →
    Follows slot.read (fun a a' => view slot.key a = view slot.key a') v v'
  default : ∀ v, key.isDefault v → ∃ d a, slot.default? = some d ∧ Takes slot.read v a ∧
    view slot.key a = view slot.key d

variable {view : String → α → β} {key : Key} {keys : List Key}

theorem Key.ReadBy.exists_default (readBy : key.ReadBy view slot)
    (defaulted : key.Defaulted (entries.lookup key.name)) {a : α}
    (settles : Settles entries slot a) :
    ∃ d, slot.default? = some d ∧ view slot.key a = view slot.key d := by
  rw [Settles, readBy.name] at settles
  cases entry : entries.lookup key.name with
  | none =>
      rw [entry] at settles
      exact ⟨a, settles, rfl⟩
  | some v =>
      rw [entry] at settles
      obtain ⟨d, b, default, takes, same⟩ := readBy.default v (defaulted v entry)
      obtain rfl := takes.unique settles
      exact ⟨d, default, same⟩

theorem Key.ReadBy.exists_settles_default (readBy : key.ReadBy view slot)
    (defaulted : key.Defaulted (entries.lookup key.name)) {d : α}
    (default : slot.default? = some d) :
    ∃ a, Settles entries slot a ∧ view slot.key a = view slot.key d := by
  unfold Settles
  rw [readBy.name]
  cases entry : entries.lookup key.name with
  | none => exact ⟨d, default, rfl⟩
  | some v =>
      obtain ⟨d', a, default', takes, same⟩ := readBy.default v (defaulted v entry)
      obtain rfl := Option.some.inj (default.symm.trans default')
      exact ⟨a, takes, readBy.name ▸ same⟩

/-- A slot that is settled by one of two members that are alike is settled by the other too. -/
theorem Key.ReadBy.exists_settles (readBy : key.ReadBy view slot)
    (alike : key.MemberAlike (entries.lookup key.name) (entries'.lookup key.name)) {a : α}
    (settles : Settles entries slot a) :
    ∃ a', Settles entries' slot a' ∧ view slot.key a = view slot.key a' := by
  cases alike with
  | @values v v' there there' alike =>
      rw [Settles, readBy.name, there] at settles
      obtain ⟨a', takes', same⟩ := (readBy.follows v v' alike).exists_taken a settles
      refine ⟨a', ?_, same⟩
      rw [Settles, readBy.name, there']
      exact takes'
  | defaults defaulted defaulted' =>
      obtain ⟨d, default, same⟩ := readBy.exists_default defaulted settles
      obtain ⟨a', settles', same'⟩ := readBy.exists_settles_default defaulted' default
      exact ⟨a', settles', same.trans same'.symm⟩

theorem Key.ReadBy.isLocal (readBy : key.ReadBy view slot)
    (alike : key.MemberAlike (entries.lookup key.name) (entries'.lookup key.name))
    (there : entries.lookup key.name = some v) : Local slot.read v := by
  cases alike with
  | values there' _ alike =>
      obtain rfl := Option.some.inj (there.symm.trans there')
      exact (readBy.follows _ _ alike).isLocal
  | defaults defaulted _ =>
      obtain ⟨_, a, _, takes, _⟩ := readBy.default v (defaulted v there)
      exact takes.isLocal

theorem exists_key (readBy : List.Forall₂ (Key.ReadBy view) keys slots) (mem : slot ∈ slots) :
    ∃ key ∈ keys, key.ReadBy view slot := by
  have inKeys := (List.forall₂_and_left keys slots).mpr ⟨fun key mem => mem, readBy⟩
  have flipped : List.Forall₂ (fun slot key => key ∈ keys ∧ key.ReadBy view slot) slots keys :=
    List.Forall₂.flip inKeys
  exact exists_of_forall₂_of_mem flipped mem

theorem exists_sameValues {as : List α}
    (each : ∀ slot ∈ slots, ∀ a, Settles entries slot a →
      ∃ a', Settles entries' slot a' ∧ view slot.key a = view slot.key a')
    (settles : List.Forall₂ (Settles entries) slots as) :
    ∃ as', List.Forall₂ (Settles entries') slots as' ∧ SameValues view slots as as' := by
  induction settles with
  | nil => exact ⟨[], .nil, .nil⟩
  | @cons slot a slots as first behind ih =>
      obtain ⟨a', first', same⟩ := each slot List.mem_cons_self a first
      obtain ⟨as', behind', others⟩ := ih fun slot mem => each slot (List.mem_cons_of_mem _ mem)
      exact ⟨a' :: as', .cons first' behind', .cons same others⟩

theorem isLocal_of_inOrder (readBy : List.Forall₂ (Key.ReadBy view) keys slots)
    (inOrder : InOrder keys values values') : ∀ p ∈ slots.zip values, Local p.1.read p.2 := by
  induction inOrder generalizing slots with
  | nil => simp
  | cons alike behind ih =>
      cases readBy with
      | cons first others =>
          simp only [List.zip_cons_cons, List.forall_mem_cons]
          exact ⟨(first.follows _ _ alike).isLocal, ih others⟩
  | beyond =>
      cases readBy
      simp

theorem Fills.exists_fills {as : List α} (readBy : List.Forall₂ (Key.ReadBy view) keys slots)
    (inOrder : InOrder keys values values') (fills : Fills slots values as) :
    ∃ as', Fills slots values' as' ∧ SameValues view slots as as' := by
  induction readBy generalizing values values' as with
  | nil =>
      cases fills
      cases inOrder
      exact ⟨[], .nil, .nil⟩
  | cons first others ih =>
      cases inOrder with
      | nil =>
          cases fills with
          | default default behind =>
              obtain ⟨as', fills', same⟩ := ih .nil behind
              exact ⟨_, .default default fills', .cons rfl same⟩
      | cons alike later =>
          cases fills with
          | item takes behind =>
              obtain ⟨a', takes', equal⟩ := (first.follows _ _ alike).exists_taken _ takes
              obtain ⟨as', fills', same⟩ := ih later behind
              exact ⟨a' :: as', .item takes' fills', .cons equal same⟩

theorem record_ne_ok {rest : List Char} (name : String) (others : OpenOtherwise ['[', '\x7b'] v v')
    (spacing : Spacing gap) {as : List α × List Char} :
    record name slots (gap ++ (v ++ rest)) ≠ .ok as := by
  intro accepted
  obtain ⟨c, behind, rfl, solid, _⟩ := exists_start others.1
  have noList := (others.2.2 '[' (by simp)).1
  have noObject := (others.2.2 '\x7b' (by simp)).1
  rw [record, List.cons_append, skipSpace_spacing spacing solid] at accepted
  split at accepted
  · contradiction
  · simp_all
  · simp_all
  · exact unfit_ne_ok accepted

/-- Two spellings of a record are read alike. -/
theorem follows_record (name : String) (readBy : List.Forall₂ (Key.ReadBy view) keys slots)
    (distinct : (slots.map Slot.key).Nodup) (alike : RecordAlike keys v v') :
    Follows (record name slots) (SameValues view slots) v v' := by
  cases alike with
  | others others =>
      exact follows_of_rejected fun _ _ _ spacing => record_ne_ok name others spacing
  | lists list list' inOrder =>
      have isLocal := isLocal_of_inOrder readBy inOrder
      refine ⟨fun gap rest as rest' spacing accepted => ?_, fun as takes => ?_⟩
      · obtain ⟨fills, same⟩ := fills_of_record list isLocal spacing accepted
        exact ⟨takes_positional name list fills, same⟩
      · obtain ⟨fills, _⟩ := fills_of_record list isLocal spacing_nil takes.accepted
        obtain ⟨as', fills', same⟩ := fills.exists_fills readBy inOrder
        exact ⟨as', takes_positional name list' fills', same⟩
  | @objects entries entries' object object' once once' members =>
      have onceIn : ∀ slot ∈ slots, (entries.map Prod.fst).count slot.key ≤ 1 ∧
          (entries'.map Prod.fst).count slot.key ≤ 1 := by
        intro slot mem
        obtain ⟨key, keyMem, readBy⟩ := exists_key readBy mem
        rw [readBy.name]
        exact ⟨once key keyMem, once' key keyMem⟩
      -- As a known key stands once, any member with it is the one that `members` speaks of.
      have isLocal : ∀ slot ∈ slots, ∀ v, (slot.key, v) ∈ entries → Local slot.read v := by
        intro slot mem v there
        obtain ⟨key, keyMem, readBy⟩ := exists_key readBy mem
        refine readBy.isLocal (members key keyMem) ?_
        rw [← readBy.name]
        exact lookup_eq_some_of_mem there (onceIn slot mem).1
      refine ⟨fun gap rest as rest' spacing accepted => ?_, fun as takes => ?_⟩
      · obtain ⟨settles, same⟩ := settles_of_record object distinct isLocal spacing accepted
        have once := fun slot mem => (onceIn slot mem).1
        exact ⟨takes_object name object distinct once settles, same⟩
      · obtain ⟨settles, _⟩ :=
          settles_of_record object distinct isLocal spacing_nil takes.accepted
        obtain ⟨as', settles', same⟩ : ∃ as', List.Forall₂ (Settles entries') slots as' ∧
            SameValues view slots as as' := by
          refine exists_sameValues (fun slot mem a settles => ?_) settles
          obtain ⟨key, keyMem, readBy⟩ := exists_key readBy mem
          exact readBy.exists_settles (members key keyMem) settles
        exact ⟨as',
          takes_object name object' distinct (fun slot mem => (onceIn slot mem).2) settles', same⟩

/-! ## Whole texts -/

/-- Whether a text holds one value between white space. -/
def Holds (s : String) (v : List Char) : Prop :=
  ∃ before after, Spacing before ∧ Spacing after ∧ s.toList = before ++ (v ++ after)

theorem readWhole_eq_ok_iff {a : α} :
    readWhole scan s = .ok a ↔ ∃ rest, scan s.toList = .ok (a, rest) ∧ skipSpace rest = [] := by
  unfold readWhole
  cases read : scan s.toList with
  | error stopped => simp [bind, Except.bind]
  | ok result =>
      obtain ⟨b, rest⟩ := result
      cases behind : skipSpace rest with
      | nil => simp [bind, Except.bind, behind]
      | cons c others => simp [bind, Except.bind, behind, stopAt]

/-- A text is read for what the other text holds alike. -/
theorem readWhole_of_follows {a : α} (holds : Holds s v) (holds' : Holds s' v')
    (follows : Follows scan Eq v v') (read : readWhole scan s = .ok a) :
    readWhole scan s' = .ok a := by
  obtain ⟨before, after, spacing, _, chars⟩ := holds
  obtain ⟨before', after', spacing', spacingBehind', chars'⟩ := holds'
  obtain ⟨rest, accepted, _⟩ := readWhole_eq_ok_iff.mp read
  rw [chars] at accepted
  obtain ⟨takes, _⟩ := follows.isLocal before after a rest spacing accepted
  obtain ⟨_, takes', rfl⟩ := follows.exists_taken a takes
  refine readWhole_eq_ok_iff.mpr ⟨after', ?_, ?_⟩
  · rw [chars']
    exact takes' before' after' spacing'
  · have passed := skipSpace_append spacingBehind' []
    rwa [List.append_nil] at passed

end ModelMigration.Json
