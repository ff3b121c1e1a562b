import ModelMigration.Fingerprint
import ModelMigration.Proofs.Document.ReadBack
import ModelMigration.Proofs.Json.Alike

/-!
# Reformatted models

A model is what its JSON text says, not how it says it. White space, escapes, the order of members,
members with other keys and members of a default make no difference to the model that is loaded, and
so none to the fingerprints of its migrations.
-/

namespace ModelMigration

open Json

/-! ## Fields -/

namespace Field

/-- The keys of the type of a field. -/
def typeKeys : List Key := [⟨"db", TextAlike, fun _ => False⟩]

/-- The keys of a field. No index is written in two ways. -/
def keys : List Key := [
  ⟨"name", TextAlike, fun _ => False⟩,
  ⟨"type", RecordAlike typeKeys, fun _ => False⟩,
  ⟨"modifiers", TextAlike, fun v => TextOf v ""⟩,
  ⟨"index", TextAlike, fun v => TextOf v "none" ∨ TextOf v ""⟩,
  ⟨"foreignKey", TextAlike, fun v => TextOf v ""⟩]

/-- What a field makes of the text under one of its keys. -/
def view (key s : String) : String := if key = "index" then (IndexKind.ofText s).text else s

variable {v v' : List Char}

theorem readBy_text {name : String} {view : String → String → String} {default? : Option String}
    {isDefault : List Char → Prop} (default : ∀ v, isDefault v → ∃ d s, default? = some d ∧
      TextOf v s ∧ view name s = view name d) :
    Key.ReadBy view ⟨name, TextAlike, isDefault⟩ ⟨name, text, default?⟩ where
  name := rfl
  follows v v' alike := (follows_text alike).imp fun s s' same => same ▸ rfl
  default v isDefault := by
    obtain ⟨d, s, isSome, isText, same⟩ := default v isDefault
    exact ⟨d, s, isSome, takes_text isText, same⟩

theorem follows_typeScanner (alike : RecordAlike typeKeys v v') : Follows typeScanner Eq v v' := by
  have readBy : List.Forall₂ (Key.ReadBy fun _ s => s) typeKeys [⟨"db", text, none⟩] :=
    .cons (readBy_text nofun) .nil
  refine (follows_record "struct FieldType" readBy (by simp) alike).map
    (fun values => values.getD 0 "") fun as as' same => ?_
  cases same with
  | cons same _ => exact same

theorem readBy_keys : List.Forall₂ (Key.ReadBy view) keys slots := by
  have type : Key.ReadBy view ⟨"type", RecordAlike typeKeys, fun _ => False⟩
      ⟨"type", typeScanner, none⟩ :=
    ⟨rfl, fun v v' alike => (follows_typeScanner alike).imp fun s s' same => same ▸ rfl, nofun⟩
  have index : ∀ v, TextOf v "none" ∨ TextOf v "" → ∃ d s, some "none" = some d ∧
      TextOf v s ∧ view "index" s = view "index" d := by
    rintro v (isNone | isEmpty)
    · exact ⟨"none", "none", rfl, isNone, rfl⟩
    · exact ⟨"none", "", rfl, isEmpty, by decide⟩
  have empty : ∀ name v, TextOf v "" → ∃ d s, some "" = some d ∧ TextOf v s ∧
      view name s = view name d :=
    fun _ _ isEmpty => ⟨"", "", rfl, isEmpty, rfl⟩
  exact .cons (readBy_text nofun) <| .cons type <| .cons (readBy_text (empty _)) <|
    .cons (readBy_text index) <| .cons (readBy_text (empty _)) .nil

theorem ofValues_eq_of_sameValues {as as' : List String} (same : SameValues view slots as as') :
    ofValues as = ofValues as' := by
  obtain _ | ⟨name, _ | ⟨type, _ | ⟨modifiers, _ | ⟨index, _ | ⟨foreignKey, _⟩⟩⟩⟩⟩ := same
  simp only [view, String.reduceEq, if_false, if_true] at name type modifiers index foreignKey
  have kind := congrArg IndexKind.ofText index
  rw [IndexKind.ofText_text, IndexKind.ofText_text] at kind
  simp only [ofValues, List.getD_cons_zero, List.getD_cons_succ, name, type, modifiers, kind,
    foreignKey]

theorem follows_scanner (alike : RecordAlike keys v v') : Follows scanner Eq v v' :=
  (follows_record "struct FieldDescriptor" readBy_keys (by decide) alike).map ofValues
    fun _ _ => ofValues_eq_of_sameValues

theorem keys_symmetric : ∀ key ∈ keys, key.Symmetric := by
  have text : ∀ v v', TextAlike v v' → TextAlike v' v := fun v v' alike => alike.symm
  have type : ∀ v v', RecordAlike typeKeys v v' → RecordAlike typeKeys v' v := by
    refine fun v v' alike => alike.symm ?_
    simp only [typeKeys, List.forall_mem_singleton]
    exact text
  simp only [keys, List.forall_mem_cons]
  exact ⟨text, type, text, text, text, by simp⟩

end Field

/-! ## Models -/

namespace Model

/-- The keys of a model. -/
def keys : List Key := [⟨"fields", ListAlike (RecordAlike Field.keys), fun v => ListOf v []⟩]

/-- Whether two JSON texts hold one value each, and these differ in nothing but in how a model is
written: in white space, in the spelling of texts and keys, and in every record in the order of its
members, in members with other keys and in members of a default. -/
def TextsAlike (s s' : String) : Prop :=
  ∃ v v', Holds s v ∧ Holds s' v' ∧ RecordAlike keys v v'

variable {s s' : String} {v v' : List Char}

theorem follows_scanner (alike : RecordAlike keys v v') : Follows scanner Eq v v' := by
  have fields : Key.ReadBy (fun _ fields => fields)
      ⟨"fields", ListAlike (RecordAlike Field.keys), fun v => ListOf v []⟩
      ⟨"fields", list Field.scanner, some []⟩ :=
    ⟨rfl, fun v v' alike => follows_list (fun v v' => Field.follows_scanner) alike,
      fun v isEmpty => ⟨[], [], rfl, takes_list isEmpty .nil, rfl⟩⟩
  refine (follows_record "struct ModelData" (.cons fields .nil) (by simp) alike).map
    (fun values => Model.mk (values.getD 0 [])) fun as as' same => ?_
  cases same with
  | cons same _ => simp [same]

theorem keys_symmetric : ∀ key ∈ keys, key.Symmetric := by
  simp only [keys, List.forall_mem_singleton]
  exact fun v v' lists => lists.symm fun v v' record => record.symm Field.keys_symmetric

theorem TextsAlike.symm (alike : TextsAlike s s') : TextsAlike s' s := by
  obtain ⟨v, v', holds, holds', alike⟩ := alike
  exact ⟨v', v, holds', holds, alike.symm keys_symmetric⟩

theorem ofJson_eq_ok_iff {m : Model} : ofJson s = .ok m ↔ readWhole scanner s = .ok m := by
  unfold ofJson
  cases readWhole scanner s <;> simp

theorem load_of_textsAlike {m : Model} (alike : TextsAlike s s') (loaded : load s = .ok m) :
    load s' = .ok m := by
  obtain ⟨v, v', holds, holds', alike⟩ := alike
  obtain ⟨read, valid⟩ := load_eq_ok_iff.mp loaded
  refine load_eq_ok_iff.mpr ⟨?_, valid⟩
  exact ofJson_eq_ok_iff.mpr
    (readWhole_of_follows holds holds' (follows_scanner alike) (ofJson_eq_ok_iff.mp read))

/--
Reformatting a model changes nothing. Of two JSON texts that differ only in white space, in escapes,
in the order of members, in members with other keys and in members of a default, one is accepted
exactly if the other is, for the same model; so the migrations made from them have the same
fingerprints.
-/
theorem reformatted_texts_load_alike (alike : TextsAlike s s') :
    (∀ m, load s = .ok m ↔ load s' = .ok m) ∧
      ∀ m m', load s = .ok m → load s' = .ok m' → ∀ name config stub extensions,
        fingerprint name m config stub extensions = fingerprint name m' config stub extensions := by
  have same : ∀ m, load s = .ok m ↔ load s' = .ok m :=
    fun m => ⟨load_of_textsAlike alike, load_of_textsAlike alike.symm⟩
  refine ⟨same, fun m m' loaded loaded' name config stub extensions => ?_⟩
  obtain rfl : m = m' := by
    have both := loaded'.symm.trans ((same m).mp loaded)
    exact (Except.ok.inj both).symm
  rfl

/-- A model is loaded alike with its members in another order, one of another key, an escape in a
key, and without the index that is none. -/
theorem reformatted_texts_load_alike_escape :
    let s :=
      "\x7b\"fields\":[\x7b\"name\":\"a\",\"type\":\x7b\"db\":\"b\"\x7d,\"index\":\"\"\x7d]\x7d"
    let s' := " \x7b\"x\":[1e999,[]],\"fields\":" ++
      "[\x7b\"type\":\x7b\"db\":\"b\"\x7d,\"n\\u0061me\":\"a\"\x7d]\x7d\n"
    let m : Model := ⟨[.plain "a" "b"]⟩
    TextsAlike s s' ∧ load s = .ok m ∧ load s' = .ok m := by
  intro s s' m
  have key : ∀ key : String, key.toList.all (fun c => Stands c) = true →
      Spells key.toList key.toList :=
    fun key stand => spells_self (by simpa using stand)
  have nameKey :
      Spells ('n' :: '\\' :: 'u' :: (['0', '0', '6', '1'] ++ ['m', 'e'])) "name".toList := by
    have unit : HexUnit ['0', '0', '6', '1'] (((0 * 16 + 0) * 16 + 6) * 16 + 1) :=
      .digits rfl rfl rfl rfl
    have behind : Spells ['m', 'e'] ['m', 'e'] := key "me" (by decide)
    exact .plain (by decide) (.unit unit rfl rfl behind)
  have text : ∀ t : String, t.toList.all (fun c => Stands c) = true →
      TextOf ('"' :: (t.toList ++ ['"'])) t :=
    fun t stand => ⟨t.toList, key t stand, rfl⟩
  have a := text "a" (by decide)
  have b := text "b" (by decide)
  have empty := text "" (by decide)
  have isType : ObjectOf _ [("db", _)] :=
    ⟨_, _, .compactMember (key "db" (by decide)).quotable b.formed (.closeObject spacing_nil), rfl,
      .cons ⟨key "db" (by decide), rfl⟩ .nil⟩
  have typeAlike : RecordAlike Field.typeKeys _ _ :=
    .objects isType isType (by decide) (by decide) <| by
      simp only [Field.typeKeys, List.forall_mem_singleton]
      exact .values rfl rfl (b.textAlike b)
  have isField : ObjectOf _ [("name", _), ("type", _), ("index", _)] :=
    ⟨_, _, .compactMember (key "name" (by decide)).quotable a.formed <|
        .compactMember (key "type" (by decide)).quotable isType.formed <|
        .compactMember (key "index" (by decide)).quotable empty.formed (.closeObject spacing_nil),
      rfl, .cons ⟨key "name" (by decide), rfl⟩ <| .cons ⟨key "type" (by decide), rfl⟩ <|
        .cons ⟨key "index" (by decide), rfl⟩ .nil⟩
  have isField' : ObjectOf _ [("type", _), ("name", _)] :=
    ⟨_, _, .compactMember (key "type" (by decide)).quotable isType.formed <|
        .compactMember nameKey.quotable a.formed (.closeObject spacing_nil),
      rfl, .cons ⟨key "type" (by decide), rfl⟩ <| .cons ⟨nameKey, rfl⟩ .nil⟩
  have fieldAlike : RecordAlike Field.keys _ _ :=
    .objects isField isField' (by decide) (by decide) <| by
      simp only [Field.keys, List.forall_mem_cons]
      exact ⟨.values rfl rfl (a.textAlike a), .values rfl rfl typeAlike,
        .defaults (Key.defaulted_none _) (Key.defaulted_none _),
        .defaults (Key.defaulted_some (.inr empty)) (Key.defaulted_none _),
        .defaults (Key.defaulted_none _) (Key.defaulted_none _), by simp⟩
  have isList : ListOf _ [_] := ⟨_, .compactItem isField.formed (.closeList spacing_nil), rfl⟩
  have isList' : ListOf _ [_] := ⟨_, .compactItem isField'.formed (.closeList spacing_nil), rfl⟩
  have unknown : Formed .value "[1e999,[]]".toList := by
    have one : Digits ['1'] := by simp [Digits]
    have nines : Digits ['9', '9', '9'] := by simp [Digits]
    have huge : Numeral "1e999".toList :=
      @Numeral.parts _ ['1'] _ _ (.inl rfl) (.digits (by decide) one) .none
        (.digits (.inl rfl) (.inl rfl) nines)
    exact .list (.compactItem (.number huge)
      (.compactItem (.list (.closeList spacing_nil)) (.closeList spacing_nil)))
  have isModel : ObjectOf _ [("fields", _)] :=
    ⟨_, _, .compactMember (key "fields" (by decide)).quotable isList.formed
      (.closeObject spacing_nil), rfl, .cons ⟨key "fields" (by decide), rfl⟩ .nil⟩
  have isModel' : ObjectOf _ [("x", _), ("fields", _)] :=
    ⟨_, _, .compactMember (key "x" (by decide)).quotable unknown <|
        .compactMember (key "fields" (by decide)).quotable isList'.formed
          (.closeObject spacing_nil),
      rfl, .cons ⟨key "x" (by decide), rfl⟩ <| .cons ⟨key "fields" (by decide), rfl⟩ .nil⟩
  have alike : TextsAlike s s' := by
    refine ⟨_, _, ⟨[], [], spacing_nil, spacing_nil, by decide +kernel⟩,
      ⟨[' '], ['\n'], spacing_blank, by simp [Spacing, isSpace], by decide +kernel⟩,
      .objects isModel isModel' (by decide) (by decide) ?_⟩
    simp only [keys, List.forall_mem_singleton]
    exact .values rfl rfl (.lists isList isList' (.cons fieldAlike .nil))
  have loaded : load s = .ok m := by decide +kernel
  exact ⟨alike, loaded, ((reformatted_texts_load_alike alike).1 m).mp loaded⟩

end Model

end ModelMigration
