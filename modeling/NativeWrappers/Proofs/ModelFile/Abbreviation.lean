import NativeWrappers.ModelFile.Encoding
import NativeWrappers.ModelFile.Reading
import NativeWrappers.Proofs.Traversal
/-!
# Abbreviated encodings

An encoded record has all its members. Most of them can be left out when they hold what the record
would say without them, and an abbreviation of an encoding leaves out any of those, at any depth. A
value is restored if it comes back from every abbreviation of its encoding.

A record is restored if its members are: a member that is kept decodes to the value it encodes, and
a member that is left out was the encoding of the value that decoding falls back to.
-/

namespace NativeWrappers

namespace ModelFile

/-! ## Abbreviations -/

/-- The members that a record can do without, with the values that they have when left out. -/
def RecordKind.defaults : RecordKind → List (String × Json)
  | model => [("declarations", .array [])]
  | declaration =>
    [("visibility", Visibility.public.toJson),
      ("supertypes", .array []),
      ("members", .array []),
      ("properties", .array []),
      ("annotations", Markers.toJson {})]
  | method =>
    [("params", .array []),
      ("return_type", .null),
      ("suspend", .boolean false),
      ("visibility", Visibility.public.toJson)]
  | parameter => []
  | property => [("visibility", Visibility.public.toJson), ("mutable", .boolean false)]
  | type => [("args", .array []), ("nullable", .boolean false)]
  | markers =>
    [("native_interface", .null),
      ("native_class", .null),
      ("exported_scope_provider", .boolean false)]
  | interfaceMarker => [("name", .null)]
  | classMarker => [("name", .null), ("launch_on_scope", .null)]

/-- A record can do without exactly those members that its schema does not require. -/
theorem RecordKind.keys_defaults (kind : RecordKind) :
    kind.defaults.map (·.1) = (kind.fields.filter (·.presence != .required)).map (·.key) := by
  cases kind <;> rfl

theorem RecordKind.lookup_defaults (kind : RecordKind) :
    ∀ member ∈ kind.defaults, kind.defaults.lookup member.1 = some member.2 := by
  cases kind <;> simp [defaults, List.lookup_cons]

theorem RecordKind.nodup_keys (kind : RecordKind) : (kind.fields.map (·.key)).Nodup := by
  cases kind <;> decide

mutual

/-- The second value is the first without some members that hold their defaults. -/
inductive Abbreviates : Json.Shape RecordKind → Json → Json → Prop where
  | same (shape : Json.Shape RecordKind) (json : Json) : Abbreviates shape json json
  | list {element : Json.Shape RecordKind} {elements shortElements : List Json}
      (each : AbbreviatesEach element elements shortElements) :
      Abbreviates (.list element) (.array elements) (.array shortElements)
  | record {kind : RecordKind} {members shortMembers : List (String × Json)}
      (shortened : AbbreviatesMembers kind members shortMembers) :
      Abbreviates (.record kind) (.object members) (.object shortMembers)

/-- The elements of an array are abbreviated, one by one. -/
inductive AbbreviatesEach : Json.Shape RecordKind → List Json → List Json → Prop where
  | nil (element : Json.Shape RecordKind) : AbbreviatesEach element [] []
  | cons {element : Json.Shape RecordKind} {json short : Json} {rest shortRest : List Json}
      (head : Abbreviates element json short) (tail : AbbreviatesEach element rest shortRest) :
      AbbreviatesEach element (json :: rest) (short :: shortRest)

/-- Some of the members of a record are left out, all of them with their defaults, and the others
are abbreviated. -/
inductive AbbreviatesMembers : RecordKind → List (String × Json) → List (String × Json) → Prop where
  | nil (kind : RecordKind) : AbbreviatesMembers kind [] []
  | kept {kind : RecordKind} {key : String} {field : Json.Field RecordKind} {json short : Json}
      {members shortMembers : List (String × Json)}
      (found : kind.fields.find? (·.key == key) = some field)
      (value : Abbreviates field.shape json short)
      (rest : AbbreviatesMembers kind members shortMembers) :
      AbbreviatesMembers kind ((key, json) :: members) ((key, short) :: shortMembers)
  | left {kind : RecordKind} {key : String} {json : Json}
      {members shortMembers : List (String × Json)} (default : (key, json) ∈ kind.defaults)
      (rest : AbbreviatesMembers kind members shortMembers) :
      AbbreviatesMembers kind ((key, json) :: members) shortMembers

end

namespace AbbreviatesMembers

variable {kind : RecordKind} {members shortMembers : List (String × Json)}

theorem refl (listed : members.map (·.1) ⊆ kind.fields.map (·.key)) :
    AbbreviatesMembers kind members members := by
  induction members with
  | nil => exact .nil kind
  | cons member rest ih =>
      rw [List.map_cons, List.cons_subset] at listed
      have present : (kind.fields.find? (·.key == member.1)).isSome := by
        rcases List.mem_map.mp listed.1 with ⟨field, fieldListed, keyed⟩
        rw [List.find?_isSome]
        exact ⟨field, fieldListed, beq_iff_eq.mpr keyed⟩
      rcases Option.isSome_iff_exists.mp present with ⟨field, found⟩
      exact .kept found (.same _ _) (ih listed.2)

theorem keys_sublist : ∀ {members shortMembers : List (String × Json)},
    AbbreviatesMembers kind members shortMembers →
      (shortMembers.map (·.1)).Sublist (members.map (·.1))
  | _, _, .nil _ => .refl _
  | _, _, .kept _ _ rest => rest.keys_sublist.cons_cons _
  | _, _, .left _ rest => rest.keys_sublist.cons _

/-- A member of an abbreviated record is abbreviated or left out, and then it was a default. -/
theorem lookup_cases : ∀ {members shortMembers : List (String × Json)},
    AbbreviatesMembers kind members shortMembers → (members.map (·.1)).Nodup →
      ∀ {key : String} {field : Json.Field RecordKind} {json : Json},
        kind.fields.find? (·.key == key) = some field → members.lookup key = some json →
          (∃ short, shortMembers.lookup key = some short ∧ Abbreviates field.shape json short) ∨
            shortMembers.lookup key = none ∧ (key, json) ∈ kind.defaults
  | _, _, .nil _, _, _, _, _, _, there => nomatch there
  | _, _, .kept found value rest, distinct, _, _, _, wanted, there => by
      rw [List.map_cons, List.nodup_cons] at distinct
      rw [List.lookup_cons] at there ⊢
      split at there
      · next same =>
          rw [beq_iff_eq.mp same, found] at wanted
          cases wanted
          cases there
          exact Or.inl ⟨_, rfl, value⟩
      · exact rest.lookup_cases distinct.2 wanted there
  | _, _, @left _ other _ _ shortMembers default rest, distinct, key, _, _, wanted, there => by
      rw [List.map_cons, List.nodup_cons] at distinct
      rw [List.lookup_cons] at there
      split at there
      · next same =>
          cases there
          have absent : shortMembers.lookup key = none := by
            rw [List.lookup_eq_none_iff]
            intro member inShort
            have inMembers := rest.keys_sublist.subset (List.mem_map_of_mem inShort)
            rw [beq_iff_eq.mp same, bne_iff_ne]
            exact (ne_of_mem_of_not_mem inMembers distinct.1).symm
          exact Or.inr ⟨absent, beq_iff_eq.mp same ▸ default⟩
      · exact rest.lookup_cases distinct.2 wanted there

end AbbreviatesMembers

theorem Abbreviates.exists_members {kind : RecordKind} {members : List (String × Json)}
    {short : Json} (abbreviates : Abbreviates (.record kind) (.object members) short)
    (listed : members.map (·.1) = kind.fields.map (·.key)) :
    ∃ shortMembers, short = .object shortMembers ∧
      AbbreviatesMembers kind members shortMembers := by
  cases abbreviates with
  | same => exact ⟨members, rfl, .refl (listed ▸ List.Subset.refl _)⟩
  | record shortened => exact ⟨_, rfl, shortened⟩

/-- The value comes back from each abbreviation of its encoding. -/
def Restores {α : Type} (shape : Json.Shape RecordKind) (encode : α → Json)
    (decode : Json → Except Json.Fault α) (value : α) : Prop :=
  ∀ short, Abbreviates shape (encode value) short → decode short = .ok value

/-- The value comes from some JSON. -/
def IsDecoded {α : Type} (decode : Json → Except Json.Fault α) (value : α) : Prop :=
  ∃ json, decode json = .ok value

/-! ## Values of each shape -/

section Shapes

variable {α : Type} {shape : Json.Shape RecordKind} {encode : α → Json}
  {decode : Json → Except Json.Fault α} {value : α}

theorem Abbreviates.ne_null {json short : Json} (abbreviates : Abbreviates shape json short)
    (present : json ≠ .null) : short ≠ .null := by
  cases abbreviates with
  | same => exact present
  | list => exact nofun
  | record => exact nofun

theorem asNullable_of_ne_null {json : Json} (present : json ≠ .null) :
    Json.asNullable decode json = some <$> decode json := by
  unfold Json.asNullable
  split
  · contradiction
  · rfl

theorem Restores.mapM {values : List α}
    (restores : ∀ value ∈ values, Restores shape encode decode value) {shorts : List Json}
    (each : AbbreviatesEach shape (values.map encode) shorts) :
    shorts.mapM decode = .ok values := by
  induction values generalizing shorts with
  | nil =>
      cases each
      rfl
  | cons value rest ih =>
      rw [List.forall_mem_cons] at restores
      rcases each with _ | ⟨head, tail⟩
      rw [List.mapM_cons, restores.1 _ head, ih restores.2 tail]
      rfl

theorem Restores.list {values : List α}
    (restores : ∀ value ∈ values, Restores shape encode decode value) :
    Restores (.list shape) (fun values => .array (values.map encode)) (Json.asList decode)
      values := by
  intro short abbreviates
  cases abbreviates with
  | same =>
      apply Json.asList_map
      intro value member
      exact restores value member _ (.same _ _)
  | list each => exact Restores.mapM restores each

theorem Restores.nullable {value? : Option α}
    (restores : ∀ value ∈ value?, Restores shape encode decode value)
    (present : ∀ value, encode value ≠ .null) :
    Restores shape (Json.ofOption encode) (Json.asNullable decode) value? := by
  intro short abbreviates
  cases value? with
  | none =>
      cases abbreviates
      rfl
  | some value =>
      rw [asNullable_of_ne_null (abbreviates.ne_null (present value)),
        restores value rfl short abbreviates]
      rfl

theorem restores_text (text : String) : Restores .text Json.string Json.asText text := by
  intro short abbreviates
  cases abbreviates
  rfl

theorem restores_flag (flag : Bool) : Restores .flag Json.boolean Json.asFlag flag := by
  intro short abbreviates
  cases abbreviates
  rfl

/-- A choice comes back if each of its words does. -/
theorem restores_choice {words : List String} {word : α → String} {ofWord? : String → Option α}
    {value : α} (readBack : ofWord? (word value) = some value) :
    Restores (.choice words) (.string ∘ word) (Json.asChoice ofWord? words) value := by
  intro short abbreviates
  cases abbreviates
  have asText : Json.asText ((.string ∘ word) value) = .ok (word value) := rfl
  rw [Json.asChoice, asText]
  simp only [bind, Except.bind, readBack]
  rfl

theorem restores_visibility (visibility : Visibility) :
    Restores RecordKind.visibility Visibility.toJson Visibility.ofJson visibility :=
  restores_choice visibility.ofKeyword?_keyword

theorem restores_kind (kind : Kind) :
    Restores (.choice (Kind.all.map Kind.keyword)) Kind.toJson Kind.ofJson kind :=
  restores_choice kind.ofKeyword?_keyword

end Shapes

/-! ## Members of records -/

section Members

variable {α : Type} {kind : RecordKind} {members shortMembers : List (String × Json)}
  {key : String} {shape : Json.Shape RecordKind} {presence : Json.Presence} {encode : α → Json}
  {decode : Json → Except Json.Fault α} {value fallback : α}

theorem AbbreviatesMembers.required (shortened : AbbreviatesMembers kind members shortMembers)
    (all : members.map (·.1) = kind.fields.map (·.key))
    (field : kind.fields.find? (·.key == key) = some ⟨key, .required, shape⟩)
    (there : members.lookup key = some (encode value))
    (restores : Restores shape encode decode value) :
    Json.required shortMembers key decode = .ok value := by
  have distinct : (members.map (·.1)).Nodup := all ▸ kind.nodup_keys
  rcases shortened.lookup_cases distinct field there with
    ⟨short, found, abbreviates⟩ | ⟨_, default⟩
  · rw [Json.required, found]
    exact restores short abbreviates
  · have notRequired := List.mem_map_of_mem (f := (·.1)) default
    rw [kind.keys_defaults] at notRequired
    rcases List.mem_map.mp notRequired with ⟨other, fieldMember, keyed⟩
    rw [List.mem_filter] at fieldMember
    have sameField := (find?_key_eq_some_iff kind.nodup_keys).mpr ⟨fieldMember.1, keyed⟩
    rw [field] at sameField
    cases sameField
    exact absurd fieldMember.2 (by simp)

theorem AbbreviatesMembers.optional (shortened : AbbreviatesMembers kind members shortMembers)
    (all : members.map (·.1) = kind.fields.map (·.key))
    (field : kind.fields.find? (·.key == key) = some ⟨key, presence, shape⟩)
    (there : members.lookup key = some (encode value)) {json : Json}
    (default : kind.defaults.lookup key = some json) (falls : decode json = .ok fallback)
    (restores : Restores shape encode decode value) :
    Json.optional shortMembers key decode fallback = .ok value := by
  have distinct : (members.map (·.1)).Nodup := all ▸ kind.nodup_keys
  rcases shortened.lookup_cases distinct field there with
    ⟨short, found, abbreviates⟩ | ⟨absent, left⟩
  · rw [Json.optional, found]
    exact restores short abbreviates
  · -- what was left out is the default, which decodes to the value as well as to the fallback
    have isDefault : encode value = json :=
      Option.some.inj ((kind.lookup_defaults _ left).symm.trans default)
    rw [Json.optional, absent, ← restores _ (.same _ _), isDefault, falls]

theorem isDecoded_of_required (decoded : Json.required members key decode = .ok value) :
    IsDecoded decode value := by
  rw [Json.required] at decoded
  split at decoded
  · exact ⟨_, decoded⟩
  · cases decoded

theorem isDecoded_of_optional (falls : IsDecoded decode fallback)
    (decoded : Json.optional members key decode fallback = .ok value) : IsDecoded decode value := by
  rw [Json.optional] at decoded
  split at decoded
  · exact ⟨_, decoded⟩
  · cases decoded
    exact falls

theorem isDecoded_of_mem_list {values : List α}
    (decoded : Json.optional members key (Json.asList decode) [] = .ok values)
    (member : value ∈ values) : IsDecoded decode value := by
  have empty : IsDecoded (Json.asList decode) [] := ⟨.array [], rfl⟩
  rcases isDecoded_of_optional empty decoded with ⟨json, decoded⟩
  cases json with
  | array elements =>
      rcases exists_input_of_mapM_eq_ok decoded member with ⟨element, _, elementDecoded⟩
      exact ⟨element, elementDecoded⟩
  | _ => cases decoded

theorem isDecoded_of_mem_nullable {value? : Option α}
    (decoded : Json.optional members key (Json.asNullable decode) none = .ok value?)
    (member : value ∈ value?) : IsDecoded decode value := by
  have absent : IsDecoded (Json.asNullable decode) none := ⟨.null, rfl⟩
  rcases isDecoded_of_optional absent decoded with ⟨json, decoded⟩
  cases member
  by_cases null : json = .null
  · rw [null] at decoded
    cases decoded
  · rw [asNullable_of_ne_null null] at decoded
    rcases elementDecoded : decode json with fault | other
    · rw [elementDecoded] at decoded
      cases decoded
    · rw [elementDecoded] at decoded
      cases decoded
      exact ⟨json, elementDecoded⟩

end Members

end ModelFile

end NativeWrappers
