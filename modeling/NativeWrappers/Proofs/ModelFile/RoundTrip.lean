import NativeWrappers.Proofs.ModelFile.Abbreviation
import NativeWrappers.Proofs.QualifiedName
/-!
# Models that are written and read again

A model that was read from a text is decoded again from its encoding and from each abbreviation of
it. A model that was never read may fail to come back: a name is written with a dot before its
simple part and split at its last dot, so a simple part with a dot of its own is torn apart. What
is decoded has no such names. So the statements go through the records one by one, and say of each
that whatever was decoded from some JSON is restored.
-/

namespace NativeWrappers

theorem mapError_eq_ok_iff {ε ε' α : Type} {wrap : ε → ε'} {outcome : Except ε α} {value : α} :
    outcome.mapError wrap = .ok value ↔ outcome = .ok value := by
  cases outcome <;> simp [Except.mapError]

namespace ModelFile

/-! ## Names and types -/

/-- A name that was read has no dot in its simple part, so it is read again as it is written. -/
theorem restores_name {name : QualifiedName} (decoded : IsDecoded QualifiedName.ofJson name) :
    Restores .text QualifiedName.toJson QualifiedName.ofJson name := by
  rcases decoded with ⟨json, decoded⟩
  rcases read : json.asText with fault | text
  · simp [QualifiedName.ofJson, read, Functor.map, Except.map] at decoded
  · simp only [QualifiedName.ofJson, read, Functor.map, Except.map, Except.ok.injEq] at decoded
    intro short abbreviates
    cases abbreviates
    have restored : QualifiedName.parse name.dotted = name :=
      QualifiedName.parse_dotted (decoded ▸ QualifiedName.not_mem_simple_parse text)
    simp [QualifiedName.toJson, QualifiedName.ofJson, Json.asText, Functor.map, Except.map,
      restored]

theorem ofJsonList_eq (elements : List Json) :
    TypeExpr.ofJsonList elements = elements.mapM TypeExpr.ofJson := by
  induction elements with
  | nil => rfl
  | cons element rest ih => rw [TypeExpr.ofJsonList, List.mapM_cons, ih]

theorem argumentsOf_eq (members : List (String × Json)) :
    TypeExpr.argumentsOf members
      = Json.optional members "args" (Json.asList TypeExpr.ofJson) [] := by
  induction members with
  | nil => rfl
  | cons member rest ih =>
      rcases member with ⟨key, json⟩
      rw [TypeExpr.argumentsOf, Json.optional, List.lookup_cons]
      by_cases named : key = "args"
      · subst named
        rw [if_pos rfl, BEq.rfl]
        cases json with
        | array elements => exact ofJsonList_eq elements
        | _ => rfl
      · rw [if_neg named, beq_false_of_ne (Ne.symm named), ih]
        rfl

theorem toJsonList_eq (types : List TypeExpr) :
    TypeExpr.toJsonList types = types.map TypeExpr.toJson := by
  induction types with
  | nil => rfl
  | cons type rest ih => rw [TypeExpr.toJsonList, List.map_cons, ih]

theorem toJson_type_ne_null (type : TypeExpr) : type.toJson ≠ .null := by
  cases type
  simp [TypeExpr.toJson]

theorem restores_type : ∀ {type : TypeExpr}, IsDecoded TypeExpr.ofJson type →
    Restores (.record .type) TypeExpr.toJson TypeExpr.ofJson type
  | ⟨name, arguments, nullable⟩, ⟨json, decoded⟩ => by
    cases json with
    | object members =>
        simp only [TypeExpr.ofJson, argumentsOf_eq, bind_eq_ok_iff, pure_eq_ok_iff] at decoded
        rcases decoded with ⟨name, nameDecoded, arguments, argumentsDecoded, nullable, _, equal⟩
        cases equal
        have restoresArguments : ∀ argument ∈ arguments,
            Restores (.record .type) TypeExpr.toJson TypeExpr.ofJson argument :=
          fun argument member => restores_type (isDecoded_of_mem_list argumentsDecoded member)
        intro short abbreviates
        rw [TypeExpr.toJson, toJsonList_eq] at abbreviates
        rcases abbreviates.exists_members rfl with ⟨members, rfl, shortened⟩
        have nameKept : Json.required members "name" QualifiedName.ofJson = .ok name :=
          shortened.required rfl rfl rfl (restores_name (isDecoded_of_required nameDecoded))
        have argumentsKept :
            Json.optional members "args" (Json.asList TypeExpr.ofJson) [] = .ok arguments :=
          shortened.optional rfl rfl rfl rfl rfl (Restores.list restoresArguments)
        have nullableKept : Json.optional members "nullable" Json.asFlag false = .ok nullable :=
          shortened.optional rfl rfl rfl rfl rfl (restores_flag nullable)
        rw [TypeExpr.ofJson, argumentsOf_eq, nameKept, argumentsKept, nullableKept]
        rfl
    | _ => cases decoded
termination_by type => sizeOf type
decreasing_by
  have smaller := List.sizeOf_lt_of_mem member
  rw [TypeExpr.mk.sizeOf_spec]
  omega

/-! ## Records -/

theorem restores_parameter {parameter : Parameter}
    (decoded : IsDecoded Parameter.ofJson parameter) :
    Restores (.record .parameter) Parameter.toJson Parameter.ofJson parameter := by
  rcases decoded with ⟨json, decoded⟩
  simp only [Parameter.ofJson, bind_eq_ok_iff, pure_eq_ok_iff] at decoded
  rcases decoded with ⟨_, _, name, _, type, typeDecoded, rfl⟩
  intro short abbreviates
  rcases abbreviates.exists_members rfl with ⟨members, rfl, shortened⟩
  have nameKept : Json.required members "name" Json.asText = .ok name :=
    shortened.required rfl rfl rfl (restores_text name)
  have typeKept : Json.required members "ty" TypeExpr.ofJson = .ok type :=
    shortened.required rfl rfl rfl (restores_type (isDecoded_of_required typeDecoded))
  simp only [Parameter.ofJson, bind_eq_ok_iff]
  exact ⟨members, rfl, _, nameKept, _, typeKept, rfl⟩

theorem restores_method {method : Method} (decoded : IsDecoded Method.ofJson method) :
    Restores (.record .method) Method.toJson Method.ofJson method := by
  rcases decoded with ⟨json, decoded⟩
  simp only [Method.ofJson, bind_eq_ok_iff, pure_eq_ok_iff] at decoded
  rcases decoded with ⟨_, _, name, _, parameters, parametersDecoded, result?, resultDecoded,
    suspending, _, visibility, _, rfl⟩
  intro short abbreviates
  rcases abbreviates.exists_members rfl with ⟨members, rfl, shortened⟩
  have nameKept : Json.required members "name" Json.asText = .ok name :=
    shortened.required rfl rfl rfl (restores_text name)
  have parametersKept :
      Json.optional members "params" (Json.asList Parameter.ofJson) [] = .ok parameters :=
    shortened.optional rfl rfl rfl rfl rfl (.list fun _ member =>
      restores_parameter (isDecoded_of_mem_list parametersDecoded member))
  have resultKept :
      Json.optional members "return_type" (Json.asNullable TypeExpr.ofJson) none = .ok result? :=
    shortened.optional rfl rfl rfl rfl rfl (.nullable
      (fun _ member => restores_type (isDecoded_of_mem_nullable resultDecoded member))
      toJson_type_ne_null)
  have suspendingKept : Json.optional members "suspend" Json.asFlag false = .ok suspending :=
    shortened.optional rfl rfl rfl rfl rfl (restores_flag suspending)
  have visibilityKept :
      Json.optional members "visibility" Visibility.ofJson .public = .ok visibility :=
    shortened.optional rfl rfl rfl rfl rfl (restores_visibility visibility)
  simp only [Method.ofJson, bind_eq_ok_iff]
  exact ⟨members, rfl, _, nameKept, _, parametersKept, _, resultKept, _, suspendingKept, _,
    visibilityKept, rfl⟩

theorem restores_property {property : Property} (decoded : IsDecoded Property.ofJson property) :
    Restores (.record .property) Property.toJson Property.ofJson property := by
  rcases decoded with ⟨json, decoded⟩
  simp only [Property.ofJson, bind_eq_ok_iff, pure_eq_ok_iff] at decoded
  rcases decoded with ⟨_, _, name, _, type, typeDecoded, visibility, _, mutable, _, rfl⟩
  intro short abbreviates
  rcases abbreviates.exists_members rfl with ⟨members, rfl, shortened⟩
  have nameKept : Json.required members "name" Json.asText = .ok name :=
    shortened.required rfl rfl rfl (restores_text name)
  have typeKept : Json.required members "ty" TypeExpr.ofJson = .ok type :=
    shortened.required rfl rfl rfl (restores_type (isDecoded_of_required typeDecoded))
  have visibilityKept :
      Json.optional members "visibility" Visibility.ofJson .public = .ok visibility :=
    shortened.optional rfl rfl rfl rfl rfl (restores_visibility visibility)
  have mutableKept : Json.optional members "mutable" Json.asFlag false = .ok mutable :=
    shortened.optional rfl rfl rfl rfl rfl (restores_flag mutable)
  simp only [Property.ofJson, bind_eq_ok_iff]
  exact ⟨members, rfl, _, nameKept, _, typeKept, _, visibilityKept, _, mutableKept, rfl⟩

theorem restores_interfaceMarker (marker : InterfaceMarker) :
    Restores (.record .interfaceMarker) InterfaceMarker.toJson InterfaceMarker.ofJson marker := by
  intro short abbreviates
  rcases abbreviates.exists_members rfl with ⟨members, rfl, shortened⟩
  have nameKept :
      Json.optional members "name" (Json.asNullable Json.asText) none = .ok marker.name? :=
    shortened.optional rfl rfl rfl rfl rfl (.nullable (fun text _ => restores_text text) nofun)
  simp only [InterfaceMarker.ofJson, bind_eq_ok_iff]
  exact ⟨members, rfl, _, nameKept, rfl⟩

theorem restores_classMarker {marker : ClassMarker}
    (decoded : IsDecoded ClassMarker.ofJson marker) :
    Restores (.record .classMarker) ClassMarker.toJson ClassMarker.ofJson marker := by
  rcases decoded with ⟨json, decoded⟩
  simp only [ClassMarker.ofJson, bind_eq_ok_iff, pure_eq_ok_iff] at decoded
  rcases decoded with ⟨_, _, name?, _, launchOnScope?, scopeDecoded, rfl⟩
  intro short abbreviates
  rcases abbreviates.exists_members rfl with ⟨members, rfl, shortened⟩
  have nameKept : Json.optional members "name" (Json.asNullable Json.asText) none = .ok name? :=
    shortened.optional rfl rfl rfl rfl rfl (.nullable (fun text _ => restores_text text) nofun)
  have scopeKept :
      Json.optional members "launch_on_scope" (Json.asNullable QualifiedName.ofJson) none
        = .ok launchOnScope? :=
    shortened.optional rfl rfl rfl rfl rfl (.nullable
      (fun _ member => restores_name (isDecoded_of_mem_nullable scopeDecoded member)) nofun)
  simp only [ClassMarker.ofJson, bind_eq_ok_iff]
  exact ⟨members, rfl, _, nameKept, _, scopeKept, rfl⟩

theorem restores_markers {markers : Markers} (decoded : IsDecoded Markers.ofJson markers) :
    Restores (.record .markers) Markers.toJson Markers.ofJson markers := by
  rcases decoded with ⟨json, decoded⟩
  simp only [Markers.ofJson, bind_eq_ok_iff, pure_eq_ok_iff] at decoded
  rcases decoded with ⟨_, _, interface?, _, class?, classDecoded, exportedScopeProvider, _, rfl⟩
  intro short abbreviates
  rcases abbreviates.exists_members rfl with ⟨members, rfl, shortened⟩
  have interfaceKept :
      Json.optional members "native_interface" (Json.asNullable InterfaceMarker.ofJson) none
        = .ok interface? :=
    shortened.optional rfl rfl rfl rfl rfl
      (.nullable (fun marker _ => restores_interfaceMarker marker) nofun)
  have classKept :
      Json.optional members "native_class" (Json.asNullable ClassMarker.ofJson) none
        = .ok class? :=
    shortened.optional rfl rfl rfl rfl rfl (.nullable
      (fun _ member => restores_classMarker (isDecoded_of_mem_nullable classDecoded member)) nofun)
  have exportedKept :
      Json.optional members "exported_scope_provider" Json.asFlag false
        = .ok exportedScopeProvider :=
    shortened.optional rfl rfl rfl rfl rfl (restores_flag exportedScopeProvider)
  simp only [Markers.ofJson, bind_eq_ok_iff]
  exact ⟨members, rfl, _, interfaceKept, _, classKept, _, exportedKept, rfl⟩

theorem restores_declaration {declaration : Declaration}
    (decoded : IsDecoded Declaration.ofJson declaration) :
    Restores (.record .declaration) Declaration.toJson Declaration.ofJson declaration := by
  rcases decoded with ⟨json, decoded⟩
  simp only [Declaration.ofJson, bind_eq_ok_iff, pure_eq_ok_iff] at decoded
  rcases decoded with ⟨_, _, name, nameDecoded, kind, _, visibility, _, supertypes,
    supertypesDecoded, methods, methodsDecoded, properties, propertiesDecoded, markers,
    markersDecoded, rfl⟩
  have noMarkers : IsDecoded Markers.ofJson {} := ⟨.object [], rfl⟩
  intro short abbreviates
  rcases abbreviates.exists_members rfl with ⟨members, rfl, shortened⟩
  have nameKept : Json.required members "name" QualifiedName.ofJson = .ok name :=
    shortened.required rfl rfl rfl (restores_name (isDecoded_of_required nameDecoded))
  have kindKept : Json.required members "kind" Kind.ofJson = .ok kind :=
    shortened.required rfl rfl rfl (restores_kind kind)
  have visibilityKept :
      Json.optional members "visibility" Visibility.ofJson .public = .ok visibility :=
    shortened.optional rfl rfl rfl rfl rfl (restores_visibility visibility)
  have supertypesKept :
      Json.optional members "supertypes" (Json.asList QualifiedName.ofJson) [] = .ok supertypes :=
    shortened.optional rfl rfl rfl rfl rfl (.list fun _ member =>
      restores_name (isDecoded_of_mem_list supertypesDecoded member))
  have methodsKept :
      Json.optional members "members" (Json.asList Method.ofJson) [] = .ok methods :=
    shortened.optional rfl rfl rfl rfl rfl (.list fun _ member =>
      restores_method (isDecoded_of_mem_list methodsDecoded member))
  have propertiesKept :
      Json.optional members "properties" (Json.asList Property.ofJson) [] = .ok properties :=
    shortened.optional rfl rfl rfl rfl rfl (.list fun _ member =>
      restores_property (isDecoded_of_mem_list propertiesDecoded member))
  have markersKept : Json.optional members "annotations" Markers.ofJson {} = .ok markers :=
    shortened.optional rfl rfl rfl rfl rfl
      (restores_markers (isDecoded_of_optional noMarkers markersDecoded))
  simp only [Declaration.ofJson, bind_eq_ok_iff]
  exact ⟨members, rfl, _, nameKept, _, kindKept, _, visibilityKept, _, supertypesKept, _,
    methodsKept, _, propertiesKept, _, markersKept, rfl⟩

theorem restores_modelFile {model : ModelFile} (decoded : IsDecoded ofJson model) :
    Restores (.record .model) toJson ofJson model := by
  rcases decoded with ⟨json, decoded⟩
  simp only [ofJson, bind_eq_ok_iff, pure_eq_ok_iff] at decoded
  rcases decoded with ⟨_, _, declarations, declarationsDecoded, rfl⟩
  intro short abbreviates
  rcases abbreviates.exists_members rfl with ⟨members, rfl, shortened⟩
  have declarationsKept :
      Json.optional members "declarations" (Json.asList Declaration.ofJson) []
        = .ok declarations :=
    shortened.optional rfl rfl rfl rfl rfl (.list fun _ member =>
      restores_declaration (isDecoded_of_mem_list declarationsDecoded member))
  simp only [ofJson, bind_eq_ok_iff]
  exact ⟨members, rfl, _, declarationsKept, rfl⟩

/-- A model that was read from a text is decoded again from its encoding, and from every
abbreviation of its encoding. -/
theorem ofJson_toJson_of_parse {text : String} {origin : Path} {model : ModelFile}
    (parsed : parse text origin = .ok model) :
    ofJson model.toJson = .ok model ∧
      ∀ short, Abbreviates (.record .model) model.toJson short → ofJson short = .ok model := by
  have decoded : IsDecoded ofJson model := by
    rw [parse, mapError_eq_ok_iff, ofText, bind_eq_ok_iff] at parsed
    rcases parsed with ⟨json, _, decoded⟩
    exact ⟨json, mapError_eq_ok_iff.mp decoded⟩
  exact ⟨restores_modelFile decoded _ (.same _ _), restores_modelFile decoded⟩

/-- A shelf that lists its titles, some of which may be missing. -/
def shelf : ModelFile where
  declarations :=
    [{ name := ⟨"app", "Shelf"⟩, kind := .interface
       methods :=
        [{ name := "titles"
           result? := some ⟨⟨"kotlin", "List"⟩, [⟨⟨"kotlin", "String"⟩, [], true⟩], false⟩ }]
       markers := { interface? := some {} } }]

/-- A model file that leaves out whatever it can. -/
def shelfText : String :=
  "\x7b\"declarations\":[\x7b\"name\":\"app.Shelf\",\"kind\":\"interface\","
    ++ "\"members\":[\x7b\"name\":\"titles\",\"return_type\":\x7b\"name\":\"kotlin.List\","
    ++ "\"args\":[\x7b\"name\":\"kotlin.String\",\"nullable\":true\x7d]\x7d\x7d],"
    ++ "\"annotations\":\x7b\"native_interface\":\x7b\x7d\x7d\x7d]\x7d"

/-- The encoding of the shelf without the lists of supertypes and properties, and with an empty
marker. -/
def shortShelf : Json :=
  .object
    [("declarations", .array
      [.object
        [("name", .string "app.Shelf"),
          ("kind", .string "interface"),
          ("visibility", .string "public"),
          ("members", .array (shelf.declarations.flatMap (·.methods.map Method.toJson))),
          ("annotations", .object
            [("native_interface", .object []), ("exported_scope_provider", .boolean false)])]])]

theorem ofJson_toJson_shelf :
    parse shelfText ⟨"model.json"⟩ = .ok shelf ∧ ofJson shelf.toJson = .ok shelf ∧
      ofJson shortShelf = .ok shelf := by
  have parsed : parse shelfText ⟨"model.json"⟩ = .ok shelf := by
    decide +kernel
  have shortMarkers : Abbreviates (.record .markers) (Markers.toJson { interface? := some {} })
      (.object
        [("native_interface", .object []), ("exported_scope_provider", .boolean false)]) := by
    refine .record (.kept rfl (.record (.left ?_ (.nil _)))
      (.left ?_ (.kept rfl (.same _ _) (.nil _))))
    · simp [RecordKind.defaults, Json.ofOption]
    · simp [RecordKind.defaults, Json.ofOption]
  have short : Abbreviates (.record .model) shelf.toJson shortShelf := by
    refine .record (.kept rfl (.list (.cons (.record ?_) (.nil _))) (.nil _))
    refine .kept rfl (.same _ _) (.kept rfl (.same _ _) (.kept rfl (.same _ _) (.left ?_
      (.kept rfl (.same _ _) (.left ?_ (.kept rfl shortMarkers (.nil _)))))))
    · simp [RecordKind.defaults]
    · simp [RecordKind.defaults]
  rcases ofJson_toJson_of_parse parsed with ⟨restored, shortRestored⟩
  exact ⟨parsed, restored, shortRestored _ short⟩

end ModelFile

end NativeWrappers
