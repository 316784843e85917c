import NativeWrappers.Proofs.Source.Constructor
import NativeWrappers.Proofs.WrapperModel
/-!
# References to the fields of a class

The bodies of a generated class refer to its two fields by name, and the names of parameters and
properties come from the declaration. A parameter that is called like a field hides it, and the body
then writes `this.` before the name. A property that is called like a field is not told apart from
it: the class declares one name twice, and a reference to the field is ambiguous. This is the only
way in which a body can miss its fields.
-/

namespace NativeWrappers

namespace Source

/-- What a name in the body of a member can stand for. -/
inductive Referent where
  | parameter (name : String)
  | field (name : String)
  | property (name : String)
deriving DecidableEq

/-- A name in a body, with or without `this.` before it. -/
structure Reference where
  name : String
  throughThis : Bool

variable {wrapper : Wrapper} {parameters : List Parameter} {reference : Reference} {field : String}

/-- The fields and properties of a class that have this name. -/
def memberReferents (wrapper : Wrapper) (name : String) : List Referent :=
  (constructorFields.filter (· == name)).map Referent.field
    ++ ((wrapper.properties.map (·.name)).filter (· == name)).map Referent.property

namespace Reference

/-- The reference as it is written. -/
def text (reference : Reference) : String :=
  if reference.throughThis then "this." ++ reference.name else reference.name

/-- All that the reference can stand for in a member with these parameters. A parameter hides the
members of the class that have its name, unless the reference goes through `this`. -/
def referents (wrapper : Wrapper) (parameters : List Parameter) (reference : Reference) :
    List Referent :=
  if reference.throughThis = false ∧ reference.name ∈ parameters.map (·.name) then
    [.parameter reference.name]
  else
    memberReferents wrapper reference.name

/-- The reference to a field from a member with these parameters. -/
def toField (parameters : List Parameter) (field : String) : Reference :=
  ⟨field, parameters.any (·.name == field)⟩

theorem throughThis_toField_iff :
    (toField parameters field).throughThis = true ↔ field ∈ parameters.map (·.name) := by
  simp [toField]

/-- A parameter never gets in the way of a reference to a field. -/
theorem referents_toField :
    (toField parameters field).referents wrapper parameters = memberReferents wrapper field := by
  rw [referents, if_neg]
  · rfl
  · rintro ⟨short, hidden⟩
    have through : (toField parameters field).throughThis = true :=
      throughThis_toField_iff.mpr hidden
    rw [short] at through
    cases through

end Reference

theorem memberReferents_eq_singleton_iff (member : field ∈ constructorFields) :
    memberReferents wrapper field = [.field field] ↔ field ∉ wrapper.properties.map (·.name) := by
  have declared : constructorFields.filter (· == field) = [field] := by
    revert field
    decide
  rw [memberReferents, declared]
  simp

/-- A delegating expression with the receiver of the call and the scope argument left open. -/
def delegatingPieces (runtime : RuntimeTypes) (delegation : Delegation) (exposed : TypeExpr)
    (receiver scope : String) : List Piece :=
  let call :=
    match delegation.target with
    | .method name arguments =>
      receiver ++ "." ++ escape name ++ "(" ++ ", ".intercalate (arguments.map escape) ++ ")"
    | .property name => receiver ++ "." ++ escape name
  match delegation.wrapping with
  | .direct => [.text call]
  | .deferred =>
    [.name runtime.suspendWrapperName, .text ("(" ++ scope ++ ") \x7b " ++ call ++ " \x7d")]
  | .streamed =>
    if exposed.nullable then
      [.text (call ++ "?.let \x7b "), .name runtime.flowWrapperName,
        .text ("(" ++ scope ++ ", it) \x7d")]
    else
      [.name runtime.flowWrapperName, .text ("(" ++ scope ++ ", " ++ call ++ ")")]

theorem delegationPieces_eq {runtime : RuntimeTypes} {delegation : Delegation}
    {exposed : TypeExpr} :
    delegationPieces runtime delegation exposed parameters =
      delegatingPieces runtime delegation exposed (Reference.toField parameters wrappedField).text
        (Reference.toField parameters scopeField).text := by
  rcases delegation with ⟨wrapping, target⟩
  cases target <;> rfl

/-- In a member with these parameters the body is written with these references in the places of the
receiver and of the scope, and `this.` stands before them just where a parameter has the name of the
field. -/
structure WritesFields (runtime : RuntimeTypes) (parameters : List Parameter) (body : Delegation)
    (exposed : TypeExpr) (receiver scope : Reference) : Prop where
  expression : delegationPieces runtime body exposed parameters =
    delegatingPieces runtime body exposed receiver.text scope.text
  receiver : receiver.throughThis = true ↔ wrappedField ∈ parameters.map (·.name)
  scope : scope.throughThis = true ↔ scopeField ∈ parameters.map (·.name)

/-- The body is written with references that stand for the two fields of the class and for nothing
else. -/
def UsesFields (runtime : RuntimeTypes) (wrapper : Wrapper) (parameters : List Parameter)
    (body : Delegation) (exposed : TypeExpr) : Prop :=
  ∃ receiver scope, WritesFields runtime parameters body exposed receiver scope ∧
    receiver.referents wrapper parameters = [.field wrappedField] ∧
    scope.referents wrapper parameters = [.field scopeField]

theorem writesFields_toField {runtime : RuntimeTypes} {body : Delegation} {exposed : TypeExpr} :
    WritesFields runtime parameters body exposed (.toField parameters wrappedField)
      (.toField parameters scopeField) :=
  ⟨delegationPieces_eq, Reference.throughThis_toField_iff, Reference.throughThis_toField_iff⟩

theorem usesFields_of_not_mem {runtime : RuntimeTypes} {body : Delegation} {exposed : TypeExpr}
    (apart : ∀ field ∈ constructorFields, field ∉ wrapper.properties.map (·.name)) :
    UsesFields runtime wrapper parameters body exposed := by
  refine ⟨_, _, writesFields_toField, ?_, ?_⟩
  · rw [Reference.referents_toField, memberReferents_eq_singleton_iff (by decide)]
    exact apart wrappedField (by decide)
  · rw [Reference.referents_toField, memberReferents_eq_singleton_iff (by decide)]
    exact apart scopeField (by decide)

end Source

namespace Wrapper

open Source

variable {wrapper : Wrapper} {runtime : RuntimeTypes}

/-- The properties and the fields of the class have names of their own, and all bodies refer to the
fields. -/
structure KeepsFieldsApart (runtime : RuntimeTypes) (wrapper : Wrapper) : Prop where
  distinct : (constructorFields ++ wrapper.properties.map (·.name)).Nodup
  bodies : ∀ method ∈ wrapper.methods, ∀ body ∈ method.body?,
    UsesFields runtime wrapper method.parameters body method.result
  getters : ∀ property ∈ wrapper.properties, ∀ getter ∈ property.getter?,
    UsesFields runtime wrapper [] getter property.type

theorem keepsFieldsApart_iff (distinct : (wrapper.properties.map (·.name)).Nodup) :
    wrapper.KeepsFieldsApart runtime ↔
      ∀ field ∈ constructorFields, field ∉ wrapper.properties.map (·.name) := by
  constructor
  · intro keeps field member property
    exact (List.nodup_append.mp keeps.distinct).2.2 field member field property rfl
  · intro apart
    refine ⟨?_, fun _ _ _ _ => usesFields_of_not_mem apart,
      fun _ _ _ _ => usesFields_of_not_mem apart⟩
    refine List.nodup_append.mpr ⟨by decide, distinct, ?_⟩
    intro field member name property same
    exact apart field member (same ▸ property)

end Wrapper

namespace Batch

open Source

variable {batch : Batch} {conventions : Conventions} {model : WrapperModel}

/-- A generated class keeps its fields apart exactly when no ancestor of its declaration offers a
property that is called like one of them. Parameters do not matter: whatever they are called, the
references in a body stand for fields or properties of the class. -/
theorem keepsFieldsApart_iff_not_offers (generated : batch.generate conventions = .ok model) :
    ∀ wrapper ∈ model.classes, ∃ declaration ∈ batch.classTargets,
      declaration.name = wrapper.origin ∧
      (∀ field ∈ constructorFields, ∃ type,
        (wrapperDocument conventions.runtime wrapper).Declares (fieldLead field) type) ∧
      (wrapper.KeepsFieldsApart conventions.runtime ↔
        ∀ ancestor, Relation.ReflTransGen batch.Lists declaration ancestor →
          ∀ field ∈ constructorFields, ¬ ancestor.Offers (.property field)) ∧
      ∀ method ∈ wrapper.methods, ∀ body ∈ method.body?, ∃ receiver scope,
        WritesFields conventions.runtime method.parameters body method.result receiver scope ∧
          receiver.referents wrapper method.parameters = memberReferents wrapper wrappedField ∧
          scope.referents wrapper method.parameters = memberReferents wrapper scopeField := by
  intro wrapper member
  rcases exists_classWrapper_of_generate generated member with
    ⟨interfaces, accessors, declaration, targetMember, built⟩
  have inBatch : declaration ∈ batch.declarations := List.mem_of_mem_filter targetMember
  have mirrors := mirrors_of_classWrapper built
  refine ⟨declaration, targetMember, (origin_of_classWrapper built).symm, ?_, ?_, ?_⟩
  · rcases classWrapper_eq_ok_iff.mp built with ⟨_, scope?, _, _, _, _, _, equal⟩
    have shape : wrapper.shape = .class declaration.name scope? := by rw [equal]
    rw [constructorFields, List.forall_mem_cons, List.forall_mem_singleton]
    exact ⟨⟨_, declares_wrappedField shape⟩, ⟨_, declares_scopeField shape⟩⟩
  · have distinct : (wrapper.properties.map (·.name)).Nodup := by
      rw [mirrors.properties]
      exact nodup_map_distinctBy _
    have collected (field : String) : field ∈ wrapper.properties.map (·.name) ↔
        ∃ ancestor, Relation.ReflTransGen batch.Lists declaration ancestor ∧
          ancestor.Offers (.property field) := by
      rw [mirrors.properties, ← has_members_iff inBatch]
      rfl
    rw [Wrapper.keepsFieldsApart_iff distinct]
    simp only [collected, not_exists, not_and]
    exact ⟨fun apart ancestor chain field fieldMember => apart field fieldMember ancestor chain,
      fun apart field fieldMember ancestor chain => apart ancestor chain field fieldMember⟩
  · intro method methodMember body hasBody
    exact ⟨_, _, writesFields_toField, Reference.referents_toField, Reference.referents_toField⟩

/-- The class of the session mirrors a title, which is called like no field. -/
theorem keepsFieldsApart_session :
    session.generate {} = .ok WrapperModel.session ∧
      ∀ wrapper ∈ WrapperModel.session.classes, wrapper.KeepsFieldsApart {} := by
  refine ⟨generate_session, ?_⟩
  intro wrapper member
  rcases keepsFieldsApart_iff_not_offers generate_session wrapper member with
    ⟨declaration, targetMember, _, _, apart, _⟩
  apply apart.mpr
  have noneOffers : ∀ ancestor ∈ session.declarations, ∀ field ∈ constructorFields,
      field ∉ ancestor.reachableProperties.map (·.name) := by decide
  intro ancestor chain
  apply noneOffers
  rcases chain.cases_tail with isDeclaration | ⟨_, _, lists⟩
  · rw [isDeclaration]
    exact List.mem_of_mem_filter targetMember
  · exact lists.1

/-- An envelope, with a property for what is wrapped in it. -/
def envelope : Batch where
  declarations :=
    [{ name := ⟨"", "Envelope"⟩, kind := .class
       properties := [{ name := "wrapped", type := ⟨⟨"kotlin", "String"⟩, [], false⟩ }]
       markers := { class? := some {} } }]
  nodup := by decide

end Batch

/-- The class of the envelope. -/
def Wrapper.envelope : Wrapper where
  origin := ⟨"", "Envelope"⟩
  name := ⟨"", "EnvelopeNative"⟩
  shape := .class ⟨"", "Envelope"⟩ none
  properties :=
    [{ name := "wrapped", type := ⟨⟨"kotlin", "String"⟩, [], false⟩
       getter? := some ⟨.direct, .property "wrapped"⟩ }]

namespace Batch

theorem generate_envelope : envelope.generate {} = .ok { classes := [.envelope] } := by
  refine generate_eq_ok_iff.mpr ⟨.empty, .empty, rfl, ?_, ?_, rfl, rfl, ?_⟩
  · cbv
  · cbv
  · decide

/-- The class of the envelope declares `wrapped` twice. -/
theorem not_keepsFieldsApart_envelope :
    envelope.generate {} = .ok { classes := [.envelope] } ∧
      ¬ Wrapper.envelope.KeepsFieldsApart {} := by
  refine ⟨generate_envelope, ?_⟩
  intro keeps
  exact absurd keeps.distinct (by decide)

end Batch

end NativeWrappers
