import NativeWrappers.Proofs.Exposure
import NativeWrappers.Proofs.Source.NullCheck
import NativeWrappers.Proofs.WrapperModel
/-!
# What a class delegates to

Every member of a generated class calls the one collected member that it is identified with, passes
its own parameters on, and has the type that the rules of exposure give for that member. How the
body is written is decided from the generated type alone. That is as good as looking at the declared
one: a stream keeps its nullability, so the lines of the member have a null check exactly where the
stream may be null.
-/

namespace NativeWrappers

namespace Exposure

variable {exposure : Exposure} {runtime : RuntimeTypes} {suspending : Bool}

/-- That the declared stream may be null can be told from the type that is exposed for it. -/
theorem isNullableStream_iff (exposes : Exposes runtime suspending exposure.source
    exposure.delivery.wrapping exposure.generated) :
    exposure.isNullableStream = true ↔
      exposure.delivery.wrapping = .streamed ∧ exposure.generated.nullable = true := by
  rcases exposure with ⟨delivery, exposed, source⟩
  cases delivery with
  | direct => simp [isNullableStream, Delivery.isStream, Delivery.wrapping]
  | deferred => simp [isNullableStream, Delivery.isStream, Delivery.wrapping]
  | stream kind =>
      dsimp only [Delivery.wrapping] at exposes
      cases exposes
      simp [isNullableStream, Delivery.isStream, Delivery.wrapping]

end Exposure

/-- The body of a generated member of type `exposed`, which is written as these lines, suits a member
of type `source` on the wrapped instance: it wraps what it gets by the rules of exposure, it comes
last in the lines, and the lines have a null check exactly when the exposure is that of a stream that
may be null. -/
structure Delegation.Suits (runtime : RuntimeTypes) (body : Delegation) (exposed : TypeExpr)
    (parameters : List Parameter) (lines : List Source.Line) (suspending : Bool)
    (source : TypeExpr) (exposure : Exposure) : Prop where
  exposes : Exposes runtime suspending source body.wrapping exposed
  written : Source.EndsWith lines (Source.callText parameters body.target)
    (Source.delegationPieces runtime body exposed parameters)
  nullCheck : Source.ChecksNull (Source.callText parameters body.target)
      (Source.linePieces lines) ↔ exposure.isNullableStream = true

theorem Delegation.suits_of_exposure {runtime : RuntimeTypes} {owner : QualifiedName}
    {member : String} {suspending : Bool} {source : TypeExpr} {exposure : Exposure}
    {body : Delegation} {parameters : List Parameter} {lines : List Source.Line}
    (exposed : Exposure.of owner member (if suspending then .deferred else .ofType source) source
      runtime = .ok exposure)
    (wraps : body.wrapping = exposure.delivery.wrapping)
    (written : Source.EndsWith lines (Source.callText parameters body.target)
      (Source.delegationPieces runtime body exposure.generated parameters)) :
    body.Suits runtime exposure.generated parameters lines suspending source exposure := by
  rcases Exposure.exposes_of_eq_ok exposed with ⟨sameSource, exposes⟩
  rw [← wraps] at exposes
  refine ⟨exposes, written, ?_⟩
  rw [written.checksNull_iff, Source.checksNull_delegationPieces_iff, wraps]
  rw [← sameSource, wraps] at exposes
  exact (Exposure.isNullableStream_iff exposes).symm

/-- The generated method calls this method of the wrapped instance with its own parameters, and its
body suits it. -/
structure WrapperMethod.DelegatesTo (runtime : RuntimeTypes) (owner : QualifiedName)
    (generated : WrapperMethod) (source : Method) : Prop where
  name : generated.name = source.name
  parameters : generated.parameters = source.parameters
  body : ∃ body exposure, generated.body? = some body ∧
    body.target = .method generated.name (generated.parameters.map (·.name)) ∧
    Exposure.ofMethod owner source runtime = .ok exposure ∧
    body.Suits runtime generated.result generated.parameters
      (Source.methodLines runtime generated) source.suspending source.result exposure

/-- The generated property reads this property of the wrapped instance, and its getter suits it. -/
structure WrapperProperty.DelegatesTo (runtime : RuntimeTypes) (owner : QualifiedName)
    (generated : WrapperProperty) (source : Property) : Prop where
  name : generated.name = source.name
  getter : ∃ getter exposure, generated.getter? = some getter ∧
    getter.target = .property generated.name ∧
    Exposure.ofProperty owner source runtime = .ok exposure ∧
    getter.Suits runtime generated.type [] (Source.propertyLines runtime generated) false
      source.type exposure

section Delegate

variable {owner : QualifiedName} {surface : InheritedSurface} {runtime : RuntimeTypes}

theorem delegatesTo_of_delegateMethod {method : Method} {generated : WrapperMethod}
    (delegated : delegateMethod owner surface runtime method = .ok generated) :
    generated.DelegatesTo runtime owner method := by
  rcases delegateMethod_eq_ok_iff.mp delegated with ⟨exposure, exposed, rfl⟩
  refine ⟨rfl, rfl, _, exposure, rfl, rfl, exposed, ?_⟩
  exact Delegation.suits_of_exposure exposed rfl (Source.endsWith_methodLines rfl _)

theorem delegatesTo_of_delegateProperty {property : Property} {generated : WrapperProperty}
    (delegated : delegateProperty owner surface runtime property = .ok generated) :
    generated.DelegatesTo runtime owner property := by
  rcases delegateProperty_eq_ok_iff.mp delegated with ⟨exposure, exposed, rfl⟩
  refine ⟨rfl, _, exposure, rfl, rfl, exposed, ?_⟩
  exact @Delegation.suits_of_exposure _ _ _ false _ _ _ _ _ exposed rfl
    (Source.endsWith_propertyLines rfl _)

end Delegate

namespace Batch

variable {batch : Batch} {conventions : Conventions} {model : WrapperModel}

/-- Every method and every property of a generated class delegates to the one collected member of
the declaration that has its key or its name, and the file of the class has its lines. -/
theorem delegatesTo_of_generate (generated : batch.generate conventions = .ok model) :
    ∀ wrapper ∈ model.classes, ∃ declaration ∈ batch.classTargets,
      wrapper.origin = declaration.name ∧
      Source.WritesMembers conventions.runtime wrapper ∧
      (∀ method ∈ wrapper.methods, ∃ source,
        (batch.members declaration).methods.filter (·.key == method.key) = [source] ∧
          method.DelegatesTo conventions.runtime declaration.name source) ∧
      ∀ property ∈ wrapper.properties, ∃ source,
        (batch.members declaration).properties.filter (·.name == property.name) = [source] ∧
          property.DelegatesTo conventions.runtime declaration.name source := by
  rcases generate_eq_ok_iff.mp generated with ⟨_, _, _, _, classesBuilt, _⟩
  intro wrapper member
  rcases exists_input_of_mapM_eq_ok classesBuilt member with
    ⟨declaration, declarationMember, classGenerated⟩
  refine ⟨declaration, declarationMember, origin_of_classWrapper classGenerated,
    Source.writesMembers conventions.runtime wrapper, ?_⟩
  rcases classWrapper_eq_ok_iff.mp classGenerated with
    ⟨_, _, methods, properties, _, methodsMapped, propertiesMapped, rfl⟩
  constructor
  · intro method methodMember
    rcases exists_input_of_mapM_eq_ok methodsMapped methodMember with
      ⟨source, sourceMember, delegated⟩
    have delegatesTo := delegatesTo_of_delegateMethod delegated
    have sameKey : method.key = source.key := by
      rw [WrapperMethod.key, delegatesTo.name, delegatesTo.parameters, Method.key]
    refine ⟨source, ?_, delegatesTo⟩
    rw [sameKey]
    exact filter_key_eq_singleton (nodup_map_distinctBy _) sourceMember
  · intro property propertyMember
    rcases exists_input_of_mapM_eq_ok propertiesMapped propertyMember with
      ⟨source, sourceMember, delegated⟩
    have delegatesTo := delegatesTo_of_delegateProperty delegated
    refine ⟨source, ?_, delegatesTo⟩
    rw [delegatesTo.name]
    exact filter_key_eq_singleton (nodup_map_distinctBy _) sourceMember

/-- A class with a stream that may be missing. -/
def feed : Batch where
  declarations :=
    [{ name := ⟨"", "Feed"⟩, kind := .class
       methods :=
        [{ name := "items", parameters := [⟨"topic", ⟨⟨"kotlin", "String"⟩, [], false⟩⟩]
           result? := some ⟨StreamKind.flow.qualifiedName, [.unit], true⟩ }]
       markers := { class? := some {} } }]
  nodup := by decide

end Batch

/-- What is generated from the feed. -/
def WrapperModel.feed : WrapperModel where
  classes :=
    [{ origin := ⟨"", "Feed"⟩, name := ⟨"", "FeedNative"⟩, shape := .class ⟨"", "Feed"⟩ none
       methods :=
        [{ name := "items", parameters := [⟨"topic", ⟨⟨"kotlin", "String"⟩, [], false⟩⟩]
           result := ⟨RuntimeTypes.flowWrapperName {}, [.unit], true⟩
           body? := some ⟨.streamed, .method "items" ["topic"]⟩ }] }]

namespace Batch

theorem generate_feed : feed.generate {} = .ok WrapperModel.feed := by
  refine generate_eq_ok_iff.mpr ⟨.empty, .empty, rfl, ?_, ?_, rfl, rfl, ?_⟩
  · cbv
  · cbv
  · decide

theorem delegatesTo_feed :
    feed.generate {} = .ok WrapperModel.feed ∧
      ∀ wrapper ∈ WrapperModel.feed.classes, ∀ method ∈ wrapper.methods,
        method.DelegatesTo {} ⟨"", "Feed"⟩ feed.declarations[0].methods[0] := by
  refine ⟨generate_feed, ?_⟩
  intro wrapper member method methodMember
  rcases delegatesTo_of_generate generate_feed wrapper member with
    ⟨declaration, declarationMember, _, _, delegates, _⟩
  rcases delegates method methodMember with ⟨source, onlySource, delegatesTo⟩
  have isFeed : declaration = feed.declarations[0] := List.mem_singleton.mp declarationMember
  have sourceMember := List.mem_of_mem_filter (onlySource ▸ List.mem_singleton_self source)
  have onlyMethod : (feed.members feed.declarations[0]).methods = feed.declarations[0].methods := by
    cbv
  rw [isFeed, onlyMethod] at sourceMember
  rw [isFeed, List.mem_singleton.mp sourceMember] at delegatesTo
  exact delegatesTo

end Batch

end NativeWrappers
