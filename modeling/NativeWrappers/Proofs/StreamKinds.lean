import NativeWrappers.Proofs.Delegation
import NativeWrappers.Proofs.Exposure
import NativeWrappers.Proofs.Likeness
/-!
# Stream kinds converge

All kinds of streams reach the generated side through one wrapper. So the kinds of streams that
properties have as their types, and that methods return without suspending, can be exchanged for one
another all over a batch, and nothing of what is generated changes. Only the refusal of a malformed
stream quotes the declared type, and with it the kind.

The stream type that a suspending method returns is kept inside the wrapper of a deferred result.
There the kind shows.
-/

namespace NativeWrappers

/-- The same type, or the same stream but for its kind. -/
inductive TypeExpr.SwapsStream : TypeExpr → TypeExpr → Prop where
  | kept (type : TypeExpr) : SwapsStream type type
  | swapped (kind kind' : StreamKind) (arguments : List TypeExpr) (nullable : Bool) :
      SwapsStream ⟨kind.qualifiedName, arguments, nullable⟩
        ⟨kind'.qualifiedName, arguments, nullable⟩

/-- The same method, but for the kind of the stream that it returns without suspending. -/
inductive Method.SwapsStream : Method → Method → Prop where
  | kept (method : Method) : SwapsStream method method
  | swapped {method : Method} {type type' : TypeExpr} (immediate : method.suspending = false)
      (declared : method.result? = some type) (swaps : type.SwapsStream type') :
      SwapsStream method { method with result? := some type' }

/-- The same property, but for the kind of the stream that it has. -/
inductive Property.SwapsStream : Property → Property → Prop where
  | swapped {property : Property} {type' : TypeExpr} (swaps : property.type.SwapsStream type') :
      SwapsStream property { property with type := type' }

/-- The same declaration, but for the kinds of streams of its members. -/
inductive Declaration.SwapsStreams : Declaration → Declaration → Prop where
  | swapped {declaration : Declaration} {methods' : List Method} {properties' : List Property}
      (methods : List.Forall₂ Method.SwapsStream declaration.methods methods')
      (properties : List.Forall₂ Property.SwapsStream declaration.properties properties') :
      SwapsStreams declaration
        { declaration with methods := methods', properties := properties' }

/-- The same batch, but for the kinds of its members' streams. -/
def Batch.SwapsStreams (batch batch' : Batch) : Prop :=
  List.Forall₂ Declaration.SwapsStreams batch.declarations batch'.declarations

/-- The same problem, but for the kind of the malformed stream that it quotes. -/
inductive Problem.SwapsStream : Problem → Problem → Prop where
  | kept (problem : Problem) : SwapsStream problem problem
  | swapped (owner : QualifiedName) (member : String) {type type' : TypeExpr}
      (swaps : type.SwapsStream type') :
      SwapsStream (.malformedStream owner member type.display)
        (.malformedStream owner member type'.display)

theorem Delivery.ofType_stream (kind : StreamKind) (arguments : List TypeExpr) (nullable : Bool) :
    ofType ⟨kind.qualifiedName, arguments, nullable⟩ = stream kind := by
  rw [ofType, TypeExpr.streamKind?_eq_some_iff.mpr rfl]

namespace TypeExpr.SwapsStream

variable {type type' : TypeExpr} (swaps : type.SwapsStream type')

include swaps

/-- A stream is exposed by its argument alone, of whatever kind it is. -/
theorem exposures_agree (owner : QualifiedName) (member : String) (runtime : RuntimeTypes) :
    Agree Problem.SwapsStream Exposure.Alike
      (Exposure.of owner member (.ofType type) type runtime)
      (Exposure.of owner member (.ofType type') type' runtime) := by
  cases swaps with
  | kept type => exact .refl .kept Exposure.Alike.refl _
  | swapped kind kind' arguments nullable =>
      have refused : Problem.SwapsStream
          (.malformedStream owner member (display ⟨kind.qualifiedName, arguments, nullable⟩))
          (.malformedStream owner member (display ⟨kind'.qualifiedName, arguments, nullable⟩)) :=
        .swapped owner member (.swapped kind kind' arguments nullable)
      rw [Delivery.ofType_stream, Delivery.ofType_stream]
      rcases arguments with _ | ⟨element, _ | ⟨next, rest⟩⟩
      · exact .error refused
      · exact .ok ⟨rfl, rfl⟩
      · exact .error refused

theorem isCoroutineScope_eq : Batch.isCoroutineScope type' = Batch.isCoroutineScope type := by
  cases swaps with
  | kept type => rfl
  | swapped kind kind' arguments nullable => cases kind <;> cases kind' <;> rfl

end TypeExpr.SwapsStream

theorem Method.SwapsStream.alike {method method' : Method} (swaps : method.SwapsStream method') :
    Method.Alike Problem.SwapsStream method method' := by
  cases swaps with
  | kept => exact Method.Alike.refl .kept method
  | @swapped type type' immediate declared swaps =>
      refine ⟨rfl, rfl, rfl, ?_⟩
      intro owner runtime
      have exposures := swaps.exposures_agree owner method.name runtime
      simpa [Exposure.ofMethod, delivery, result, immediate, declared] using exposures

theorem Property.SwapsStream.alike {property property' : Property}
    (swaps : property.SwapsStream property') :
    Property.Alike Problem.SwapsStream property property' := by
  cases swaps with
  | swapped swaps =>
      refine ⟨rfl, rfl, swaps.isCoroutineScope_eq, ?_⟩
      intro owner runtime
      exact swaps.exposures_agree owner property.name runtime

theorem Declaration.SwapsStreams.alike {declaration declaration' : Declaration}
    (swaps : declaration.SwapsStreams declaration') :
    Declaration.Alike Problem.SwapsStream declaration declaration' := by
  cases swaps with
  | swapped methods properties =>
      refine ⟨rfl, rfl, rfl, rfl, rfl, ?_, ?_⟩
      · apply List.rel_filter _ (methods.imp fun _ _ => Method.SwapsStream.alike)
        intro method method' methodsAlike
        simp only [methodsAlike.visibility]
      · apply List.rel_filter _ (properties.imp fun _ _ => Property.SwapsStream.alike)
        intro property property' propertiesAlike
        simp only [propertiesAlike.visibility]

namespace Batch

variable {batch batch' : Batch}

theorem SwapsStreams.alike (swaps : batch.SwapsStreams batch') :
    Batch.Alike Problem.SwapsStream batch batch' :=
  List.Forall₂.imp (fun _ _ => Declaration.SwapsStreams.alike) swaps

/-- What is generated does not depend on the kinds of streams. A batch and one with other kinds of
streams give the same model and the same files, or the same problem but for a quoted kind. -/
theorem generate_of_swapsStreams (swaps : batch.SwapsStreams batch') (conventions : Conventions) :
    (∀ model, batch.generate conventions = .ok model ↔ batch'.generate conventions = .ok model) ∧
      (∀ output, batch.output conventions = .ok output ↔
        batch'.output conventions = .ok output) ∧
      ∀ problem, batch.generate conventions = .error problem →
        ∃ problem', batch'.generate conventions = .error problem' ∧
          problem.SwapsStream problem' := by
  have models : Agree Problem.SwapsStream Eq (batch.generate conventions)
      (batch'.generate conventions) := swaps.alike.generate_agree .kept
  have outputs : Agree Problem.SwapsStream Eq (batch.output conventions)
      (batch'.output conventions) := swaps.alike.output_agree .kept
  refine ⟨?_, ?_, ?_⟩
  · intro model
    exact models.eq_ok_iff
  · intro output
    exact outputs.eq_ok_iff
  · intro problem failed
    exact models.exists_eq_error failed

/-- The feed, with a hot stream instead of a cold one. -/
def hotFeed : Batch where
  declarations :=
    [{ name := ⟨"", "Feed"⟩, kind := .class
       methods :=
        [{ name := "items", parameters := [⟨"topic", ⟨⟨"kotlin", "String"⟩, [], false⟩⟩]
           result? := some ⟨StreamKind.stateFlow.qualifiedName, [.unit], true⟩ }]
       markers := { class? := some {} } }]
  nodup := by decide

theorem generate_hotFeed :
    feed.SwapsStreams hotFeed ∧ hotFeed.generate {} = .ok WrapperModel.feed := by
  have swaps : feed.SwapsStreams hotFeed := by
    refine .cons (.swapped (.cons ?_ .nil) .nil) .nil
    exact .swapped rfl rfl (.swapped .flow .stateFlow [.unit] true)
  have sameModels := (generate_of_swapsStreams swaps {}).1
  exact ⟨swaps, (sameModels _).mp generate_feed⟩

end Batch

end NativeWrappers
