import NativeWrappers.Proofs.AccessorTable
import NativeWrappers.Proofs.Relocation.Hierarchy
import NativeWrappers.Proofs.Wrapper.InterfaceTable
/-!
# Relocated wrappers

Stage by stage, generation over a relocated batch carries over what generation over the batch does:
it gives the relocated result, or stops at the relocated problem. Tables are relocated entry by
entry, and since a surface lists keys and names of members only, a relocated supertype is overridden
in the same places.
-/

namespace NativeWrappers

namespace Relocation

variable (relocation : Relocation)

/-- The second outcome is the first one, relocated. -/
abbrev Carries {α β : Type} (move : α → β) (outcome : Except Problem α)
    (outcome' : Except Problem β) : Prop :=
  Agree relocation.Relocates (fun value value' => move value = value') outcome outcome'

theorem forall₂_move_eq {α β : Type} (move : α → β) :
    List.Forall₂ (fun value value' => move value = value')
      = fun values values' => values.map move = values' := by
  funext values values'
  rw [← List.forall₂_map_left_iff, List.forall₂_eq_eq_eq]

theorem forall₂_move {α β : Type} (move : α → β) (values : List α) :
    List.Forall₂ (fun value value' => move value = value') values (values.map move) := by
  rw [forall₂_move_eq]

variable {relocation}

section Lists

variable {α β γ δ : Type} {move : α → β} {move' : γ → δ}

theorem Carries.mapM {step : α → Except Problem γ} {step' : β → Except Problem δ}
    (carries : ∀ input, relocation.Carries move' (step input) (step' (move input)))
    (inputs : List α) :
    relocation.Carries (List.map move') (inputs.mapM step) ((inputs.map move).mapM step') := by
  rw [Carries, ← forall₂_move_eq]
  apply Agree.mapM (forall₂_move move inputs)
  rintro input _ rfl
  exact carries input

theorem Carries.foldlM {step : γ → α → Except Problem γ} {step' : δ → β → Except Problem δ}
    (carries : ∀ state input,
      relocation.Carries move' (step state input) (step' (move' state) (move input)))
    (inputs : List α) (state : γ) :
    relocation.Carries move' (inputs.foldlM step state)
      ((inputs.map move).foldlM step' (move' state)) := by
  refine Agree.foldlM (forall₂_move move inputs) ?_ rfl
  rintro state _ input _ rfl rfl
  exact carries state input

end Lists

variable (relocation)

/-! ## Members -/

/-- The exposure with the types on both sides relocated. -/
def exposure (exposure : Exposure) : Exposure :=
  { exposure with
    generated := relocation.type exposure.generated
    source := relocation.type exposure.source }

section Members

variable (owner : QualifiedName) (surface : InheritedSurface) (runtime : RuntimeTypes)

theorem exposureOf_carries (member : String) (delivery : Delivery) (source : TypeExpr) :
    relocation.Carries relocation.exposure (Exposure.of owner member delivery source runtime)
      (Exposure.of (relocation.name owner) member delivery (relocation.type source)
        (relocation.runtime runtime)) := by
  cases delivery with
  | direct => exact .ok rfl
  | deferred => exact .ok rfl
  | stream kind =>
      rw [Exposure.of, Exposure.of, arguments_type]
      rcases source.arguments with _ | ⟨element, _ | ⟨next, rest⟩⟩
      · exact .error (.malformedStream owner member source)
      · rw [nullable_type]
        exact .ok rfl
      · exact .error (.malformedStream owner member source)

theorem exposureOfMethod_carries (method : Method) :
    relocation.Carries relocation.exposure (Exposure.ofMethod owner method runtime)
      (Exposure.ofMethod (relocation.name owner) (relocation.method method)
        (relocation.runtime runtime)) := by
  rw [Exposure.ofMethod, Exposure.ofMethod, delivery_method, result_method]
  exact relocation.exposureOf_carries owner runtime _ _ _

theorem exposureOfProperty_carries (property : Property) :
    relocation.Carries relocation.exposure (Exposure.ofProperty owner property runtime)
      (Exposure.ofProperty (relocation.name owner) (relocation.property property)
        (relocation.runtime runtime)) := by
  have sameDelivery : (relocation.property property).delivery = property.delivery :=
    relocation.ofType_type property.type
  rw [Exposure.ofProperty, Exposure.ofProperty, sameDelivery]
  exact relocation.exposureOf_carries owner runtime _ _ _

theorem abstractMethod_carries (method : Method) :
    relocation.Carries relocation.wrapperMethod (abstractMethod owner surface runtime method)
      (abstractMethod (relocation.name owner) surface (relocation.runtime runtime)
        (relocation.method method)) := by
  apply (relocation.exposureOfMethod_carries owner runtime method).bind
  rintro exposure _ rfl
  rw [key_method]
  exact .ok rfl

theorem abstractProperty_carries (property : Property) :
    relocation.Carries relocation.wrapperProperty
      (abstractProperty owner surface runtime property)
      (abstractProperty (relocation.name owner) surface (relocation.runtime runtime)
        (relocation.property property)) := by
  apply (relocation.exposureOfProperty_carries owner runtime property).bind
  rintro exposure _ rfl
  exact .ok rfl

theorem delegateMethod_carries (method : Method) :
    relocation.Carries relocation.wrapperMethod (delegateMethod owner surface runtime method)
      (delegateMethod (relocation.name owner) surface (relocation.runtime runtime)
        (relocation.method method)) := by
  have sameArguments : (relocation.method method).parameters.map (·.name)
      = method.parameters.map (·.name) := by
    rw [Relocation.method, List.map_map]
    rfl
  apply (relocation.exposureOfMethod_carries owner runtime method).bind
  rintro exposure _ rfl
  rw [key_method, sameArguments]
  exact .ok rfl

theorem delegateProperty_carries (property : Property) :
    relocation.Carries relocation.wrapperProperty
      (delegateProperty owner surface runtime property)
      (delegateProperty (relocation.name owner) surface (relocation.runtime runtime)
        (relocation.property property)) := by
  apply (relocation.exposureOfProperty_carries owner runtime property).bind
  rintro exposure _ rfl
  exact .ok rfl

end Members

/-! ## Tables -/

/-- The table of the relocated interfaces, whose origins stay distinct. -/
def interfaces (table : InterfaceTable) : InterfaceTable where
  wrappers := table.wrappers.map relocation.wrapper
  nodup := relocation.nodup_map_move Wrapper.origin _ (fun _ => rfl) table.nodup

theorem wrappers_interfaces (table : InterfaceTable) :
    (relocation.interfaces table).wrappers = table.wrappers.map relocation.wrapper := rfl

/-- The table of the relocated accessors, whose names stay distinct. -/
def accessors (table : AccessorTable) : AccessorTable where
  accessors := table.accessors.map relocation.accessor
  nodup := relocation.nodup_map_move Accessor.name _ (fun _ => rfl) table.nodup

theorem accessors_accessors (table : AccessorTable) :
    (relocation.accessors table).accessors = table.accessors.map relocation.accessor := rfl

theorem getInterface?_interfaces (table : InterfaceTable) (origin : QualifiedName) :
    (relocation.interfaces table).get? (relocation.name origin)
      = (table.get? origin).map relocation.wrapper :=
  relocation.find?_map_move Wrapper.origin _ (fun _ => rfl) table.wrappers origin

theorem contains_interfaces (table : InterfaceTable) (origin : QualifiedName) :
    (relocation.interfaces table).contains (relocation.name origin) = table.contains origin := by
  rw [InterfaceTable.contains, InterfaceTable.contains, getInterface?_interfaces,
    Option.isSome_map]

theorem insertInterface_carries (table : InterfaceTable) (wrapper : Wrapper) :
    relocation.Carries relocation.interfaces (table.insert wrapper)
      ((relocation.interfaces table).insert (relocation.wrapper wrapper)) := by
  have lookup : (relocation.interfaces table).get? (relocation.wrapper wrapper).origin
      = (table.get? wrapper.origin).map relocation.wrapper :=
    relocation.getInterface?_interfaces table wrapper.origin
  rcases found : table.get? wrapper.origin with _ | existing
  · rw [found] at lookup
    rcases InterfaceTable.exists_insert_eq_ok (InterfaceTable.get?_eq_none_iff.mp found) with
      ⟨extended, inserted⟩
    rcases InterfaceTable.exists_insert_eq_ok (InterfaceTable.get?_eq_none_iff.mp lookup) with
      ⟨extended', inserted'⟩
    rw [inserted, inserted']
    refine .ok ?_
    rw [InterfaceTable.eq_iff_wrappers_eq, wrappers_interfaces,
      InterfaceTable.wrappers_of_insert inserted, InterfaceTable.wrappers_of_insert inserted',
      wrappers_interfaces, List.map_append]
    rfl
  · rw [found] at lookup
    rw [InterfaceTable.insert_of_get? found, InterfaceTable.insert_of_get? lookup]
    exact .error (.duplicateOutput _ _ _)

theorem getAccessor?_accessors (table : AccessorTable) (provider : QualifiedName) :
    (relocation.accessors table).get? (relocation.name provider)
      = (table.get? provider).map relocation.accessor :=
  relocation.find?_map_move Accessor.provider _ (fun _ => rfl) table.accessors provider

theorem insertAccessor_carries (table : AccessorTable) (accessor : Accessor) :
    relocation.Carries relocation.accessors (table.insert accessor)
      ((relocation.accessors table).insert (relocation.accessor accessor)) := by
  have lookup : (relocation.accessors table).accessors.find?
        (·.name == (relocation.accessor accessor).name)
      = (table.accessors.find? (·.name == accessor.name)).map relocation.accessor :=
    relocation.find?_map_move Accessor.name _ (fun _ => rfl) table.accessors accessor.name
  rcases found : table.accessors.find? (·.name == accessor.name) with _ | existing
  · rw [found] at lookup
    rcases AccessorTable.exists_insert_eq_ok found with ⟨extended, inserted⟩
    rcases AccessorTable.exists_insert_eq_ok lookup with ⟨extended', inserted'⟩
    rw [inserted, inserted']
    refine .ok ?_
    rw [AccessorTable.eq_iff_accessors_eq, accessors_accessors,
      AccessorTable.accessors_of_insert inserted, AccessorTable.accessors_of_insert inserted',
      accessors_accessors, List.map_append]
    rfl
  · rw [found] at lookup
    rw [AccessorTable.insert_of_find? found, AccessorTable.insert_of_find? lookup]
    exact .error (.duplicateOutput _ _ _)

end Relocation

end NativeWrappers
