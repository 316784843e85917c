import NativeWrappers.Proofs.AccessorTable
import NativeWrappers.Proofs.Wrapper.InterfaceTable
import NativeWrappers.WrapperModel
/-!
# What a generated model consists of

Generation succeeds exactly when its four stages do: accessors, interfaces, classes and the check
for collisions. The last one succeeds exactly when the names of all outputs are distinct and new to
the batch.
-/

namespace NativeWrappers

namespace WrapperModel

variable {batch : Batch}

theorem lookup_eq_none_iff {claimed : List (QualifiedName × QualifiedName)}
    {name : QualifiedName} : claimed.lookup name = none ↔ name ∉ claimed.map (·.1) := by
  rw [List.lookup_eq_none_iff, List.mem_map]
  constructor
  · rintro different ⟨output, member, named⟩
    have := different output member
    simp [named] at this
  · intro absent output member
    have different : name ≠ output.1 := fun named => absent ⟨output, member, named.symm⟩
    simpa using different

/-- There is no collision exactly when no output is called like a declaration and all names, those
claimed before included, are distinct. -/
theorem collision?_eq_none_iff {claimed outputs : List (QualifiedName × QualifiedName)}
    (distinct : (claimed.map (·.1)).Nodup) :
    collision? batch claimed outputs = none ↔
      (∀ output ∈ outputs, batch.contains output.1 = false) ∧
        ((claimed ++ outputs).map (·.1)).Nodup := by
  induction outputs generalizing claimed with
  | nil => simp [collision?, distinct]
  | cons output rest ih =>
      rcases output with ⟨name, origin⟩
      rw [collision?]
      split
      · next declared => simp [declared]
      · next notDeclared =>
          split
          · next first taken =>
              have claimedBefore : name ∈ claimed.map (·.1) := by
                by_contra absent
                rw [lookup_eq_none_iff.mpr absent] at taken
                cases taken
              constructor
              · intro impossible
                cases impossible
              · rintro ⟨_, allDistinct⟩
                rw [List.map_append, List.nodup_append] at allDistinct
                exact absurd rfl (allDistinct.2.2 name claimedBefore name List.mem_cons_self)
          · next free =>
              have fresh := lookup_eq_none_iff.mp free
              have extended : ((claimed ++ [(name, origin)]).map (·.1)).Nodup := by
                rw [List.map_append, List.map_singleton, ← List.concat_eq_append]
                exact distinct.concat fresh
              rw [ih extended, List.append_assoc, List.singleton_append]
              simp [notDeclared]

theorem collision?_nil_eq_none_iff {outputs : List (QualifiedName × QualifiedName)} :
    collision? batch [] outputs = none ↔
      (∀ output ∈ outputs, batch.contains output.1 = false) ∧ (outputs.map (·.1)).Nodup := by
  have noneClaimed : (([] : List (QualifiedName × QualifiedName)).map (·.1)).Nodup :=
    List.nodup_nil
  rw [collision?_eq_none_iff noneClaimed, List.nil_append]

end WrapperModel

namespace Batch

variable {batch : Batch} {conventions : Conventions} {model : WrapperModel}

/-- A model is generated exactly when its accessors, its interfaces and its classes are, and no two
outputs collide. -/
theorem generate_eq_ok_iff :
    batch.generate conventions = .ok model ↔
      ∃ accessors interfaces,
        batch.accessorTable conventions = .ok accessors ∧
        batch.interfaceTable conventions = .ok interfaces ∧
        batch.classWrappers conventions interfaces accessors = .ok model.classes ∧
        model.accessors = accessors.accessors ∧ model.interfaces = interfaces.wrappers ∧
        WrapperModel.collision? batch [] model.outputs = none := by
  simp only [generate, bind_eq_ok_iff]
  constructor
  · rintro ⟨accessors, accessorsBuilt, interfaces, interfacesBuilt, classes, classesBuilt, checked⟩
    split at checked
    · cases checked
    · next noCollision =>
        cases checked
        exact ⟨accessors, interfaces, accessorsBuilt, interfacesBuilt, classesBuilt, rfl, rfl,
          noCollision⟩
  · rintro ⟨accessors, interfaces, accessorsBuilt, interfacesBuilt, classesBuilt, sameAccessors,
      sameInterfaces, noCollision⟩
    refine ⟨accessors, accessorsBuilt, interfaces, interfacesBuilt, model.classes, classesBuilt, ?_⟩
    rw [← sameAccessors, ← sameInterfaces, noCollision]

theorem distinct_of_generate (generated : batch.generate conventions = .ok model) :
    (∀ output ∈ model.outputs, batch.contains output.1 = false) ∧
      (model.outputs.map (·.1)).Nodup := by
  rcases generate_eq_ok_iff.mp generated with ⟨_, _, _, _, _, _, _, noCollision⟩
  exact WrapperModel.collision?_nil_eq_none_iff.mp noCollision

theorem nodup_interfaceNames_of_generate (generated : batch.generate conventions = .ok model) :
    (model.interfaces.map (·.name)).Nodup := by
  have distinct := (distinct_of_generate generated).2
  have interfacesAmongOutputs :
      (model.interfaces.map (·.name)).Sublist (model.outputs.map (·.1)) := by
    rw [WrapperModel.outputs, List.map_append, List.map_map, List.map_map, List.map_append]
    exact (List.sublist_append_left _ _).trans (List.sublist_append_right _ _)
  exact distinct.sublist interfacesAmongOutputs

/-- The interfaces of a generated model are a settled table with distinct names, and the classes are
generated against it. -/
theorem exists_settled_of_generate (generated : batch.generate conventions = .ok model) :
    ∃ accessors interfaces order,
      model.interfaces = interfaces.wrappers ∧ (interfaces.wrappers.map (·.name)).Nodup ∧
      order.Perm batch.interfaceTargets ∧ SupertypesFirst order ∧
      batch.Settled conventions order interfaces ∧
      batch.classWrappers conventions interfaces accessors = .ok model.classes := by
  have distinct := nodup_interfaceNames_of_generate generated
  rcases generate_eq_ok_iff.mp generated with
    ⟨accessors, interfaces, _, interfacesBuilt, classesBuilt, _, sameInterfaces, _⟩
  rw [sameInterfaces] at distinct
  rcases exists_settled_of_interfaceTable interfacesBuilt with ⟨order, reordered, first, settled⟩
  exact ⟨accessors, interfaces, order, sameInterfaces, distinct, reordered, first, settled,
    classesBuilt⟩

theorem exists_interfaceWrapper_of_generate (generated : batch.generate conventions = .ok model)
    {wrapper : Wrapper} (member : wrapper ∈ model.interfaces) :
    ∃ interfaces, ∃ target ∈ batch.interfaceTargets,
      batch.interfaceWrapper conventions interfaces target (conventions.interfaceName target)
        = .ok wrapper := by
  rcases exists_settled_of_generate generated with
    ⟨_, interfaces, order, sameInterfaces, _, reordered, _, settled, _⟩
  rw [sameInterfaces] at member
  rcases settled.exists_target member with ⟨target, targetMember, built⟩
  exact ⟨interfaces, target, reordered.mem_iff.mp targetMember, built⟩

theorem exists_classWrapper_of_generate (generated : batch.generate conventions = .ok model)
    {wrapper : Wrapper} (member : wrapper ∈ model.classes) :
    ∃ interfaces accessors, ∃ target ∈ batch.classTargets,
      batch.classWrapper conventions interfaces accessors target (conventions.className target)
        = .ok wrapper := by
  rcases generate_eq_ok_iff.mp generated with ⟨accessors, interfaces, _, _, classesBuilt, _⟩
  rcases exists_input_of_mapM_eq_ok classesBuilt member with ⟨target, targetMember, built⟩
  exact ⟨interfaces, accessors, target, targetMember, built⟩

end Batch

/-! ## A hierarchy of three levels -/

/-- An interface with a method, one below it that adds nothing, and a class below both that declares
the method again. -/
def Batch.threeLevels : Batch where
  declarations :=
    [{ name := ⟨"", "Base"⟩, kind := .interface, methods := [{ name := "close" }]
       markers := { interface? := some {} } },
     { name := ⟨"", "Middle"⟩, kind := .interface, supertypes := [⟨"", "Base"⟩]
       markers := { interface? := some {} } },
     { name := ⟨"", "Leaf"⟩, kind := .class, supertypes := [⟨"", "Middle"⟩]
       methods := [{ name := "close" }]
       markers := { interface? := some {}, class? := some {} } }]
  nodup := by decide

/-- What is generated from three levels. -/
def WrapperModel.threeLevels : WrapperModel where
  interfaces :=
    [{ origin := ⟨"", "Base"⟩, name := ⟨"", "BaseNativeProtocol"⟩
       methods := [{ name := "close", result := .unit }] },
     { origin := ⟨"", "Middle"⟩, name := ⟨"", "MiddleNativeProtocol"⟩
       supertypes := [⟨"", "BaseNativeProtocol"⟩] },
     { origin := ⟨"", "Leaf"⟩, name := ⟨"", "LeafNativeProtocol"⟩
       supertypes := [⟨"", "MiddleNativeProtocol"⟩]
       methods := [{ name := "close", result := .unit }] }]
  classes :=
    [{ origin := ⟨"", "Leaf"⟩, name := ⟨"", "LeafNative"⟩, shape := .class ⟨"", "Leaf"⟩ none
       supertypes := [⟨"", "MiddleNativeProtocol"⟩, ⟨"", "LeafNativeProtocol"⟩]
       methods := [{ name := "close", result := .unit, isOverride := true
                     body? := some ⟨.direct, .method "close" []⟩ }] }]

/-- The interfaces of three levels. -/
def InterfaceTable.threeLevels : InterfaceTable where
  wrappers := WrapperModel.threeLevels.interfaces
  nodup := by decide

namespace Batch

theorem interfaceTable_threeLevels :
    threeLevels.interfaceTable {} = .ok InterfaceTable.threeLevels := by
  cbv

theorem generate_threeLevels : threeLevels.generate {} = .ok WrapperModel.threeLevels := by
  refine generate_eq_ok_iff.mpr
    ⟨.empty, InterfaceTable.threeLevels, ?_, interfaceTable_threeLevels, ?_, rfl, rfl, ?_⟩
  · rfl
  · cbv
  · decide

end Batch

/-! ## A session that falls back to a scope -/

/-- A provider of scopes. -/
def Declaration.mainScope : Declaration where
  name := ⟨"app.di", "MainScope"⟩
  kind := .class
  supertypes := [RuntimeTypes.scopeProviderName {}]
  markers := { exportedScopeProvider := true }

/-- A session below a clock, with members of every way of delivery, and the scope provider that it
falls back to, which is in another package. -/
def Batch.session : Batch where
  declarations :=
    [{ name := ⟨"app", "Session"⟩, kind := .class, supertypes := [⟨"app", "Clock"⟩]
       methods := [{ name := "user", result? := some ⟨⟨"", "User"⟩, [], false⟩, suspending := true }]
       properties := [{ name := "title", type := ⟨⟨"kotlin", "String"⟩, [], true⟩ }]
       markers :=
        { interface? := some {}
          class? := some { launchOnScope? := some ⟨"app.di", "MainScope"⟩ } } },
     { name := ⟨"app", "Clock"⟩, kind := .interface
       methods :=
        [{ name := "ticks"
           result? := some ⟨StreamKind.flow.qualifiedName, [⟨⟨"kotlin", "Int"⟩, [], false⟩], false⟩ }]
       markers := { interface? := some {} } },
     .mainScope]
  nodup := by decide

/-- The accessors of the session's batch. -/
def AccessorTable.session : AccessorTable where
  accessors :=
    [{ name := ⟨"app.di", "exportedScopeProvider_mainScope"⟩, provider := ⟨"app.di", "MainScope"⟩ }]
  nodup := by decide

/-- The interfaces of the session's batch. -/
def InterfaceTable.session : InterfaceTable where
  wrappers :=
    [{ origin := ⟨"app", "Clock"⟩, name := ⟨"app", "ClockNativeProtocol"⟩
       methods :=
        [{ name := "ticks"
           result := ⟨RuntimeTypes.flowWrapperName {}, [⟨⟨"kotlin", "Int"⟩, [], false⟩], false⟩ }] },
     { origin := ⟨"app", "Session"⟩, name := ⟨"app", "SessionNativeProtocol"⟩
       supertypes := [⟨"app", "ClockNativeProtocol"⟩]
       methods :=
        [{ name := "user"
           result := ⟨RuntimeTypes.suspendWrapperName {}, [⟨⟨"", "User"⟩, [], false⟩], false⟩ }]
       properties := [{ name := "title", type := ⟨⟨"kotlin", "String"⟩, [], true⟩ }] }]
  nodup := by decide

/-- What is generated for the session. -/
def WrapperModel.session : WrapperModel where
  accessors := AccessorTable.session.accessors
  interfaces := InterfaceTable.session.wrappers
  classes :=
    [{ origin := ⟨"app", "Session"⟩, name := ⟨"app", "SessionNative"⟩
       shape :=
        .class ⟨"app", "Session"⟩ (some ⟨"app.di", "exportedScopeProvider_mainScope"⟩)
       supertypes := [⟨"app", "ClockNativeProtocol"⟩, ⟨"app", "SessionNativeProtocol"⟩]
       methods :=
        [{ name := "user"
           result := ⟨RuntimeTypes.suspendWrapperName {}, [⟨⟨"", "User"⟩, [], false⟩], false⟩
           isOverride := true
           body? := some ⟨.deferred, .method "user" []⟩ },
         { name := "ticks"
           result := ⟨RuntimeTypes.flowWrapperName {}, [⟨⟨"kotlin", "Int"⟩, [], false⟩], false⟩
           isOverride := true
           body? := some ⟨.streamed, .method "ticks" []⟩ }]
       properties :=
        [{ name := "title", type := ⟨⟨"kotlin", "String"⟩, [], true⟩, isOverride := true
           getter? := some ⟨.direct, .property "title"⟩ }] }]

namespace Batch

theorem exposesScope_mainScope : session.exposesScope .mainScope {} = true := by
  rw [exposesScope, Bool.or_eq_true]
  exact .inl (List.any_eq_true.mpr ⟨.mainScope, self_mem_lineage, by decide⟩)

theorem accessorTable_session : session.accessorTable {} = .ok AccessorTable.session := by
  have exported : session.scopeProviders = [.mainScope] := by cbv
  have built :
      session.accessor {} .mainScope =
        .ok ⟨⟨"app.di", "exportedScopeProvider_mainScope"⟩, ⟨"app.di", "MainScope"⟩, .public⟩ := by
    rw [accessor, exposesScope_mainScope]
    rfl
  rw [accessorTable_eq_ok_iff, exported, List.mapM_cons, built]
  rfl

theorem interfaceTable_session : session.interfaceTable {} = .ok InterfaceTable.session := by
  cbv

theorem classWrappers_session :
    session.classWrappers {} InterfaceTable.session AccessorTable.session =
      .ok WrapperModel.session.classes := by
  cbv

theorem generate_session : session.generate {} = .ok WrapperModel.session := by
  refine generate_eq_ok_iff.mpr
    ⟨AccessorTable.session, InterfaceTable.session, accessorTable_session, interfaceTable_session,
      classWrappers_session, rfl, rfl, ?_⟩
  rw [WrapperModel.collision?_nil_eq_none_iff]
  decide

end Batch

end NativeWrappers
