import NativeWrappers.Proofs.WrapperModel
/-!
# Supertypes that are listed more than once

A wrapper extends the interfaces of the direct supertypes that have one. A class names each of these
interfaces once, however often its declaration names the supertype. An interface names them as its
declaration does. So the only repetitions in a model are in interfaces, and they are those of marked
supertypes in the declarations of the interface targets.
-/

namespace NativeWrappers

/-- No wrapper names a supertype twice. -/
def WrapperModel.ListsSupertypesOnce (model : WrapperModel) : Prop :=
  ∀ wrapper ∈ model.interfaces ++ model.classes, wrapper.supertypes.Nodup

namespace InterfaceTable

variable {table : InterfaceTable}

theorem map_origin_filterMap_get? (table : InterfaceTable) (names : List QualifiedName) :
    (names.filterMap table.get?).map (·.origin) = names.filter table.contains := by
  induction names with
  | nil => rfl
  | cons name rest ih =>
      rw [List.filterMap_cons, List.filter_cons, contains]
      rcases found : table.get? name with _ | wrapper
      · exact ih
      · rw [List.map_cons, ih, origin_of_get? found]
        rfl

/-- Where interfaces have distinct names, the names of those of some declarations repeat exactly as
the declarations do. -/
theorem nodup_names_filterMap_get?_iff (distinct : (table.wrappers.map (·.name)).Nodup)
    {names : List QualifiedName} :
    ((names.filterMap table.get?).map (·.name)).Nodup ↔ (names.filter table.contains).Nodup := by
  have known : ∀ wrapper ∈ names.filterMap table.get?, wrapper ∈ table.wrappers := by
    intro wrapper member
    rcases List.mem_filterMap.mp member with ⟨_, _, found⟩
    exact mem_of_get? found
  rw [← map_origin_filterMap_get?]
  -- both the name and the origin tell the interfaces of a table apart
  constructor
  · intro namesDistinct
    exact namesDistinct.of_map.map_on fun first firstMember second secondMember =>
      List.inj_on_of_nodup_map table.nodup (known first firstMember) (known second secondMember)
  · intro originsDistinct
    exact originsDistinct.of_map.map_on fun first firstMember second secondMember =>
      List.inj_on_of_nodup_map distinct (known first firstMember) (known second secondMember)

end InterfaceTable

namespace Batch

variable {batch : Batch} {conventions : Conventions} {model : WrapperModel}

/-- The direct supertypes that are marked for interface generation, as often as they are named. -/
def markedSupertypes (batch : Batch) (declaration : Declaration) : List QualifiedName :=
  declaration.supertypes.filter batch.isInterfaceTarget

theorem nodup_supertypes_of_classWrapper {interfaces : InterfaceTable} {accessors : AccessorTable}
    {declaration : Declaration} {name : QualifiedName} {wrapper : Wrapper}
    (built : batch.classWrapper conventions interfaces accessors declaration name = .ok wrapper) :
    wrapper.supertypes.Nodup := by
  rw [(mirrors_of_classWrapper built).supertypes]
  exact nodup_map_distinctBy _

theorem nodup_supertypes_iff_of_interfaceWrapper {table : InterfaceTable}
    {order : List Declaration} {target : Declaration} {name : QualifiedName} {wrapper : Wrapper}
    (settled : batch.Settled conventions order table)
    (reordered : order.Perm batch.interfaceTargets)
    (distinct : (table.wrappers.map (·.name)).Nodup)
    (built : batch.interfaceWrapper conventions table target name = .ok wrapper) :
    wrapper.supertypes.Nodup ↔ (batch.markedSupertypes target).Nodup := by
  rw [(mirrors_of_interfaceWrapper built).supertypes,
    InterfaceTable.nodup_names_filterMap_get?_iff distinct, settled.contains_eq reordered,
    markedSupertypes]

/-- A model names every supertype once exactly when no interface target names a marked supertype
twice. The class of a declaration never names one twice, and its interface does exactly when the
declaration itself does. -/
theorem listsSupertypesOnce_iff (generated : batch.generate conventions = .ok model) :
    (model.ListsSupertypesOnce ↔
        ∀ target ∈ batch.interfaceTargets, (batch.markedSupertypes target).Nodup) ∧
      (∀ wrapper ∈ model.classes, wrapper.supertypes.Nodup) ∧
      ∀ wrapper ∈ model.interfaces, ∃ target ∈ batch.interfaceTargets,
        target.name = wrapper.origin ∧
          (wrapper.supertypes.Nodup ↔ (batch.markedSupertypes target).Nodup) := by
  rcases exists_settled_of_generate generated with
    ⟨accessors, table, order, sameInterfaces, distinct, reordered, _, settled, classesBuilt⟩
  have ofClass : ∀ wrapper ∈ model.classes, wrapper.supertypes.Nodup := by
    intro wrapper member
    rcases exists_input_of_mapM_eq_ok classesBuilt member with ⟨target, _, built⟩
    exact nodup_supertypes_of_classWrapper built
  refine ⟨⟨fun once target member => ?_, fun marked => ?_⟩, ofClass, ?_⟩
  · rcases settled.generated target (reordered.mem_iff.mpr member) with
      ⟨wrapper, wrapperMember, built⟩
    rw [← sameInterfaces] at wrapperMember
    exact (nodup_supertypes_iff_of_interfaceWrapper settled reordered distinct built).mp
      (once wrapper (List.mem_append_left _ wrapperMember))
  · intro wrapper member
    rcases List.mem_append.mp member with isInterface | isClass
    · rw [sameInterfaces] at isInterface
      rcases settled.exists_target isInterface with ⟨target, targetMember, built⟩
      exact (nodup_supertypes_iff_of_interfaceWrapper settled reordered distinct built).mpr
        (marked target (reordered.mem_iff.mp targetMember))
    · exact ofClass wrapper isClass
  · intro wrapper member
    rw [sameInterfaces] at member
    rcases settled.exists_target member with ⟨target, targetMember, built⟩
    exact ⟨target, reordered.mem_iff.mp targetMember, (origin_of_interfaceWrapper built).symm,
      nodup_supertypes_iff_of_interfaceWrapper settled reordered distinct built⟩

/-- An alarm that names each of its supertypes twice and is marked for a class only. -/
def alarm : Batch where
  declarations :=
    [{ name := ⟨"", "Clock"⟩, kind := .interface, methods := [{ name := "tick" }]
       markers := { interface? := some {} } },
     { name := ⟨"", "Alarm"⟩, kind := .class
       supertypes := [⟨"", "Clock"⟩, ⟨"", "Bell"⟩, ⟨"", "Clock"⟩, ⟨"", "Bell"⟩]
       markers := { class? := some {} } },
     { name := ⟨"", "Bell"⟩, kind := .interface, methods := [{ name := "ring" }] }]
  nodup := by decide

/-- A timer that names its supertype twice and is marked for an interface. -/
def timer : Batch where
  declarations :=
    [{ name := ⟨"", "Clock"⟩, kind := .interface, markers := { interface? := some {} } },
     { name := ⟨"", "Timer"⟩, kind := .interface, supertypes := [⟨"", "Clock"⟩, ⟨"", "Clock"⟩]
       markers := { interface? := some {} } }]
  nodup := by decide

end Batch

/-- What is generated for the alarm. -/
def WrapperModel.alarm : WrapperModel where
  interfaces :=
    [{ origin := ⟨"", "Clock"⟩, name := ⟨"", "ClockNativeProtocol"⟩
       methods := [{ name := "tick", result := .unit }] }]
  classes :=
    [{ origin := ⟨"", "Alarm"⟩, name := ⟨"", "AlarmNative"⟩, shape := .class ⟨"", "Alarm"⟩ none
       supertypes := [⟨"", "ClockNativeProtocol"⟩]
       methods :=
        [{ name := "tick", result := .unit, isOverride := true
           body? := some ⟨.direct, .method "tick" []⟩ },
         { name := "ring", result := .unit, body? := some ⟨.direct, .method "ring" []⟩ }] }]

/-- The interfaces of the timer's batch. -/
def InterfaceTable.timer : InterfaceTable where
  wrappers :=
    [{ origin := ⟨"", "Clock"⟩, name := ⟨"", "ClockNativeProtocol"⟩ },
     { origin := ⟨"", "Timer"⟩, name := ⟨"", "TimerNativeProtocol"⟩
       supertypes := [⟨"", "ClockNativeProtocol"⟩, ⟨"", "ClockNativeProtocol"⟩] }]
  nodup := by decide

namespace Batch

theorem generate_alarm : alarm.generate {} = .ok .alarm := by
  have interfaces : alarm.interfaceTable {} =
      .ok { wrappers := WrapperModel.alarm.interfaces, nodup := by decide } := by
    cbv
  refine generate_eq_ok_iff.mpr ⟨.empty, _, rfl, interfaces, ?_, rfl, rfl, ?_⟩
  · cbv
  · decide

theorem generate_timer : timer.generate {} = .ok { interfaces := InterfaceTable.timer.wrappers } := by
  have interfaces : timer.interfaceTable {} = .ok InterfaceTable.timer := by
    cbv
  refine generate_eq_ok_iff.mpr ⟨.empty, _, rfl, interfaces, rfl, rfl, rfl, ?_⟩
  decide

/-- The class of the alarm extends the interface of the clock once. -/
theorem listsSupertypesOnce_alarm :
    alarm.generate {} = .ok .alarm ∧ WrapperModel.alarm.ListsSupertypesOnce := by
  refine ⟨generate_alarm, (listsSupertypesOnce_iff generate_alarm).1.mpr ?_⟩
  decide

/-- The interface of the timer extends that of the clock twice. -/
theorem not_listsSupertypesOnce_timer :
    timer.generate {} = .ok { interfaces := InterfaceTable.timer.wrappers } ∧
      ¬ WrapperModel.ListsSupertypesOnce { interfaces := InterfaceTable.timer.wrappers } := by
  refine ⟨generate_timer, fun once => ?_⟩
  have repeats : ¬ InterfaceTable.timer.wrappers[1].supertypes.Nodup := by decide
  exact repeats (once _ (by decide))

end Batch

end NativeWrappers
