import NativeWrappers.Proofs.Hierarchy.DepthFirst
import NativeWrappers.Proofs.ScopeCapability
import NativeWrappers.Proofs.Visibility
/-!
# What the check of a scope provider decides

An exported class provides a scope if it is a subtype of the runtime's capability interface, or if
it ends up with a property `scope` of the coroutine scope type. The check decides the first of these
as it stands, and one walk that visits no declaration twice is enough for it. Of the type of the
property it reads the name only. So it also lets a scope pass that may be absent, and it decides
whether a scope is provided exactly where no such property is the only ground.
-/

namespace NativeWrappers

/-- The type of execution scopes, not nullable. -/
def TypeExpr.coroutineScope : TypeExpr := { name := ⟨"kotlinx.coroutines", "CoroutineScope"⟩ }

/-- The first reachable property `scope` of the declaration itself. -/
def Declaration.scopeProperty? (declaration : Declaration) : Option Property :=
  declaration.reachableProperties.find? (·.name == "scope")

namespace Batch

variable {batch : Batch} {conventions : Conventions} {provider : Declaration}

/-! ## The property that a provider ends up with -/

/-- The property `scope` among the members that were collected for the declaration. -/
def scopeProperty? (batch : Batch) (declaration : Declaration) : Option Property :=
  (batch.members declaration).properties.find? (·.name == "scope")

theorem scopeProperty?_eq_findSome? (batch : Batch) (declaration : Declaration) :
    batch.scopeProperty? declaration
      = (batch.ancestry declaration).findSome? (·.scopeProperty?) := by
  rw [scopeProperty?, members, Members.ofLineage, find?_distinctBy, List.find?_flatMap]
  rfl

/-- The search for a scope above a declaration goes through the ancestors depth first and visits
none of them twice. -/
structure Searches (batch : Batch) (declaration : Declaration) (above : List Declaration) :
    Prop where
  ancestry : batch.ancestry declaration = declaration :: above
  depthFirst : ∀ order,
    batch.DepthFirst [declaration.name] declaration.supertypes order ↔ order = above
  visitedOnce : ((declaration :: above).map (·.name)).Nodup
  inBatch : above ⊆ batch.declarations

theorem exists_searches (batch : Batch) (declaration : Declaration) :
    ∃ above, batch.Searches declaration above := by
  have started : batch.unvisited [declaration.name]
      = withoutName batch.declarations declaration.name := by
    rw [← withoutName_unvisited]
    simp [unvisited]
  have walk := batch.depthFirst_preorder [declaration.name] declaration.supertypes
  rw [started] at walk
  exact ⟨_, {
    ancestry := ancestry_eq_cons declaration
    depthFirst := fun order => ⟨fun walk' => walk'.unique walk, fun same => same ▸ walk⟩
    visitedOnce := (flattens_members batch declaration).visitedOnce
    inBatch := fun _ member => (mem_withoutName.mp (preorder_subset _ _ member)).1 }⟩

theorem hasScopeProperty_iff :
    batch.HasScopeProperty provider ↔
      ∃ property, batch.scopeProperty? provider = some property ∧
        property.type.name = TypeExpr.coroutineScope.name := by
  have distinct : ((batch.members provider).properties.map (·.name)).Nodup :=
    nodup_map_distinctBy _
  simp only [HasScopeProperty, scopeProperty?, find?_key_eq_some_iff distinct, isCoroutineScope,
    beq_iff_eq, and_assoc]
  rfl

/-! ## The check -/

/-- The provider exposes an execution scope: it is a subtype of the runtime's capability interface,
or it ends up with a property `scope` of exactly the coroutine scope type. -/
def ProvidesScope (batch : Batch) (runtime : RuntimeTypes) (provider : Declaration) : Prop :=
  batch.IsSubtype runtime.scopeProviderName provider ∨
    ∃ property, batch.scopeProperty? provider = some property ∧
      property.type = TypeExpr.coroutineScope

/-- The check of this provider goes by whether it is capable. One that is not capable is named, and
there is no table of accessors then, if the providers before it have theirs. -/
structure DecidesCapability (batch : Batch) (conventions : Conventions) (provider : Declaration)
    (capable : Prop) : Prop where
  passes : capable → ∃ accessor, batch.accessor conventions provider = .ok accessor
  refuses : ¬ capable →
    batch.accessor conventions provider = .error (.missingScopeCapability provider.name)
  stops : ¬ capable → ∀ earlier later accessors,
    batch.scopeProviders = earlier ++ provider :: later →
      earlier.mapM (batch.accessor conventions) = .ok accessors →
        (accessors.map (·.name)).Nodup →
          batch.accessorTable conventions = .error (.missingScopeCapability provider.name)

theorem DecidesCapability.congr_iff {capable capable' : Prop}
    (decides : batch.DecidesCapability conventions provider capable) :
    batch.DecidesCapability conventions provider capable' ↔ (capable' ↔ capable) := by
  constructor
  · intro decides'
    constructor
    · intro capable'
      by_contra incapable
      rcases decides'.passes capable' with ⟨accessor, passed⟩
      rw [decides.refuses incapable] at passed
      cases passed
    · intro capable
      by_contra incapable
      rcases decides.passes capable with ⟨accessor, passed⟩
      rw [decides'.refuses incapable] at passed
      cases passed
  · intro same
    rwa [propext same]

theorem accessor_of_reachable (reachable : provider.IsReachable)
    (isClass : provider.kind = .class) :
    batch.accessor conventions provider =
      if batch.exposesScope provider conventions.runtime then
        .ok ⟨conventions.accessorName provider.name, provider.name, provider.visibility.ofPeer⟩
      else .error (.missingScopeCapability provider.name) := by
  have mirrored : provider.visibility.isReachable = true := Visibility.isReachable_iff.mpr reachable
  have noInterface : provider.isInterface = false := by
    rw [Declaration.isInterface, isClass]
    rfl
  rw [accessor, mirrored, noInterface]
  cases batch.exposesScope provider conventions.runtime <;> rfl

/-- The first provider without an accessor leaves the batch without a table. -/
theorem accessorTable_of_accessor_eq_error {earlier later : List Declaration}
    {accessors : List Accessor} {problem : Problem}
    (split : batch.scopeProviders = earlier ++ provider :: later)
    (built : earlier.mapM (batch.accessor conventions) = .ok accessors)
    (distinct : (accessors.map (·.name)).Nodup)
    (refused : batch.accessor conventions provider = .error problem) :
    batch.accessorTable conventions = .error problem := by
  have before : earlier.foldlM
      (fun table provider => do table.insert (← batch.accessor conventions provider))
      AccessorTable.empty = .ok ⟨accessors, distinct⟩ :=
    foldlM_insert_eq_ok_iff.mpr ⟨accessors, built, rfl⟩
  simp only [accessorTable, split, List.foldlM_append, before, List.foldlM_cons, refused]
  rfl

theorem decidesCapability_of_reachable (exported : provider ∈ batch.scopeProviders)
    (reachable : provider.IsReachable) (isClass : provider.kind = .class) :
    batch.DecidesCapability conventions provider
      (batch.IsSubtype conventions.runtime.scopeProviderName provider ∨
        batch.HasScopeProperty provider) := by
  have member : provider ∈ batch.declarations := List.mem_of_mem_filter exported
  rw [← exposesScope_iff member]
  have refused (incapable : ¬ batch.exposesScope provider conventions.runtime = true) :
      batch.accessor conventions provider = .error (.missingScopeCapability provider.name) := by
    rw [accessor_of_reachable reachable isClass, if_neg incapable]
  refine ⟨?_, refused, ?_⟩
  · intro capable
    rw [accessor_of_reachable reachable isClass, if_pos capable]
    exact ⟨_, rfl⟩
  · intro incapable earlier later accessors split built distinct
    exact accessorTable_of_accessor_eq_error split built distinct (refused incapable)

/-- The check lets an exported class pass exactly if it is a subtype of the capability interface or
ends up with a property `scope` whose type has the name of the coroutine scope type. So it decides
whether a scope is provided exactly if the provider is such a subtype, or the property is of that
type where its type has that name. The search is one walk on every hierarchy, and the property is
the provider's own or the first on this walk. -/
theorem decidesCapability_iff (exported : provider ∈ batch.scopeProviders)
    (reachable : provider.IsReachable) (isClass : provider.kind = .class) :
    (batch.DecidesCapability conventions provider
          (batch.ProvidesScope conventions.runtime provider) ↔
        batch.IsSubtype conventions.runtime.scopeProviderName provider ∨
          ∀ property, batch.scopeProperty? provider = some property →
            property.type.name = TypeExpr.coroutineScope.name →
              property.type = TypeExpr.coroutineScope) ∧
      batch.DecidesCapability conventions provider
        (batch.IsSubtype conventions.runtime.scopeProviderName provider ∨
          ∃ property, batch.scopeProperty? provider = some property ∧
            property.type.name = TypeExpr.coroutineScope.name) ∧
      ∃ above, batch.Searches provider above ∧
        batch.scopeProperty? provider =
          provider.scopeProperty?.or (above.findSome? (·.scopeProperty?)) := by
  have decides : batch.DecidesCapability conventions provider _ :=
    decidesCapability_of_reachable exported reachable isClass
  rw [hasScopeProperty_iff] at decides
  refine ⟨?_, decides, ?_⟩
  · rw [decides.congr_iff, ProvidesScope]
    constructor
    · intro same
      rw [or_iff_not_imp_left]
      intro noSubtype property found named
      rcases same.mpr (.inr ⟨property, found, named⟩) with isSubtype | ⟨other, foundOther, typed⟩
      · exact absurd isSubtype noSubtype
      · rw [found] at foundOther
        cases foundOther
        exact typed
    · rintro (isSubtype | exactType)
      · exact ⟨fun _ => .inl isSubtype, fun _ => .inl isSubtype⟩
      · refine or_congr_right (exists_congr fun property => and_congr_right fun found => ?_)
        exact ⟨fun typed => typed ▸ rfl, exactType property found⟩
  · rcases batch.exists_searches provider with ⟨above, searches⟩
    refine ⟨above, searches, ?_⟩
    rw [scopeProperty?_eq_findSome?, searches.ancestry, List.findSome?_cons]
    cases provider.scopeProperty? <;> rfl

/-- A provider in a cyclic hierarchy, with a scope from its second supertype. -/
def background : Batch where
  declarations :=
    [{ name := ⟨"", "BackgroundScope"⟩, kind := .class, visibility := .internal
       supertypes := [⟨"", "Lifecycle"⟩, ⟨"", "ScopeHolder"⟩]
       markers := { exportedScopeProvider := true } },
     { name := ⟨"", "Lifecycle"⟩, kind := .interface, supertypes := [⟨"", "BackgroundScope"⟩]
       properties := [{ name := "scope", type := .unit, visibility := .private }] },
     { name := ⟨"", "ScopeHolder"⟩, kind := .interface, supertypes := [⟨"", "Lifecycle"⟩]
       properties := [{ name := "scope", type := .coroutineScope }] }]
  nodup := by decide

theorem decidesCapability_background :
    background.DecidesCapability {} background.declarations[0]
      (background.ProvidesScope {} background.declarations[0]) := by
  have inherited : background.scopeProperty? background.declarations[0]
      = some { name := "scope", type := .coroutineScope } := by
    cbv
  refine (decidesCapability_iff (by decide) (by decide) rfl).1.mpr (.inr ?_)
  intro property found _
  rw [inherited] at found
  cases found
  rfl

/-- A provider whose only scope may be absent. -/
def mainScope : Batch where
  declarations :=
    [{ name := ⟨"", "MainScope"⟩, kind := .class
       properties := [{ name := "scope", type := TypeExpr.coroutineScope.asNullable }]
       markers := { exportedScopeProvider := true } }]
  nodup := by decide

/-- The provider passes although it provides no scope. -/
theorem not_decidesCapability_mainScope :
    mainScope.declarations[0] ∈ mainScope.scopeProviders ∧
      mainScope.declarations[0].IsReachable ∧ mainScope.declarations[0].kind = .class ∧
      ¬ mainScope.DecidesCapability {} mainScope.declarations[0]
        (mainScope.ProvidesScope {} mainScope.declarations[0]) := by
  refine ⟨by decide, by decide, rfl, fun decides => ?_⟩
  have own : mainScope.scopeProperty? mainScope.declarations[0]
      = some { name := "scope", type := TypeExpr.coroutineScope.asNullable } := by
    cbv
  have noScope : ¬ mainScope.ProvidesScope {} mainScope.declarations[0] := by
    rintro (subtype | ⟨property, found, typed⟩)
    · cases subtype with
      | listed listed => cases listed
      | above lists => cases lists.2
    · rw [own] at found
      cases found
      exact absurd typed (by decide)
  have exposed : mainScope.exposesScope mainScope.declarations[0] {} = true := by
    cbv
  have refused := decides.refuses noScope
  rw [accessor_of_reachable (by decide) rfl, if_pos exposed] at refused
  cases refused

end Batch

end NativeWrappers
