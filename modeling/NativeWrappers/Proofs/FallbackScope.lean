import NativeWrappers.Proofs.ScopeCapability
import NativeWrappers.Proofs.Source.Constructor
import NativeWrappers.Proofs.Visibility
/-!
# The scope that a class falls back to

An exported provider passes the check of its accessor on one of two grounds: it is a subtype of the
runtime's capability interface, or it merely has a property `scope` of the right type. The
constructor of a generated class takes the capability interface and nothing else. So the accessor
that a class falls back to fits the constructor exactly when the provider passes on the first
ground.
-/

namespace NativeWrappers

namespace Batch

variable {batch : Batch} {conventions : Conventions} {model : WrapperModel}
  {declaration : Declaration} {type : QualifiedName}

/-- The class passes its fallback for a parameter whose type it fits: in the file of the class the
parameter has the type of the capability, and in the file of the accessor, which is the only one of
that name, the value has the type of a declaration that is a subtype. -/
structure FallbackFits (batch : Batch) (runtime : RuntimeTypes) (model : WrapperModel)
    (wrapper : Wrapper) (fallback : QualifiedName) : Prop where
  parameter : (Source.wrapperDocument runtime wrapper).Declares
    (Source.fieldLead Source.scopeField) runtime.scopeProviderName
  argument : (Source.wrapperDocument runtime wrapper).PassesAsScope (.name fallback)
  value : ∃ accessor, model.accessors.filter (·.name == fallback) = [accessor] ∧
    ∃ provider ∈ batch.declarations,
      (Source.accessorDocument accessor).Declares (Source.accessorLead accessor) provider.name ∧
        batch.IsSubtype runtime.scopeProviderName provider

theorem fallbackScope?_eq_some_iff {accessors : AccessorTable} {fallback : QualifiedName} :
    fallbackScope? accessors declaration = .ok (some fallback) ↔
      ∃ accessor, declaration.markers.class?.bind (·.launchOnScope?) = some accessor.provider ∧
        accessors.get? accessor.provider = some accessor ∧ accessor.name = fallback := by
  rw [fallbackScope?]
  split
  · next none => simp [none]
  · next provider marker =>
      split
      · next accessor found =>
          simp only [marker, Except.ok.injEq, Option.some.injEq]
          constructor
          · rintro rfl
            have exposes := AccessorTable.provider_of_get? found
            exact ⟨accessor, exposes.symm, exposes ▸ found, rfl⟩
          · rintro ⟨other, rfl, otherFound, rfl⟩
            rw [found] at otherFound
            cases otherFound
            rfl
      · next absent =>
          simp only [marker, reduceCtorEq, Option.some.injEq, false_iff, not_exists]
          rintro accessor ⟨rfl, found, _⟩
          rw [absent] at found
          cases found

/-- The words of an accessor's file declare one type. -/
theorem eq_of_declares_accessorDocument {accessor : Accessor}
    (declares : (Source.accessorDocument accessor).Declares (Source.accessorLead accessor) type) :
    type = accessor.provider := by
  rcases declares with ⟨line, member, rest, pieces⟩
  rw [List.mem_singleton.mp member] at pieces
  simp only [List.cons.injEq, Source.Piece.name.injEq] at pieces
  exact pieces.2.1.symm

/-- A class that falls back to an accessor launches on an exported provider. The fallback fits the
constructor exactly when the provider is a subtype of the capability. One that is not has a property
`scope` instead. -/
theorem fallbackFits_iff_isSubtype (generated : batch.generate conventions = .ok model) :
    ∀ wrapper ∈ model.classes, ∀ wrapped fallback, wrapper.shape = .class wrapped (some fallback) →
      ∃ target ∈ batch.classTargets, ∃ provider ∈ batch.scopeProviders,
        target.name = wrapper.origin ∧
        target.markers.class?.bind (·.launchOnScope?) = some provider.name ∧
        (batch.FallbackFits conventions.runtime model wrapper fallback ↔
          batch.IsSubtype conventions.runtime.scopeProviderName provider) ∧
        (batch.IsSubtype conventions.runtime.scopeProviderName provider ∨
          batch.HasScopeProperty provider) := by
  rcases generate_eq_ok_iff.mp generated with
    ⟨accessors, _, accessorsBuilt, _, classesBuilt, sameAccessors, _⟩
  intro wrapper wrapperMember wrapped fallback shape
  rcases exists_input_of_mapM_eq_ok classesBuilt wrapperMember with ⟨target, targetMember, built⟩
  rcases classWrapper_eq_ok_iff.mp built with ⟨_, scope?, _, _, scopeFound, _, _, equal⟩
  have isFallback : scope? = some fallback := by
    rw [equal] at shape
    exact (Shape.class.inj shape).2
  rw [isFallback, fallbackScope?_eq_some_iff] at scopeFound
  rcases scopeFound with ⟨accessor, marker, found, rfl⟩
  have accessorMember : accessor ∈ accessors.accessors := List.mem_of_find?_eq_some found
  rcases exists_input_of_mapM_eq_ok (accessorTable_eq_ok_iff.mp accessorsBuilt) accessorMember with
    ⟨provider, providerMember, accessorBuilt⟩
  have exposes : accessor.provider = provider.name := provider_of_accessor accessorBuilt
  have inBatch : provider ∈ batch.declarations := List.mem_of_mem_filter providerMember
  have only : model.accessors.filter (·.name == accessor.name) = [accessor] := by
    rw [sameAccessors]
    exact filter_key_eq_singleton accessors.nodup accessorMember
  refine ⟨target, targetMember, provider, providerMember, ?_, ?_, ?_, ?_⟩
  · exact (origin_of_classWrapper built).symm
  · rw [marker, exposes]
  · constructor
    · intro fits
      rcases fits.value with ⟨other, onlyOther, valueType, valueTypeMember, declares, subtype⟩
      have sameAccessor : other = accessor := List.singleton_inj.mp (onlyOther.symm.trans only)
      have named : valueType.name = provider.name := by
        rw [sameAccessor] at declares
        rw [eq_of_declares_accessorDocument declares, exposes]
      rwa [List.inj_on_of_nodup_map batch.nodup valueTypeMember inBatch named] at subtype
    · intro subtype
      refine ⟨Source.declares_scopeField shape, Source.passesAsScope_fallbackPiece shape, ?_⟩
      refine ⟨accessor, only, provider, inBatch, ?_, subtype⟩
      rw [← exposes]
      exact Source.declares_accessorDocument accessor
  · apply (exposesScope_iff inBatch).mp
    exact (accepted_of_generate generated).providersCapable provider providerMember

/-- The session falls back to a scope that lists the capability. -/
theorem fallbackFits_session :
    session.generate {} = .ok WrapperModel.session ∧
      ∀ wrapper ∈ WrapperModel.session.classes,
        session.FallbackFits {} WrapperModel.session wrapper
          ⟨"app.di", "exportedScopeProvider_mainScope"⟩ := by
  refine ⟨generate_session, ?_⟩
  intro wrapper member
  have shape : wrapper.shape =
      .class ⟨"app", "Session"⟩ (some ⟨"app.di", "exportedScopeProvider_mainScope"⟩) := by
    rw [List.mem_singleton.mp member]
  rcases fallbackFits_iff_isSubtype generate_session wrapper member _ _ shape with
    ⟨_, _, provider, providerMember, _, _, fits, _⟩
  have exported : session.scopeProviders = [.mainScope] := by cbv
  rw [exported] at providerMember
  apply fits.mpr
  rw [List.mem_singleton.mp providerMember]
  exact .listed List.mem_cons_self

/-- A repository that falls back to a scope, which is not a subtype of the capability but has the
property. -/
def repository : Batch where
  declarations :=
    [{ name := ⟨"", "MainScope"⟩, kind := .class
       properties :=
        [{ name := "scope", type := ⟨⟨"kotlinx.coroutines", "CoroutineScope"⟩, [], false⟩ }]
       markers := { exportedScopeProvider := true } },
     { name := ⟨"", "Repository"⟩, kind := .class
       markers := { class? := some { launchOnScope? := some ⟨"", "MainScope"⟩ } } }]
  nodup := by decide

end Batch

/-- The accessor of the repository's scope. -/
def AccessorTable.repository : AccessorTable where
  accessors := [{ name := ⟨"", "exportedScopeProvider_mainScope"⟩, provider := ⟨"", "MainScope"⟩ }]
  nodup := by decide

/-- The class of the repository. -/
def Wrapper.repository : Wrapper where
  origin := ⟨"", "Repository"⟩
  name := ⟨"", "RepositoryNative"⟩
  shape := .class ⟨"", "Repository"⟩ (some ⟨"", "exportedScopeProvider_mainScope"⟩)

/-- What is generated for the repository. -/
def WrapperModel.repository : WrapperModel where
  accessors := AccessorTable.repository.accessors
  classes := [.repository]

namespace Batch

theorem accessorTable_repository :
    repository.accessorTable {} = .ok AccessorTable.repository := by
  have exported : repository.scopeProviders = [repository.declarations[0]] := by cbv
  have exposes : repository.exposesScope repository.declarations[0] {} = true := by cbv
  have built : repository.accessor {} repository.declarations[0] =
      .ok ⟨⟨"", "exportedScopeProvider_mainScope"⟩, ⟨"", "MainScope"⟩, .public⟩ := by
    rw [accessor, exposes]
    rfl
  rw [accessorTable_eq_ok_iff, exported, List.mapM_cons, built]
  rfl

theorem generate_repository : repository.generate {} = .ok WrapperModel.repository := by
  refine generate_eq_ok_iff.mpr
    ⟨AccessorTable.repository, .empty, accessorTable_repository, ?_, ?_, rfl, rfl, ?_⟩
  · cbv
  · cbv
  · decide

/-- The repository's constructor takes the capability interface and passes a value of another
type. -/
theorem not_fallbackFits_repository :
    repository.generate {} = .ok WrapperModel.repository ∧
      ¬ repository.FallbackFits {} WrapperModel.repository .repository
        ⟨"", "exportedScopeProvider_mainScope"⟩ := by
  refine ⟨generate_repository, ?_⟩
  intro fits
  have noSupertypes : ∀ declaration ∈ repository.declarations, declaration.supertypes = [] := by
    decide
  rcases fits.value with ⟨_, _, provider, providerMember, _, subtype⟩
  have none := noSupertypes provider providerMember
  cases subtype with
  | listed listed =>
      rw [none] at listed
      cases listed
  | above lists _ =>
      have listed := lists.2
      rw [none] at listed
      cases listed

end Batch

end NativeWrappers
