import NativeWrappers.Proofs.Source.Layout
import NativeWrappers.Proofs.Source.NameTable
import NativeWrappers.Proofs.Source.SpelledNames
import NativeWrappers.Proofs.WrapperModel
/-!
# What a file imports

The imports of a file are made of the names that it is said to refer to, and its body is produced
apart from them. Because every file of a generated model spells just those names, its imports are
exact: whatever it spells by its simple name from elsewhere is imported, each import is spelled, and
an import never meets another name under its simple name. The text of the file has one line for each
import, and the body after them.
-/

namespace NativeWrappers

namespace Source.Document

variable {document : Document} {name other : QualifiedName}

/-- The body spells the name, and by its simple name. -/
def SpellsShort (document : Document) (name : QualifiedName) : Prop :=
  name ∈ document.spelledNames ∧ document.table.spell name = escape name.simple

/-- The package is one that the file does not see without imports. -/
def IsForeign (document : Document) (package : String) : Prop :=
  package ≠ "" ∧ package ≠ "kotlin" ∧ package ≠ document.declared.package

/-- The imports are just what the body needs, which is all that follows them in the text. -/
structure ImportsExactly (document : Document) : Prop where
  complete : ∀ name, document.SpellsShort name → document.IsForeign name.package →
    name ∈ document.table.imports
  used : ∀ name ∈ document.table.imports, document.SpellsShort name
  foreign : ∀ name ∈ document.table.imports, document.IsForeign name.package
  distinct : (document.table.imports.map (·.simple)).Nodup
  notDeclared : ∀ name ∈ document.table.imports, name.simple ≠ document.declared.simple
  unshared : ∀ name ∈ document.table.imports, ∀ other, document.SpellsShort other →
    other.simple = name.simple → other = name

/-- A file that spells just the names it is said to refer to imports exactly. -/
theorem importsExactly_of_mem_iff
    (agree : ∀ name, name ∈ document.spelledNames ↔ name ∈ document.referenced) :
    document.ImportsExactly := by
  have referenced (name : QualifiedName) :
      name ∈ document.table.referenced ↔ name ∈ document.spelledNames :=
    NameTable.mem_referenced_ofNames.trans (agree name).symm
  constructor
  case complete =>
    rintro name ⟨spelled, short⟩ ⟨packaged, notBuiltIn, notAtHome⟩
    have known : document.table.Knows name := Or.inr ((referenced name).mpr spelled)
    apply NameTable.mem_imports_of_not_writesInFull known _ packaged
    · rintro (isDeclared | ⟨_, atHome | builtIn⟩)
      · exact notAtHome (congrArg QualifiedName.package isDeclared)
      · exact notAtHome atHome
      · exact notBuiltIn builtIn
    · exact NameTable.not_writesInFull_of_spell_eq packaged short
  case used =>
    intro name imported
    exact ⟨(referenced name).mp (NameTable.mem_referenced_of_mem_imports imported),
      NameTable.spell_of_mem_imports imported⟩
  case foreign =>
    intro name imported
    have hidden : ¬ document.table.Claims name := fun claims =>
      NameTable.not_claims_of_mem_imports imported claims rfl
    have inTable := NameTable.mem_referenced_of_mem_imports imported
    refine ⟨(NameTable.mem_imports_iff.mp imported).2.2, ?_, ?_⟩
    · intro builtIn
      exact hidden (Or.inr ⟨inTable, Or.inr builtIn⟩)
    · intro atHome
      exact hidden (Or.inr ⟨inTable, Or.inl atHome⟩)
  case distinct =>
    exact document.table.nodup_simple_imports
  case notDeclared =>
    intro name imported same
    exact NameTable.not_claims_of_mem_imports imported (Or.inl rfl) same.symm
  case unshared =>
    rintro name imported other ⟨spelled, _⟩ same
    exact NameTable.eq_of_mem_imports imported (Or.inr ((referenced other).mpr spelled)) same

end Source.Document

/-- The documents of all outputs, accessors first, then interfaces, then classes. -/
def WrapperModel.documents (runtime : RuntimeTypes) (model : WrapperModel) :
    List Source.Document :=
  model.accessors.map Source.accessorDocument ++
    (model.interfaces ++ model.classes).map (Source.wrapperDocument runtime)

theorem WrapperModel.map_declared_documents {runtime : RuntimeTypes} {model : WrapperModel} :
    (model.documents runtime).map (·.declared) = model.outputs.map (·.1) := by
  simp only [documents, outputs, List.map_append, List.map_map]
  rfl

theorem Output.files_ofModel {runtime : RuntimeTypes} {model : WrapperModel} :
    (Output.ofModel runtime model).files =
      (model.documents runtime).map SourceFile.ofDocument := by
  rw [WrapperModel.documents, List.map_append, List.map_map, List.map_map]
  rfl

namespace Batch

variable {batch : Batch} {conventions : Conventions} {model : WrapperModel}

theorem constructsTypes_of_generate (generated : batch.generate conventions = .ok model)
    {wrapper : Wrapper} (member : wrapper ∈ model.interfaces ++ model.classes) :
    Source.ConstructsTypes conventions.runtime wrapper := by
  rcases List.mem_append.mp member with isInterface | isClass
  · rcases exists_interfaceWrapper_of_generate generated isInterface with ⟨_, _, _, built⟩
    exact constructsTypes_of_interfaceWrapper built
  · rcases exists_classWrapper_of_generate generated isClass with ⟨_, _, _, _, built⟩
    exact constructsTypes_of_classWrapper built

theorem importsExactly_of_mem_documents (generated : batch.generate conventions = .ok model)
    {document : Source.Document} (member : document ∈ model.documents conventions.runtime) :
    document.ImportsExactly := by
  apply Source.Document.importsExactly_of_mem_iff
  intro name
  rcases List.mem_append.mp member with ofAccessor | ofWrapper
  · rcases List.mem_map.mp ofAccessor with ⟨accessor, _, rfl⟩
    exact Source.mem_spelledNames_accessorDocument_iff
  · rcases List.mem_map.mp ofWrapper with ⟨wrapper, wrapperMember, rfl⟩
    have constructs := constructsTypes_of_generate generated wrapperMember
    exact Source.mem_spelledNames_wrapperDocument_iff constructs

/-- Each output of a generated model is rendered to one file. Its text has the imports and then the
body of the document that declares the output, and the imports are exactly what the body needs. -/
theorem importsExactly_of_generate (generated : batch.generate conventions = .ok model) :
    (model.documents conventions.runtime).map (·.declared) = model.outputs.map (·.1) ∧
      List.Forall₂ (fun file document => file.Renders document ∧ document.ImportsExactly)
        (Output.ofModel conventions.runtime model).files
        (model.documents conventions.runtime) := by
  refine ⟨WrapperModel.map_declared_documents, ?_⟩
  rw [Output.files_ofModel, List.forall₂_map_left_iff, List.forall₂_same]
  intro document member
  exact ⟨SourceFile.renders_ofDocument document, importsExactly_of_mem_documents generated member⟩

theorem importsExactly_session :
    session.generate {} = .ok WrapperModel.session ∧
      (WrapperModel.session.documents {}).map (·.declared) =
        [⟨"app.di", "exportedScopeProvider_mainScope"⟩, ⟨"app", "ClockNativeProtocol"⟩,
          ⟨"app", "SessionNativeProtocol"⟩, ⟨"app", "SessionNative"⟩] ∧
      List.Forall₂ (fun file document => file.Renders document ∧ document.ImportsExactly)
        (Output.ofModel {} .session).files (WrapperModel.session.documents {}) :=
  ⟨generate_session, importsExactly_of_generate generate_session⟩

end Batch

end NativeWrappers
