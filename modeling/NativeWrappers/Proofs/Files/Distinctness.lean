import NativeWrappers.Proofs.Files.Receiving
import NativeWrappers.Proofs.Source.Imports
/-!
# Files that do not overwrite each other

The files of an output declare different names, but a path does not say all of a name: a package
with two dots in a row has the same folders as one with a single dot there. Apart from that, and as
long as no slash is in the names, different names have different paths, and then every file that is
written is still there when the last one is.
-/

namespace NativeWrappers

namespace SourceFile

variable {file other : SourceFile}

/-- What the file declares. -/
def declaredName (file : SourceFile) : QualifiedName := ⟨file.package, file.name⟩

theorem components_path_inj (unslashed : file.IsUnslashed) (otherUnslashed : other.IsUnslashed) :
    file.path.components = other.path.components ↔
      file.folders = other.folders ∧ file.name = other.name := by
  have injective : Function.Injective PathComponent.normal := fun _ _ => PathComponent.normal.inj
  rw [unslashed.components_path, otherUnslashed.components_path, injective.list_map.eq_iff,
    pieces_inj]

/-- The folders of a package without empty segments tell the package. -/
theorem package_eq_intercalate_folders
    (plain : file.package = "" ∨ "" ∉ Text.segments '.' file.package) :
    file.package = ".".intercalate file.folders := by
  rcases plain with isRoot | full
  · rw [folders, isRoot]
    rfl
  · have all : file.folders = Text.segments '.' file.package := by
      rw [folders, List.filter_eq_self]
      intro segment member
      exact decide_eq_true fun empty => full (empty ▸ member)
    rw [all, Text.intercalate_segments]

/-- A file without slashes is located in its folders, wherever the output directory is. -/
theorem IsUnslashed.exists_base_of_locate {files : FileSystem} {root : Path} {location : Location}
    (unslashed : file.IsUnslashed) (located : files.locate (root.join file.path) = .ok location) :
    ∃ base, files.follow (files.start root) root.parts = .ok base ∧
      location = base ++ file.pieces := by
  have relative := (isConfined_iff.mp unslashed.isConfined).1
  have further : Path.steps (root.join file.path).parts = Path.steps root.parts ++ file.pieces := by
    rw [Path.parts_join relative, Path.steps_append, Path.steps_lead, unslashed.steps_path]
  have proper : file.pieces ≠ [] := by simp [pieces]
  have inward : ".." ∉ file.pieces := fun upwards => (unslashed.plain upwards).2.2.1 rfl
  exact FileSystem.exists_base_of_locate (Path.isAbsolute_join relative) further proper inward
    located

end SourceFile

namespace Output

variable {output : Output}

/-- No two files have paths with the same components. -/
def HasDistinctPaths (output : Output) : Prop := (output.files.map (·.path.components)).Nodup

/-- Files with the same name in the same folders are of the same package. -/
def KeepsPackagesApart (output : Output) : Prop :=
  ∀ file ∈ output.files, ∀ other ∈ output.files,
    file.folders = other.folders → file.name = other.name → file.package = other.package

/-- Wherever the output is written, each of its files can be read when all are written. -/
def SurvivesWriting (output : Output) : Prop :=
  ∀ (root : Path) (files files' : FileSystem) (paths : List Path),
    (output.write root : ExceptT Problem (StateM FileSystem) (List Path)).run.run files
        = (.ok paths, files') →
      ∀ file ∈ output.files, files'.readText (root.join file.path) = .ok file.contents

theorem hasDistinctPaths_iff_pairwise :
    output.HasDistinctPaths ↔
      output.files.Pairwise fun file other => file.path.components ≠ other.path.components :=
  List.pairwise_map

theorem nodup_declaredNames_ofModel {runtime : RuntimeTypes} {model : WrapperModel}
    (distinct : (model.outputs.map (·.1)).Nodup) :
    ((ofModel runtime model).files.map SourceFile.declaredName).Nodup := by
  have names :
      (ofModel runtime model).files.map SourceFile.declaredName = model.outputs.map (·.1) := by
    rw [files_ofModel, List.map_map]
    exact WrapperModel.map_declared_documents
  rwa [names]

theorem keepsPackagesApart_of_plain
    (plain : ∀ file ∈ output.files, file.package = "" ∨ "" ∉ Text.segments '.' file.package) :
    output.KeepsPackagesApart := by
  intro file member other otherMember sameFolders _
  rw [SourceFile.package_eq_intercalate_folders (plain file member),
    SourceFile.package_eq_intercalate_folders (plain other otherMember), sameFolders]

variable (unslashed : ∀ file ∈ output.files, file.IsUnslashed)

include unslashed

theorem hasDistinctPaths_iff (distinct : (output.files.map SourceFile.declaredName).Nodup) :
    output.HasDistinctPaths ↔ output.KeepsPackagesApart := by
  constructor
  · intro distinctPaths file member other otherMember sameFolders sameName
    have same : file = other := by
      apply List.inj_on_of_nodup_map distinctPaths member otherMember
      exact (SourceFile.components_path_inj (unslashed file member)
        (unslashed other otherMember)).mpr ⟨sameFolders, sameName⟩
    rw [same]
  · intro apart
    rw [hasDistinctPaths_iff_pairwise]
    refine (List.pairwise_map.mp distinct).imp_of_mem ?_
    intro file other member otherMember different samePath
    rcases (SourceFile.components_path_inj (unslashed file member)
      (unslashed other otherMember)).mp samePath with ⟨sameFolders, sameName⟩
    have samePackage := apart file member other otherMember sameFolders sameName
    exact different (by simp [SourceFile.declaredName, samePackage, sameName])

theorem HasDistinctPaths.survivesWriting (distinctPaths : output.HasDistinctPaths) :
    output.SurvivesWriting := by
  intro root files files' paths written file member
  have receives := FileSystem.receives_of_write written
  apply receives.contents _ member
  refine (hasDistinctPaths_iff_pairwise.mp distinctPaths).imp_of_mem ?_
  intro first second firstMember secondMember different sameLocation
  apply different
  rcases receives.located firstMember with ⟨location, located⟩
  have otherLocated := sameLocation.symm.trans located
  rcases (unslashed first firstMember).exists_base_of_locate located with ⟨base, based, place⟩
  rcases (unslashed second secondMember).exists_base_of_locate otherLocated with
    ⟨otherBase, otherBased, otherPlace⟩
  rw [based] at otherBased
  cases otherBased
  have samePieces := List.append_cancel_left (place.symm.trans otherPlace)
  rw [(unslashed first firstMember).components_path,
    (unslashed second secondMember).components_path, samePieces]

end Output

namespace Batch

variable {batch : Batch} {conventions : Conventions} {output : Output}

theorem nodup_declaredNames_of_output (generated : batch.output conventions = .ok output) :
    (output.files.map SourceFile.declaredName).Nodup := by
  rcases bind_eq_ok_iff.mp generated with ⟨model, modelGenerated, rendered⟩
  rw [pure_eq_ok_iff.mp rendered]
  exact Output.nodup_declaredNames_ofModel (distinct_of_generate modelGenerated).2

/-- As long as no name has a slash in it, a generated file overwrites another one only if they are
from two packages that have the same folders. -/
theorem hasDistinctPaths_iff_keepsPackagesApart (generated : batch.output conventions = .ok output)
    (unslashed : ∀ file ∈ output.files, file.IsUnslashed) :
    (output.HasDistinctPaths ↔ output.KeepsPackagesApart) ∧
      (output.HasDistinctPaths → output.SurvivesWriting) :=
  ⟨Output.hasDistinctPaths_iff unslashed (nodup_declaredNames_of_output generated),
    Output.HasDistinctPaths.survivesWriting unslashed⟩

theorem hasDistinctPaths_session :
    (Output.ofModel {} .session).HasDistinctPaths ∧
      (Output.ofModel {} .session).SurvivesWriting := by
  have generated : session.output {} = .ok (.ofModel {} .session) := by
    rw [output, generate_session]
    rfl
  have unslashed : ∀ file ∈ (Output.ofModel {} .session).files, file.IsUnslashed := by
    decide
  have apart : (Output.ofModel {} .session).KeepsPackagesApart := by
    apply Output.keepsPackagesApart_of_plain
    decide
  rcases hasDistinctPaths_iff_keepsPackagesApart generated unslashed with ⟨distinct, survives⟩
  exact ⟨distinct.mpr apart, survives (distinct.mpr apart)⟩

/-- Two packages whose folders are the same, with an interface of the same name. -/
def folderTwins : Batch where
  declarations :=
    [{ name := ⟨"a.b", "X"⟩, kind := .interface, markers := { interface? := some {} } },
     { name := ⟨"a..b", "X"⟩, kind := .interface, markers := { interface? := some {} } }]
  nodup := by decide

end Batch

/-- The interfaces generated for two declarations whose packages differ by an empty segment. -/
def WrapperModel.folderTwins : WrapperModel where
  interfaces :=
    [{ origin := ⟨"a.b", "X"⟩, name := ⟨"a.b", "XNativeProtocol"⟩ },
     { origin := ⟨"a..b", "X"⟩, name := ⟨"a..b", "XNativeProtocol"⟩ }]

namespace Batch

theorem output_folderTwins : folderTwins.output {} = .ok (.ofModel {} .folderTwins) := by
  have generated : folderTwins.generate {} = .ok .folderTwins := by
    refine generate_eq_ok_iff.mpr
      ⟨.empty, ⟨WrapperModel.folderTwins.interfaces, by decide⟩, rfl, ?_, ?_, rfl, rfl, ?_⟩
    · cbv
    · cbv
    · decide
  rw [output, generated]
  rfl

/-- Both interfaces of the twins go to the same file. -/
theorem not_hasDistinctPaths_folderTwins :
    folderTwins.output {} = .ok (.ofModel {} .folderTwins) ∧
      ¬ (Output.ofModel {} .folderTwins).HasDistinctPaths := by
  refine ⟨output_folderTwins, ?_⟩
  rw [Output.hasDistinctPaths_iff_pairwise]
  decide

end Batch

end NativeWrappers
