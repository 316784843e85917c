import NativeWrappers.Proofs.Files.Growth
import NativeWrappers.Proofs.Files.Placement
import NativeWrappers.Proofs.Files.Writing
/-!
# What writing does to a file system

Writing an output is a sequence of steps, one for each file: missing directories are added, and then
one location gets the contents of the file. So nothing else in the file system changes, and a file
keeps its contents until another file is written to the same location.
-/

namespace NativeWrappers.FileSystem

variable {files files' : FileSystem} {root path : Path}

theorem named_join (file : SourceFile) : (root.join file.path).parts.getLast? ≠ some "" := by
  rcases file.exists_getLast?_parts_join root with ⟨name, last⟩
  rw [last]
  simp

/-- The steps in which a file system receives files below a directory. -/
inductive Receives (root : Path) : FileSystem → List SourceFile → FileSystem → Prop
  | done (files : FileSystem) : Receives root files [] files
  | write {files prepared written files' : FileSystem} {file : SourceFile}
      {others : List SourceFile} (adds : files.AddsDirectories prepared)
      (writes : prepared.setText (root.join file.path) file.contents = .ok written)
      (onward : Receives root written others files') :
      Receives root files (file :: others) files'

namespace Receives

variable {list : List SourceFile} {file : SourceFile}

theorem grows (receives : Receives root files list files') : files.Grows files' := by
  induction receives with
  | done files => exact .refl files
  | write adds writes _ ih =>
      rcases exists_location_of_setText (named_join _) writes with ⟨_, _, grows, _, _⟩
      exact (adds.grows.trans grows).trans ih

theorem located (receives : Receives root files list files') (member : file ∈ list) :
    ∃ location, files'.locate (root.join file.path) = .ok location := by
  induction receives with
  | done files => cases member
  | write adds writes onward ih =>
      rcases List.mem_cons.mp member with rfl | inOthers
      · rcases exists_location_of_setText (named_join _) writes with ⟨location, _, _, _, located⟩
        exact ⟨location, onward.grows.locate located⟩
      · exact ih inOthers

/-- Wherever there is a change, there is a new directory or one of the files. -/
theorem change (receives : Receives root files list files') (location : Location) :
    files'.lookup? location = files.lookup? location ∨
      (files.lookup? location = none ∧ files'.lookup? location = some .directory) ∨
      ∃ file ∈ list, files'.locate (root.join file.path) = .ok location := by
  induction receives with
  | done files => exact Or.inl rfl
  | @write files prepared written files' file others adds writes onward ih =>
      rcases exists_location_of_setText (named_join _) writes with ⟨target, _, _, rfl, located⟩
      by_cases same : location = target
      · subst same
        exact Or.inr (Or.inr ⟨file, List.mem_cons_self, onward.grows.locate located⟩)
      · rw [lookup?_put_of_ne same] at ih
        rcases ih with unchanged | ⟨absent, added⟩ | ⟨other, otherMember, otherLocated⟩
        · rcases adds.change location with kept | ⟨absent, added⟩
          · exact Or.inl (unchanged.trans kept)
          · exact Or.inr (Or.inl ⟨absent, unchanged.trans added⟩)
        · rcases adds.change location with kept | ⟨_, addedBefore⟩
          · exact Or.inr (Or.inl ⟨kept.symm.trans absent, added⟩)
          · rw [addedBefore] at absent
            cases absent
        · exact Or.inr (Or.inr ⟨other, List.mem_cons_of_mem _ otherMember, otherLocated⟩)

/-- Unless two of the files have the same location, each of them is there in the end. -/
theorem contents (receives : Receives root files list files')
    (apart : list.Pairwise fun file other =>
      files'.locate (root.join file.path) ≠ files'.locate (root.join other.path))
    (member : file ∈ list) : files'.readText (root.join file.path) = .ok file.contents := by
  induction receives with
  | done files => cases member
  | @write files prepared written files' first others adds writes onward ih =>
      rw [List.pairwise_cons] at apart
      rcases List.mem_cons.mp member with rfl | inOthers
      · rcases exists_location_of_setText (named_join _) writes with
          ⟨location, proper, _, rfl, located⟩
        have stays := onward.grows.locate located
        apply readText_of_locate stays
        have put : (prepared.put location (.file file.contents.toUTF8)).lookup? location
            = some (.file file.contents.toUTF8) := lookup?_put_self proper
        rcases onward.change location with same | ⟨absent, _⟩ | ⟨other, otherMember, otherLocated⟩
        · rw [same, put]
        · rw [put] at absent
          cases absent
        · exact absurd (stays.trans otherLocated.symm) (apart.1 other otherMember)
      · exact ih apart.2 inOthers

end Receives

theorem setText_of_writeText {path : Path} {text : String}
    (written : (MonadFiles.writeText path text :
      StateM FileSystem (Except FileError Unit)).run files = (.ok (), files')) :
    files.setText path text = .ok files' := by
  change (step (·.setText path text)).run files = _ at written
  rw [run_step] at written
  split at written
  · next changed set =>
      cases written
      exact set
  · cases written

theorem exists_prepared_of_writeFile {file : SourceFile}
    (written : (Output.writeFile root file : ExceptT Problem (StateM FileSystem) Path).run.run files
      = (.ok path, files')) :
    ∃ prepared, files.AddsDirectories prepared ∧
      prepared.setText (root.join file.path) file.contents = .ok files' := by
  rw [Output.writeFile_eq] at written
  rcases exists_run_of_bind written with ⟨⟨⟩, prepared, made, written⟩
  rcases exists_run_of_bind written with ⟨⟨⟩, last, wrote, written⟩
  cases written
  have adds := Output.rel_makeFolder OnlyAddsDirectories.createDirectory
    OnlyAddsDirectories.hasDirectory (root.join file.path) files
  rw [made] at adds
  exact ⟨prepared, adds, setText_of_writeText (Output.run_of_attempt wrote)⟩

theorem receives_of_write {list : List SourceFile} {paths : List Path}
    (written :
      (list.mapM (Output.writeFile root) :
        ExceptT Problem (StateM FileSystem) (List Path)).run.run files = (.ok paths, files')) :
    Receives root files list files' := by
  induction list generalizing files paths with
  | nil =>
      cases written
      exact .done _
  | cons file others ih =>
      rw [List.mapM_cons] at written
      rcases exists_run_of_bind written with ⟨path, next, wrote, written⟩
      rcases exists_run_of_bind written with ⟨rest, last, wroteOthers, written⟩
      cases written
      rcases exists_prepared_of_writeFile wrote with ⟨prepared, adds, writes⟩
      exact .write adds writes (ih wroteOthers)

end NativeWrappers.FileSystem
