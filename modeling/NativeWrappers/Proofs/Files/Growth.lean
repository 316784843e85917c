import NativeWrappers.Files.FileSystem
import NativeWrappers.Proofs.Files.Directories
import NativeWrappers.Proofs.Files.Walk
/-!
# Growing file systems

Creating a directory and writing a file change one location each, and leave a directory where there
was one. So no walk is ever cut short: what is located once stays where it is. Creating a directory
with all that is missing above it is even more cautious, and takes no place that was taken.
-/

namespace NativeWrappers.FileSystem

variable {files files' files'' : FileSystem} {location holder target : Location} {entry : Entry}
  {parts : List String} {path : Path} {name text : String}

/-- What was there is still there, directories as directories and files as files. -/
structure Grows (files files' : FileSystem) : Prop where
  working : files'.working = files.working
  present : ∀ location entry, files.lookup? location = some entry →
    ∃ entry', files'.lookup? location = some entry' ∧ entry'.isDirectory = entry.isDirectory

namespace Grows

theorem refl (files : FileSystem) : files.Grows files :=
  ⟨rfl, fun _ entry found => ⟨entry, found, rfl⟩⟩

theorem trans (before : files.Grows files') (after : files'.Grows files'') :
    files.Grows files'' where
  working := after.working.trans before.working
  present location entry found := by
    rcases before.present location entry found with ⟨entry', found', same⟩
    rcases after.present location entry' found' with ⟨entry'', found'', same'⟩
    exact ⟨entry'', found'', same'.trans same⟩

theorem isDirectory (grows : files.Grows files') (directory : files.isDirectory location = true) :
    files'.isDirectory location = true := by
  rcases (Option.any_eq_true _ _).mp directory with ⟨entry, found, isDirectory⟩
  rcases grows.present location entry found with ⟨entry', found', same⟩
  exact (Option.any_eq_true _ _).mpr ⟨entry', found', same.trans isDirectory⟩

theorem walk (grows : files.Grows files') (walk : files.Walk location parts target) :
    files'.Walk location parts target := by
  induction walk with
  | done location => exact .done location
  | stay directory idle _ ih => exact .stay (grows.isDirectory directory) idle ih
  | ascend directory _ ih => exact .ascend (grows.isDirectory directory) ih
  | enter directory moves inward short present _ ih =>
      rcases Option.isSome_iff_exists.mp present with ⟨entry, found⟩
      rcases grows.present _ entry found with ⟨entry', found', _⟩
      exact .enter (grows.isDirectory directory) moves inward short (by simp [found']) ih

theorem locate (grows : files.Grows files') (located : files.locate path = .ok target) :
    files'.locate path = .ok target := by
  rw [locate_eq_ok_iff] at located ⊢
  have start : files'.start path = files.start path := by
    simp [FileSystem.start, grows.working]
  rw [start]
  exact ⟨located.1, grows.walk located.2⟩

end Grows

theorem grows_put (proper : location ≠ [])
    (fits : ∀ old, files.lookup? location = some old → entry.isDirectory = old.isDirectory) :
    files.Grows (files.put location entry) where
  working := rfl
  present other old found := by
    by_cases same : other = location
    · subst same
      exact ⟨entry, lookup?_put_self proper, fits old found⟩
    · exact ⟨old, (lookup?_put_of_ne same).trans found, rfl⟩

theorem grows_put_file {contents : ByteArray} (proper : location ≠ [])
    (noDirectory : files.lookup? location ≠ some .directory) :
    files.Grows (files.put location (.file contents)) := by
  apply grows_put proper
  intro old found
  cases old with
  | directory => exact absurd found noDirectory
  | file => rfl

/-! ## Single operations -/

theorem readText_of_locate (located : files.locate path = .ok location)
    (found : files.lookup? location = some (.file text.toUTF8)) :
    files.readText path = .ok text := by
  have decoded : String.fromUTF8? text.toUTF8 = some text := dif_pos text.isValidUTF8
  simp only [readText, located, found, decoded, bind, Except.bind, pure, Except.pure]

theorem exists_put_of_addDirectory (added : files.addDirectory path = .ok files') :
    ∃ location, files.lookup? location = none ∧ files' = files.put location .directory := by
  rcases bind_eq_ok_iff.mp added with ⟨⟨holder, name?⟩, _, added⟩
  cases name? with
  | none => cases added
  | some name =>
      cases found : files.lookup? (holder ++ [name]) with
      | some entry =>
          simp only [found] at added
          cases added
      | none =>
          simp only [found] at added
          exact ⟨_, found, (pure_eq_ok_iff.mp added)⟩

/-- The path leads to a directory and then names something in it, which need not be there. -/
structure Names (files : FileSystem) (path : Path) (holder : Location) (name : String) : Prop where
  valid : checkPath path = .ok ()
  short : checkName name = .ok ()
  moves : ¬ (name = "" ∨ name = ".")
  inward : name ≠ ".."
  directory : files.isDirectory holder = true
  walk : ∃ folders, path.parts = folders ++ [name] ∧
    files.Walk (files.start path) folders holder

theorem names_of_locateName (named : path.parts.getLast? ≠ some "")
    (found : files.locateName path = .ok (holder, some name)) : files.Names path holder name := by
  rcases path.exists_parts_eq_cons with ⟨head, rest, split⟩
  rcases List.eq_nil_or_concat path.parts with none | ⟨folders, last, parts⟩
  · simp [split] at none
  · have nonempty : last ≠ "" := by simpa [parts] using named
    have trimmed : (path.parts.reverse.dropWhile (· = "")).reverse = path.parts := by
      simp [parts, nonempty]
    rw [List.concat_eq_append] at parts
    rw [locateName, trimmed, parts] at found
    rcases bind_eq_ok_iff.mp found with ⟨⟨⟩, valid, found⟩
    rcases bind_eq_ok_iff.mp found with ⟨place, followed, found⟩
    simp only [List.dropLast_concat, List.getLast?_concat] at followed found
    cases directory : files.isDirectory place with
    | false =>
        rw [directory] at found
        cases found
    | true =>
        simp only [directory, if_true] at found
        split_ifs at found with dots
        · cases found
        · rcases bind_eq_ok_iff.mp found with ⟨⟨⟩, short, found⟩
          cases found
          rw [not_or] at dots
          exact ⟨valid, short, not_or.mpr ⟨nonempty, dots.1⟩, dots.2, directory, folders, parts,
            follow_eq_ok_iff.mp followed⟩

theorem Names.locate (names : files.Names path holder name) (grows : files.Grows files')
    (present : (files'.lookup? (holder ++ [name])).isSome) :
    files'.locate path = .ok (holder ++ [name]) := by
  rcases names.walk with ⟨folders, parts, walk⟩
  have start : files'.start path = files.start path := by
    simp [FileSystem.start, grows.working]
  refine locate_eq_ok_iff.mpr ⟨names.valid, ?_⟩
  rw [start, parts]
  apply (grows.walk walk).append
  exact .enter (grows.isDirectory names.directory) names.moves names.inward names.short present
    (.done _)

theorem exists_put_of_setText (written : files.setText path text = .ok files') :
    ∃ holder name, files.locateName path = .ok (holder, some name) ∧
      files.lookup? (holder ++ [name]) ≠ some .directory ∧
      files' = files.put (holder ++ [name]) (.file text.toUTF8) := by
  rcases bind_eq_ok_iff.mp written with ⟨⟨holder, name?⟩, found, written⟩
  cases name? with
  | none => cases written
  | some name =>
      refine ⟨holder, name, found, ?_⟩
      dsimp only at written
      split at written
      · cases written
      · next noDirectory =>
          exact ⟨noDirectory, pure_eq_ok_iff.mp written⟩

/-- A file is written to the location that its path then denotes, and nowhere else. -/
theorem exists_location_of_setText (named : path.parts.getLast? ≠ some "")
    (written : files.setText path text = .ok files') :
    ∃ location, location ≠ [] ∧ files.Grows files' ∧
      files' = files.put location (.file text.toUTF8) ∧ files'.locate path = .ok location := by
  rcases exists_put_of_setText written with ⟨holder, name, found, noDirectory, rfl⟩
  have proper : holder ++ [name] ≠ [] := by simp
  have grows : files.Grows (files.put (holder ++ [name]) (.file text.toUTF8)) :=
    grows_put_file proper noDirectory
  have located := (names_of_locateName named found).locate grows (by simp [lookup?_put_self proper])
  exact ⟨holder ++ [name], proper, grows, rfl, located⟩

/-! ## Adding directories -/

/-- Nothing has changed but that there are directories where there was nothing. -/
structure AddsDirectories (files files' : FileSystem) : Prop where
  working : files'.working = files.working
  change : ∀ location, files'.lookup? location = files.lookup? location ∨
    files.lookup? location = none ∧ files'.lookup? location = some .directory

namespace AddsDirectories

theorem refl (files : FileSystem) : files.AddsDirectories files := ⟨rfl, fun _ => Or.inl rfl⟩

theorem trans (before : files.AddsDirectories files') (after : files'.AddsDirectories files'') :
    files.AddsDirectories files'' where
  working := after.working.trans before.working
  change location := by
    rcases after.change location with same | ⟨absent, added⟩
    · rw [same]
      exact before.change location
    · rcases before.change location with same | ⟨_, added'⟩
      · exact Or.inr ⟨same.symm.trans absent, added⟩
      · rw [added'] at absent
        cases absent

theorem lookup?_of_some (adds : files.AddsDirectories files')
    (found : files.lookup? location = some entry) : files'.lookup? location = some entry := by
  rcases adds.change location with same | ⟨absent, _⟩
  · exact same.trans found
  · rw [found] at absent
    cases absent

theorem grows (adds : files.AddsDirectories files') : files.Grows files' :=
  ⟨adds.working, fun _ entry found => ⟨entry, adds.lookup?_of_some found, rfl⟩⟩

theorem addDirectory (added : files.addDirectory path = .ok files') :
    files.AddsDirectories files' := by
  rcases exists_put_of_addDirectory added with ⟨location, absent, rfl⟩
  refine ⟨rfl, fun other => ?_⟩
  by_cases same : other = location
  · subst same
    have proper : other ≠ [] := by
      rintro rfl
      cases absent
    exact Or.inr ⟨absent, lookup?_put_self proper⟩
  · exact Or.inl (lookup?_put_of_ne same)

end AddsDirectories

instance : IsPreorder FileSystem AddsDirectories where
  refl := AddsDirectories.refl
  trans _ _ _ := AddsDirectories.trans

theorem run_step (change : FileSystem → Except FileError FileSystem) (files : FileSystem) :
    (step change).run files =
      match change files with
      | .ok changed => (.ok (), changed)
      | .error failure => (.error failure, files) := rfl

/-- The action leaves everything as it was, except for directories that it adds. -/
def OnlyAddsDirectories {α : Type} (action : StateM FileSystem α) : Prop :=
  ∀ files : FileSystem, files.AddsDirectories (action.run files).2

namespace OnlyAddsDirectories

theorem createDirectory (path : Path) :
    OnlyAddsDirectories
      (MonadFiles.createDirectory path : StateM FileSystem (Except FileError Unit)) := by
  intro files
  change files.AddsDirectories ((step (·.addDirectory path)).run files).2
  rw [run_step]
  cases added : files.addDirectory path with
  | ok changed => exact .addDirectory added
  | error failure => exact .refl files

theorem hasDirectory (path : Path) :
    OnlyAddsDirectories (MonadFiles.hasDirectory path : StateM FileSystem Bool) := .refl

end OnlyAddsDirectories

end NativeWrappers.FileSystem
