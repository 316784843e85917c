import NativeWrappers.Proofs.Command.Generate
/-!
# Runs that stay below their directory

A run reports a path for each generated file, and a file is written nowhere else than at its path.
So where a run can write is a matter of the paths alone. A path stays below the output directory
unless a folder or the name of its file starts with a slash, or two dots lead upwards in front of a
slash in that name. Nothing keeps such names out of a model file.
-/

namespace NativeWrappers

namespace FileSystem

variable {files files' : FileSystem} {root : Path} {list : List SourceFile}

/-- The location is inside the directory that the path denotes, at any depth. -/
def IsInside (files : FileSystem) (root : Path) (location : Location) : Prop :=
  ∃ base names, names ≠ [] ∧ files.follow (files.start root) root.parts = .ok base ∧
    location = base ++ names

/-- The only changes are new directories and what is inside the directory that the path denotes. -/
def WritesOnlyInside (root : Path) (files files' : FileSystem) : Prop :=
  ∀ location, files'.lookup? location = files.lookup? location ∨
    (files.lookup? location = none ∧ files'.lookup? location = some .directory) ∨
    files'.IsInside root location

theorem isInside_of_isBelow {file : SourceFile} {location : Location}
    (below : (root.join file.path).IsBelow root)
    (located : files.locate (root.join file.path) = .ok location) :
    files.IsInside root location := by
  rcases file.exists_getLast?_parts_join root with ⟨name, last⟩
  rcases below.exists_steps (SourceFile.steps_ne_nil_of_getLast? last) with
    ⟨sameStart, names, proper, inward, further⟩
  rcases exists_base_of_locate sameStart further proper inward located with ⟨base, based, place⟩
  exact ⟨base, names, proper, based, place⟩

theorem Receives.writesOnlyInside (receives : Receives root files list files')
    (below : ∀ file ∈ list, (root.join file.path).IsBelow root) :
    WritesOnlyInside root files files' := by
  intro location
  rcases receives.change location with same | added | ⟨file, member, located⟩
  · exact Or.inl same
  · exact Or.inr (Or.inl added)
  · exact Or.inr (Or.inr (isInside_of_isBelow (below file member) located))

end FileSystem

namespace Command

variable {files files' : FileSystem} {model : Path} {options : Options} {report : Report}

/-- A run that succeeds reports the paths of its files, and has written these files or nothing. -/
theorem report_of_runFrom (ran : runFrom files model options = (.ok report, files')) :
    report.paths = report.output.paths options.outDirectory ∧
      (files' = files ∨
        FileSystem.Receives options.outDirectory files report.output.files files') := by
  rcases prepared_cases files model options.conventions with
    ⟨problem, failed⟩ | ⟨output, prepared⟩
  · rw [failed options rfl] at ran
    cases ran
  · rw [prepared options rfl] at ran
    rcases exists_run_of_bind ran with ⟨paths, between, delivered, reported⟩
    cases reported
    rw [deliver] at delivered
    split at delivered
    · cases delivered
      exact ⟨rfl, Or.inl rfl⟩
    · refine ⟨?_, Or.inr (FileSystem.receives_of_write delivered)⟩
      rcases output.write_gives options.outDirectory files with given | ⟨_, _, failed⟩
      · rw [delivered] at given
        cases given
        rfl
      · rw [delivered] at failed
        cases failed

/-- The paths of a run are below the output directory if no file has a name that leads elsewhere, and
if they are, then nothing is written anywhere else. -/
theorem paths_isBelow_iff (ran : runFrom files model options = (.ok report, files')) :
    ((∀ path ∈ report.paths, path.IsBelow options.outDirectory) ↔
      ∀ file ∈ report.output.files,
        file.IsConfined ∨
          file.path.isAbsolute = true ∧ file.path.IsBelow options.outDirectory) ∧
    ((∀ path ∈ report.paths, path.IsBelow options.outDirectory) →
      FileSystem.WritesOnlyInside options.outDirectory files files') := by
  rcases report_of_runFrom ran with ⟨paths, wrote⟩
  have onFiles : (∀ path ∈ report.paths, path.IsBelow options.outDirectory) ↔
      ∀ file ∈ report.output.files,
        (options.outDirectory.join file.path).IsBelow options.outDirectory := by
    rw [paths, Output.paths, List.forall_mem_map]
  constructor
  · simp only [onFiles, SourceFile.join_path_isBelow_iff]
  · intro below
    rcases wrote with rfl | receives
    · exact fun _ => Or.inl rfl
    · exact receives.writesOnlyInside (onFiles.mp below)

theorem paths_isBelow_clock :
    (runFrom (workspace ModelFile.clockText) ⟨"model.json"⟩ {}).1 =
        .ok ⟨.ofModel {} .clock, [⟨"generated/a/ClockNativeProtocol.kt"⟩]⟩ ∧
      Path.IsBelow ⟨"generated/a/ClockNativeProtocol.kt"⟩ ⟨"generated"⟩ ∧
      FileSystem.WritesOnlyInside ⟨"generated"⟩ (workspace ModelFile.clockText)
        (runFrom (workspace ModelFile.clockText) ⟨"model.json"⟩ {}).2 := by
  have reported :
      (runFrom (workspace ModelFile.clockText) ⟨"model.json"⟩ {}).1 =
        .ok ⟨.ofModel {} .clock, [⟨"generated/a/ClockNativeProtocol.kt"⟩]⟩ := by
    rw [runFrom_workspace {} ModelFile.ofText_clockText rfl Batch.output_clock]
    decide +kernel
  have confined : ∀ file ∈ (Output.ofModel {} .clock).files, file.IsConfined := by
    have unslashed : ∀ file ∈ (Output.ofModel {} .clock).files, file.IsUnslashed := by
      decide
    exact fun file member => (unslashed file member).isConfined
  rcases paths_isBelow_iff (Prod.ext reported rfl) with ⟨below, inside⟩
  have allBelow := below.mpr fun file member => Or.inl (confined file member)
  exact ⟨reported, allBelow _ List.mem_cons_self, inside allBelow⟩

end Command

/-- An interface whose chosen name leads upwards. -/
def Batch.stray : Batch where
  declarations :=
    [{ name := ⟨"", "Clock"⟩, kind := .interface
       markers := { interface? := some { name? := some "../Clock" } } }]
  nodup := by decide

/-- What is generated for the stray interface. -/
def WrapperModel.stray : WrapperModel where
  interfaces := [{ origin := ⟨"", "Clock"⟩, name := ⟨"", "../Clock"⟩ }]

/-- A model file that gives its generated interface the name of a file one directory up. -/
def ModelFile.strayText : String :=
  "\x7b\"declarations\":[\x7b\"name\":\"Clock\",\"kind\":\"interface\","
    ++ "\"annotations\":\x7b\"native_interface\":\x7b\"name\":\"../Clock\"\x7d\x7d\x7d]\x7d"

theorem ModelFile.ofText_strayText : ofText strayText = .ok ⟨Batch.stray.declarations⟩ := by
  decide +kernel

theorem Batch.output_stray : stray.output {} = .ok (.ofModel {} .stray) := by
  have generated : stray.generate {} = .ok .stray := by
    refine generate_eq_ok_iff.mpr
      ⟨.empty, ⟨WrapperModel.stray.interfaces, by decide⟩, rfl, ?_, ?_, rfl, rfl, ?_⟩
    · cbv
    · cbv
    · decide
  rw [output, generated]
  rfl

/-- The file of the stray interface is written beside the output directory. -/
theorem Command.not_isBelow_stray :
    (runFrom (workspace ModelFile.strayText) ⟨"model.json"⟩ {}).1 =
        .ok ⟨.ofModel {} .stray, [⟨"generated/../Clock.kt"⟩]⟩ ∧
      ¬ Path.IsBelow ⟨"generated/../Clock.kt"⟩ ⟨"generated"⟩ ∧
      (workspace ModelFile.strayText).lookup? ["Clock.kt"] = none ∧
      ((runFrom (workspace ModelFile.strayText) ⟨"model.json"⟩ {}).2.lookup?
        ["Clock.kt"]).isSome := by
  rw [runFrom_workspace {} ModelFile.ofText_strayText rfl Batch.output_stray]
  refine ⟨by decide +kernel, ?_, by decide, by decide +kernel⟩
  change ¬ (Path.join ⟨"generated"⟩ ⟨"../Clock.kt"⟩).IsBelow ⟨"generated"⟩
  rw [Path.isBelow_join_iff (by decide) (by decide)]
  decide

end NativeWrappers
