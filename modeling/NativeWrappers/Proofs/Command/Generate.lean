import NativeWrappers.Command.Generate
import NativeWrappers.Proofs.Files.Receiving
import NativeWrappers.Proofs.WrapperModel
/-!
# Runs that write last

A run reads its model file, generates everything in memory, and only then writes. So it fails
without a trace, or all that is left to do is to write what was generated, which can fail only as
writing. A dry run stops there, and therefore foretells what the real run does.

All of this holds wherever the files are, as long as reading a file changes none.
-/

namespace NativeWrappers

/-- A place with files in which reading changes nothing. -/
class ReadsQuietly (σ : Type) [MonadFiles (StateM σ)] : Prop where
  unchanged : ∀ (path : Path) (files : σ),
    ((MonadFiles.readText path : StateM σ (Except FileError String)).run files).2 = files

/-- Reading a file leaves a file system as it is. -/
instance : ReadsQuietly FileSystem where
  unchanged _ _ := rfl

namespace Command

namespace Options

/-- The same options for a pass that only lists the files. -/
def asDryRun (options : Options) : Options := { options with dryRun := true }

/-- The same options for a pass that writes the files. -/
def asRealRun (options : Options) : Options := { options with dryRun := false }

theorem asDryRun_or_asRealRun (options : Options) :
    options = options.asDryRun ∨ options = options.asRealRun := by
  rcases options with ⟨_, _, _, _, dryRun, _⟩
  cases dryRun
  · exact Or.inr rfl
  · exact Or.inl rfl

end Options

variable {σ : Type} [MonadFiles (StateM σ)] {files : σ} {model : Path} {options : Options}

/-- The answer of a run that starts from these files, and the files that it leaves. -/
def runFrom (files : σ) (model : Path) (options : Options) : Except Problem Report × σ :=
  (generate model options : ExceptT Problem (StateM σ) Report).run.run files

/-- What a run does before it delivers. -/
def prepare (model : Path) (conventions : Conventions) : ExceptT Problem (StateM σ) Output := do
  let batch ← ModelFile.load model
  liftExcept (batch.output conventions)

/-- What a run does when everything is generated. -/
def conclude (options : Options) (output : Output) : ExceptT Problem (StateM σ) Report := do
  let paths ← deliver options output
  return { output, paths }

theorem generate_eq (model : Path) (options : Options) :
    (generate model options : ExceptT Problem (StateM σ) Report) =
      prepare model options.conventions >>= conclude options := by
  simp only [generate, prepare, bind_assoc]
  rfl

/-- A dry run reports the paths and touches nothing. -/
theorem run_conclude_asDryRun (files : σ) (options : Options) (output : Output) :
    (conclude options.asDryRun output).run.run files =
      (.ok { output, paths := output.paths options.outDirectory }, files) := rfl

theorem conclude_asRealRun_gives (options : Options) (output : Output) :
    GivesUnlessUnwritten (conclude options.asRealRun output : ExceptT Problem (StateM σ) Report)
      { output, paths := output.paths options.outDirectory } :=
  (output.write_gives options.outDirectory).bind (.pure _)

/-- Until it writes, a run leaves no trace, and a dry run tells what it will do. -/
structure WritesLast (files : σ) (model : Path) (options : Options) : Prop where
  /-- A run that fails, but not at writing, leaves the files as they were. -/
  unchanged_of_error : ∀ problem, (runFrom files model options).1 = .error problem →
    ¬ problem.IsOutputWrite → (runFrom files model options).2 = files
  unchanged_of_dryRun : (runFrom files model options.asDryRun).2 = files
  same_problem : ∀ problem, (runFrom files model options.asDryRun).1 = .error problem →
    (runFrom files model options.asRealRun).1 = .error problem
  /-- After a dry run that succeeds, the real run gives the same report or fails at writing. -/
  same_report : ∀ report, (runFrom files model options.asDryRun).1 = .ok report →
    (runFrom files model options.asRealRun).1 = .ok report ∨
      ∃ problem, problem.IsOutputWrite ∧
        (runFrom files model options.asRealRun).1 = .error problem

theorem writesLast_of_error {problem : Problem}
    (failed : ∀ other : Options, other.conventions = options.conventions →
      runFrom files model other = (.error problem, files)) : WritesLast files model options := by
  have dryFailed := failed options.asDryRun rfl
  have realFailed := failed options.asRealRun rfl
  constructor
  case unchanged_of_error =>
    intro _ _ _
    rw [failed options rfl]
  case unchanged_of_dryRun =>
    rw [dryFailed]
  case same_problem =>
    intro reported reports
    rw [dryFailed] at reports
    rw [realFailed, ← reports]
  case same_report =>
    intro report reports
    rw [dryFailed] at reports
    cases reports

theorem writesLast_of_output {output : Output}
    (prepared : ∀ other : Options, other.conventions = options.conventions →
      runFrom files model other = (conclude other output).run.run files) :
    WritesLast files model options := by
  have dryRan := (prepared options.asDryRun rfl).trans (run_conclude_asDryRun files options output)
  have realGives := conclude_asRealRun_gives options output files
  rw [← prepared options.asRealRun rfl] at realGives
  constructor
  case unchanged_of_error =>
    -- A dry run cannot fail any more, and the real run can only fail at writing.
    intro problem failed written
    exfalso
    rcases options.asDryRun_or_asRealRun with isDry | isReal
    · rw [isDry, dryRan] at failed
      cases failed
    · rw [isReal] at failed
      rcases realGives with given | ⟨problem', unwritten, failed'⟩
      · rw [given] at failed
        cases failed
      · rw [failed'] at failed
        cases failed
        exact written unwritten
  case unchanged_of_dryRun =>
    rw [dryRan]
  case same_problem =>
    intro problem failed
    rw [dryRan] at failed
    cases failed
  case same_report =>
    intro report reports
    rw [dryRan] at reports
    cases reports
    exact realGives

section Quiet

variable [ReadsQuietly σ]

theorem run_load_snd (path : Path) (files : σ) :
    ((ModelFile.load path : ExceptT Problem (StateM σ) Batch).run.run files).2 = files := by
  simp only [ModelFile.load, ExceptT.run_mk, StateT.run_bind]
  exact ReadsQuietly.unchanged path files

theorem run_prepare_snd (files : σ) (model : Path) (conventions : Conventions) :
    ((prepare model conventions : ExceptT Problem (StateM σ) Output).run.run files).2 = files := by
  have quiet := run_load_snd model files
  rw [prepare]
  generalize loaded : (ModelFile.load model : ExceptT Problem (StateM σ) Batch).run.run files
    = outcome at quiet
  rcases outcome with ⟨answer, files'⟩
  subst quiet
  cases answer with
  | error problem => rw [run_bind_of_error loaded]
  | ok batch =>
      rw [run_bind_of_ok loaded]
      cases batch.output conventions <;> rfl

/-- Either nothing is generated and every run with these conventions stops at the same problem, or
an output is generated and it remains to conclude with it. -/
theorem prepared_cases (files : σ) (model : Path) (conventions : Conventions) :
    (∃ problem, ∀ options : Options, options.conventions = conventions →
        runFrom files model options = (.error problem, files)) ∨
      ∃ output, ∀ options : Options, options.conventions = conventions →
        runFrom files model options = (conclude options output).run.run files := by
  have quiet := run_prepare_snd files model conventions
  generalize prepared :
    (prepare model conventions : ExceptT Problem (StateM σ) Output).run.run files = outcome at quiet
  rcases outcome with ⟨answer, files'⟩
  subst quiet
  cases answer with
  | error problem =>
      refine Or.inl ⟨problem, ?_⟩
      rintro options rfl
      rw [runFrom, generate_eq, run_bind_of_error prepared]
  | ok output =>
      refine Or.inr ⟨output, ?_⟩
      rintro options rfl
      rw [runFrom, generate_eq, run_bind_of_ok prepared]

theorem generate_writesLast (files : σ) (model : Path) (options : Options) :
    WritesLast files model options := by
  rcases prepared_cases files model options.conventions with
    ⟨problem, failed⟩ | ⟨output, prepared⟩
  · exact writesLast_of_error failed
  · exact writesLast_of_output prepared

end Quiet

/-! ## A place with one model file -/

/-- Files among which there is only a model file, with this text. -/
def workspace (text : String) : FileSystem where
  entries := [(["model.json"], .file text.toUTF8)]

theorem readText_workspace (text : String) :
    (workspace text).readText ⟨"model.json"⟩ = .ok text := by
  have located : (workspace text).locate ⟨"model.json"⟩ = .ok ["model.json"] := rfl
  exact FileSystem.readText_of_locate located rfl

theorem runFrom_workspace {text : String} {batch : Batch} {output : Output} (options : Options)
    (decoded : ModelFile.ofText text = .ok ⟨batch.declarations⟩)
    (built : Batch.ofList batch.declarations = .ok batch)
    (generated : batch.output options.conventions = .ok output) :
    runFrom (workspace text) ⟨"model.json"⟩ options =
      (conclude options output).run.run (workspace text) := by
  have loaded :
      (ModelFile.load ⟨"model.json"⟩ : ExceptT Problem (StateM FileSystem) Batch).run.run
        (workspace text) = (.ok batch, workspace text) := by
    change (((workspace text).readText ⟨"model.json"⟩).mapError _ >>= _, _) = _
    rw [readText_workspace]
    simp [ModelFile.parse, ModelFile.batch, decoded, built, Except.mapError, bind, Except.bind]
  have prepared :
      (prepare ⟨"model.json"⟩ options.conventions :
        ExceptT Problem (StateM FileSystem) Output).run.run (workspace text) =
          (.ok output, workspace text) := by
    rw [prepare, run_bind_of_ok loaded, generated]
    rfl
  rw [runFrom, generate_eq, run_bind_of_ok prepared]

end Command

/-- One interface that is marked and declares nothing. -/
def Batch.clock : Batch where
  declarations :=
    [{ name := ⟨"a", "Clock"⟩, kind := .interface, markers := { interface? := some {} } }]
  nodup := by decide

/-- What is generated for the clock. -/
def WrapperModel.clock : WrapperModel where
  interfaces := [{ origin := ⟨"a", "Clock"⟩, name := ⟨"a", "ClockNativeProtocol"⟩ }]

/-- The model file of that batch. -/
def ModelFile.clockText : String :=
  "\x7b\"declarations\":[\x7b\"name\":\"a.Clock\",\"kind\":\"interface\","
    ++ "\"annotations\":\x7b\"native_interface\":\x7b\x7d\x7d\x7d]\x7d"

theorem ModelFile.ofText_clockText : ofText clockText = .ok ⟨Batch.clock.declarations⟩ := by
  decide +kernel

theorem Batch.output_clock : clock.output {} = .ok (.ofModel {} .clock) := by
  have generated : clock.generate {} = .ok .clock := by
    refine generate_eq_ok_iff.mpr
      ⟨.empty, ⟨WrapperModel.clock.interfaces, by decide⟩, rfl, ?_, ?_, rfl, rfl, ?_⟩
    · cbv
    · cbv
    · decide
  rw [output, generated]
  rfl

theorem Command.generate_writesLast_workspace :
    (runFrom (workspace ModelFile.clockText) ⟨"model.json"⟩ { dryRun := true }).1 =
        .ok ⟨.ofModel {} .clock, [⟨"generated/a/ClockNativeProtocol.kt"⟩]⟩ ∧
      WritesLast (workspace ModelFile.clockText) ⟨"model.json"⟩ {} := by
  constructor
  · rw [runFrom_workspace { dryRun := true } ModelFile.ofText_clockText rfl Batch.output_clock]
    rfl
  · exact generate_writesLast _ _ _

end NativeWrappers
