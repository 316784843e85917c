import NativeWrappers.Files.Output
import NativeWrappers.Proofs.Files.Directories
/-!
# What writing can answer

Writing an output has one result, the paths of its files in order, and one way to fail, which is
that a file or a directory could not be written. This holds wherever the files are: nothing is
assumed of the operations on them.
-/

namespace NativeWrappers

/-- The problem is that something could not be written. -/
def Problem.IsOutputWrite (problem : Problem) : Prop :=
  ∃ path message, problem = .outputWrite path message

section Answers

variable {σ α β : Type} {action : ExceptT Problem (StateM σ) α}
  {next : α → ExceptT Problem (StateM σ) β} {state state' : σ}

theorem run_bind_of_ok {value : α} (ran : action.run.run state = (.ok value, state')) :
    (action >>= next).run.run state = (next value).run.run state' := by
  rw [ExceptT.run_bind, StateT.run_bind, ran]
  rfl

theorem run_bind_of_error {problem : Problem}
    (ran : action.run.run state = (.error problem, state')) :
    (action >>= next).run.run state = (.error problem, state') := by
  rw [ExceptT.run_bind, StateT.run_bind, ran]
  rfl

theorem exists_run_of_bind {result : β}
    (ran : (action >>= next).run.run state = (.ok result, state')) :
    ∃ value between, action.run.run state = (.ok value, between) ∧
      (next value).run.run between = (.ok result, state') := by
  generalize first : action.run.run state = outcome
  rcases outcome with ⟨answer, between⟩
  cases answer with
  | error problem =>
      rw [run_bind_of_error first] at ran
      cases ran
  | ok value =>
      rw [run_bind_of_ok first] at ran
      exact ⟨value, between, rfl, ran⟩

theorem error_of_bind {problem : Problem}
    (ran : (action >>= next).run.run state = (.error problem, state')) :
    action.run.run state = (.error problem, state') ∨
      ∃ value between, action.run.run state = (.ok value, between) ∧
        (next value).run.run between = (.error problem, state') := by
  generalize first : action.run.run state = outcome
  rcases outcome with ⟨answer, between⟩
  cases answer with
  | error failure =>
      rw [run_bind_of_error first] at ran
      cases ran
      exact Or.inl rfl
  | ok value =>
      rw [run_bind_of_ok first] at ran
      exact Or.inr ⟨value, between, rfl, ran⟩

/-- Whatever state the action starts from, it gives this value unless it fails to write. -/
def GivesUnlessUnwritten (action : ExceptT Problem (StateM σ) α) (value : α) : Prop :=
  ∀ state, (action.run.run state).1 = .ok value ∨
    ∃ problem, problem.IsOutputWrite ∧ (action.run.run state).1 = .error problem

namespace GivesUnlessUnwritten

theorem pure (value : α) :
    GivesUnlessUnwritten (pure value : ExceptT Problem (StateM σ) α) value := by
  intro state
  exact Or.inl rfl

theorem bind {value : α} {result : β} (gives : GivesUnlessUnwritten action value)
    (givesNext : GivesUnlessUnwritten (next value) result) :
    GivesUnlessUnwritten (action >>= next) result := by
  intro state
  rcases gives state with given | ⟨problem, unwritten, failed⟩
  · rw [run_bind_of_ok (Prod.ext given rfl)]
    exact givesNext _
  · rw [run_bind_of_error (Prod.ext failed rfl)]
    exact Or.inr ⟨problem, unwritten, rfl⟩

theorem mapM {step : α → ExceptT Problem (StateM σ) β} {value : α → β}
    (gives : ∀ input, GivesUnlessUnwritten (step input) (value input)) (inputs : List α) :
    GivesUnlessUnwritten (inputs.mapM step) (inputs.map value) := by
  induction inputs with
  | nil => exact pure []
  | cons input rest ih =>
      simp only [List.mapM_cons, List.map_cons]
      apply (gives input).bind
      apply ih.bind
      exact pure _

end GivesUnlessUnwritten

end Answers

namespace Output

variable {σ : Type}

theorem run_attempt (path : Path) (action : StateM σ (Except FileError Unit)) (state : σ) :
    (attempt path action).run.run state =
      ((action.run state).1.mapError fun failure => .outputWrite path failure.message,
        (action.run state).2) := rfl

theorem run_of_attempt {path : Path} {action : StateM σ (Except FileError Unit)} {state state' : σ}
    (ran : (attempt path action).run.run state = (.ok (), state')) :
    action.run state = (.ok (), state') := by
  rw [run_attempt] at ran
  generalize action.run state = outcome at ran ⊢
  rcases outcome with ⟨answer, reached⟩
  cases answer with
  | ok done =>
      cases ran
      rfl
  | error failure => cases ran

theorem exists_failure_of_attempt {path : Path} {action : StateM σ (Except FileError Unit)}
    {state state' : σ} {problem : Problem}
    (ran : (attempt path action).run.run state = (.error problem, state')) :
    ∃ failure, action.run state = (.error failure, state') ∧
      problem = .outputWrite path failure.message := by
  rw [run_attempt] at ran
  generalize action.run state = outcome at ran ⊢
  rcases outcome with ⟨answer, reached⟩
  cases answer with
  | ok done => cases ran
  | error failure =>
      cases ran
      exact ⟨failure, rfl, rfl⟩

theorem attempt_gives (path : Path) (action : StateM σ (Except FileError Unit)) :
    GivesUnlessUnwritten (attempt path action) () := by
  intro state
  rw [run_attempt]
  cases (action.run state).1 with
  | ok done => exact Or.inl rfl
  | error failure => exact Or.inr ⟨_, ⟨path, failure.message, rfl⟩, rfl⟩

section Folder

variable {m : Type → Type} [Monad m] [MonadFiles m]

/-- Create the directory that holds the path, if there is one. -/
def makeFolder (path : Path) : ExceptT Problem m Unit :=
  match path.parent? with
  | some directory => attempt directory (createDirectories directory)
  | none => pure ()

theorem writeFile_eq [LawfulMonad m] (root : Path) (file : SourceFile) :
    (writeFile root file : ExceptT Problem m Path) = (do
      makeFolder (root.join file.path)
      attempt (root.join file.path) (MonadFiles.writeText (root.join file.path) file.contents)
      return root.join file.path) := by
  unfold writeFile makeFolder
  dsimp only
  cases (root.join file.path).parent? with
  | none => simp
  | some directory => rfl

end Folder

variable [MonadFiles (StateM σ)]

theorem makeFolder_gives (path : Path) :
    GivesUnlessUnwritten (makeFolder path : ExceptT Problem (StateM σ) Unit) () := by
  unfold makeFolder
  split
  · exact attempt_gives _ _
  · exact .pure ()

/-- What holds across the creation of single directories holds here, in a failure as well. -/
theorem rel_makeFolder {relation : σ → σ → Prop} [IsPreorder σ relation]
    (creates : ∀ path,
      Moves relation (MonadFiles.createDirectory path : StateM σ (Except FileError Unit)))
    (looks : ∀ path, Moves relation (MonadFiles.hasDirectory path : StateM σ Bool))
    (path : Path) (state : σ) :
    relation state ((makeFolder path : ExceptT Problem (StateM σ) Unit).run.run state).2 := by
  unfold makeFolder
  split
  · next directory _ =>
      rw [run_attempt]
      exact Moves.createChain creates looks directory.ancestors state
  · exact refl_of relation state

theorem writeFile_gives (root : Path) (file : SourceFile) :
    GivesUnlessUnwritten (writeFile root file : ExceptT Problem (StateM σ) Path)
      (root.join file.path) := by
  rw [writeFile_eq]
  apply (makeFolder_gives _).bind
  apply (attempt_gives _ _).bind
  exact .pure _

/-- Writing an output gives the paths of its files, unless something cannot be written. -/
theorem write_gives (output : Output) (root : Path) :
    GivesUnlessUnwritten (output.write root : ExceptT Problem (StateM σ) (List Path))
      (output.paths root) :=
  GivesUnlessUnwritten.mapM (writeFile_gives root) output.files

end Output

end NativeWrappers
