import NativeWrappers.Proofs.Files.Receiving
/-!
# What is in the files in the end

Files are written one after the other, so of several files with one place the last one stays, and
what was there before is lost. Nothing else is touched, and a failure leaves what was written before
it. All of this only needs that each single operation has its effect or none, wherever the files
are: a place with files is looked at through what its paths denote and what is in its files.
-/

namespace NativeWrappers

/-- A place with files as it is seen from outside. Several paths can denote the same file. -/
class FileView (σ : Type) (Key : outParam Type) where
  /-- What the path denotes, if something is there. -/
  denoted? : σ → Path → Option Key
  /-- What is in the file, if it is one. -/
  contents? : σ → Key → Option ByteArray

namespace FileView

variable {σ Key : Type} [FileView σ Key] {before between after : σ}

/-- Each path denotes what it denoted, if that was anything. -/
def KeepsPaths (before after : σ) : Prop :=
  ∀ path key, denoted? before path = some key → denoted? after path = some key

/-- Paths lead to the same files, with the same contents. Directories may be added. -/
structure Keeps (before after : σ) : Prop where
  paths : KeepsPaths before after
  contents : ∀ key, contents? after key = contents? before key

instance : IsPreorder σ Keeps where
  refl _ := ⟨fun _ _ => id, fun _ => rfl⟩
  trans _ _ _ first second :=
    ⟨fun path key denotes => second.paths path key (first.paths path key denotes),
      fun key => (second.contents key).trans (first.contents key)⟩

/-- The path denotes a file with this text, and all other files are as they were. -/
structure Sets (path : Path) (text : String) (before after : σ) : Prop where
  paths : KeepsPaths before after
  file : ∃ key, denoted? after path = some key ∧ contents? after key = some text.toUTF8 ∧
    ∀ other, other ≠ key → contents? after other = contents? before other

theorem Keeps.sets {path : Path} {text : String} (keeps : Keeps before between)
    (sets : Sets path text between after) : Sets path text before after := by
  rcases sets.file with ⟨key, denotes, holds, others⟩
  refine ⟨fun path key denotes => sets.paths path key (keeps.paths path key denotes),
    key, denotes, holds, fun other different => ?_⟩
  exact (others other different).trans (keeps.contents other)

end FileView

open FileView

/-- Each operation has its effect, or it fails and leaves all files as they are. A path that ends in
a slash is no path of a file. -/
class LawfulFiles (σ : Type) {Key : Type} [FileView σ Key] [MonadFiles (StateM σ)] : Prop where
  createDirectory (path : Path) :
    Moves Keeps (MonadFiles.createDirectory path : StateM σ (Except FileError Unit))
  hasDirectory (path : Path) : Moves Keeps (MonadFiles.hasDirectory path : StateM σ Bool)
  sets {path : Path} {text : String} {before after : σ} (named : path.parts.getLast? ≠ some "")
    (ran : (MonadFiles.writeText path text : StateM σ (Except FileError Unit)).run before
      = (.ok (), after)) : Sets path text before after
  keeps {path : Path} {text : String} {before after : σ} {failure : FileError}
    (ran : (MonadFiles.writeText path text : StateM σ (Except FileError Unit)).run before
      = (.error failure, after)) : Keeps before after

/-- The problem is that the path or the directory that holds it could not be written. -/
def Problem.IsUnwritten (problem : Problem) (path : Path) : Prop :=
  ∃ reported message, problem = .outputWrite reported message ∧
    (reported = path ∨ path.parent? = some reported)

variable {σ Key : Type} [FileView σ Key] {before between after : σ} {root : Path}
  {file : SourceFile} {list : List SourceFile} {problem : Problem}

/-- The file holds the contents of the last of these whose path denotes it. -/
def HoldsLast (root : Path) (list : List SourceFile) (state : σ) (key : Key) : Prop :=
  ∃ earlier last later, list = earlier ++ last :: later ∧
    denoted? state (root.join last.path) = some key ∧
    (∀ other ∈ later, denoted? state (root.join other.path) ≠ some key) ∧
    contents? state key = some last.contents.toUTF8

/-- Exactly these files have been written below the root: the path of each of them denotes a file,
which holds the contents of the last one that is written there, and any file that none of their
paths denotes has the contents it had. -/
structure Wrote (root : Path) (list : List SourceFile) (before after : σ) : Prop where
  paths : KeepsPaths before after
  written : ∀ file ∈ list, ∃ key, denoted? after (root.join file.path) = some key ∧
    HoldsLast root list after key
  unchanged : ∀ key, (∀ file ∈ list, denoted? after (root.join file.path) ≠ some key) →
    contents? after key = contents? before key

theorem HoldsLast.cons {key : Key} (holds : HoldsLast root list after key) :
    HoldsLast root (file :: list) after key := by
  rcases holds with ⟨earlier, last, later, rfl, rest⟩
  exact ⟨file :: earlier, last, later, rfl, rest⟩

namespace Wrote

theorem nil (keeps : Keeps before after) : Wrote root [] before after where
  paths := keeps.paths
  written file member := by cases member
  unchanged key _ := keeps.contents key

/-- One more file is written before these. Either one of them has its place, or it stays. -/
theorem cons (sets : Sets (root.join file.path) file.contents before between)
    (wrote : Wrote root list between after) : Wrote root (file :: list) before after := by
  rcases sets.file with ⟨place, denotes, holds, others⟩
  have denotesAfter : denoted? after (root.join file.path) = some place :=
    wrote.paths _ place denotes
  refine ⟨fun path key denotes => wrote.paths path key (sets.paths path key denotes), ?_, ?_⟩
  · intro other member
    rcases List.mem_cons.mp member with rfl | inList
    · refine ⟨place, denotesAfter, ?_⟩
      by_cases again : ∃ later ∈ list, denoted? after (root.join later.path) = some place
      · rcases again with ⟨later, laterMember, laterDenotes⟩
        rcases wrote.written later laterMember with ⟨key, keyDenotes, keyHolds⟩
        rw [laterDenotes] at keyDenotes
        cases keyDenotes
        exact keyHolds.cons
      · simp only [not_exists, not_and] at again
        exact ⟨[], other, list, rfl, denotesAfter, again, (wrote.unchanged place again).trans holds⟩
    · rcases wrote.written other inList with ⟨key, keyDenotes, keyHolds⟩
      exact ⟨key, keyDenotes, keyHolds.cons⟩
  · intro key apart
    have different : key ≠ place := by
      rintro rfl
      exact apart file List.mem_cons_self denotesAfter
    rw [wrote.unchanged key fun other member => apart other (List.mem_cons_of_mem _ member)]
    exact others key different

end Wrote

/-! ## What the steps do -/

namespace Output

variable [MonadFiles (StateM σ)] [LawfulFiles σ] {path : Path}

theorem makeFolder_keeps (path : Path) (before : σ) :
    Keeps before ((makeFolder path : ExceptT Problem (StateM σ) Unit).run.run before).2 :=
  rel_makeFolder LawfulFiles.createDirectory LawfulFiles.hasDirectory path before

theorem isUnwritten_of_makeFolder
    (ran : (makeFolder path : ExceptT Problem (StateM σ) Unit).run.run before
      = (.error problem, after)) : problem.IsUnwritten path := by
  unfold makeFolder at ran
  split at ran
  · next directory holds =>
      rcases exists_failure_of_attempt ran with ⟨failure, _, rfl⟩
      exact ⟨directory, failure.message, rfl, .inr holds⟩
  · cases ran

theorem sets_of_writeFile
    (ran : (writeFile root file : ExceptT Problem (StateM σ) Path).run.run before
      = (.ok path, after)) :
    path = root.join file.path ∧ Sets (root.join file.path) file.contents before after := by
  rw [writeFile_eq] at ran
  rcases exists_run_of_bind ran with ⟨⟨⟩, between, made, ran⟩
  rcases exists_run_of_bind ran with ⟨⟨⟩, last, wrote, ran⟩
  cases ran
  have keeps : Keeps before between := by
    have keeps := makeFolder_keeps (root.join file.path) before
    rwa [made] at keeps
  exact ⟨rfl, keeps.sets (LawfulFiles.sets (FileSystem.named_join file) (run_of_attempt wrote))⟩

/-- A file that could not be written leaves all files as they were. -/
theorem keeps_of_writeFile
    (ran : (writeFile root file : ExceptT Problem (StateM σ) Path).run.run before
      = (.error problem, after)) :
    problem.IsUnwritten (root.join file.path) ∧ Keeps before after := by
  rw [writeFile_eq] at ran
  have keeps := makeFolder_keeps (root.join file.path) before
  rcases error_of_bind ran with unmade | ⟨⟨⟩, between, made, ran⟩
  · rw [unmade] at keeps
    exact ⟨isUnwritten_of_makeFolder unmade, keeps⟩
  · rw [made] at keeps
    rcases error_of_bind ran with unwritten | ⟨⟨⟩, last, _, ran⟩
    · rcases exists_failure_of_attempt unwritten with ⟨failure, failed, rfl⟩
      exact ⟨⟨root.join file.path, failure.message, rfl, .inl rfl⟩,
        trans_of Keeps keeps (LawfulFiles.keeps failed)⟩
    · cases ran

/-! ## What a run does -/

theorem wrote_of_mapM {paths : List Path}
    (ran : (list.mapM (writeFile root) : ExceptT Problem (StateM σ) (List Path)).run.run before
      = (.ok paths, after)) :
    paths = list.map (fun file => root.join file.path) ∧ Wrote root list before after := by
  induction list generalizing before paths with
  | nil =>
      cases ran
      exact ⟨rfl, .nil (refl_of Keeps _)⟩
  | cons file others ih =>
      rw [List.mapM_cons] at ran
      rcases exists_run_of_bind ran with ⟨path, between, written, ran⟩
      rcases exists_run_of_bind ran with ⟨rest, last, wroteOthers, ran⟩
      cases ran
      rcases sets_of_writeFile written with ⟨rfl, sets⟩
      rcases ih wroteOthers with ⟨rfl, wrote⟩
      exact ⟨rfl, wrote.cons sets⟩

theorem exists_unwritten_of_mapM
    (ran : (list.mapM (writeFile root) : ExceptT Problem (StateM σ) (List Path)).run.run before
      = (.error problem, after)) :
    ∃ count file, list[count]? = some file ∧ problem.IsUnwritten (root.join file.path) ∧
      Wrote root (list.take count) before after := by
  induction list generalizing before with
  | nil => cases ran
  | cons file others ih =>
      rw [List.mapM_cons] at ran
      rcases error_of_bind ran with unwritten | ⟨path, between, written, ran⟩
      · rcases keeps_of_writeFile unwritten with ⟨about, keeps⟩
        exact ⟨0, file, rfl, about, .nil keeps⟩
      · rcases sets_of_writeFile written with ⟨_, sets⟩
        rcases error_of_bind ran with unwritten | ⟨rest, last, _, ran⟩
        · rcases ih unwritten with ⟨count, unwrittenFile, found, about, wrote⟩
          exact ⟨count + 1, unwrittenFile, found, about, wrote.cons sets⟩
        · cases ran

/-- Writing an output changes exactly the files that its paths denote, and each of them is what was
written to it last. A failure is that one of the files could not be written, and then exactly those
before it have been. -/
theorem write_wrote (output : Output) (root : Path) (before : σ) :
    (∀ paths after,
      (output.write root : ExceptT Problem (StateM σ) (List Path)).run.run before
        = (.ok paths, after) →
      paths = output.paths root ∧ Wrote root output.files before after) ∧
    ∀ problem after,
      (output.write root : ExceptT Problem (StateM σ) (List Path)).run.run before
        = (.error problem, after) →
      ∃ count file, output.files[count]? = some file ∧ problem.IsUnwritten (root.join file.path) ∧
        Wrote root (output.files.take count) before after :=
  ⟨fun _ _ ran => wrote_of_mapM ran, fun _ _ ran => exists_unwritten_of_mapM ran⟩

end Output

/-! ## File systems as values -/

namespace FileSystem

/-- A file system viewed by the locations that paths lead to. -/
instance : FileView FileSystem Location where
  denoted? files path := (files.locate path).toOption
  contents? files location :=
    match files.lookup? location with
    | some (.file contents) => some contents
    | _ => none

variable {files files' : FileSystem}

theorem denoted?_eq_some_iff {path : Path} {location : Location} :
    denoted? files path = some location ↔ files.locate path = .ok location := by
  change (files.locate path).toOption = some location ↔ _
  cases files.locate path <;> simp [Except.toOption]

theorem contents?_congr {location : Location}
    (same : files'.lookup? location = files.lookup? location) :
    contents? files' location = contents? files location := by
  simp only [contents?, same]

theorem Grows.keepsPaths (grows : files.Grows files') : KeepsPaths files files' := by
  intro path location denotes
  rw [denoted?_eq_some_iff] at denotes ⊢
  exact grows.locate denotes

theorem AddsDirectories.keeps (adds : files.AddsDirectories files') : Keeps files files' where
  paths := adds.grows.keepsPaths
  contents location := by
    rcases adds.change location with same | ⟨absent, added⟩
    · exact contents?_congr same
    · simp only [contents?, absent, added]

theorem sets_of_setText {path : Path} {text : String} (named : path.parts.getLast? ≠ some "")
    (written : files.setText path text = .ok files') : Sets path text files files' := by
  rcases exists_location_of_setText named written with ⟨location, proper, grows, rfl, located⟩
  refine ⟨grows.keepsPaths, location, denoted?_eq_some_iff.mpr located, ?_, ?_⟩
  · simp only [contents?, lookup?_put_self proper]
  · intro other different
    exact contents?_congr (lookup?_put_of_ne different)

/-- Each operation on a file system has its effect or changes no file. -/
instance : LawfulFiles FileSystem where
  createDirectory path files := (OnlyAddsDirectories.createDirectory path files).keeps
  hasDirectory path files := (OnlyAddsDirectories.hasDirectory path files).keeps
  sets named ran := sets_of_setText named (setText_of_writeText ran)
  keeps {path text before after failure} ran := by
    change (step (·.setText path text)).run before = _ at ran
    rw [run_step] at ran
    split at ran
    · cases ran
    · cases ran
      exact refl_of Keeps before

end FileSystem

/-- An output with two files in the same place. -/
def Output.rewritten : Output where
  files := [⟨"a", "Clock", "first"⟩, ⟨"b", "Clock", "other"⟩, ⟨"a", "Clock", "second"⟩]

/-- A directory with an older file in that place, and one more file. -/
def FileSystem.inUse : FileSystem where
  entries :=
    [(["out"], .directory), (["out", "a"], .directory),
      (["out", "a", "Clock.kt"], .file "old".toUTF8), (["out", "notes"], .file "kept".toUTF8)]

/-- The same directory with a file in place of a package. -/
def FileSystem.obstructed : FileSystem where
  entries := FileSystem.inUse.entries ++ [(["out", "b"], .file "kept".toUTF8)]

theorem exists_eq_of_fst_eq {α β : Type} {pair : α × β} {first : α} (same : pair.1 = first) :
    ∃ second, pair = (first, second) :=
  ⟨pair.2, same ▸ rfl⟩

namespace Output

theorem write_rewritten_inUse :
    ∃ after,
      (rewritten.write ⟨"out"⟩ : ExceptT Problem (StateM FileSystem) (List Path)).run.run .inUse
        = (.ok [⟨"out/a/Clock.kt"⟩, ⟨"out/b/Clock.kt"⟩, ⟨"out/a/Clock.kt"⟩], after) :=
  exists_eq_of_fst_eq (by decide +kernel)

theorem write_rewritten_obstructed :
    ∃ after,
      (rewritten.write ⟨"out"⟩ : ExceptT Problem (StateM FileSystem) (List Path)).run.run
          .obstructed
        = (.error (.outputWrite ⟨"out/b"⟩ "File exists (os error 17)"), after) :=
  exists_eq_of_fst_eq (by decide +kernel)

theorem write_wrote_rewritten :
    (∃ after,
      (rewritten.write ⟨"out"⟩ : ExceptT Problem (StateM FileSystem) (List Path)).run.run .inUse
        = (.ok [⟨"out/a/Clock.kt"⟩, ⟨"out/b/Clock.kt"⟩, ⟨"out/a/Clock.kt"⟩], after) ∧
      Wrote ⟨"out"⟩ rewritten.files .inUse after) ∧
    ∃ after,
      (rewritten.write ⟨"out"⟩ : ExceptT Problem (StateM FileSystem) (List Path)).run.run
          .obstructed
        = (.error (.outputWrite ⟨"out/b"⟩ "File exists (os error 17)"), after) ∧
      ∃ count file, rewritten.files[count]? = some file ∧
        Wrote ⟨"out"⟩ (rewritten.files.take count) .obstructed after := by
  rcases write_rewritten_inUse with ⟨after, ran⟩
  rcases write_rewritten_obstructed with ⟨left, stopped⟩
  rcases (write_wrote rewritten ⟨"out"⟩ FileSystem.obstructed).2 _ _ stopped with
    ⟨count, file, found, _, wrote⟩
  exact ⟨⟨after, ran, ((write_wrote rewritten ⟨"out"⟩ FileSystem.inUse).1 _ _ ran).2⟩,
    left, stopped, count, file, found, wrote⟩

end Output

end NativeWrappers
