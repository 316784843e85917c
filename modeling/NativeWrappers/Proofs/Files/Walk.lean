import NativeWrappers.Files.FileSystem
import NativeWrappers.Proofs.Files.Path
import NativeWrappers.Proofs.Traversal
/-!
# Walks through a file system

A path leads to the end of a walk through directories. Only the steps of the path matter to where it
ends, and as long as none leads upwards, each of them goes one directory further down. So a path
that continues another one denotes a place below it.
-/

namespace NativeWrappers.FileSystem

variable {files : FileSystem} {location middle target : Location} {part : String}
  {parts rest first second : List String} {path root : Path}

/-- The walk from a location along the parts of a path. -/
inductive Walk (files : FileSystem) : Location → List String → Location → Prop
  | done (location : Location) : Walk files location [] location
  | stay {location target : Location} {part : String} {rest : List String}
      (directory : files.isDirectory location = true) (idle : part = "" ∨ part = ".")
      (onward : Walk files location rest target) : Walk files location (part :: rest) target
  | ascend {location target : Location} {rest : List String}
      (directory : files.isDirectory location = true)
      (onward : Walk files location.dropLast rest target) :
      Walk files location (".." :: rest) target
  | enter {location target : Location} {part : String} {rest : List String}
      (directory : files.isDirectory location = true) (moves : ¬ (part = "" ∨ part = "."))
      (inward : part ≠ "..") (short : checkName part = .ok ())
      (present : (files.lookup? (location ++ [part])).isSome)
      (onward : Walk files (location ++ [part]) rest target) :
      Walk files location (part :: rest) target

theorem follow_cons (directory : files.isDirectory location = true) :
    files.follow location (part :: rest) =
      if part = "" ∨ part = "." then files.follow location rest
      else if part = ".." then files.follow location.dropLast rest
      else checkName part >>= fun _ =>
        match files.lookup? (location ++ [part]) with
        | none => .error .noSuchFile
        | some _ => files.follow (location ++ [part]) rest := by
  simp only [follow, directory, if_true]
  rfl

theorem isDirectory_of_follow_cons
    (followed : files.follow location (part :: rest) = .ok target) :
    files.isDirectory location = true := by
  cases directory : files.isDirectory location with
  | true => rfl
  | false =>
      rw [follow, directory] at followed
      cases followed

theorem follow_eq_ok_iff :
    files.follow location parts = .ok target ↔ files.Walk location parts target := by
  constructor
  · intro followed
    induction parts generalizing location with
    | nil =>
        cases followed
        exact .done _
    | cons part rest ih =>
        have directory := isDirectory_of_follow_cons followed
        rw [follow_cons directory] at followed
        split_ifs at followed with idle upwards
        · exact .stay directory idle (ih followed)
        · subst upwards
          exact .ascend directory (ih followed)
        · rcases bind_eq_ok_iff.mp followed with ⟨⟨⟩, short, followed⟩
          split at followed
          · cases followed
          · next found =>
              exact .enter directory idle upwards short (by simp [found]) (ih followed)
  · intro walk
    induction walk with
    | done location => rfl
    | stay directory idle onward ih =>
        simp only [follow_cons directory, idle, if_true, ih]
    | ascend directory onward ih =>
        simp [follow_cons directory, ih]
    | enter directory moves inward short present onward ih =>
        rcases Option.isSome_iff_exists.mp present with ⟨entry, found⟩
        simp only [follow_cons directory, moves, inward, if_false, short, found, ih]
        rfl

namespace Walk

theorem isDirectory (walk : files.Walk location (part :: rest) target) :
    files.isDirectory location = true := by
  cases walk with
  | stay directory | ascend directory | enter directory => exact directory

theorem append (walk : files.Walk location first middle)
    (further : files.Walk middle second target) :
    files.Walk location (first ++ second) target := by
  induction walk with
  | done location => exact further
  | stay directory idle _ ih => exact .stay directory idle (ih further)
  | ascend directory _ ih => exact .ascend directory (ih further)
  | enter directory moves inward short present _ ih =>
      exact .enter directory moves inward short present (ih further)

theorem split (walk : files.Walk location (first ++ second) target) :
    ∃ middle, files.Walk location first middle ∧ files.Walk middle second target := by
  induction first generalizing location with
  | nil => exact ⟨location, .done location, walk⟩
  | cons part rest ih =>
      cases walk with
      | stay directory idle onward =>
          rcases ih onward with ⟨middle, reached, further⟩
          exact ⟨middle, .stay directory idle reached, further⟩
      | ascend directory onward =>
          rcases ih onward with ⟨middle, reached, further⟩
          exact ⟨middle, .ascend directory reached, further⟩
      | enter directory moves inward short present onward =>
          rcases ih onward with ⟨middle, reached, further⟩
          exact ⟨middle, .enter directory moves inward short present reached, further⟩

/-- Parts that are no steps can be left out. -/
theorem steps (walk : files.Walk location parts target) :
    files.Walk location (Path.steps parts) target := by
  induction walk with
  | done location => exact .done location
  | stay _ idle _ ih =>
      rcases idle with rfl | rfl
      · simpa [Path.steps] using ih
      · simpa [Path.steps] using ih
  | ascend directory _ ih => exact .ascend directory ih
  | enter directory moves inward short present _ ih =>
      rw [not_or] at moves
      simpa [Path.steps, moves] using
        enter directory (not_or.mpr moves) inward short present ih

/-- A walk of steps to a directory can have parts in between that are no steps. -/
theorem of_steps (walk : files.Walk location (Path.steps parts) target)
    (directory : files.isDirectory target = true) : files.Walk location parts target := by
  induction parts generalizing location with
  | nil => exact walk
  | cons part rest ih =>
      by_cases idle : part = "" ∨ part = "."
      · have dropped : Path.steps (part :: rest) = Path.steps rest := by
          rcases idle with rfl | rfl <;> simp [Path.steps]
        rw [dropped] at walk
        refine .stay ?_ idle (ih walk)
        -- The next step starts from a directory, and so does the end of the walk.
        cases steps : Path.steps rest with
        | nil =>
            rw [steps] at walk
            cases walk
            exact directory
        | cons next others =>
            rw [steps] at walk
            exact walk.isDirectory
      · have kept : Path.steps (part :: rest) = part :: Path.steps rest := by
          rw [not_or] at idle
          simp [Path.steps, idle]
        rw [kept] at walk
        cases walk with
        | stay _ idle' => exact absurd idle' idle
        | ascend here onward => exact .ascend here (ih onward)
        | enter here moves inward short present onward =>
            exact .enter here moves inward short present (ih onward)

/-- Without a way upwards, every step goes one directory further down. -/
theorem eq_append_steps (walk : files.Walk location parts target) (inward : ".." ∉ parts) :
    target = location ++ Path.steps parts := by
  induction walk with
  | done location => simp [Path.steps]
  | stay _ idle _ ih =>
      rw [ih (fun member => inward (List.mem_cons_of_mem _ member))]
      rcases idle with rfl | rfl <;> simp [Path.steps]
  | ascend => exact absurd List.mem_cons_self inward
  | enter _ moves _ _ _ _ ih =>
      rw [not_or] at moves
      rw [ih (fun member => inward (List.mem_cons_of_mem _ member))]
      simp [Path.steps, moves]

end Walk

theorem locate_eq_ok_iff :
    files.locate path = .ok target ↔
      checkPath path = .ok () ∧ files.Walk (files.start path) path.parts target := by
  rw [locate, bind_eq_ok_iff, ← follow_eq_ok_iff]
  constructor
  · rintro ⟨⟨⟩, valid, followed⟩
    exact ⟨valid, followed⟩
  · rintro ⟨valid, followed⟩
    exact ⟨(), valid, followed⟩

/-- What stands below a directory is located by the way to the directory and more names. -/
theorem exists_base_of_locate (sameStart : path.isAbsolute = root.isAbsolute) {names : List String}
    (further : Path.steps path.parts = Path.steps root.parts ++ names) (proper : names ≠ [])
    (inward : ".." ∉ names) (located : files.locate path = .ok target) :
    ∃ base, files.follow (files.start root) root.parts = .ok base ∧ target = base ++ names := by
  have walk := (locate_eq_ok_iff.mp located).2.steps
  have start : files.start path = files.start root := by simp [FileSystem.start, sameStart]
  rw [start, further] at walk
  rcases walk.split with ⟨base, toBase, onward⟩
  have directory : files.isDirectory base = true := by
    rcases List.exists_cons_of_ne_nil proper with ⟨name, others, names⟩
    rw [names] at onward
    exact onward.isDirectory
  have moves : Path.steps names = names := by
    rw [Path.steps, List.filter_eq_self]
    intro name member
    have inPath : name ∈ Path.steps path.parts := by
      rw [further]
      exact List.mem_append_right _ member
    exact (List.mem_filter.mp inPath).2
  refine ⟨base, follow_eq_ok_iff.mpr (toBase.of_steps directory), ?_⟩
  rw [onward.eq_append_steps inward, moves]

end NativeWrappers.FileSystem
