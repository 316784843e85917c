import NativeWrappers.Files.Output
import NativeWrappers.Proofs.Files.Path
/-!
# Where generated files lie

The path of a file has a part for each folder that its package says, and then the name of the file.
A folder has no dot in it, so no folder leads upwards. A slash in a package or a name is taken as it
stands: in front it makes the path absolute, and further in it starts one more part.
-/

namespace NativeWrappers.SourceFile

variable {file other : SourceFile} {root : Path}

/-- The folders that the package says. A segment without characters says none. -/
def folders (file : SourceFile) : List String :=
  (Text.segments '.' file.package).filter (· ≠ "")

/-- The parts of the path of a file: its folders and its file name. -/
def pieces (file : SourceFile) : List String := file.folders ++ [file.name ++ ".kt"]

theorem path_eq (file : SourceFile) : file.path = file.pieces.foldl Path.push ⟨""⟩ := by
  simp [path, pieces, folders]

theorem plain_of_mem_folders {folder : String} (member : folder ∈ file.folders) :
    folder ≠ "" ∧ '.' ∉ folder.toList ∧ folder.toList ⊆ file.package.toList := by
  simp only [folders, List.mem_filter, decide_eq_true_eq] at member
  exact ⟨member.2, Text.not_mem_and_subset_of_mem_segments member.1⟩

/-- The last part of the path has the ending of the file name in it. -/
theorem exists_segments_path (file : SourceFile) :
    ∃ last, Text.segments '/' (file.name ++ ".kt") =
      (Text.segments '/' file.name).dropLast ++ [last ++ ".kt"] := by
  rcases Text.exists_segments_append file.name (by decide : '/' ∉ ".kt".toList) with
    ⟨others, last, segments, extended⟩
  exact ⟨last, by simp [extended, segments]⟩

theorem named_ne (name : String) :
    name ++ ".kt" ≠ "" ∧ name ++ ".kt" ≠ "." ∧ name ++ ".kt" ≠ ".." := by
  refine ⟨?_, ?_, ?_⟩ <;>
    · intro same
      have ending := congrArg (fun text : String => text.toList.getLast?) same
      simp [String.toList_append] at ending

theorem exists_getLast?_parts_path (file : SourceFile) :
    ∃ name, file.path.parts.getLast? = some (name ++ ".kt") := by
  rcases file.exists_segments_path with ⟨last, segments⟩
  refine ⟨last, ?_⟩
  rw [path, Path.getLast?_parts_push, segments]
  simp

theorem exists_getLast?_parts_join (root : Path) (file : SourceFile) :
    ∃ name, (root.join file.path).parts.getLast? = some (name ++ ".kt") := by
  rw [Path.join, Path.getLast?_parts_push]
  exact file.exists_getLast?_parts_path

theorem steps_ne_nil_of_getLast? {place : Path} {name : String}
    (last : place.parts.getLast? = some (name ++ ".kt")) : Path.steps place.parts ≠ [] := by
  have member : name ++ ".kt" ∈ Path.steps place.parts :=
    Path.mem_steps_iff.mpr ⟨List.mem_of_getLast? last, (named_ne name).1, (named_ne name).2.1⟩
  exact List.ne_nil_of_mem member

/-! ## Files that stay below their directory -/

/-- No piece of the path starts anew at the root, and none leads upwards. -/
structure IsConfined (file : SourceFile) : Prop where
  relative_folder : ∀ folder ∈ file.folders, folder.toList.head? ≠ some '/'
  relative_name : file.name.toList.head? ≠ some '/'
  /-- What follows the last slash is never taken for two dots, because of the ending. -/
  not_upwards : ".." ∉ (Text.segments '/' file.name).dropLast

theorem isAbsolute_path_eq_false_iff :
    file.path.isAbsolute = false ↔ ∀ piece ∈ file.pieces, piece.toList.head? ≠ some '/' := by
  have start : Path.isAbsolute ⟨""⟩ = false := by decide
  rw [← Bool.not_eq_true, path_eq, Path.isAbsolute_foldl_push]
  simp [start]

theorem relative_pieces_iff :
    (∀ piece ∈ file.pieces, piece.toList.head? ≠ some '/') ↔
      (∀ folder ∈ file.folders, folder.toList.head? ≠ some '/') ∧
        file.name.toList.head? ≠ some '/' := by
  have named :
      (file.name ++ ".kt").toList.head? = some '/' ↔ file.name.toList.head? = some '/' := by
    cases text : file.name.toList <;> simp [String.toList_append, text]
  simp only [pieces, List.forall_mem_append, List.forall_mem_singleton, ne_eq, named]

/-- Two dots can only come from the name. -/
theorem dots_mem_parts_path_iff (relative : file.path.isAbsolute = false) :
    ".." ∈ file.path.parts ↔ ".." ∈ (Text.segments '/' file.name).dropLast := by
  have inSteps {parts : List String} : ".." ∈ Path.steps parts ↔ ".." ∈ parts := by
    simp [Path.steps]
  have notInFolder : ∀ folder ∈ file.folders, ".." ∉ Text.segments '/' folder := by
    intro folder member upwards
    have subset := (Text.not_mem_and_subset_of_mem_segments upwards).2
    exact (plain_of_mem_folders member).2.1 (subset (by decide))
  rcases file.exists_segments_path with ⟨last, segments⟩
  rw [← inSteps, path_eq, Path.steps_foldl_push (isAbsolute_path_eq_false_iff.mp relative)]
  simp only [pieces, List.flatMap_append, List.flatMap_singleton, List.mem_append,
    List.mem_flatMap, inSteps, segments, List.mem_singleton]
  constructor
  · rintro (start | ⟨folder, member, upwards⟩ | inOthers | isLast)
    · exact absurd start (by decide)
    · exact absurd upwards (notInFolder folder member)
    · exact inOthers
    · exact absurd isLast.symm (named_ne last).2.2
  · exact fun inOthers => Or.inr (Or.inr (Or.inl inOthers))

theorem isConfined_iff :
    file.IsConfined ↔ file.path.isAbsolute = false ∧ ".." ∉ file.path.parts := by
  constructor
  · rintro ⟨folders, name, notUpwards⟩
    have relative :=
      isAbsolute_path_eq_false_iff.mpr (relative_pieces_iff.mpr ⟨folders, name⟩)
    exact ⟨relative, mt (dots_mem_parts_path_iff relative).mp notUpwards⟩
  · rintro ⟨relative, notUpwards⟩
    rcases relative_pieces_iff.mp (isAbsolute_path_eq_false_iff.mp relative) with
      ⟨folders, name⟩
    exact ⟨folders, name, mt (dots_mem_parts_path_iff relative).mpr notUpwards⟩

theorem join_path_isBelow_iff :
    (root.join file.path).IsBelow root ↔
      file.IsConfined ∨ file.path.isAbsolute = true ∧ file.path.IsBelow root := by
  cases start : file.path.isAbsolute with
  | false =>
      rcases file.exists_getLast?_parts_path with ⟨name, last⟩
      rw [Path.isBelow_join_iff start (steps_ne_nil_of_getLast? last), isConfined_iff]
      simp [start]
  | true =>
      rw [Path.join_of_isAbsolute start, isConfined_iff]
      simp [start]

/-! ## Files without slashes -/

/-- No slash can be taken for the end of a folder. -/
def IsUnslashed (file : SourceFile) : Prop := '/' ∉ file.package.toList ∧ '/' ∉ file.name.toList

instance (file : SourceFile) : Decidable file.IsUnslashed :=
  inferInstanceAs (Decidable (_ ∧ _))

theorem IsUnslashed.plain (unslashed : file.IsUnslashed) {piece : String}
    (member : piece ∈ file.pieces) :
    piece ≠ "" ∧ piece ≠ "." ∧ piece ≠ ".." ∧ '/' ∉ piece.toList := by
  simp only [pieces, List.mem_append, List.mem_singleton] at member
  rcases member with inFolders | rfl
  · rcases plain_of_mem_folders inFolders with ⟨nonempty, undotted, subset⟩
    refine ⟨nonempty, ?_, ?_, fun slash => unslashed.1 (subset slash)⟩ <;>
      · rintro rfl
        exact undotted (by decide)
  · refine ⟨(named_ne _).1, (named_ne _).2.1, (named_ne _).2.2, ?_⟩
    simp [String.toList_append, unslashed.2]

theorem IsUnslashed.parts_path (unslashed : file.IsUnslashed) : file.path.parts = file.pieces := by
  have folders : ∀ folder ∈ file.folders, folder ≠ "" ∧ '/' ∉ folder.toList := by
    intro folder member
    have plain := unslashed.plain (List.mem_append_left _ member)
    exact ⟨plain.1, plain.2.2.2⟩
  have named := unslashed.plain (List.mem_append_right _ (List.mem_singleton_self _))
  have relative : (file.name ++ ".kt").toList.head? ≠ some '/' :=
    fun head => named.2.2.2 (List.mem_of_head? head)
  have start : Path.lead ⟨""⟩ = [] := Path.lead_eq_nil_iff.mpr rfl
  change ((file.folders.foldl Path.push ⟨""⟩).push (file.name ++ ".kt")).parts = _
  rw [Path.parts_push relative, Path.lead_foldl_push folders, start,
    Text.segments_of_not_mem named.2.2.2]
  rfl

theorem IsUnslashed.isConfined (unslashed : file.IsUnslashed) : file.IsConfined where
  relative_folder folder member head :=
    (unslashed.plain (List.mem_append_left _ member)).2.2.2 (List.mem_of_head? head)
  relative_name head := unslashed.2 (List.mem_of_head? head)
  not_upwards := by simp [Text.segments_of_not_mem unslashed.2]

theorem IsUnslashed.steps_path (unslashed : file.IsUnslashed) :
    Path.steps file.path.parts = file.pieces := by
  rw [unslashed.parts_path, Path.steps, List.filter_eq_self]
  intro piece member
  simp [unslashed.plain member]

theorem IsUnslashed.components_path (unslashed : file.IsUnslashed) :
    file.path.components = file.pieces.map .normal := by
  have relative := (isConfined_iff.mp unslashed.isConfined).1
  have start : file.path.parts.head? ≠ some "." := by
    rw [unslashed.parts_path]
    exact fun head => (unslashed.plain (List.mem_of_head? head)).2.1 rfl
  have origin : file.path.origin = [] := by simp [Path.origin, relative, start]
  rw [Path.components_eq, origin, unslashed.steps_path, List.nil_append, List.map_inj_left]
  intro piece member
  simp [PathComponent.ofStep, unslashed.plain member]

theorem pieces_inj :
    file.pieces = other.pieces ↔ file.folders = other.folders ∧ file.name = other.name := by
  simp [pieces, ← String.toList_inj, String.toList_append]

end NativeWrappers.SourceFile
