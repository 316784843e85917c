import NativeWrappers.Files.Path
import NativeWrappers.Proofs.Text.Segments
/-!
# Components of paths that are put together

A part that is appended to a path adds its own components at the end, unless it is absolute: then
nothing is left of what precedes it. What a path says is told by its components. The names that it
steps through, and whether it starts at the root, can be read off them.
-/

namespace NativeWrappers

namespace PathComponent

/-- The name that a component steps to, where two dots lead upwards. The root and the current
directory are no steps, they are where a path starts. -/
def step? : PathComponent → Option String
  | root | current => none
  | parent => some ".."
  | normal name => some name

/-- The component that steps to a name. -/
def ofStep (name : String) : PathComponent := if name = ".." then parent else normal name

variable {name : String}

@[simp] theorem step?_ofStep (name : String) : (ofStep name).step? = some name := by
  unfold ofStep
  split
  · next upwards => rw [upwards, step?]
  · rfl

@[simp] theorem ofStep_ne_root : ofStep name ≠ root := by
  unfold ofStep
  split <;> simp

@[simp] theorem ofStep_eq_parent_iff : ofStep name = parent ↔ name = ".." := by
  unfold ofStep
  split <;> simp [*]

@[simp] theorem ofStep_ne_normal_dots : ofStep name ≠ normal ".." := by
  unfold ofStep
  split <;> simp [*]

end PathComponent

namespace Path

variable {path root further : Path} {part : String}

/-- The parts that stay in front when something is appended. -/
def lead (path : Path) : List String :=
  if path.text = "" then []
  else if path.text.toList.getLast? = some '/' then
    (Text.splitAt '/' path.text.toList.dropLast).map String.ofList
  else path.parts

theorem lead_eq_nil_iff : path.lead = [] ↔ path.text = "" := by
  unfold lead
  split
  · next empty => simp [empty]
  · next nonempty =>
      split
      · simp [nonempty, Text.splitAt_ne_nil]
      · simp [parts, Text.segments, nonempty, Text.splitAt_ne_nil]

theorem parts_eq_lead (path : Path) : path.parts = path.lead ∨ path.parts = path.lead ++ [""] := by
  unfold lead
  split
  · next empty => exact Or.inr (by simp [parts, empty, Text.segments, Text.splitAt])
  · split
    · next nonempty slash =>
        have text : path.text.toList = path.text.toList.dropLast ++ ['/'] :=
          (List.dropLast_append_getLast? _ slash).symm
        right
        rw [parts, Text.segments, text, Text.splitAt_append_separator]
        simp [Text.splitAt]
    · exact Or.inl rfl

theorem parts_push (relative : part.toList.head? ≠ some '/') :
    (path.push part).parts = path.lead ++ Text.segments '/' part := by
  unfold push lead
  rw [if_neg relative]
  by_cases empty : path.text = ""
  · simp [empty, parts]
  · by_cases slash : path.text.toList.getLast? = some '/'
    · have text : path.text.toList = path.text.toList.dropLast ++ ['/'] :=
        (List.dropLast_append_getLast? _ slash).symm
      simp only [empty, slash, or_true, if_true, if_false, parts, Text.segments,
        String.toList_append]
      rw [text, List.append_assoc, List.singleton_append, Text.splitAt_append_separator]
      simp
    · simp only [empty, slash, or_self, if_false, parts, Text.segments, String.toList_append]
      rw [List.append_assoc]
      simp [Text.splitAt_append_separator]

theorem getLast?_parts_push :
    (path.push part).parts.getLast? = (Text.segments '/' part).getLast? := by
  by_cases absolute : part.toList.head? = some '/'
  · simp [push, absolute, parts]
  · rw [parts_push absolute, List.getLast?_append_of_ne_nil _ (Text.segments_ne_nil '/' part)]

/-- A plain part stays whole, whatever is appended after it. -/
theorem lead_push (nonempty : part ≠ "") (unslashed : '/' ∉ part.toList) :
    (path.push part).lead = path.lead ++ [part] := by
  have relative : part.toList.head? ≠ some '/' := fun head => unslashed (List.mem_of_head? head)
  have split : (path.push part).parts = path.lead ++ [part] := by
    rw [parts_push relative, Text.segments_of_not_mem unslashed]
  rcases (path.push part).parts_eq_lead with same | trailing
  · rw [← same, split]
  · rw [split] at trailing
    exact absurd (List.append_inj_right' trailing rfl) (by simp [nonempty])

theorem lead_foldl_push {pieces : List String}
    (plain : ∀ piece ∈ pieces, piece ≠ "" ∧ '/' ∉ piece.toList) :
    (pieces.foldl push path).lead = path.lead ++ pieces := by
  induction pieces generalizing path with
  | nil => simp
  | cons piece rest ih =>
      simp only [List.forall_mem_cons] at plain
      simp [ih plain.2, lead_push plain.1.1 plain.1.2]

theorem isAbsolute_push :
    (path.push part).isAbsolute = true ↔
      path.isAbsolute = true ∨ part.toList.head? = some '/' := by
  unfold push
  split
  · next absolute => simp [isAbsolute, absolute]
  · next relative =>
      by_cases empty : path.text = ""
      · simp [isAbsolute, empty, relative]
      · rcases List.exists_cons_of_ne_nil (mt String.toList_eq_nil_iff.mp empty) with
          ⟨head, rest, text⟩
        split <;> simp [isAbsolute, String.toList_append, text, relative]

theorem isAbsolute_foldl_push {pieces : List String} :
    (pieces.foldl push path).isAbsolute = true ↔
      path.isAbsolute = true ∨ ∃ piece ∈ pieces, piece.toList.head? = some '/' := by
  induction pieces generalizing path with
  | nil => simp
  | cons piece rest ih => simp [ih, isAbsolute_push, or_assoc]

/-! ## Components -/

/-- The component in front of the steps, if there is one. -/
def origin (path : Path) : List PathComponent :=
  if path.isAbsolute then [.root] else if path.parts.head? = some "." then [.current] else []

/-- The names that lead from one place to another. -/
def steps (parts : List String) : List String := parts.filter fun part => part ≠ "" ∧ part ≠ "."

@[simp] theorem steps_append (first second : List String) :
    steps (first ++ second) = steps first ++ steps second := by
  simp [steps]

theorem mem_steps_iff {parts : List String} :
    part ∈ steps parts ↔ part ∈ parts ∧ part ≠ "" ∧ part ≠ "." := by
  simp [steps]

theorem steps_lead (path : Path) : steps path.lead = steps path.parts := by
  rcases path.parts_eq_lead with same | trailing
  · rw [same]
  · rw [trailing, steps_append]
    simp [steps]

theorem steps_push (relative : part.toList.head? ≠ some '/') :
    steps (path.push part).parts = steps path.parts ++ steps (Text.segments '/' part) := by
  rw [parts_push relative, steps_append, steps_lead]

theorem steps_foldl_push {pieces : List String}
    (relative : ∀ piece ∈ pieces, piece.toList.head? ≠ some '/') :
    steps (pieces.foldl push path).parts =
      steps path.parts ++ pieces.flatMap fun piece => steps (Text.segments '/' piece) := by
  induction pieces generalizing path with
  | nil => simp
  | cons piece rest ih =>
      simp only [List.forall_mem_cons] at relative
      simp [ih relative.2, steps_push relative.1]

theorem filterMap_component?_false (parts : List String) :
    parts.filterMap (component? false) = (steps parts).map .ofStep := by
  induction parts with
  | nil => rfl
  | cons part rest ih =>
      by_cases empty : part = ""
      · simpa [steps, component?, empty] using ih
      · by_cases dot : part = "."
        · simpa [steps, component?, dot] using ih
        · by_cases dots : part = ".."
          · simpa [steps, component?, dots, PathComponent.ofStep] using ih
          · simpa [steps, component?, empty, dot, dots, PathComponent.ofStep] using ih

theorem head?_parts_of_isAbsolute (absolute : path.isAbsolute = true) :
    path.parts.head? = some "" := by
  have head : path.text.toList.head? = some '/' := by simpa [isAbsolute] using absolute
  rcases List.head?_eq_some_iff.mp head with ⟨rest, text⟩
  simp [parts, Text.segments, text, Text.splitAt]

theorem exists_parts_eq_cons (path : Path) : ∃ first rest, path.parts = first :: rest :=
  List.exists_cons_of_ne_nil (Text.segments_ne_nil '/' path.text)

theorem component?_true (part : String) :
    (component? true part).toList =
      (if part = "." then [.current] else []) ++ [part].filterMap (component? false) := by
  unfold component?
  split_ifs <;> simp_all

/-- A path is told by its origin and its steps. -/
theorem components_eq (path : Path) :
    path.components = path.origin ++ (steps path.parts).map .ofStep := by
  rw [← filterMap_component?_false]
  rcases path.exists_parts_eq_cons with ⟨first, rest, split⟩
  cases absolute : path.isAbsolute with
  | true =>
      have head := head?_parts_of_isAbsolute absolute
      simp only [split, List.head?_cons, Option.some.injEq] at head
      simp [components, origin, absolute, split, head, component?]
  | false =>
      simp only [components, origin, absolute, split, Bool.false_eq_true, if_false, component?_true,
        List.head?_cons, Option.some.injEq, List.append_assoc, ← List.filterMap_append]
      rfl

theorem isAbsolute_eq_false_iff : path.isAbsolute = false ↔ path.text.toList.head? ≠ some '/' := by
  simp [isAbsolute]

theorem parts_join (relative : further.isAbsolute = false) :
    (root.join further).parts = root.lead ++ further.parts :=
  parts_push (isAbsolute_eq_false_iff.mp relative)

theorem isAbsolute_join (relative : further.isAbsolute = false) :
    (root.join further).isAbsolute = root.isAbsolute := by
  rw [Bool.eq_iff_iff, join, isAbsolute_push]
  exact or_iff_left (isAbsolute_eq_false_iff.mp relative)

theorem origin_join (relative : further.isAbsolute = false) :
    (root.join further).origin = if root.text = "" then further.origin else root.origin := by
  have relativeText := isAbsolute_eq_false_iff.mp relative
  split
  · next empty => simp [join, push, relativeText, empty]
  · next nonempty =>
      have sameHead : (root.join further).parts.head? = root.parts.head? := by
        rcases List.exists_cons_of_ne_nil (mt lead_eq_nil_iff.mp nonempty) with ⟨first, rest, lead⟩
        rcases root.parts_eq_lead with same | trailing
        · simp [parts_join relative, same, lead]
        · simp [parts_join relative, trailing, lead]
      rw [origin, origin, isAbsolute_join relative, sameHead]

/-- What a relative path adds to the one that it is joined to. -/
theorem components_join (relative : further.isAbsolute = false) :
    (root.join further).components =
      root.components ++ ((if root.text = "" then further.origin else [])
        ++ (steps further.parts).map .ofStep) := by
  rw [components_eq, components_eq, origin_join relative, parts_join relative, steps_append,
    steps_lead]
  split
  · next empty => simp [origin, steps, parts, isAbsolute, empty, Text.segments, Text.splitAt]
  · simp

theorem join_of_isAbsolute (absolute : further.isAbsolute = true) :
    root.join further = further := by
  have head : further.text.toList.head? = some '/' := by simpa [isAbsolute] using absolute
  simp [join, push, head]

@[simp] theorem root_mem_origin_iff : .root ∈ path.origin ↔ path.isAbsolute = true := by
  unfold origin
  split_ifs <;> simp_all

@[simp] theorem parent_not_mem_origin : .parent ∉ path.origin := by
  unfold origin
  split_ifs <;> simp

theorem root_mem_components_iff : .root ∈ path.components ↔ path.isAbsolute = true := by
  simp [components_eq]

theorem filterMap_step?_components (path : Path) :
    path.components.filterMap PathComponent.step? = steps path.parts := by
  have none : path.origin.filterMap PathComponent.step? = [] := by
    unfold origin
    split_ifs <;> simp [PathComponent.step?]
  have kept : PathComponent.step? ∘ PathComponent.ofStep = some :=
    funext PathComponent.step?_ofStep
  rw [components_eq, List.filterMap_append, none, List.filterMap_map, kept, List.filterMap_some,
    List.nil_append]

theorem normal_dots_not_mem_components : .normal ".." ∉ path.components := by
  rw [components_eq, List.mem_append, not_or]
  constructor
  · unfold origin
    split_ifs <;> simp
  · simp

/-! ## Paths below a directory -/

/-- The path is the one of the directory with more components after it, none of which starts anew
or leads upwards. -/
def IsBelow (path root : Path) : Prop :=
  ∃ added, added ≠ [] ∧ path.components = root.components ++ added ∧
    .root ∉ added ∧ .parent ∉ added

theorem isBelow_join_iff (relative : further.isAbsolute = false)
    (moves : steps further.parts ≠ []) :
    (root.join further).IsBelow root ↔ ".." ∉ further.parts := by
  have upwards : ".." ∈ steps further.parts ↔ ".." ∈ further.parts := by simp [steps]
  simp only [IsBelow, components_join relative, List.append_cancel_left_eq]
  constructor
  · rintro ⟨added, _, rfl, _, noParent⟩ member
    exact noParent (by simp [upwards, member])
  · intro noDots
    refine ⟨_, ?_, rfl, ?_, ?_⟩
    · simp [moves]
    · split_ifs <;> simp [relative]
    · split_ifs <;> simp [upwards, noDots]

/-- A path below a directory starts where it starts and takes its steps, and then others that never
lead upwards. -/
theorem IsBelow.exists_steps (below : path.IsBelow root) (moves : steps path.parts ≠ []) :
    path.isAbsolute = root.isAbsolute ∧
      ∃ names, names ≠ [] ∧ ".." ∉ names ∧ steps path.parts = steps root.parts ++ names := by
  rcases below with ⟨added, proper, extended, noRoot, noParent⟩
  constructor
  · rw [Bool.eq_iff_iff, ← root_mem_components_iff, ← root_mem_components_iff, extended,
      List.mem_append, or_iff_left noRoot]
  · refine ⟨added.filterMap PathComponent.step?, ?_, ?_, ?_⟩
    · -- The last component is a step, and it is one of those added.
      rcases List.eq_nil_or_concat (steps path.parts) with none | ⟨earlier, name, split⟩
      · exact absurd none moves
      · have last : added.getLast? = some (.ofStep name) := by
          rw [← List.getLast?_append_of_ne_nil root.components proper, ← extended, components_eq,
            split]
          simp
        have member : name ∈ added.filterMap PathComponent.step? :=
          List.mem_filterMap.mpr ⟨_, List.mem_of_getLast? last, PathComponent.step?_ofStep name⟩
        exact List.ne_nil_of_mem member
    · intro upwards
      rcases List.mem_filterMap.mp upwards with ⟨component, member, step⟩
      have inPath : component ∈ path.components := by
        rw [extended]
        exact List.mem_append_right _ member
      cases component with
      | root | current => cases step
      | parent => exact noParent member
      | normal name =>
          cases step
          exact normal_dots_not_mem_components inPath
    · rw [← filterMap_step?_components, ← filterMap_step?_components, extended,
        List.filterMap_append]

end Path

end NativeWrappers
