import Mathlib.Data.List.Sort
import Mathlib.Data.List.TakeWhile
import Mathlib.Data.String.Basic
import NativeWrappers.QualifiedName
/-!
# The order and the written form of qualified names

Names are ordered by package and then by simple name, which is a total order. A sorted list of names
is therefore determined by the names that occur and how often, whatever order they came in.

A written name is read by its last dot. So exactly the names whose simple part has no dot are read
back as they are, and they are also determined by the written form. A text is written again as it
was read, unless it begins with its only dot, which stands for an empty package.
-/

namespace NativeWrappers.QualifiedName

variable {first second third : QualifiedName}

theorem ordered_iff :
    ordered first second = true ↔
      first.package < second.package ∨
        (first.package = second.package ∧ first.simple ≤ second.simple) := by
  simp [ordered]

theorem ordered_trans (before : ordered first second = true)
    (after : ordered second third = true) : ordered first third = true := by
  rw [ordered_iff] at before after ⊢
  rcases before with lower | ⟨samePackage, simple⟩
  · rcases after with lower' | ⟨samePackage', _⟩
    · exact Or.inl (lower.trans lower')
    · exact Or.inl (samePackage' ▸ lower)
  · rw [samePackage]
    rcases after with lower' | ⟨samePackage', simple'⟩
    · exact Or.inl lower'
    · exact Or.inr ⟨samePackage', simple.trans simple'⟩

theorem ordered_total (first second : QualifiedName) :
    (ordered first second || ordered second first) = true := by
  rw [Bool.or_eq_true, ordered_iff, ordered_iff]
  rcases lt_trichotomy first.package second.package with lower | samePackage | higher
  · exact Or.inl (Or.inl lower)
  · rcases le_total first.simple second.simple with simple | simple
    · exact Or.inl (Or.inr ⟨samePackage, simple⟩)
    · exact Or.inr (Or.inr ⟨samePackage.symm, simple⟩)
  · exact Or.inr (Or.inl higher)

theorem ordered_antisymm (before : ordered first second = true)
    (after : ordered second first = true) : first = second := by
  rw [ordered_iff] at before after
  have samePackage : first.package = second.package := by
    rcases before with lower | ⟨samePackage, _⟩
    · rcases after with lower' | ⟨samePackage, _⟩
      · exact absurd lower' lower.asymm
      · exact samePackage.symm
    · exact samePackage
  have simple : first.simple ≤ second.simple :=
    (before.resolve_left (samePackage ▸ lt_irrefl _)).2
  have simple' : second.simple ≤ first.simple :=
    (after.resolve_left (samePackage ▸ lt_irrefl _)).2
  cases first
  cases second
  exact congrArg₂ QualifiedName.mk samePackage (le_antisymm simple simple')

theorem sort_perm (names : List QualifiedName) : (sort names).Perm names :=
  List.mergeSort_perm names ordered

theorem pairwise_sort (names : List QualifiedName) :
    (sort names).Pairwise fun first second => ordered first second = true := by
  rw [sort]
  apply List.pairwise_mergeSort
  · intro first second third
    exact ordered_trans
  · exact ordered_total

theorem sort_eq_of_perm {names names' : List QualifiedName} (reordered : names.Perm names') :
    sort names = sort names' := by
  have sorted : (sort names).Perm (sort names') :=
    (sort_perm names).trans (reordered.trans (sort_perm names').symm)
  exact sorted.eq_of_pairwise (fun _ _ _ _ => ordered_antisymm) (pairwise_sort names)
    (pairwise_sort names')

/-! ## The written form -/

section Written

variable {name : QualifiedName} {text simple : String}

theorem parse_of_not_mem (undotted : '.' ∉ text.toList) : parse text = ⟨"", text⟩ := by
  have noDot : text.toList.reverse.dropWhile (· ≠ '.') = [] := by
    rw [List.dropWhile_eq_nil_iff]
    intro character member
    simpa using ne_of_mem_of_not_mem (List.mem_reverse.mp member) undotted
  simp only [parse, noDot]

theorem parse_append (package : String) (undotted : '.' ∉ simple.toList) :
    parse (package ++ "." ++ simple) = ⟨package, simple⟩ := by
  have noDot : ∀ character ∈ simple.toList.reverse, decide (character ≠ '.') = true := by
    intro character member
    simpa using ne_of_mem_of_not_mem (List.mem_reverse.mp member) undotted
  have written : (package ++ "." ++ simple).toList.reverse
      = simple.toList.reverse ++ '.' :: package.toList.reverse := by
    simp [String.toList_append]
  simp only [parse, written, List.dropWhile_append_of_pos noDot,
    List.takeWhile_append_of_pos noDot]
  simp

/-- A text without a dot is read as a simple name, and any other is split at its last dot. -/
theorem parse_cases (text : String) :
    ('.' ∉ text.toList ∧ parse text = ⟨"", text⟩) ∨
      ∃ package simple, '.' ∉ simple.toList ∧ text = package ++ "." ++ simple ∧
        parse text = ⟨package, simple⟩ := by
  by_cases dotted : '.' ∈ text.toList
  · right
    rcases List.eq_append_cons_of_mem (List.mem_reverse.mpr dotted) with
      ⟨simple, package, reversed, undotted⟩
    have simpleUndotted : '.' ∉ (String.ofList simple.reverse).toList := by
      simpa using undotted
    have written : text = String.ofList package.reverse ++ "." ++ String.ofList simple.reverse := by
      apply String.toList_injective
      rw [← List.reverse_reverse text.toList, reversed]
      simp
    refine ⟨_, _, simpleUndotted, written, ?_⟩
    rw [written]
    exact parse_append _ simpleUndotted
  · exact Or.inl ⟨dotted, parse_of_not_mem dotted⟩

theorem not_mem_simple_parse (text : String) : '.' ∉ (parse text).simple.toList := by
  rcases parse_cases text with ⟨undotted, read⟩ | ⟨package, simple, undotted, _, read⟩
  · simpa [read] using undotted
  · simpa [read] using undotted

theorem parse_dotted (undotted : '.' ∉ name.simple.toList) : parse name.dotted = name := by
  rcases name with ⟨package, simple⟩
  by_cases empty : package = ""
  · simpa [dotted, empty] using parse_of_not_mem undotted
  · simpa [dotted, empty] using parse_append package undotted

theorem eq_of_dotted_eq (undotted : '.' ∉ first.simple.toList)
    (undotted' : '.' ∉ second.simple.toList) (same : first.dotted = second.dotted) :
    first = second := by
  rw [← parse_dotted undotted, ← parse_dotted undotted', same]

/-- Writing the name that was read drops a dot that the text begins with if it has no other. -/
theorem dotted_parse (text : String) :
    (parse text).dotted
      = if text.toList.head? = some '.' ∧ text.toList.count '.' = 1
        then String.ofList text.toList.tail else text := by
  rcases parse_cases text with ⟨undotted, read⟩ | ⟨package, simple, undotted, written, read⟩
  · simp [read, dotted, List.count_eq_zero.mpr undotted]
  · have noDot : simple.toList.count '.' = 0 := List.count_eq_zero.mpr undotted
    rw [read, written]
    by_cases empty : package = ""
    · simp [dotted, empty, noDot]
    · have notAlone : ¬ ((package ++ "." ++ simple).toList.head? = some '.' ∧
          (package ++ "." ++ simple).toList.count '.' = 1) := by
        rintro ⟨leads, once⟩
        have inPackage : '.' ∈ package.toList := by
          cases characters : package.toList with
          | nil => exact absurd (String.toList_eq_nil_iff.mp characters) empty
          | cons first rest =>
              simp only [String.toList_append, characters, List.cons_append, List.head?_cons,
                Option.some.injEq] at leads
              simp [leads]
        have dots : 0 < package.toList.count '.' := List.count_pos_iff.mpr inPackage
        have counted : (package ++ "." ++ simple).toList.count '.'
            = package.toList.count '.' + 1 := by
          simp [noDot]
        omega
      rw [if_neg notAlone, dotted, if_neg empty]

/-- A name can be read back exactly if its simple part has no dot. Reading, writing and reading
again is reading once, and the text that is written is the one that was read, but for a leading dot
without another. -/
theorem dotted_roundTrip :
    (∀ name : QualifiedName, parse name.dotted = name ↔ '.' ∉ name.simple.toList) ∧
      (∀ text : String, parse (parse text).dotted = parse text) ∧
      ∀ text : String, (parse text).dotted
        = if text.toList.head? = some '.' ∧ text.toList.count '.' = 1
          then String.ofList text.toList.tail else text := by
  refine ⟨fun name => ⟨fun restored => ?_, parse_dotted⟩, fun text => ?_, dotted_parse⟩
  · rw [← restored]
    exact not_mem_simple_parse name.dotted
  · exact parse_dotted (not_mem_simple_parse text)

example : (parse ".Clock").dotted = "Clock" ∧ (parse "..Clock").dotted = "..Clock" := by
  decide

end Written

end NativeWrappers.QualifiedName
