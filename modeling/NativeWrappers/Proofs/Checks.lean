import NativeWrappers.Problem
import NativeWrappers.Proofs.Traversal
/-!
# Checks in order

A stage of generation makes its checks one after the other and stops at the first that is violated.
What a stage does is thereby told by the list of its checks, each with the problem that it reports:
the stage succeeds when none of them is violated, and otherwise fails with the problem of the first
one that is. `Judged` says that an outcome is so, and it is kept by everything that stages are
composed of, with the lists of checks appended in the order in which the steps are made.
-/

namespace NativeWrappers

/-- A check, and the problem that is reported when it is violated. -/
structure Check where
  violated : Prop
  problem : Problem

/-- None of these checks is violated. -/
def Passed (checks : List Check) : Prop := ∀ check ∈ checks, ¬ check.violated

/-- The first of these checks that is violated reports this problem. -/
inductive FirstViolated : List Check → Problem → Prop where
  | here {check : Check} {rest : List Check} (violated : check.violated) :
      FirstViolated (check :: rest) check.problem
  | later {check : Check} {rest : List Check} {problem : Problem} (held : ¬ check.violated)
      (first : FirstViolated rest problem) : FirstViolated (check :: rest) problem

section Lists

variable {checks checks' : List Check} {problem problem' : Problem}

theorem passed_append : Passed (checks ++ checks') ↔ Passed checks ∧ Passed checks' :=
  List.forall_mem_append

theorem passed_flatMap {α : Type} {list : List α} {checksOf : α → List Check} :
    Passed (list.flatMap checksOf) ↔ ∀ element ∈ list, Passed (checksOf element) := by
  constructor
  · intro passed element member check checkMember
    exact passed check (List.mem_flatMap.mpr ⟨element, member, checkMember⟩)
  · intro passed check checkMember
    rcases List.mem_flatMap.mp checkMember with ⟨element, member, ofElement⟩
    exact passed element member check ofElement

namespace FirstViolated

theorem append_right (first : FirstViolated checks problem) (rest : List Check) :
    FirstViolated (checks ++ rest) problem := by
  induction first with
  | here violated => exact .here violated
  | later held _ ih => exact .later held ih

theorem append_left (passed : Passed checks) (first : FirstViolated checks' problem) :
    FirstViolated (checks ++ checks') problem := by
  induction checks with
  | nil => exact first
  | cons check rest ih =>
      rw [Passed, List.forall_mem_cons] at passed
      exact .later passed.1 (ih passed.2)

theorem not_passed (first : FirstViolated checks problem) : ¬ Passed checks := by
  intro passed
  induction first with
  | here violated => exact passed _ List.mem_cons_self violated
  | later _ _ ih => exact ih fun check member => passed check (List.mem_cons_of_mem _ member)

theorem unique (first : FirstViolated checks problem) (first' : FirstViolated checks problem') :
    problem = problem' := by
  induction first with
  | here violated =>
      cases first' with
      | here _ => rfl
      | later held _ => exact absurd violated held
  | later held _ ih =>
      cases first' with
      | here violated => exact absurd violated held
      | later _ rest => exact ih rest

theorem exists_mem (first : FirstViolated checks problem) :
    ∃ check ∈ checks, check.violated ∧ check.problem = problem := by
  induction first with
  | here violated => exact ⟨_, List.mem_cons_self, violated, rfl⟩
  | later _ _ ih =>
      rcases ih with ⟨check, member, violated, reported⟩
      exact ⟨check, List.mem_cons_of_mem _ member, violated, reported⟩

theorem append_cases (first : FirstViolated (checks ++ checks') problem) :
    FirstViolated checks problem ∨ FirstViolated checks' problem := by
  induction checks with
  | nil => exact .inr first
  | cons check rest ih =>
      cases first with
      | here violated => exact .inl (.here violated)
      | later held first => exact (ih first).imp_left (.later held)

theorem flatMap_cases {α : Type} {list : List α} {checksOf : α → List Check}
    (first : FirstViolated (list.flatMap checksOf) problem) :
    ∃ element ∈ list, FirstViolated (checksOf element) problem := by
  induction list with
  | nil => cases first
  | cons element rest ih =>
      rw [List.flatMap_cons] at first
      rcases first.append_cases with ofElement | ofRest
      · exact ⟨element, List.mem_cons_self, ofElement⟩
      · rcases ih ofRest with ⟨other, member, ofOther⟩
        exact ⟨other, List.mem_cons_of_mem _ member, ofOther⟩

/-- Among checks of elements, the problem is that of the first element whose check is violated. -/
theorem map_cases {α : Type} {list : List α} {checkOf : α → Check} {violates : α → Bool}
    (violated_iff : ∀ element, (checkOf element).violated ↔ violates element = true)
    (first : FirstViolated (list.map checkOf) problem) :
    ∃ element, list.find? violates = some element ∧ (checkOf element).problem = problem := by
  induction list with
  | nil => cases first
  | cons element rest ih =>
      rw [List.map_cons] at first
      cases first with
      | here violated =>
          exact ⟨element, List.find?_cons_of_pos ((violated_iff element).mp violated), rfl⟩
      | later held first =>
          rcases ih first with ⟨other, found, reported⟩
          rw [violated_iff] at held
          exact ⟨other, (List.find?_cons_of_neg held).trans found, reported⟩

end FirstViolated

end Lists

/-- The outcome is success if all of these checks pass, and the problem of the first violated one
otherwise. -/
inductive Judged {α : Type} (checks : List Check) : Except Problem α → Prop where
  | passed {value : α} (passed : Passed checks) : Judged checks (.ok value)
  | stopped {problem : Problem} (first : FirstViolated checks problem) :
      Judged checks (.error problem)

namespace Judged

variable {α β : Type} {checks checks' : List Check} {outcome : Except Problem α}

theorem exists_eq_ok_iff (judged : Judged checks outcome) :
    (∃ value, outcome = .ok value) ↔ Passed checks := by
  cases judged with
  | passed passed => exact ⟨fun _ => passed, fun _ => ⟨_, rfl⟩⟩
  | stopped first =>
      refine ⟨?_, fun passed => absurd passed first.not_passed⟩
      rintro ⟨_, impossible⟩
      cases impossible

theorem eq_error_iff (judged : Judged checks outcome) {problem : Problem} :
    outcome = .error problem ↔ FirstViolated checks problem := by
  cases judged with
  | passed passed =>
      refine ⟨?_, fun first => absurd passed first.not_passed⟩
      intro impossible
      cases impossible
  | stopped first =>
      constructor
      · intro equal
        cases equal
        exact first
      · intro first'
        rw [first.unique first']

theorem ok (value : α) : Judged [] (.ok value : Except Problem α) :=
  .passed fun _ member => nomatch member

/-- A single check that holds up what follows it. -/
theorem of_check {check : Check} (failed : check.violated → outcome = .error check.problem)
    (held : ¬ check.violated → Judged checks outcome) : Judged (check :: checks) outcome := by
  by_cases violated : check.violated
  · rw [failed violated]
    exact .stopped (.here violated)
  · cases held violated with
    | passed passed => exact .passed (List.forall_mem_cons.mpr ⟨violated, passed⟩)
    | stopped first => exact .stopped (.later violated first)

/-- Checks that are known to pass may stand before others. -/
theorem append_passed (passed : Passed checks) (judged : Judged checks' outcome) :
    Judged (checks ++ checks') outcome := by
  cases judged with
  | passed passed' => exact .passed (passed_append.mpr ⟨passed, passed'⟩)
  | stopped first => exact .stopped (first.append_left passed)

theorem of_if {check : Check} {condition : Prop} [Decidable condition]
    (exact : condition ↔ check.violated) (judged : Judged checks outcome) :
    Judged (check :: checks) (if condition then .error check.problem else outcome) := by
  apply of_check
  · intro violated
    rw [if_pos (exact.mpr violated)]
  · intro held
    rw [if_neg fun violated => held (exact.mp violated)]
    exact judged

/-- The checks of two steps, the second of which may rely on what the first gave. -/
theorem bind {next : α → Except Problem β} (judged : Judged checks outcome)
    (judgedNext : ∀ value, outcome = .ok value → Judged checks' (next value)) :
    Judged (checks ++ checks') (outcome >>= next) := by
  cases judged with
  | stopped first => exact .stopped (first.append_right _)
  | @passed value passed =>
      have judgedResult := judgedNext value rfl
      exact append_passed passed judgedResult

/-- A second step that cannot fail adds no check. -/
theorem map {next : α → Except Problem β} (judged : Judged checks outcome)
    (succeeds : ∀ value, outcome = .ok value → ∃ result, next value = .ok result) :
    Judged checks (outcome >>= next) := by
  rw [← List.append_nil checks]
  apply judged.bind
  intro value given
  rcases succeeds value given with ⟨result, equal⟩
  rw [equal]
  exact .ok result

/-- A checked traversal makes the checks of its elements one after the other. -/
theorem mapM {step : α → Except Problem β} {checksOf : α → List Check} {inputs : List α}
    (judged : ∀ input ∈ inputs, Judged (checksOf input) (step input)) :
    Judged (inputs.flatMap checksOf) (inputs.mapM step) := by
  induction inputs with
  | nil => exact .ok []
  | cons input rest ih =>
      rw [List.mapM_cons, List.flatMap_cons]
      refine (judged input List.mem_cons_self).bind fun _ _ => ?_
      refine (ih fun other member => judged other (List.mem_cons_of_mem _ member)).map ?_
      exact fun _ _ => ⟨_, rfl⟩

end Judged

/-- The checks of each element, which may look at the elements before it. -/
def checksInOrder {α : Type} (checksOf : List α → α → List Check) :
    (earlier rest : List α) → List Check
  | _, [] => []
  | earlier, element :: rest =>
    checksOf earlier element ++ checksInOrder checksOf (earlier ++ [element]) rest

theorem checksInOrder_eq_flatMap {α : Type} (checksOf : α → List Check) (earlier list : List α) :
    checksInOrder (fun _ element => checksOf element) earlier list = list.flatMap checksOf := by
  induction list generalizing earlier with
  | nil => rfl
  | cons element rest ih => rw [checksInOrder, List.flatMap_cons, ih]

theorem FirstViolated.checksInOrder_cases {α : Type} {checksOf : List α → α → List Check}
    {earlier list : List α} {problem : Problem}
    (first : FirstViolated (checksInOrder checksOf earlier list) problem) :
    ∃ before, ∃ element ∈ list, FirstViolated (checksOf before element) problem := by
  induction list generalizing earlier with
  | nil => cases first
  | cons element rest ih =>
      rw [checksInOrder] at first
      rcases first.append_cases with ofElement | ofRest
      · exact ⟨earlier, element, List.mem_cons_self, ofElement⟩
      · rcases ih ofRest with ⟨before, other, member, ofOther⟩
        exact ⟨before, other, List.mem_cons_of_mem _ member, ofOther⟩

/-- A checked fold makes the checks of its elements one after the other, each of which may rely on
what the steps before it have kept. -/
theorem Judged.foldlM {α β : Type} {step : β → α → Except Problem β}
    {checksOf : List α → α → List Check} (invariant : (earlier rest : List α) → β → Prop)
    (judged : ∀ earlier element rest state, invariant earlier (element :: rest) state →
      Judged (checksOf earlier element) (step state element))
    (kept : ∀ earlier element rest state next, invariant earlier (element :: rest) state →
      step state element = .ok next → invariant (earlier ++ [element]) rest next)
    {earlier rest : List α} {state : β} (holds : invariant earlier rest state) :
    Judged (checksInOrder checksOf earlier rest) (rest.foldlM step state) := by
  induction rest generalizing earlier state with
  | nil => exact .ok state
  | cons element rest ih =>
      rw [List.foldlM_cons, checksInOrder]
      apply (judged earlier element rest state holds).bind
      intro next stepped
      exact ih (kept earlier element rest state next holds stepped)

end NativeWrappers
