import Mathlib.Data.List.Forall2
/-!
# Agreeing runs

Two runs of the generator over different inputs are compared step by step. They agree as long as
both give results, and related ones, or both stop, at problems that count as the same. What the
stages are composed of keeps agreement, so that two runs agree as a whole if their steps do.
-/

namespace NativeWrappers

/-- Both outcomes are related results, or both are problems that count as the same. -/
inductive Agree {ε α β : Type} (same : ε → ε → Prop) (related : α → β → Prop) :
    Except ε α → Except ε β → Prop where
  | ok {value : α} {value' : β} (results : related value value') :
      Agree same related (.ok value) (.ok value')
  | error {problem problem' : ε} (problems : same problem problem') :
      Agree same related (.error problem) (.error problem')

namespace Agree

variable {ε α β γ δ : Type} {same : ε → ε → Prop} {related : α → β → Prop}
  {related' : γ → δ → Prop}

theorem refl {related : α → α → Prop} (reflexive : ∀ problem, same problem problem)
    (reflexiveValues : ∀ value, related value value) (outcome : Except ε α) :
    Agree same related outcome outcome := by
  cases outcome with
  | ok value => exact .ok (reflexiveValues value)
  | error problem => exact .error (reflexive problem)

theorem mono {related' : α → β → Prop} {outcome : Except ε α} {outcome' : Except ε β}
    (agree : Agree same related outcome outcome')
    (weaker : ∀ value value', related value value' → related' value value') :
    Agree same related' outcome outcome' := by
  cases agree with
  | ok results => exact .ok (weaker _ _ results)
  | error problems => exact .error problems

theorem bind {outcome : Except ε α} {outcome' : Except ε β} {next : α → Except ε γ}
    {next' : β → Except ε δ} (agree : Agree same related outcome outcome')
    (agreeNext : ∀ value value', related value value' →
      Agree same related' (next value) (next' value')) :
    Agree same related' (outcome >>= next) (outcome' >>= next') := by
  cases agree with
  | ok results => exact agreeNext _ _ results
  | error problems => exact .error problems

theorem mapM {step : α → Except ε γ} {step' : β → Except ε δ} {inputs : List α} {inputs' : List β}
    (pointwise : List.Forall₂ related inputs inputs')
    (agree : ∀ input input', related input input' →
      Agree same related' (step input) (step' input')) :
    Agree same (List.Forall₂ related') (inputs.mapM step) (inputs'.mapM step') := by
  induction pointwise with
  | nil => exact .ok .nil
  | cons inputsRelated _ ih =>
      rw [List.mapM_cons, List.mapM_cons]
      apply (agree _ _ inputsRelated).bind
      intro output output' outputsRelated
      apply ih.bind
      intro outputs outputs' restRelated
      exact .ok (.cons outputsRelated restRelated)

/-- Checked folds over related lists agree if their steps do, from related states. -/
theorem foldlM {step : γ → α → Except ε γ} {step' : δ → β → Except ε δ} {inputs : List α}
    {inputs' : List β} (pointwise : List.Forall₂ related inputs inputs')
    (agree : ∀ state state' input input', related' state state' → related input input' →
      Agree same related' (step state input) (step' state' input'))
    {state : γ} {state' : δ} (start : related' state state') :
    Agree same related' (inputs.foldlM step state) (inputs'.foldlM step' state') := by
  induction pointwise generalizing state state' with
  | nil => exact .ok start
  | cons inputsRelated _ ih =>
      rw [List.foldlM_cons, List.foldlM_cons]
      apply (agree _ _ _ _ start inputsRelated).bind
      intro next next' nextRelated
      exact ih nextRelated

theorem eq_error_iff {outcome : Except ε α} {outcome' : Except ε β}
    (agree : Agree Eq related outcome outcome') {problem : ε} :
    outcome = .error problem ↔ outcome' = .error problem := by
  cases agree with
  | ok results => simp
  | error problems => rw [problems, Except.error.injEq, Except.error.injEq]

section Equal

variable {outcome outcome' : Except ε α}

theorem mapM_eq {step step' : β → Except ε α} {relates : β → β → Prop} {inputs inputs' : List β}
    (pointwise : List.Forall₂ relates inputs inputs')
    (agree : ∀ input input', relates input input' → Agree same Eq (step input) (step' input')) :
    Agree same Eq (inputs.mapM step) (inputs'.mapM step') := by
  have agreeLists := mapM pointwise agree
  rwa [List.forall₂_eq_eq_eq] at agreeLists

theorem eq_ok_iff (agree : Agree same Eq outcome outcome') {value : α} :
    outcome = .ok value ↔ outcome' = .ok value := by
  cases agree with
  | ok results => rw [results]
  | error problems => simp

/-- Where each problem counts as the same only as itself, agreeing outcomes are equal. -/
theorem eq (agree : Agree Eq Eq outcome outcome') : outcome = outcome' := by
  cases agree with
  | ok results => exact congrArg Except.ok results
  | error problems => exact congrArg Except.error problems

theorem exists_eq_error (agree : Agree same Eq outcome outcome') {problem : ε}
    (failed : outcome = .error problem) :
    ∃ problem', outcome' = .error problem' ∧ same problem problem' := by
  cases agree with
  | ok results => cases failed
  | error problems =>
      cases failed
      exact ⟨_, rfl, problems⟩

end Equal

end Agree

end NativeWrappers
