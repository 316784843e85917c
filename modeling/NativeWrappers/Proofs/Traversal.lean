import Mathlib.Data.List.Nodup
import Mathlib.Data.List.Permutation
import NativeWrappers.QualifiedName
/-!
# Checked traversals and keyed lists

The stages of generation are traversals that stop at the first problem, over lists whose elements
are told apart by a key. A traversal succeeds exactly when every step does, so it keeps succeeding
when the list is reordered or cut down to a part, and a look-up in a list with distinct keys does
not see the order.
-/

namespace NativeWrappers

section Checked

variable {ε α β : Type}

theorem bind_eq_ok_iff {first : Except ε α} {next : α → Except ε β} {result : β} :
    (first >>= next) = .ok result ↔ ∃ value, first = .ok value ∧ next value = .ok result := by
  cases first with
  | error problem => simp [bind, Except.bind]
  | ok value => simp [bind, Except.bind]

theorem pure_eq_ok_iff {value result : α} :
    (pure value : Except ε α) = .ok result ↔ result = value := by
  constructor
  · intro equal
    exact (Except.ok.inj equal).symm
  · intro equal
    rw [equal]
    rfl

/-- A checked traversal succeeds with a list exactly when it succeeds at every place of it. -/
theorem mapM_eq_ok_iff {step : α → Except ε β} {inputs : List α} {outputs : List β} :
    inputs.mapM step = .ok outputs ↔
      List.Forall₂ (fun input output => step input = .ok output) inputs outputs := by
  induction inputs generalizing outputs with
  | nil =>
      rw [List.mapM_nil, List.forall₂_nil_left_iff, pure_eq_ok_iff]
  | cons input rest ih =>
      simp only [List.mapM_cons, bind_eq_ok_iff, pure_eq_ok_iff,
        List.forall₂_cons_left_iff]
      constructor
      · rintro ⟨output, stepped, outputs', traversed, equal⟩
        exact ⟨output, outputs', stepped, ih.mp traversed, equal⟩
      · rintro ⟨output, outputs', stepped, pointwise, equal⟩
        exact ⟨output, stepped, outputs', ih.mpr pointwise, equal⟩

theorem exists_mapM_eq_ok_of_perm {step : α → Except ε β} {inputs inputs' : List α}
    {outputs : List β} (reordered : inputs'.Perm inputs)
    (traversed : inputs.mapM step = .ok outputs) :
    ∃ outputs', inputs'.mapM step = .ok outputs' ∧ outputs'.Perm outputs := by
  rcases List.perm_comp_forall₂ reordered (mapM_eq_ok_iff.mp traversed) with
    ⟨outputs', pointwise, outputsReordered⟩
  exact ⟨outputs', mapM_eq_ok_iff.mpr pointwise, outputsReordered⟩

theorem exists_input_of_mapM_eq_ok {step : α → Except ε β} {inputs : List α} {outputs : List β}
    (traversed : inputs.mapM step = .ok outputs) {output : β} (member : output ∈ outputs) :
    ∃ input ∈ inputs, step input = .ok output := by
  have pointwise := mapM_eq_ok_iff.mp traversed
  clear traversed
  induction pointwise with
  | nil => cases member
  | cons stepped _ ih =>
      rcases List.mem_cons.mp member with equal | inRest
      · exact ⟨_, List.mem_cons_self, by rw [equal]; exact stepped⟩
      · rcases ih inRest with ⟨input, inputMember, inputStepped⟩
        exact ⟨input, List.mem_cons_of_mem _ inputMember, inputStepped⟩

theorem exists_output_of_mapM_eq_ok {step : α → Except ε β} {inputs : List α} {outputs : List β}
    (traversed : inputs.mapM step = .ok outputs) {input : α} (member : input ∈ inputs) :
    ∃ output ∈ outputs, step input = .ok output := by
  have pointwise := mapM_eq_ok_iff.mp traversed
  clear traversed
  induction pointwise with
  | nil => cases member
  | cons stepped _ ih =>
      rcases List.mem_cons.mp member with equal | inRest
      · exact ⟨_, List.mem_cons_self, by rw [equal]; exact stepped⟩
      · rcases ih inRest with ⟨output, outputMember, inputStepped⟩
        exact ⟨output, List.mem_cons_of_mem _ outputMember, inputStepped⟩

theorem map_eq_map_of_mapM_eq_ok {γ : Type} {step : α → Except ε β} {ofInput : α → γ}
    {ofOutput : β → γ} {inputs : List α} {outputs : List β}
    (carried : ∀ input output, step input = .ok output → ofOutput output = ofInput input)
    (traversed : inputs.mapM step = .ok outputs) :
    outputs.map ofOutput = inputs.map ofInput := by
  have pointwise := mapM_eq_ok_iff.mp traversed
  clear traversed
  induction pointwise with
  | nil => rfl
  | cons stepped _ ih => rw [List.map_cons, List.map_cons, carried _ _ stepped, ih]

theorem mapM_congr_of_mem {step step' : α → Except ε β} {inputs : List α}
    (agree : ∀ input ∈ inputs, step input = step' input) :
    inputs.mapM step = inputs.mapM step' := by
  induction inputs with
  | nil => rfl
  | cons input rest ih =>
      rw [List.mapM_cons, List.mapM_cons, agree input List.mem_cons_self,
        ih fun other member => agree other (List.mem_cons_of_mem _ member)]

/-- A part of a checked traversal gives that part of the outputs. -/
theorem mapM_filter_eq_ok {step step' : α → Except ε β} {keep : α → Bool} {keepOutput : β → Bool}
    {inputs : List α} {outputs : List β}
    (agree : ∀ input output, step input = .ok output → keepOutput output = keep input)
    (same : ∀ input ∈ inputs, keep input = true → step input = step' input)
    (traversed : inputs.mapM step = .ok outputs) :
    (inputs.filter keep).mapM step' = .ok (outputs.filter keepOutput) := by
  have sameKept : ∀ input ∈ inputs.filter keep, step input = step' input := fun input member =>
    same input (List.mem_filter.mp member).1 (List.mem_filter.mp member).2
  rw [← mapM_congr_of_mem sameKept]
  clear same sameKept
  rw [mapM_eq_ok_iff] at traversed ⊢
  induction traversed with
  | nil => exact .nil
  | cons stepped _ ih =>
      rw [List.filter_cons, List.filter_cons, agree _ _ stepped]
      split
      · exact .cons stepped ih
      · exact ih

end Checked

section Keyed

variable {α κ : Type} [BEq κ] [LawfulBEq κ] {key : α → κ} {list list' : List α}

theorem find?_key_eq_some_iff (distinct : (list.map key).Nodup) {wanted : κ} {element : α} :
    list.find? (key · == wanted) = some element ↔ element ∈ list ∧ key element = wanted := by
  constructor
  · intro found
    exact ⟨List.mem_of_find?_eq_some found, by simpa using List.find?_some found⟩
  · rintro ⟨member, keyed⟩
    have present : (list.find? (key · == wanted)).isSome := by
      rw [List.find?_isSome]
      exact ⟨element, member, by simpa using keyed⟩
    rcases Option.isSome_iff_exists.mp present with ⟨other, found⟩
    have sameKey : key other = key element := by
      rw [keyed]
      simpa using List.find?_some found
    rw [found, List.inj_on_of_nodup_map distinct (List.mem_of_find?_eq_some found) member sameKey]

theorem lookup_map_eq {β : Type} {value : α → β} (list : List α) (wanted : κ) :
    (list.map fun element => (key element, value element)).lookup wanted
      = (list.find? (key · == wanted)).map value := by
  induction list with
  | nil => rfl
  | cons head rest ih =>
      rw [List.map_cons, List.lookup_cons, List.find?_cons, Bool.beq_comm, ih]
      cases key head == wanted <;> rfl

theorem find?_filter_key (keep : κ → Bool) (list : List α) (wanted : κ) :
    (list.filter fun element => keep (key element)).find? (key · == wanted)
      = if keep wanted then list.find? (key · == wanted) else none := by
  induction list with
  | nil => split <;> rfl
  | cons head rest ih =>
      rw [List.filter_cons, List.find?_cons]
      by_cases named : key head = wanted
      · rw [named, BEq.rfl]
        split
        · rw [List.find?_cons, named, BEq.rfl]
        · next notKept => rw [ih, if_neg notKept]
      · have different : (key head == wanted) = false := beq_false_of_ne named
        rw [different]
        split
        · rw [List.find?_cons, different, ih]
        · exact ih

theorem filter_key_eq_singleton (distinct : (list.map key).Nodup) {element : α}
    (member : element ∈ list) : list.filter (key · == key element) = [element] := by
  induction list with
  | nil => cases member
  | cons head rest ih =>
      rw [List.map_cons, List.nodup_cons] at distinct
      rcases List.mem_cons.mp member with equal | inRest
      · have noneInRest : rest.filter (key · == key head) = [] := by
          apply List.filter_eq_nil_iff.mpr
          intro other otherMember sameKey
          exact distinct.1 (beq_iff_eq.mp sameKey ▸ List.mem_map_of_mem otherMember)
        rw [equal, List.filter_cons_of_pos (by simp), noneInRest]
      · have different : key head ≠ key element := fun sameKey =>
          distinct.1 (sameKey ▸ List.mem_map_of_mem inRest)
        rw [List.filter_cons_of_neg (by simpa using different)]
        exact ih distinct.2 inRest

theorem find?_key_eq_of_perm (distinct : (list.map key).Nodup) (reordered : list.Perm list')
    (wanted : κ) : list.find? (key · == wanted) = list'.find? (key · == wanted) := by
  have distinct' : (list'.map key).Nodup := (reordered.map key).nodup_iff.mp distinct
  apply Option.ext
  intro element
  rw [find?_key_eq_some_iff distinct, find?_key_eq_some_iff distinct', reordered.mem_iff]

end Keyed

end NativeWrappers
