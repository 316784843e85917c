import NativeWrappers.Exposure
import NativeWrappers.Proofs.Checks
import NativeWrappers.Wrapper
/-!
# The rules of exposure

What a member exposes is told by three rules, one for each way of delivery, and a single check
stands in their way: a stream that is not handed over later needs exactly one argument. `Exposes`
states the rules without the function that applies them.
-/

namespace NativeWrappers

namespace TypeExpr

variable {type : TypeExpr}

/-- The type constructor is one of the recognised streams. -/
def IsStream (type : TypeExpr) : Prop := ∃ kind : StreamKind, type.name = kind.qualifiedName

theorem streamKind?_eq_some_iff {kind : StreamKind} :
    type.streamKind? = some kind ↔ type.name = kind.qualifiedName := by
  constructor
  · intro found
    exact (StreamKind.qualifiedName_of_ofName? found).symm
  · intro named
    rw [streamKind?, named, StreamKind.ofName?_qualifiedName]

theorem streamKind?_eq_none_iff : type.streamKind? = none ↔ ¬ type.IsStream := by
  constructor
  · rintro none ⟨kind, named⟩
    rw [streamKind?_eq_some_iff.mpr named] at none
    cases none
  · intro noStream
    rcases found : type.streamKind? with _ | kind
    · rfl
    · exact absurd ⟨kind, streamKind?_eq_some_iff.mp found⟩ noStream

end TypeExpr

/-- The type that a member of this type exposes, if it exposes any. -/
def TypeExpr.exposed (runtime : RuntimeTypes) (suspending : Bool) (source : TypeExpr) : TypeExpr :=
  if suspending then ⟨runtime.suspendWrapperName, [source], false⟩
  else if source.streamKind?.isSome then
    ⟨runtime.flowWrapperName, source.arguments, source.nullable⟩
  else source

/-- How a member of type `source` is wrapped, and the type that it exposes: a deferred result in the
wrapper of its own type, a stream in the wrapper of its element type, and anything else as it is. -/
inductive Exposes (runtime : RuntimeTypes) : (suspending : Bool) → (source : TypeExpr) →
    Wrapping → (exposed : TypeExpr) → Prop where
  | deferred {source : TypeExpr} :
      Exposes runtime true source .deferred ⟨runtime.suspendWrapperName, [source], false⟩
  | streamed {kind : StreamKind} {element : TypeExpr} {nullable : Bool} :
      Exposes runtime false ⟨kind.qualifiedName, [element], nullable⟩ .streamed
        ⟨runtime.flowWrapperName, [element], nullable⟩
  | direct {source : TypeExpr} (noStream : ¬ source.IsStream) :
      Exposes runtime false source .direct source

theorem Exposes.eq_exposed {runtime : RuntimeTypes} {suspending : Bool} {source exposed : TypeExpr}
    {wrapping : Wrapping} (exposes : Exposes runtime suspending source wrapping exposed) :
    exposed = source.exposed runtime suspending := by
  cases exposes with
  | deferred => rfl
  | streamed =>
      rw [TypeExpr.exposed, if_neg Bool.false_ne_true, TypeExpr.streamKind?_eq_some_iff.mpr rfl]
      rfl
  | direct noStream =>
      rw [TypeExpr.exposed, if_neg Bool.false_ne_true,
        TypeExpr.streamKind?_eq_none_iff.mpr noStream]
      rfl

/-- A stream that is not handed over later needs exactly one argument. -/
def streamCheck (owner : QualifiedName) (member : String) (suspending : Bool) (type : TypeExpr) :
    Check where
  violated := suspending = false ∧ type.IsStream ∧ type.arguments.length ≠ 1
  problem := .malformedStream owner member type.display

namespace Exposure

variable {owner : QualifiedName} {member : String} {suspending : Bool} {source : TypeExpr}
  {runtime : RuntimeTypes} {exposure : Exposure}

/-- Either one of the rules applies, or the check is violated and its problem is the answer. -/
theorem of_cases (owner : QualifiedName) (member : String) (suspending : Bool) (source : TypeExpr)
    (runtime : RuntimeTypes) :
    (∃ exposure,
        of owner member (if suspending then .deferred else .ofType source) source runtime
          = .ok exposure ∧
        exposure.source = source ∧
        Exposes runtime suspending source exposure.delivery.wrapping exposure.generated ∧
        ¬ (streamCheck owner member suspending source).violated) ∨
      (of owner member (if suspending then .deferred else .ofType source) source runtime
          = .error (streamCheck owner member suspending source).problem ∧
        (streamCheck owner member suspending source).violated) := by
  cases suspending with
  | true =>
      refine Or.inl ⟨_, rfl, rfl, .deferred, ?_⟩
      rintro ⟨impossible, _⟩
      cases impossible
  | false =>
      rcases found : source.streamKind? with _ | kind
      · have noStream := TypeExpr.streamKind?_eq_none_iff.mp found
        have delivered : Delivery.ofType source = .direct := by rw [Delivery.ofType, found]
        rw [if_neg Bool.false_ne_true, delivered]
        exact Or.inl ⟨_, rfl, rfl, .direct noStream, fun violated => noStream violated.2.1⟩
      · have named := TypeExpr.streamKind?_eq_some_iff.mp found
        have delivered : Delivery.ofType source = .stream kind := by rw [Delivery.ofType, found]
        rw [if_neg Bool.false_ne_true, delivered]
        rcases source with ⟨name, arguments, nullable⟩
        dsimp only at named
        subst named
        rcases arguments with _ | ⟨element, _ | ⟨next, rest⟩⟩
        · exact Or.inr ⟨rfl, rfl, ⟨kind, rfl⟩, by simp⟩
        · exact Or.inl ⟨_, rfl, rfl, .streamed, fun violated => violated.2.2 rfl⟩
        · exact Or.inr ⟨rfl, rfl, ⟨kind, rfl⟩, by simp⟩

theorem judged_of :
    Judged [streamCheck owner member suspending source]
      (of owner member (if suspending then .deferred else .ofType source) source runtime) := by
  rcases of_cases owner member suspending source runtime with
    ⟨exposure, succeeded, _, _, held⟩ | ⟨failed, violated⟩
  · rw [succeeded]
    exact .passed (List.forall_mem_singleton.mpr held)
  · rw [failed]
    exact .stopped (.here violated)

theorem exposes_of_eq_ok
    (exposed : of owner member (if suspending then .deferred else .ofType source) source runtime
      = .ok exposure) :
    exposure.source = source ∧
      Exposes runtime suspending source exposure.delivery.wrapping exposure.generated := by
  rcases of_cases owner member suspending source runtime with
    ⟨exposure', succeeded, sameSource, exposes, _⟩ | ⟨failed, _⟩
  · rw [succeeded] at exposed
    cases exposed
    exact ⟨sameSource, exposes⟩
  · rw [failed] at exposed
    cases exposed

end Exposure

end NativeWrappers
