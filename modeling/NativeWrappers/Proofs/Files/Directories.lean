import Mathlib.Order.Defs.Unbundled
import NativeWrappers.Files.Access
/-!
# What creating directories can change

Directories are created one by one, with looks at what is there in between. So a relation of states
that holds across each of these operations also holds across the creation of a whole chain of
directories, whether it succeeds or fails.
-/

namespace NativeWrappers

variable {σ α β : Type}

/-- Every run of the action ends in a state that is related to the one it starts from. -/
def Moves (relation : σ → σ → Prop) (action : StateM σ α) : Prop :=
  ∀ state, relation state (action.run state).2

namespace Moves

variable {relation : σ → σ → Prop} [IsPreorder σ relation] {action : StateM σ α}
  {next : α → StateM σ β}

theorem pure (value : α) : Moves relation (pure value : StateM σ α) :=
  fun state => refl_of relation state

theorem bind (moves : Moves relation action) (movesNext : ∀ value, Moves relation (next value)) :
    Moves relation (action >>= next) :=
  fun state => trans_of relation (moves state) (movesNext _ _)

variable [MonadFiles (StateM σ)]
  (creates : ∀ path,
    Moves relation (MonadFiles.createDirectory path : StateM σ (Except FileError Unit)))
  (looks : ∀ path, Moves relation (MonadFiles.hasDirectory path : StateM σ Bool))

include creates looks

theorem ensureDirectory (path : Path) :
    Moves relation (ensureDirectory path : StateM σ (Except FileError Unit)) := by
  apply (creates path).bind
  intro result
  cases result with
  | ok done => exact .pure _
  | error failure => exact (looks path).bind fun _ => .pure _

theorem createChain (chain : List Path) :
    Moves relation (createChain chain : StateM σ (Except FileError Unit)) := by
  induction chain with
  | nil => exact .pure _
  | cons path above ih =>
      have ensures := ensureDirectory creates looks
      unfold NativeWrappers.createChain
      split
      · exact .pure _
      · apply (ensures path).bind
        intro result
        split
        · apply ih.bind
          intro result
          cases result with
          | ok done => exact ensures path
          | error failure => exact .pure _
        · exact .pure _

end Moves

end NativeWrappers
