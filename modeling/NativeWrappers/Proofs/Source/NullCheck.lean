import Mathlib.Tactic.Common
import NativeWrappers.Source.Render
/-!
# Where a null check is written

A delegating expression goes on with the result of its call only if there is one exactly when the
call is wrapped as a stream and the exposed type is nullable. The lines of a member that delegates are
its signature and then this expression. A null check opens a block, and no text of a signature does,
so that the lines have a null check exactly when the expression has one. The file of the declaration
has the lines of each member.
-/

namespace NativeWrappers.Source

/-- The expression goes on with the result of the call only if there is one. -/
def ChecksNull (call : String) (expression : List Piece) : Prop :=
  .text (call ++ "?.let \x7b ") ∈ expression

theorem length_scopeField_le (parameters : List Parameter) :
    13 ≤ (fieldReference parameters scopeField).length := by
  rw [fieldReference]
  split <;> decide

/-- The expression has a null check for nullable streams and for nothing else. -/
theorem checksNull_delegationPieces_iff {runtime : RuntimeTypes} {delegation : Delegation}
    {exposed : TypeExpr} {parameters : List Parameter} :
    ChecksNull (callText parameters delegation.target)
        (delegationPieces runtime delegation exposed parameters) ↔
      delegation.wrapping = .streamed ∧ exposed.nullable = true := by
  have scopeLength := length_scopeField_le parameters
  rcases delegation with ⟨wrapping, target⟩
  rw [ChecksNull, delegationPieces]
  dsimp only
  generalize callText parameters target = call
  generalize fieldReference parameters scopeField = scope at scopeLength
  -- a text that is no null check has another length
  have otherText (text : String) (different : text.length ≠ call.length + 8) :
      Piece.text (call ++ "?.let \x7b ") ≠ .text text := by
    intro equal
    apply different
    rw [← Piece.text.inj equal, String.length_append]
    rfl
  cases wrapping with
  | direct =>
      have different := otherText call (by omega)
      simp [different]
  | deferred =>
      have different := otherText ("(" ++ scope ++ ") \x7b " ++ call ++ " \x7d")
        (by simp [String.length_append]; omega)
      simp [different]
  | streamed =>
      cases exposed.nullable with
      | true => simp
      | false =>
          have different := otherText ("(" ++ scope ++ ", " ++ call ++ ")")
            (by simp [String.length_append]; omega)
          simp [different]

/-! ## Texts that open a block -/

/-- The text ends with an opening brace and a blank, as a null check does. -/
def OpensBlock (text : String) : Prop :=
  [' ', '\x7b'] <+: text.toList.reverse

/-- No text among the pieces opens a block. -/
def OpensNoBlock (pieces : List Piece) : Prop :=
  ∀ text, .text text ∈ pieces → ¬ OpensBlock text

section Blocks

variable {pieces pieces' : List Piece} {text separator : String} {name : QualifiedName}

theorem OpensNoBlock.not_checksNull (opensNone : OpensNoBlock pieces) (call : String) :
    ¬ ChecksNull call pieces := by
  intro checks
  apply opensNone _ checks
  simp [OpensBlock, String.toList_append]

@[simp] theorem opensNoBlock_nil : OpensNoBlock [] := by
  simp [OpensNoBlock]

@[simp] theorem opensNoBlock_text_cons :
    OpensNoBlock (.text text :: pieces) ↔ ¬ OpensBlock text ∧ OpensNoBlock pieces := by
  simp [OpensNoBlock, or_imp, forall_and]

@[simp] theorem opensNoBlock_name_cons :
    OpensNoBlock (.name name :: pieces) ↔ OpensNoBlock pieces := by
  simp [OpensNoBlock]

@[simp] theorem opensNoBlock_append :
    OpensNoBlock (pieces ++ pieces') ↔ OpensNoBlock pieces ∧ OpensNoBlock pieces' := by
  simp [OpensNoBlock, or_imp, forall_and]

theorem opensNoBlock_joinPieces {parts : List (List Piece)} (separated : ¬ OpensBlock separator)
    (opensNone : ∀ pieces ∈ parts, OpensNoBlock pieces) :
    OpensNoBlock (joinPieces separator parts) := by
  induction parts using joinPieces.induct with
  | case1 => exact opensNoBlock_nil
  | case2 pieces => exact opensNone pieces (List.mem_singleton_self pieces)
  | case3 pieces next rest ih =>
      have later : ∀ pieces ∈ next :: rest, OpensNoBlock pieces := fun pieces member =>
        opensNone pieces (List.mem_cons_of_mem _ member)
      simp [joinPieces, separated, opensNone pieces List.mem_cons_self, ih later]

mutual

theorem opensNoBlock_typePieces (type : TypeExpr) : OpensNoBlock (typePieces type) := by
  rcases type with ⟨name, arguments, nullable⟩
  have nested : OpensNoBlock (joinPieces ", " (typePiecesList arguments)) := by
    apply opensNoBlock_joinPieces
    · simp [OpensBlock]
    · exact opensNoBlock_of_mem_typePiecesList arguments
  cases arguments with
  | nil => cases nullable <;> simp [typePieces, OpensBlock]
  | cons first rest => cases nullable <;> simp [typePieces, OpensBlock, nested]

theorem opensNoBlock_of_mem_typePiecesList (types : List TypeExpr) :
    ∀ pieces ∈ typePiecesList types, OpensNoBlock pieces := by
  cases types with
  | nil => simp [typePiecesList]
  | cons type rest =>
      rw [typePiecesList, List.forall_mem_cons]
      exact ⟨opensNoBlock_typePieces type, opensNoBlock_of_mem_typePiecesList rest⟩

end

end Blocks

/-! ## The lines of a member -/

/-- The pieces of all lines, in order. -/
def linePieces (lines : List Line) : List Piece :=
  lines.flatMap (·.pieces)

/-- The lines are a signature without a null check of the call, and then the expression. -/
def EndsWith (lines : List Line) (call : String) (expression : List Piece) : Prop :=
  ∃ signature, linePieces lines = signature ++ expression ∧ ¬ ChecksNull call signature

theorem EndsWith.checksNull_iff {lines : List Line} {call : String} {expression : List Piece}
    (endsWith : EndsWith lines call expression) :
    ChecksNull call (linePieces lines) ↔ ChecksNull call expression := by
  rcases endsWith with ⟨signature, pieces, unchecked⟩
  rw [pieces, ChecksNull, List.mem_append]
  exact or_iff_right unchecked

section Members

variable {runtime : RuntimeTypes} {body : Delegation}

theorem endsWith_methodLines {method : WrapperMethod} (built : method.body? = some body)
    (call : String) :
    EndsWith (methodLines runtime method) call
      (delegationPieces runtime body method.result method.parameters) := by
  have parameters : OpensNoBlock (joinPieces ", " (method.parameters.map fun parameter =>
      .text (escape parameter.name ++ ": ") :: typePieces parameter.type)) := by
    apply opensNoBlock_joinPieces
    · simp [OpensBlock]
    · intro pieces member
      rcases List.mem_map.mp member with ⟨parameter, _, rfl⟩
      simp [OpensBlock, String.toList_append, opensNoBlock_typePieces]
  refine ⟨.text (memberModifiers method.visibility method.isOverride ++ "fun "
      ++ escape method.name ++ "(") :: joinPieces ", " (method.parameters.map fun parameter =>
        .text (escape parameter.name ++ ": ") :: typePieces parameter.type)
    ++ .text "): " :: typePieces method.result ++ [.text " = "], ?_, ?_⟩
  · simp [linePieces, methodLines, built]
  · apply OpensNoBlock.not_checksNull
    simp [OpensBlock, String.toList_append, parameters, opensNoBlock_typePieces]

theorem endsWith_propertyLines {property : WrapperProperty}
    (built : property.getter? = some body) (call : String) :
    EndsWith (propertyLines runtime property) call
      (delegationPieces runtime body property.type []) := by
  refine ⟨.text (memberModifiers property.visibility property.isOverride ++ "val "
      ++ escape property.name ++ ": ") :: typePieces property.type ++ [.text "get() = "], ?_, ?_⟩
  · simp [linePieces, propertyLines, built]
  · apply OpensNoBlock.not_checksNull
    simp [OpensBlock, String.toList_append, opensNoBlock_typePieces]

end Members

/-! ## The members in a file -/

/-- The file of a generated declaration has the lines of each member, one level deeper. -/
structure WritesMembers (runtime : RuntimeTypes) (wrapper : Wrapper) : Prop where
  methods : ∀ method ∈ wrapper.methods,
    (methodLines runtime method).map Line.deeper <:+: (wrapperDocument runtime wrapper).body
  properties : ∀ property ∈ wrapper.properties,
    (propertyLines runtime property).map Line.deeper <:+: (wrapperDocument runtime wrapper).body

theorem infix_intercalate_of_mem {α : Type} {separator part : List α} {parts : List (List α)}
    (member : part ∈ parts) : part <:+: separator.intercalate parts := by
  induction parts with
  | nil => cases member
  | cons first rest ih =>
      cases rest with
      | nil => simp [List.mem_singleton.mp member]
      | cons next rest =>
          rw [List.intercalate_cons_cons, List.append_assoc]
          rcases List.mem_cons.mp member with rfl | later
          · exact (List.prefix_append ..).isInfix
          · have behindSeparator : part <:+: separator ++ separator.intercalate (next :: rest) :=
              (ih later).trans (List.suffix_append ..).isInfix
            exact behindSeparator.trans (List.suffix_append ..).isInfix

section Files

variable {runtime : RuntimeTypes} {wrapper : Wrapper}

theorem infix_body_of_infix_memberLines {lines : List Line}
    (within : lines <:+: memberLines runtime wrapper) :
    lines.map Line.deeper <:+: (wrapperDocument runtime wrapper).body := by
  refine (within.map Line.deeper).trans ?_
  rw [wrapperDocument]
  cases wrapper.shape with
  | interface =>
      dsimp only [interfaceLines]
      split
      · next none => simp [List.isEmpty_iff.mp none]
      · exact List.infix_append [_] _ _
  | «class» wrapped fallbackScope? =>
      dsimp only [classLines]
      split
      · next none => simp [List.isEmpty_iff.mp none]
      · exact (List.suffix_cons ..).isInfix.trans (List.infix_append ..)

theorem writesMembers (runtime : RuntimeTypes) (wrapper : Wrapper) :
    WritesMembers runtime wrapper := by
  constructor
  · intro method member
    apply infix_body_of_infix_memberLines
    apply infix_intercalate_of_mem
    exact List.mem_append_right _ (List.mem_map_of_mem member)
  · intro property member
    apply infix_body_of_infix_memberLines
    apply infix_intercalate_of_mem
    exact List.mem_append_left _ (List.mem_map_of_mem member)

end Files

end NativeWrappers.Source
