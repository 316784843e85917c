import NativeWrappers.Proofs.Exposure
import NativeWrappers.Proofs.Wrapper.Members
import NativeWrappers.Source.Render
/-!
# Which names a file spells

The file of a generated declaration spells the types of its members, its supertypes and, if it is a
class, what its constructors mention. Beyond that only bodies spell a name, that of the wrapper they
construct. In a generated declaration this is the outermost name of the member's type, so that the
file spells nothing but the names it is said to refer to, and all of them.
-/

namespace NativeWrappers

/-- The name of the wrapper that is constructed around a result. -/
def Wrapping.constructor? (runtime : RuntimeTypes) : Wrapping → Option QualifiedName
  | .direct => none
  | .deferred => some runtime.suspendWrapperName
  | .streamed => some runtime.flowWrapperName

namespace Source

/-! ## Names of pieces -/

/-- The names among the pieces, in order. -/
def pieceNames (pieces : List Piece) : List QualifiedName :=
  pieces.filterMap Piece.name?

section Pieces

variable {pieces pieces' : List Piece} {content separator : String} {name : QualifiedName}

@[simp] theorem pieceNames_nil : pieceNames [] = [] :=
  rfl

@[simp] theorem pieceNames_text_cons : pieceNames (.text content :: pieces) = pieceNames pieces :=
  rfl

@[simp] theorem pieceNames_name_cons :
    pieceNames (.name name :: pieces) = name :: pieceNames pieces :=
  rfl

@[simp] theorem pieceNames_append :
    pieceNames (pieces ++ pieces') = pieceNames pieces ++ pieceNames pieces' :=
  List.filterMap_append

@[simp] theorem pieceNames_joinPieces {parts : List (List Piece)} :
    pieceNames (joinPieces separator parts) = parts.flatMap pieceNames := by
  induction parts using joinPieces.induct with
  | case1 => rfl
  | case2 pieces => simp [joinPieces]
  | case3 pieces next rest ih => simp [joinPieces, ih]

end Pieces

mutual

@[simp] theorem pieceNames_typePieces (type : TypeExpr) :
    pieceNames (typePieces type) = type.names := by
  rcases type with ⟨name, arguments, nullable⟩
  have nested := flatMap_pieceNames_typePiecesList arguments
  rw [typePieces, TypeExpr.names, TypeExpr.subterms]
  cases arguments with
  | nil => cases nullable <;> rfl
  | cons first rest => cases nullable <;> simp [nested]

theorem flatMap_pieceNames_typePiecesList (types : List TypeExpr) :
    (typePiecesList types).flatMap pieceNames = (TypeExpr.subtermsList types).map (·.name) := by
  cases types with
  | nil => rfl
  | cons type rest =>
      rw [typePiecesList, TypeExpr.subtermsList, List.flatMap_cons, List.map_append,
        pieceNames_typePieces type, flatMap_pieceNames_typePiecesList rest, TypeExpr.names]

end

@[simp] theorem pieceNames_supertypePieces (supertypes : List QualifiedName) :
    pieceNames (supertypePieces supertypes) = supertypes := by
  rw [supertypePieces]
  split
  · next none => rw [List.isEmpty_iff.mp none, pieceNames_nil]
  · simp [List.flatMap_map]

@[simp] theorem pieceNames_delegationPieces {runtime : RuntimeTypes} {delegation : Delegation}
    {exposed : TypeExpr} {parameters : List Parameter} :
    pieceNames (delegationPieces runtime delegation exposed parameters) =
      (delegation.wrapping.constructor? runtime).toList := by
  rw [delegationPieces]
  cases delegation.wrapping with
  | direct => rfl
  | deferred => rfl
  | streamed => cases exposed.nullable <;> rfl

/-! ## Names of lines -/

/-- The names that the lines spell, in order. -/
def lineNames (lines : List Line) : List QualifiedName :=
  lines.flatMap (pieceNames ·.pieces)

section Lines

variable {line : Line} {lines lines' : List Line} {level : Nat} {pieces : List Piece}

@[simp] theorem lineNames_nil : lineNames [] = [] :=
  rfl

@[simp] theorem lineNames_cons :
    lineNames (line :: lines) = pieceNames line.pieces ++ lineNames lines :=
  rfl

@[simp] theorem lineNames_append : lineNames (lines ++ lines') = lineNames lines ++ lineNames lines' :=
  List.flatMap_append

theorem spelledNames_eq {document : Document} :
    document.spelledNames = lineNames document.body :=
  rfl

@[simp] theorem lineNames_map_deeper : lineNames (lines.map Line.deeper) = lineNames lines := by
  induction lines with
  | nil => rfl
  | cons line rest ih =>
      have kept : line.deeper.pieces = line.pieces := by
        rw [Line.deeper]
        split <;> rfl
      rw [List.map_cons, lineNames_cons, lineNames_cons, kept, ih]

@[simp] theorem lineNames_intercalate_blank {groups : List (List Line)} :
    lineNames ([Line.blank].intercalate groups) = groups.flatMap lineNames := by
  induction groups with
  | nil => rfl
  | cons group rest ih =>
      cases rest with
      | nil => simp
      | cons next rest =>
          rw [List.intercalate_cons_cons, lineNames_append, lineNames_append, ih]
          simp [Line.blank]

end Lines

/-! ## Names of members -/

/-- The name of the wrapper that a body constructs. -/
def bodyNames (runtime : RuntimeTypes) (body? : Option Delegation) : List QualifiedName :=
  (body?.bind (·.wrapping.constructor? runtime)).toList

variable {runtime : RuntimeTypes}

@[simp] theorem lineNames_propertyLines {property : WrapperProperty} :
    lineNames (propertyLines runtime property) =
      property.type.names ++ bodyNames runtime property.getter? := by
  rw [propertyLines, bodyNames]
  cases property.getter? <;> simp

@[simp] theorem lineNames_methodLines {method : WrapperMethod} :
    lineNames (methodLines runtime method) =
      method.parameters.flatMap (·.type.names) ++ method.result.names ++
        bodyNames runtime method.body? := by
  rw [methodLines, bodyNames]
  cases method.body? <;> simp [List.flatMap_map]

theorem lineNames_memberLines {wrapper : Wrapper} :
    lineNames (memberLines runtime wrapper) =
      (wrapper.properties.flatMap fun property =>
        property.type.names ++ bodyNames runtime property.getter?) ++
      wrapper.methods.flatMap fun method =>
        method.parameters.flatMap (·.type.names) ++ method.result.names ++
          bodyNames runtime method.body? := by
  simp [memberLines, List.flatMap_map]

theorem lineNames_interfaceLines {wrapper : Wrapper} :
    lineNames (interfaceLines runtime wrapper) =
      wrapper.supertypes ++ lineNames (memberLines runtime wrapper) := by
  rw [interfaceLines]
  split
  · next none => simp [List.isEmpty_iff.mp none]
  · simp [Line.ofText]

theorem lineNames_classLines {wrapper : Wrapper} {wrapped : QualifiedName}
    {fallbackScope? : Option QualifiedName} :
    lineNames (classLines runtime wrapper wrapped fallbackScope?) =
      [wrapped, runtime.scopeProviderName] ++ wrapper.supertypes ++
        wrapped :: fallbackScope?.toList ++ lineNames (memberLines runtime wrapper) := by
  have fallback : pieceNames [fallbackPiece fallbackScope?, .text ")"] = fallbackScope?.toList := by
    cases fallbackScope? <;> rfl
  rw [classLines]
  by_cases none : memberLines runtime wrapper = []
  · simp [Line.ofText, fallback, none]
  · simp [Line.ofText, Line.blank, fallback, none]

/-! ## Names of a generated declaration -/

/-- The types in the signatures of all members. -/
def signatureNames (wrapper : Wrapper) : List QualifiedName :=
  (wrapper.methods.flatMap fun method =>
    method.parameters.flatMap (·.type.names) ++ method.result.names)
  ++ wrapper.properties.flatMap (·.type.names)

/-- The bodies of a declaration construct nothing but the outermost name of the member's type. -/
structure ConstructsTypes (runtime : RuntimeTypes) (wrapper : Wrapper) : Prop where
  methods : ∀ method ∈ wrapper.methods,
    ∀ name ∈ bodyNames runtime method.body?, name = method.result.name
  properties : ∀ property ∈ wrapper.properties,
    ∀ name ∈ bodyNames runtime property.getter?, name = property.type.name

variable {wrapper : Wrapper} {name : QualifiedName}

theorem mem_lineNames_memberLines_iff (constructs : ConstructsTypes runtime wrapper) :
    name ∈ lineNames (memberLines runtime wrapper) ↔ name ∈ signatureNames wrapper := by
  have method (method : WrapperMethod) (member : method ∈ wrapper.methods) :
      name ∈ bodyNames runtime method.body? → name ∈ method.result.names := by
    intro constructed
    rw [constructs.methods method member name constructed]
    exact method.result.name_mem_names
  have property (property : WrapperProperty) (member : property ∈ wrapper.properties) :
      name ∈ bodyNames runtime property.getter? → name ∈ property.type.names := by
    intro constructed
    rw [constructs.properties property member name constructed]
    exact property.type.name_mem_names
  rw [lineNames_memberLines, signatureNames]
  simp only [List.mem_append, List.mem_flatMap]
  constructor
  · rintro (⟨owner, member, inType | inBody⟩ | ⟨owner, member, inSignature | inBody⟩)
    · exact Or.inr ⟨owner, member, inType⟩
    · exact Or.inr ⟨owner, member, property owner member inBody⟩
    · exact Or.inl ⟨owner, member, inSignature⟩
    · exact Or.inl ⟨owner, member, Or.inr (method owner member inBody)⟩
  · rintro (⟨owner, member, inSignature⟩ | ⟨owner, member, inType⟩)
    · exact Or.inr ⟨owner, member, Or.inl inSignature⟩
    · exact Or.inl ⟨owner, member, Or.inl inType⟩

/-- The file of a generated declaration spells exactly the names that it is said to refer to. -/
theorem mem_spelledNames_wrapperDocument_iff (constructs : ConstructsTypes runtime wrapper) :
    name ∈ (wrapperDocument runtime wrapper).spelledNames ↔
      name ∈ (wrapperDocument runtime wrapper).referenced := by
  have inMembers : name ∈ lineNames (memberLines runtime wrapper) ↔ name ∈ signatureNames wrapper :=
    mem_lineNames_memberLines_iff constructs
  rw [spelledNames_eq, wrapperDocument]
  cases shape : wrapper.shape with
  | interface =>
      have mentioned :
          mentionedNames runtime wrapper = signatureNames wrapper ++ wrapper.supertypes := by
        simp [mentionedNames, signatureNames, shape]
      simp [lineNames_interfaceLines, mentioned, inMembers, or_comm]
  | «class» wrapped fallbackScope? =>
      have mentioned : mentionedNames runtime wrapper =
          signatureNames wrapper ++ wrapper.supertypes ++
            ([wrapped, runtime.scopeProviderName] ++ fallbackScope?.toList) := by
        simp [mentionedNames, signatureNames, shape]
      simp only [lineNames_classLines, mentioned, List.mem_append, List.mem_cons, inMembers]
      tauto

theorem mem_spelledNames_accessorDocument_iff {accessor : Accessor} :
    name ∈ (accessorDocument accessor).spelledNames ↔
      name ∈ (accessorDocument accessor).referenced := by
  simp [spelledNames_eq, accessorDocument]

end Source

/-! ## Generated bodies -/

theorem Exposes.eq_of_constructor? {runtime : RuntimeTypes} {suspending : Bool}
    {source exposed : TypeExpr} {wrapping : Wrapping} {name : QualifiedName}
    (exposes : Exposes runtime suspending source wrapping exposed)
    (constructed : wrapping.constructor? runtime = some name) : name = exposed.name := by
  cases exposes with
  | deferred => exact (Option.some.inj constructed).symm
  | streamed => exact (Option.some.inj constructed).symm
  | direct => cases constructed

namespace Batch

open Source

variable {batch : Batch} {conventions : Conventions} {interfaces : InterfaceTable}
  {declaration : Declaration} {name : QualifiedName} {wrapper : Wrapper}

theorem constructsTypes_of_interfaceWrapper
    (generated : batch.interfaceWrapper conventions interfaces declaration name = .ok wrapper) :
    ConstructsTypes conventions.runtime wrapper := by
  rcases interfaceWrapper_eq_ok_iff.mp generated with
    ⟨methods, properties, methodsMapped, propertiesMapped, rfl⟩
  constructor
  · intro method member constructed inBody
    rcases exists_input_of_mapM_eq_ok methodsMapped member with ⟨_, _, stepped⟩
    rcases abstractMethod_eq_ok_iff.mp stepped with ⟨_, _, rfl⟩
    cases inBody
  · intro property member constructed inBody
    rcases exists_input_of_mapM_eq_ok propertiesMapped member with ⟨_, _, stepped⟩
    rcases abstractProperty_eq_ok_iff.mp stepped with ⟨_, _, rfl⟩
    cases inBody

theorem constructsTypes_of_classWrapper {accessors : AccessorTable}
    (generated : batch.classWrapper conventions interfaces accessors declaration name
      = .ok wrapper) :
    ConstructsTypes conventions.runtime wrapper := by
  rcases classWrapper_eq_ok_iff.mp generated with
    ⟨_, _, methods, properties, _, methodsMapped, propertiesMapped, rfl⟩
  constructor
  · intro method member constructed inBody
    rcases exists_input_of_mapM_eq_ok methodsMapped member with ⟨source, _, stepped⟩
    rcases delegateMethod_eq_ok_iff.mp stepped with ⟨exposure, exposed, rfl⟩
    have exposes := (Exposure.exposes_of_eq_ok exposed).2
    exact exposes.eq_of_constructor? (Option.mem_toList.mp inBody)
  · intro property member constructed inBody
    rcases exists_input_of_mapM_eq_ok propertiesMapped member with ⟨source, _, stepped⟩
    rcases delegateProperty_eq_ok_iff.mp stepped with ⟨exposure, exposed, rfl⟩
    have exposes := (@Exposure.exposes_of_eq_ok _ _ false _ _ _ exposed).2
    exact exposes.eq_of_constructor? (Option.mem_toList.mp inBody)

end Batch

end NativeWrappers
