import NativeWrappers.Source.Render
/-!
# What a class declares before its members

The first constructor of a generated class declares two fields, the wrapped instance and the scope
provider. The second takes the instance alone and passes it on to the first, together with the
fallback of the class in place of a scope.
-/

namespace NativeWrappers.Source

/-- The fields of a generated class, in the order of its first constructor. -/
def constructorFields : List String := [wrappedField, scopeField]

/-- The words that declare a field of the first constructor. -/
def fieldLead (field : String) : String := "private val " ++ field ++ ": "

/-- The words that declare the value of an accessor. -/
def accessorLead (accessor : Accessor) : String :=
  accessor.visibility.keyword ++ " val " ++ escape accessor.name.simple ++ ": "

namespace Document

/-- A line of the file declares something of this type, in the words that stand before the type. -/
def Declares (document : Document) (words : String) (type : QualifiedName) : Prop :=
  ∃ line ∈ document.body, ∃ rest, line.pieces = .text words :: .name type :: rest

/-- The second constructor passes this on as the scope. -/
def PassesAsScope (document : Document) (value : Piece) : Prop :=
  ∃ line ∈ document.body, ∃ lead,
    line.pieces = lead ++ [.text (") : this(" ++ wrappedField ++ ", "), value, .text ")"]

end Document

theorem declares_accessorDocument (accessor : Accessor) :
    (accessorDocument accessor).Declares (accessorLead accessor) accessor.provider :=
  ⟨_, List.mem_cons_self, _, rfl⟩

section Class

variable {runtime : RuntimeTypes} {wrapper : Wrapper} {wrapped : QualifiedName}
  {fallbackScope? : Option QualifiedName}

theorem body_wrapperDocument (shape : wrapper.shape = .class wrapped fallbackScope?) :
    (wrapperDocument runtime wrapper).body
      = classLines runtime wrapper wrapped fallbackScope? := by
  simp only [wrapperDocument, shape]

theorem declares_wrappedField (shape : wrapper.shape = .class wrapped fallbackScope?) :
    (wrapperDocument runtime wrapper).Declares (fieldLead wrappedField) wrapped := by
  refine ⟨⟨1, [.text (fieldLead wrappedField), .name wrapped, .text ","]⟩, ?_, _, rfl⟩
  simp [body_wrapperDocument shape, classLines, fieldLead]

theorem declares_scopeField (shape : wrapper.shape = .class wrapped fallbackScope?) :
    (wrapperDocument runtime wrapper).Declares (fieldLead scopeField)
      runtime.scopeProviderName := by
  refine ⟨⟨1, [.text (fieldLead scopeField), .name runtime.scopeProviderName, .text "?,"]⟩, ?_, _,
    rfl⟩
  simp [body_wrapperDocument shape, classLines, fieldLead]

theorem passesAsScope_fallbackPiece (shape : wrapper.shape = .class wrapped fallbackScope?) :
    (wrapperDocument runtime wrapper).PassesAsScope (fallbackPiece fallbackScope?) := by
  refine ⟨⟨1, [.text ("public constructor(" ++ wrappedField ++ ": "), .name wrapped]
    ++ [.text (") : this(" ++ wrappedField ++ ", "), fallbackPiece fallbackScope?, .text ")"]⟩,
    ?_, _, rfl⟩
  simp [body_wrapperDocument shape, classLines]

end Class

end NativeWrappers.Source
