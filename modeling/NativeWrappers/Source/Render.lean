import NativeWrappers.Conventions
import NativeWrappers.Source.Document
import NativeWrappers.Wrapper
/-!
# Rendering

The source document of each output. An accessor is one value. An interface lists its abstract
members. A class takes the wrapped instance and an optional scope provider, offers a constructor
that falls back to its default scope, and delegates each member to the instance: a deferred result
in a closure, a stream after a null check where the exposed type is nullable.
-/

namespace NativeWrappers.Source

/-- The field of a generated class that holds the wrapped instance. -/
def wrappedField : String := "wrapped"

/-- The field of a generated class that holds the optional scope provider. -/
def scopeField : String := "scopeProvider"

/-- The document of an accessor. -/
def accessorDocument (accessor : Accessor) : Document where
  declared := accessor.name
  referenced := [accessor.provider]
  body := [⟨0,
    [.text (accessor.visibility.keyword ++ " val " ++ escape accessor.name.simple ++ ": "),
      .name accessor.provider, .text " = ", .name accessor.provider, .text "()"]⟩]

/-- The supertypes as they follow the name of a type. -/
def supertypePieces (supertypes : List QualifiedName) : List Piece :=
  if supertypes.isEmpty then []
  else .text " : " :: joinPieces ", " (supertypes.map fun name => [.name name])

/-- The modifiers in front of a member, each with a blank behind it. -/
def memberModifiers (visibility : Visibility) (isOverride : Bool) : String :=
  visibility.keyword ++ " " ++ if isOverride then "override " else ""

/-- A field as a member's body refers to it. A parameter of that name hides the field. -/
def fieldReference (parameters : List Parameter) (field : String) : String :=
  if parameters.any (·.name == field) then "this." ++ field else field

/-- The call on the wrapped instance, as the body of a member with these parameters writes it. -/
def callText (parameters : List Parameter) : Invocation → String
  | .method name arguments =>
    fieldReference parameters wrappedField ++ "." ++ escape name ++ "("
      ++ ", ".intercalate (arguments.map escape) ++ ")"
  | .property name => fieldReference parameters wrappedField ++ "." ++ escape name

/-- The expression that a delegating body consists of. -/
def delegationPieces (runtime : RuntimeTypes) (delegation : Delegation) (exposed : TypeExpr)
    (parameters : List Parameter) : List Piece :=
  let call := callText parameters delegation.target
  let scope := fieldReference parameters scopeField
  match delegation.wrapping with
  | .direct => [.text call]
  | .deferred =>
    [.name runtime.suspendWrapperName, .text ("(" ++ scope ++ ") \x7b " ++ call ++ " \x7d")]
  | .streamed =>
    if exposed.nullable then
      [.text (call ++ "?.let \x7b "), .name runtime.flowWrapperName,
        .text ("(" ++ scope ++ ", it) \x7d")]
    else
      [.name runtime.flowWrapperName, .text ("(" ++ scope ++ ", " ++ call ++ ")")]

/-- The lines of a property: its declaration, and its getter on a line of its own. -/
def propertyLines (runtime : RuntimeTypes) (property : WrapperProperty) : List Line :=
  let signature : Line := ⟨0,
    .text (memberModifiers property.visibility property.isOverride ++ "val " ++ escape property.name
      ++ ": ") :: typePieces property.type⟩
  match property.getter? with
  | none => [signature]
  | some getter =>
    [signature, ⟨1, .text "get() = " :: delegationPieces runtime getter property.type []⟩]

/-- The line of a method, with its body if it has one. -/
def methodLines (runtime : RuntimeTypes) (method : WrapperMethod) : List Line :=
  let parameters := method.parameters.map fun parameter =>
    .text (escape parameter.name ++ ": ") :: typePieces parameter.type
  let signature := .text (memberModifiers method.visibility method.isOverride ++ "fun "
      ++ escape method.name ++ "(") :: joinPieces ", " parameters
    ++ .text "): " :: typePieces method.result
  match method.body? with
  | none => [⟨0, signature⟩]
  | some body =>
    [⟨0, signature ++ .text " = "
      :: delegationPieces runtime body method.result method.parameters⟩]

/-- The lines of all members, properties first, with a blank line between two members. -/
def memberLines (runtime : RuntimeTypes) (wrapper : Wrapper) : List Line :=
  [Line.blank].intercalate
    (wrapper.properties.map (propertyLines runtime) ++ wrapper.methods.map (methodLines runtime))

/-- The lines of an interface. There are no braces without members. -/
def interfaceLines (runtime : RuntimeTypes) (wrapper : Wrapper) : List Line :=
  let header := .text (wrapper.visibility.keyword ++ " interface " ++ escape wrapper.name.simple)
    :: supertypePieces wrapper.supertypes
  let members := memberLines runtime wrapper
  if members.isEmpty then
    [⟨0, header⟩]
  else
    ⟨0, header ++ [.text " \x7b"]⟩ :: members.map Line.deeper ++ [Line.ofText "\x7d"]

/-- The value that stands for the scope when none is passed. -/
def fallbackPiece : Option QualifiedName → Piece
  | none => .text "null"
  | some accessor => .name accessor

/-- The lines of a class around an instance of the type `wrapped`. -/
def classLines (runtime : RuntimeTypes) (wrapper : Wrapper) (wrapped : QualifiedName)
    (fallbackScope? : Option QualifiedName) : List Line :=
  let members := memberLines runtime wrapper
  let fields : List Line :=
    [⟨1, [.text ("private val " ++ wrappedField ++ ": "), .name wrapped, .text ","]⟩,
      ⟨1, [.text ("private val " ++ scopeField ++ ": "), .name runtime.scopeProviderName,
        .text "?,"]⟩]
  let constructor : Line := ⟨1,
    [.text ("public constructor(" ++ wrappedField ++ ": "), .name wrapped,
      .text (") : this(" ++ wrappedField ++ ", "), fallbackPiece fallbackScope?, .text ")"]⟩
  [Line.ofText (wrapper.visibility.keyword ++ " class " ++ escape wrapper.name.simple ++ "(")]
    ++ fields
    ++ [⟨0, .text ")" :: supertypePieces wrapper.supertypes ++ [.text " \x7b"]⟩, constructor]
    ++ (if members.isEmpty then [] else Line.blank :: members.map Line.deeper)
    ++ [Line.ofText "\x7d"]

/-- The names that the file of a generated declaration is said to refer to. -/
def mentionedNames (runtime : RuntimeTypes) (wrapper : Wrapper) : List QualifiedName :=
  let signatures :=
    (wrapper.methods.flatMap fun method =>
      (method.parameters.flatMap (·.type.names)) ++ method.result.names)
    ++ wrapper.properties.flatMap (·.type.names)
  let shape :=
    match wrapper.shape with
    | .interface => []
    | .class wrapped fallbackScope? =>
      [wrapped, runtime.scopeProviderName] ++ fallbackScope?.toList
  signatures ++ wrapper.supertypes ++ shape

/-- The document of a generated interface or class. -/
def wrapperDocument (runtime : RuntimeTypes) (wrapper : Wrapper) : Document where
  declared := wrapper.name
  referenced := mentionedNames runtime wrapper
  body :=
    match wrapper.shape with
    | .interface => interfaceLines runtime wrapper
    | .class wrapped fallbackScope? => classLines runtime wrapper wrapped fallbackScope?

end NativeWrappers.Source
