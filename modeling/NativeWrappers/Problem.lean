import NativeWrappers.Declaration
import NativeWrappers.Files.Path
/-!
# Problems

Everything that can make a generation pass fail. A pass is all or nothing, so the first problem
ends it. Each problem states its cause; `message` is its wording.
-/

namespace NativeWrappers

/-- The cause of a failed pass. -/
inductive Problem where
  /-- An exported scope provider exposes no execution scope. -/
  | missingScopeCapability (provider : QualifiedName)
  /-- A class falls back to a type that was not exported as a scope provider. -/
  | unknownScopeProvider («class» provider : QualifiedName)
  /-- A member has a stream type without a single element type. -/
  | malformedStream (owner : QualifiedName) (member : String) (type : String)
  /-- A private or protected declaration was marked for wrapping. -/
  | inaccessibleDeclaration (name : QualifiedName) (visibility : Visibility)
  /-- An exported scope provider is no class, so no accessor can construct it. -/
  | providerNotConstructible (provider : QualifiedName)
  /-- Two outputs claim one qualified name. -/
  | duplicateOutput (name first second : QualifiedName)
  /-- A batch lists a declaration more than once. -/
  | duplicateDeclaration (name : QualifiedName)
  /-- Interface targets inherit from each other in a cycle. -/
  | inheritanceCycle (members : List QualifiedName)
  /-- A generated file could not be written. -/
  | outputWrite (path : Path) (message : String)
  /-- The declaration model could not be loaded. -/
  | modelLoad (path : Path) (message : String)
deriving DecidableEq, Repr

namespace Problem

/-- The message of a problem. -/
def message : Problem → String
  | missingScopeCapability provider =>
    "scope provider " ++ provider.quoted ++ " does not expose an execution scope"
  | unknownScopeProvider «class» provider =>
    «class».quoted ++ " launches on scope provider " ++ provider.quoted ++ ", which is not exported"
  | malformedStream owner member type =>
    "`" ++ owner.dotted ++ "." ++ member ++ "` returns stream type `" ++ type
      ++ "` without a single element type"
  | inaccessibleDeclaration name visibility =>
    visibility.keyword ++ " declaration " ++ name.quoted ++ " cannot be wrapped"
  | providerNotConstructible provider =>
    "scope provider " ++ provider.quoted ++ " is not a class and cannot be constructed"
  | duplicateOutput name first second =>
    name.quoted ++ " would be generated twice (from " ++ first.quoted ++ " and " ++ second.quoted
      ++ ")"
  | duplicateDeclaration name =>
    "declaration " ++ name.quoted ++ " appears more than once in the batch"
  | inheritanceCycle members =>
    "inheritance cycle detected among " ++ ", ".intercalate (members.map (·.quoted))
  | outputWrite path message => "failed to write `" ++ path.text ++ "`: " ++ message
  | modelLoad path message =>
    "failed to load declaration model `" ++ path.text ++ "`: " ++ message

end Problem

end NativeWrappers
