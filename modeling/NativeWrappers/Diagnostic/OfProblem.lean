import NativeWrappers.Diagnostic.Basic
import NativeWrappers.Problem
/-!
# Diagnostics of problems

Every problem is reported under the code of its kind. The message is the problem's own; labels point
at the declarations it names, and notes and suggestions say what to do.
-/

namespace NativeWrappers.Problem

/-- The code under which a problem is reported. -/
def code : Problem → ErrorCode
  | missingScopeCapability .. => .missingScopeCapability
  | unknownScopeProvider .. => .unknownScopeProvider
  | malformedStream .. => .malformedStream
  | inaccessibleDeclaration .. => .inaccessibleDeclaration
  | providerNotConstructible .. => .providerNotConstructible
  | duplicateOutput .. => .duplicateOutput
  | duplicateDeclaration .. => .duplicateDeclaration
  | inheritanceCycle .. => .inheritanceCycle
  | outputWrite .. => .outputWrite
  | modelLoad .. => .modelLoad

/-- The declarations that a problem points at, with what each has to do with it. -/
def labels : Problem → List Label
  | missingScopeCapability provider =>
    [⟨provider.dotted, "exported as a scope provider here", true⟩]
  | unknownScopeProvider «class» provider =>
    [⟨«class».dotted, "`launchOnScope` declared here", true⟩,
      ⟨provider.dotted, "not exported as a scope provider", false⟩]
  | malformedStream owner member _ =>
    [⟨owner.dotted ++ "." ++ member, "stream type declared here", true⟩]
  | inaccessibleDeclaration name _ => [⟨name.dotted, "marked for wrapping here", true⟩]
  | providerNotConstructible provider =>
    [⟨provider.dotted, "exported as a scope provider here", true⟩]
  | duplicateOutput name first second =>
    [⟨second.dotted, "generates " ++ name.quoted, true⟩,
      ⟨first.dotted, "first generated here", false⟩]
  | duplicateDeclaration name => [⟨name.dotted, "listed more than once", true⟩]
  | inheritanceCycle members =>
    members.map fun member => ⟨member.dotted, "part of the cycle", false⟩
  | outputWrite .. => []
  | modelLoad .. => []

/-- What there is to know about a problem. -/
def notes : Problem → List String
  | missingScopeCapability _ =>
    ["a scope provider must implement `ScopeProvider` or declare `val scope: CoroutineScope`"]
  | unknownScopeProvider .. => []
  | malformedStream .. => ["stream wrappers need the element type to expose to callers"]
  | inaccessibleDeclaration .. =>
    ["generated wrappers are public peers of the original declaration"]
  | providerNotConstructible _ => ["the generated accessor default-constructs the provider"]
  | duplicateOutput .. => []
  | duplicateDeclaration _ =>
    ["the declaration model must list every declaration exactly once"]
  | inheritanceCycle _ => ["no files were generated for this batch"]
  | outputWrite .. =>
    ["files written before the failure are incomplete and must not be compiled"]
  | modelLoad .. => []

/-- What can be done about a problem. -/
def suggestions : Problem → List String
  | missingScopeCapability _ => []
  | unknownScopeProvider _ provider =>
    ["export " ++ provider.quoted ++ " as a scope provider, or drop `launchOnScope`"]
  | malformedStream .. => ["declare the element type, e.g. `Flow<Item>`"]
  | inaccessibleDeclaration .. => ["make the declaration `public` or `internal`"]
  | providerNotConstructible _ => []
  | duplicateOutput .. => ["give one of the generated types an explicit name"]
  | duplicateDeclaration _ => []
  | inheritanceCycle _ => []
  | outputWrite .. => ["check that the output directory exists and is writable"]
  | modelLoad .. => ["pass the JSON declaration model produced by the extractor"]

/-- The diagnostic that reports a problem. Every problem is an error. -/
def diagnostic (problem : Problem) : Diagnostic where
  code := problem.code
  severity := .error
  message := problem.message
  labels := problem.labels
  notes := problem.notes
  suggestions := problem.suggestions

end NativeWrappers.Problem
