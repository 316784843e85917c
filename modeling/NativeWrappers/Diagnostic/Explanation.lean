import NativeWrappers.Diagnostic.Code
import NativeWrappers.Text.Lines
/-!
# Documentation of error codes

The explanation of each error code, as markdown text: what the error means, an example, and what to
do about it. Every code has one, and it starts with a title that names the code.
-/

namespace NativeWrappers.ErrorCode

/-- The page on a code, line by line. -/
def explanationLines : ErrorCode → List String
  | missingScopeCapability =>
    ["# E1001: Scope Provider Missing Scope Capability",
      "",
      "A declaration exported as a scope provider does not expose an execution",
      "scope, so generated wrappers would have nothing to launch on.",
      "",
      "## Example",
      "",
      "```kotlin",
      "@ExportedScopeProvider",
      "class MainScopeProvider            // no ScopeProvider supertype, no `scope`",
      "```",
      "",
      "## Solution",
      "",
      "Implement the runtime `ScopeProvider` interface, or declare a property",
      "`val scope: CoroutineScope`:",
      "",
      "```kotlin",
      "@ExportedScopeProvider",
      "class MainScopeProvider : ScopeProvider \x7b",
      "    override val scope = MainScope()",
      "\x7d",
      "```"]
  | unknownScopeProvider =>
    ["# E1002: Unknown Scope Provider",
      "",
      "A class marked for native-class generation names a `launchOnScope` type that",
      "was never exported as a scope provider in the same generation pass.",
      "",
      "## Example",
      "",
      "```kotlin",
      "class MainScopeProvider : ScopeProvider \x7b ... \x7d   // not exported",
      "",
      "@ToNativeClass(launchOnScope = MainScopeProvider::class)",
      "class Repository \x7b ... \x7d",
      "```",
      "",
      "## Solution",
      "",
      "Export the provider, or drop `launchOnScope` and pass a scope explicitly",
      "when constructing the generated class:",
      "",
      "```kotlin",
      "@ExportedScopeProvider",
      "class MainScopeProvider : ScopeProvider \x7b ... \x7d",
      "```"]
  | malformedStream =>
    ["# E1003: Malformed Stream Type",
      "",
      "A member returns a stream type (`Flow`, `SharedFlow`, `StateFlow` or a",
      "mutable variant) without exactly one element type argument, so the element",
      "type of the generated `FlowWrapper<T>` cannot be determined.",
      "",
      "## Example",
      "",
      "```kotlin",
      "fun observe(): Flow            // raw type, no element argument",
      "```",
      "",
      "## Solution",
      "",
      "Declare the element type:",
      "",
      "```kotlin",
      "fun observe(): Flow<Item>",
      "```"]
  | inaccessibleDeclaration =>
    ["# E1004: Inaccessible Declaration",
      "",
      "A `private` or `protected` top-level declaration was marked for wrapping.",
      "The generated wrapper lives next to the original as a public peer and must",
      "be able to reference it.",
      "",
      "## Solution",
      "",
      "Make the declaration `public` or `internal`, or remove the marker."]
  | providerNotConstructible =>
    ["# E1005: Scope Provider Not Constructible",
      "",
      "Exported scope providers are default-constructed by the generated accessor.",
      "An interface cannot be constructed.",
      "",
      "## Example",
      "",
      "```kotlin",
      "@ExportedScopeProvider",
      "interface AppScope : ScopeProvider",
      "```",
      "",
      "## Solution",
      "",
      "Export a concrete class with a no-argument constructor instead."]
  | duplicateOutput =>
    ["# E1006: Duplicate Generation",
      "",
      "Two generated outputs would share one qualified name, or the same original",
      "declaration was generated twice for the same role.",
      "",
      "## Example",
      "",
      "```kotlin",
      "@ToNativeClass(name = \"Api\")",
      "class Repository",
      "",
      "@ToNativeInterface(name = \"Api\")",
      "interface Service",
      "```",
      "",
      "## Solution",
      "",
      "Give one of the generated types a different `name`."]
  | duplicateDeclaration =>
    ["# E1007: Duplicate Declaration",
      "",
      "The declaration model handed to the generator lists the same qualified name",
      "more than once. Each declaration must appear exactly once per batch.",
      "",
      "## Solution",
      "",
      "Fix the extractor output (or the model file) so every declaration is listed",
      "once."]
  | inheritanceCycle =>
    ["# E2001: Inheritance Cycle",
      "",
      "Declarations marked for native-interface generation inherit from each other",
      "in a cycle, so there is no order in which their generated interfaces can be",
      "produced supertype-first.",
      "",
      "## Example",
      "",
      "```kotlin",
      "@ToNativeInterface interface A : B",
      "@ToNativeInterface interface B : A",
      "```",
      "",
      "## Solution",
      "",
      "Break the cycle. No files are generated for a batch containing a cycle."]
  | outputWrite =>
    ["# E3001: Output Write Failed",
      "",
      "A generated source file could not be written to the output directory.",
      "The pass is reported as failed; files written before the failure must not",
      "be treated as valid input to the next compilation stage.",
      "",
      "## Solution",
      "",
      "Check that the output directory exists and is writable."]
  | modelLoad =>
    ["# E3002: Model Load Failed",
      "",
      "The declaration model file could not be read or is not a valid model.",
      "",
      "## Solution",
      "",
      "Check the path and make sure the file is the JSON declaration model",
      "produced by the extractor."]

/-- The page on a code. -/
def explanation (code : ErrorCode) : String := Text.ofLines code.explanationLines

/-- The codes that have a page. -/
def explained : List ErrorCode := all

end NativeWrappers.ErrorCode
