/-!
# Error codes

Each kind of problem has a code, by which its explanation is looked up. The first digit of a code
names its family: configuration, structure, or input and output.
-/

namespace NativeWrappers

/-- A code, named for the kind of problem it is given to. -/
inductive ErrorCode where
  | missingScopeCapability
  | unknownScopeProvider
  | malformedStream
  | inaccessibleDeclaration
  | providerNotConstructible
  | duplicateOutput
  | duplicateDeclaration
  | inheritanceCycle
  | outputWrite
  | modelLoad
deriving DecidableEq, Repr

/-- What a code is about. -/
inductive ErrorFamily where
  /-- Markers, scope providers and signatures. -/
  | configuration
  /-- The inheritance graph. -/
  | structural
  /-- Reading models and writing files. -/
  | inputOutput
deriving DecidableEq, Repr

namespace ErrorCode

/-- All codes, ascending. -/
def all : List ErrorCode :=
  [missingScopeCapability, unknownScopeProvider, malformedStream, inaccessibleDeclaration,
    providerNotConstructible, duplicateOutput, duplicateDeclaration, inheritanceCycle, outputWrite,
    modelLoad]

/-- The code as it is written. -/
def text : ErrorCode → String
  | missingScopeCapability => "E1001"
  | unknownScopeProvider => "E1002"
  | malformedStream => "E1003"
  | inaccessibleDeclaration => "E1004"
  | providerNotConstructible => "E1005"
  | duplicateOutput => "E1006"
  | duplicateDeclaration => "E1007"
  | inheritanceCycle => "E2001"
  | outputWrite => "E3001"
  | modelLoad => "E3002"

/-- The family of a code. -/
def family : ErrorCode → ErrorFamily
  | inheritanceCycle => .structural
  | outputWrite | modelLoad => .inputOutput
  | _ => .configuration

/-- Read a code in either case. No character but the two cases of the letter stands for the letter
of a code, so the case mapping of ASCII is enough. -/
def ofText? (text : String) : Option ErrorCode :=
  all.find? fun code => code.text.toList == text.toList.map Char.toUpper

theorem ofText?_text (code : ErrorCode) : ofText? code.text = some code := by
  cases code <;> decide

end ErrorCode

end NativeWrappers
