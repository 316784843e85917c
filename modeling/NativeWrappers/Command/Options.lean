import NativeWrappers.Conventions
import NativeWrappers.Diagnostic.Terminal
import NativeWrappers.Files.Path
/-!
# Options of a generation run

Each argument says one setting, and settings take effect in order, so the last of a kind counts. A
suffix or package without a value goes back to the default. An argument that says nothing is
ignored, and a warning tells of it.
-/

namespace NativeWrappers.Command

/-- The options of a generation run. -/
structure Options where
  outDirectory : Path := ⟨"generated"⟩
  classSuffix? : Option String := none
  interfaceSuffix? : Option String := none
  runtimePackage? : Option String := none
  /-- Tell what would be written, and write nothing. -/
  dryRun : Bool := false
  color : ColorMode := .auto
deriving DecidableEq, Repr

/-- What an argument says. -/
inductive Setting where
  | outDirectory (path : Path)
  | classSuffix (value : String)
  | interfaceSuffix (value : String)
  | runtimePackage (value : String)
  | dryRun
  | color (mode : String)
  | unknown (argument : String)
deriving DecidableEq, Repr

namespace Setting

/-- The value in an argument that consists of a flag, an equals sign and a value. -/
def value? (flag argument : String) : Option String :=
  let lead := (flag ++ "=").toList
  if lead.isPrefixOf argument.toList then
    some (String.ofList (argument.toList.drop lead.length))
  else
    none

/-- The setting that an argument writes, or the argument itself if it writes none. -/
def ofArgument (argument : String) : Setting :=
  ((value? "--out" argument).map fun path => outDirectory ⟨path⟩)
    <|> (value? "--class-suffix" argument).map classSuffix
    <|> (value? "--interface-suffix" argument).map interfaceSuffix
    <|> (value? "--runtime-package" argument).map runtimePackage
    <|> (if argument = "--dry-run" then some dryRun else none)
    <|> (value? "--color" argument).map color
    |>.getD (unknown argument)

/-- A value that counts only if it is not empty. -/
def nonempty? (value : String) : Option String := if value = "" then none else some value

/-- The options after one more setting. An empty value takes an earlier one back, and a word that is
no mode leaves the mode as it is. -/
def apply (options : Options) : Setting → Options
  | outDirectory path => { options with outDirectory := path }
  | classSuffix value => { options with classSuffix? := nonempty? value }
  | interfaceSuffix value => { options with interfaceSuffix? := nonempty? value }
  | runtimePackage value => { options with runtimePackage? := nonempty? value }
  | dryRun => { options with dryRun := true }
  | color mode => { options with color := (ColorMode.ofText? mode).getD options.color }
  | unknown _ => options

/-- The warning about a flag with an empty value. -/
def missingValue? (flag value : String) : Option String :=
  if value = "" then some ("warning: " ++ flag ++ " needs a value, using the default") else none

/-- The warning about a setting, if there is anything wrong with it. -/
def warning? : Setting → Option String
  | outDirectory _ | dryRun => none
  | classSuffix value => missingValue? "--class-suffix" value
  | interfaceSuffix value => missingValue? "--interface-suffix" value
  | runtimePackage value => missingValue? "--runtime-package" value
  | color mode =>
    if (ColorMode.ofText? mode).isSome then none
    else some ("warning: unknown color mode '" ++ mode ++ "', options: auto, always, never")
  | unknown argument => some ("warning: unknown option '" ++ argument ++ "'")

end Setting

namespace Options

/-- The options that the arguments set, one after the other. -/
def ofArguments (arguments : List String) : Options :=
  (arguments.map Setting.ofArgument).foldl Setting.apply {}

/-- The warnings about arguments, in their order. -/
def warnings (arguments : List String) : List String :=
  (arguments.map Setting.ofArgument).filterMap Setting.warning?

/-- The conventions that the options ask for, with the usual ones where they ask for nothing. -/
def conventions (options : Options) : Conventions :=
  let standard : Conventions := {}
  { standard with
    classSuffix := options.classSuffix?.getD standard.classSuffix
    interfaceSuffix := options.interfaceSuffix?.getD standard.interfaceSuffix
    runtime := (options.runtimePackage?.map RuntimeTypes.inPackage).getD standard.runtime }

end Options

end NativeWrappers.Command
