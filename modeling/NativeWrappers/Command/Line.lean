import NativeWrappers.Command.Generate
import NativeWrappers.Diagnostic.Explanation
import NativeWrappers.Diagnostic.OfProblem
import NativeWrappers.Text.Lines
/-!
# The command line

The first argument says what to do. Running a command gives an exit status and what goes to the two
output streams.
-/

namespace NativeWrappers.Command

/-- What a command leaves behind besides files. -/
structure Outcome where
  status : Nat := 0
  stdout : String := ""
  stderr : String := ""
deriving DecidableEq, Repr

/-- What the arguments ask for. -/
inductive Request where
  | help
  | version
  | generate (arguments : List String)
  | explain (arguments : List String)
  | unknown (word : String)
deriving DecidableEq, Repr

namespace Request

/-- The request in some arguments. Without any, help is asked for. -/
def ofArguments : (arguments : List String) → Request
  | [] => help
  | word :: arguments =>
    if word ∈ ["generate", "gen"] then generate arguments
    else if word ∈ ["help", "--help", "-h"] then help
    else if word ∈ ["version", "--version", "-v"] then version
    else if word ∈ ["--explain", "explain"] then explain arguments
    else unknown word

end Request

/-- The help on all commands. -/
def usage : List String :=
  ["bridgec: coroutine-friendly wrapper generator",
    "",
    "Usage: bridgec <command> [options]",
    "",
    "Commands:",
    "  generate <model.json>  Generate wrappers for a declaration model",
    "  explain <code>         Explain an error code (e.g., E1002)",
    "  help                   Show this help message",
    "  version                Show version information",
    "",
    "Generate options:",
    "  --out=<dir>              Output directory (default: ./generated)",
    "  --class-suffix=<s>       Suffix of generated classes (default: Native)",
    "  --interface-suffix=<s>   Suffix of generated interfaces (default: NativeProtocol)",
    "  --runtime-package=<pkg>  Package of SuspendWrapper/FlowWrapper/ScopeProvider",
    "  --dry-run                List the files that would be written",
    "  --color=<mode>           Diagnostic colors: auto, always, never",
    "",
    "Examples:",
    "  bridgec generate model.json",
    "  bridgec generate model.json --out=build/generated",
    "  bridgec generate model.json --dry-run",
    "  bridgec explain E2001        # Explain inheritance cycles",
    "",
    "Set RUST_LOG=debug to trace generation stages."]

/-- The name and the version of the program. -/
def version : String := "bridgec 0.1.0-alpha.1"

/-- How generation is asked for. -/
def generateUsage : String := "Usage: bridgec generate <model.json> [options]"

/-- What is shown if generation is asked for without any argument. -/
def generateHelp : List String :=
  [generateUsage,
    "",
    "Options:",
    "  --out=<dir>                Output directory (default: ./generated)",
    "  --class-suffix=<s>         Suffix of generated classes",
    "  --interface-suffix=<s>     Suffix of generated interfaces",
    "  --runtime-package=<pkg>    Package of the runtime wrapper types",
    "  --dry-run                  List files without writing them",
    "  --color=<mode>             auto, always, never"]

/-- What is shown if an explanation is asked for without a code. -/
def explainHelp : List String :=
  ["Usage: bridgec explain <ERROR_CODE>", "Example: bridgec explain E1002"]

/-- The answer to a code that does not exist, with those that do. -/
def unknownCode (word : String) : List String :=
  ["Unknown error code: " ++ word, "", "Codes have the format EXXXX where X is a digit.",
      "Known codes:"]
    ++ ErrorCode.explained.map ("  " ++ ·.text)

namespace Outcome

/-- The outcome of a run that shows these lines. -/
def success (lines : List String) : Outcome := { stdout := Text.ofLines lines }

/-- The outcome of a run that stops with these lines on the error stream. -/
def failure (lines : List String) : Outcome := { status := 1, stderr := Text.ofLines lines }

/-- The outcome with more before it on the error stream. -/
def warned (outcome : Outcome) (warnings : List String) : Outcome :=
  { outcome with stderr := Text.ofLines warnings ++ outcome.stderr }

/-- The outcome of a run that a problem ends: its diagnostic and the count of errors. -/
def ofProblem (colors : Bool) (problem : Problem) : Outcome where
  status := 1
  stderr := Terminal.diagnosticText colors problem.diagnostic ++ Terminal.summaryText colors 1 0

end Outcome

/-- Explain the code that is named first. -/
def explain : (arguments : List String) → Outcome
  | [] => .failure explainHelp
  | word :: _ =>
    match ErrorCode.ofText? word with
    | some code => .success [code.explanation]
    | none => .failure (unknownCode word)

/-- Whether an argument is an option, which begins with a dash. -/
def isOption (argument : String) : Bool := argument.toList.head? == some '-'

section Run

variable {m : Type → Type} [Monad m] [MonadFiles m]

/-- Generate from the model file that is named first. `onTerminal` says whether the error stream is
a terminal. -/
def generateOutcome (onTerminal : Bool) (arguments : List String) : m Outcome := do
  if arguments.isEmpty then
    return .failure generateHelp
  match arguments.find? (!isOption ·) with
  | none => return .failure ["error: missing model path", generateUsage]
  | some model =>
    let flags := arguments.filter isOption
    let options := Options.ofArguments flags
    let outcome : Outcome :=
      match ← (generate ⟨model⟩ options).run with
      | .ok report => .success (report.lines options)
      | .error problem => .ofProblem (options.color.usesColors onTerminal) problem
    return outcome.warned (Options.warnings flags)

/-- Carry out a request. -/
def Request.run (onTerminal : Bool) : Request → m Outcome
  | help => return .success usage
  | version => return .success [Command.version]
  | generate arguments => generateOutcome onTerminal arguments
  | explain arguments => return Command.explain arguments
  | unknown word =>
    return { Outcome.success usage with
      status := 1
      stderr := Text.ofLines ["Unknown command: " ++ word, ""] }

/-- The program, from its arguments to its outcome. -/
def run (onTerminal : Bool) (arguments : List String) : m Outcome :=
  (Request.ofArguments arguments).run onTerminal

end Run

end NativeWrappers.Command
