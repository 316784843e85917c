import Mathlib.Data.List.Basic
import NativeWrappers.Command.Options
/-!
# Options without the arguments of warnings

A warning tells of an argument that is unknown or whose value cannot be used. Leaving out an unknown
option or an unknown colour mode changes nothing. An empty value is different: it takes back what
was given for its flag before. So the arguments of warnings can be left out, whichever of them, if
and only if no flag ends with an empty value after one that is not.
-/

namespace NativeWrappers.Command

namespace Setting

/-- A warning tells of the setting. -/
def IsReported (setting : Setting) : Prop := setting.warning?.isSome

instance : DecidablePred IsReported := fun setting =>
  inferInstanceAs (Decidable (setting.warning?.isSome = true))

end Setting

/-- The second list is the first without some of the arguments that warnings tell of. -/
inductive LeavesOut : List String → List String → Prop where
  | nil : LeavesOut [] []
  | keep (argument : String) {arguments kept : List String} (rest : LeavesOut arguments kept) :
      LeavesOut (argument :: arguments) (argument :: kept)
  | leave {argument : String} {arguments kept : List String}
      (reported : (Setting.ofArgument argument).IsReported) (rest : LeavesOut arguments kept) :
      LeavesOut (argument :: arguments) kept

/-- No choice of arguments to leave out, of those that warnings tell of, changes the options. -/
def IgnoresReported (arguments : List String) : Prop :=
  ∀ kept, LeavesOut arguments kept →
    Options.ofArguments kept = Options.ofArguments arguments ∧
      (Options.ofArguments kept).conventions = (Options.ofArguments arguments).conventions

/-- The flags that need a value. -/
inductive ValueFlag where
  | classSuffix
  | interfaceSuffix
  | runtimePackage
deriving DecidableEq

namespace ValueFlag

/-- The setting of the flag to a value. -/
def setting : ValueFlag → String → Setting
  | classSuffix => .classSuffix
  | interfaceSuffix => .interfaceSuffix
  | runtimePackage => .runtimePackage

/-- The value that a setting gives for the flag. -/
def given? : ValueFlag → Setting → Option String
  | classSuffix, .classSuffix value => some value
  | interfaceSuffix, .interfaceSuffix value => some value
  | runtimePackage, .runtimePackage value => some value
  | _, _ => none

/-- What the options have for the flag. -/
def chosen? (options : Options) : ValueFlag → Option String
  | classSuffix => options.classSuffix?
  | interfaceSuffix => options.interfaceSuffix?
  | runtimePackage => options.runtimePackage?

/-- All values given for the flag, in the order of the arguments. -/
def givenValues (flag : ValueFlag) (arguments : List String) : List String :=
  arguments.filterMap fun argument => flag.given? (Setting.ofArgument argument)

/-- The last value for the flag is empty, and there is one that is not. -/
def TakesBack (flag : ValueFlag) (arguments : List String) : Prop :=
  (flag.givenValues arguments).getLast? = some "" ∧ ∃ value ∈ flag.givenValues arguments, value ≠ ""

instance (flag : ValueFlag) (arguments : List String) : Decidable (flag.TakesBack arguments) :=
  inferInstanceAs (Decidable (_ ∧ _))

variable {flag : ValueFlag} {setting : Setting} {value : String} {arguments kept : List String}

theorem given?_eq_some_iff : flag.given? setting = some value ↔ setting = flag.setting value := by
  cases flag <;> cases setting <;> simp [given?, ValueFlag.setting]

/-- Of the settings of a flag, warnings tell of those without a value. -/
theorem isReported_setting (flag : ValueFlag) (value : String) :
    (flag.setting value).IsReported ↔ value = "" := by
  by_cases empty : value = "" <;> cases flag <;>
    simp [ValueFlag.setting, Setting.IsReported, Setting.warning?, Setting.missingValue?, empty]

/-- Warnings tell of unknown options, unknown colour modes and flags with an empty value. -/
theorem isReported_cases (reported : setting.IsReported) :
    (∃ argument, setting = .unknown argument) ∨
      (∃ mode, setting = .color mode ∧ ColorMode.ofText? mode = none) ∨
      ∃ flag : ValueFlag, setting = flag.setting "" := by
  cases setting with
  | outDirectory path => simp [Setting.IsReported, Setting.warning?] at reported
  | dryRun => simp [Setting.IsReported, Setting.warning?] at reported
  | unknown argument => exact Or.inl ⟨argument, rfl⟩
  | color mode =>
      refine Or.inr (Or.inl ⟨mode, rfl, ?_⟩)
      simpa [Setting.IsReported, Setting.warning?] using reported
  | classSuffix value =>
      have empty := (isReported_setting classSuffix value).mp reported
      exact Or.inr (Or.inr ⟨classSuffix, empty ▸ rfl⟩)
  | interfaceSuffix value =>
      have empty := (isReported_setting interfaceSuffix value).mp reported
      exact Or.inr (Or.inr ⟨interfaceSuffix, empty ▸ rfl⟩)
  | runtimePackage value =>
      have empty := (isReported_setting runtimePackage value).mp reported
      exact Or.inr (Or.inr ⟨runtimePackage, empty ▸ rfl⟩)

theorem chosen?_apply (flag : ValueFlag) (options : Options) (setting : Setting) :
    flag.chosen? (Setting.apply options setting)
      = ((flag.given? setting).map Setting.nonempty?).getD (flag.chosen? options) := by
  cases flag <;> cases setting <;> rfl

theorem givenValues_cons (flag : ValueFlag) (argument : String) (rest : List String) :
    flag.givenValues (argument :: rest)
      = (flag.given? (Setting.ofArgument argument)).toList ++ flag.givenValues rest := by
  simp only [givenValues, List.filterMap_cons]
  cases flag.given? (Setting.ofArgument argument) <;> rfl

theorem getLast?_givenValues_cons (flag : ValueFlag) (argument : String) (rest : List String) :
    (flag.givenValues (argument :: rest)).getLast?
      = (flag.givenValues rest).getLast?.or (flag.given? (Setting.ofArgument argument)) := by
  rw [givenValues_cons, List.getLast?_append]
  cases flag.given? (Setting.ofArgument argument) <;> rfl

theorem chosen?_foldl_apply (flag : ValueFlag) (options : Options) (arguments : List String) :
    flag.chosen? ((arguments.map Setting.ofArgument).foldl Setting.apply options)
      = ((flag.givenValues arguments).getLast?.map Setting.nonempty?).getD
        (flag.chosen? options) := by
  induction arguments generalizing options with
  | nil => rfl
  | cons argument rest ih =>
      simp only [List.map_cons, List.foldl_cons, ih, chosen?_apply, getLast?_givenValues_cons]
      cases (flag.givenValues rest).getLast? <;> rfl

/-- The last value of a flag counts, unless it is empty. -/
theorem chosen?_ofArguments (flag : ValueFlag) (arguments : List String) :
    flag.chosen? (Options.ofArguments arguments)
      = (flag.givenValues arguments).getLast?.bind Setting.nonempty? := by
  rw [Options.ofArguments, chosen?_foldl_apply]
  have unset : flag.chosen? {} = none := by cases flag <;> rfl
  cases (flag.givenValues arguments).getLast? <;> simp [unset]

theorem bind_nonempty?_eq_none {values : List String} (allEmpty : ∀ value ∈ values, value = "") :
    values.getLast?.bind Setting.nonempty? = none := by
  cases last : values.getLast? with
  | none => rfl
  | some value => simp [Setting.nonempty?, allEmpty value (List.mem_of_getLast? last)]

/-- A flag that takes nothing back has a last value that is not empty, or only empty ones. -/
theorem last_or_all_of_not_takesBack (keeps : ¬ flag.TakesBack arguments) :
    (∃ value, value ≠ "" ∧ (flag.givenValues arguments).getLast? = some value) ∨
      ∀ value ∈ flag.givenValues arguments, value = "" := by
  cases last : (flag.givenValues arguments).getLast? with
  | none =>
      right
      simp [List.getLast?_eq_none_iff.mp last]
  | some value =>
      by_cases empty : value = ""
      · right
        intro other given
        by_contra proper
        exact keeps ⟨empty ▸ last, other, given, proper⟩
      · exact Or.inl ⟨value, empty, rfl⟩

end ValueFlag

namespace Options

variable {options options' : Options} {setting : Setting}

/-- The options agree but for the flags that need a value. -/
structure AgreeElsewhere (options options' : Options) : Prop where
  outDirectory : options.outDirectory = options'.outDirectory
  dryRun : options.dryRun = options'.dryRun
  color : options.color = options'.color

theorem AgreeElsewhere.eq (agree : AgreeElsewhere options options')
    (values : ∀ flag : ValueFlag, flag.chosen? options = flag.chosen? options') :
    options = options' := by
  rcases options with ⟨_, _, _, _, _, _⟩
  rcases options' with ⟨_, _, _, _, _, _⟩
  rcases agree with ⟨rfl, rfl, rfl⟩
  have classSuffix := values .classSuffix
  have interfaceSuffix := values .interfaceSuffix
  have runtimePackage := values .runtimePackage
  simp only [ValueFlag.chosen?] at classSuffix interfaceSuffix runtimePackage
  simp [classSuffix, interfaceSuffix, runtimePackage]

theorem AgreeElsewhere.apply (agree : AgreeElsewhere options options') (setting : Setting) :
    AgreeElsewhere (Setting.apply options setting) (Setting.apply options' setting) := by
  rcases agree with ⟨outDirectory, dryRun, color⟩
  cases setting <;> constructor <;> simp [Setting.apply, outDirectory, dryRun, color]

/-- A setting that a warning tells of changes at most its own value. -/
theorem AgreeElsewhere.apply_of_isReported (agree : AgreeElsewhere options options')
    (reported : setting.IsReported) :
    AgreeElsewhere (Setting.apply options setting) options' := by
  rcases agree with ⟨outDirectory, dryRun, color⟩
  rcases ValueFlag.isReported_cases reported with ⟨_, rfl⟩ | ⟨mode, rfl, unknownMode⟩ | ⟨flag, rfl⟩
  · exact ⟨outDirectory, dryRun, color⟩
  · exact ⟨outDirectory, dryRun, by simp [Setting.apply, unknownMode, color]⟩
  · cases flag <;> exact ⟨outDirectory, dryRun, color⟩

end Options

namespace LeavesOut

variable {flag : ValueFlag} {value : String} {arguments kept : List String}

theorem agreeElsewhere_foldl (leaves : LeavesOut arguments kept) {options options' : Options}
    (agree : Options.AgreeElsewhere options options') :
    Options.AgreeElsewhere ((arguments.map Setting.ofArgument).foldl Setting.apply options)
      ((kept.map Setting.ofArgument).foldl Setting.apply options') := by
  induction leaves generalizing options options' with
  | nil => exact agree
  | keep argument _ ih => exact ih (agree.apply _)
  | leave reported _ ih => exact ih (agree.apply_of_isReported reported)

theorem agreeElsewhere (leaves : LeavesOut arguments kept) :
    Options.AgreeElsewhere (Options.ofArguments arguments) (Options.ofArguments kept) :=
  leaves.agreeElsewhere_foldl ⟨rfl, rfl, rfl⟩

theorem ofArguments_eq_iff (leaves : LeavesOut arguments kept) :
    Options.ofArguments kept = Options.ofArguments arguments ↔
      ∀ flag : ValueFlag,
        flag.chosen? (Options.ofArguments kept) = flag.chosen? (Options.ofArguments arguments) :=
  ⟨fun same flag => by rw [same],
    fun values => (leaves.agreeElsewhere.eq fun flag => (values flag).symm).symm⟩

theorem sublist (leaves : LeavesOut arguments kept) : kept.Sublist arguments := by
  induction leaves with
  | nil => exact .slnil
  | keep argument _ ih => exact ih.cons_cons argument
  | leave _ _ ih => exact ih.cons _

theorem givenValues_sublist (leaves : LeavesOut arguments kept) :
    (flag.givenValues kept).Sublist (flag.givenValues arguments) :=
  leaves.sublist.filterMap _

/-- A last value that is not empty is also the last of those that are kept. -/
theorem getLast?_givenValues (leaves : LeavesOut arguments kept) (proper : value ≠ "")
    (last : (flag.givenValues arguments).getLast? = some value) :
    (flag.givenValues kept).getLast? = some value := by
  induction leaves with
  | nil => exact last
  | @keep argument arguments kept rest ih =>
      rw [ValueFlag.getLast?_givenValues_cons] at last ⊢
      cases lastOfRest : (flag.givenValues arguments).getLast? with
      | none =>
          have noneKept : flag.givenValues kept = [] :=
            List.eq_nil_of_sublist_nil
              (List.getLast?_eq_none_iff.mp lastOfRest ▸ rest.givenValues_sublist)
          rw [lastOfRest] at last
          simpa [noneKept] using last
      | some other =>
          rw [lastOfRest, Option.some_or] at last
          rw [ih (lastOfRest.trans last), Option.some_or]
  | @leave argument arguments kept reported _ ih =>
      rw [ValueFlag.getLast?_givenValues_cons] at last
      cases lastOfRest : (flag.givenValues arguments).getLast? with
      | none =>
          rw [lastOfRest, Option.none_or, ValueFlag.given?_eq_some_iff] at last
          rw [last, ValueFlag.isReported_setting] at reported
          exact absurd reported proper
      | some other =>
          rw [lastOfRest, Option.some_or] at last
          exact ih (lastOfRest.trans last)

/-- All arguments that warnings tell of can be left out together. -/
theorem filter_not_isReported (arguments : List String) :
    LeavesOut arguments
      (arguments.filter fun argument => ¬ (Setting.ofArgument argument).IsReported) := by
  induction arguments with
  | nil => exact .nil
  | cons argument rest ih =>
      by_cases reported : (Setting.ofArgument argument).IsReported
      · simpa [reported] using ih.leave reported
      · simpa [reported] using ih.keep argument

end LeavesOut

theorem ValueFlag.givenValues_filter_not_isReported (flag : ValueFlag) (arguments : List String) :
    flag.givenValues
        (arguments.filter fun argument => ¬ (Setting.ofArgument argument).IsReported)
      = (flag.givenValues arguments).filter (· ≠ "") := by
  induction arguments with
  | nil => rfl
  | cons argument rest ih =>
      rw [List.filter_cons, givenValues_cons, List.filter_append, ← ih]
      cases given : flag.given? (Setting.ofArgument argument) with
      | none => split <;> simp [givenValues_cons, given]
      | some value =>
          have reported_iff : (Setting.ofArgument argument).IsReported ↔ value = "" := by
            rw [given?_eq_some_iff.mp given, isReported_setting]
          by_cases empty : value = "" <;> simp [reported_iff, empty, givenValues_cons, given]

/-- What a flag takes back comes back when all arguments of warnings are left out. -/
theorem ValueFlag.not_ignoresReported {flag : ValueFlag} {arguments : List String}
    (takesBack : flag.TakesBack arguments) : ¬ IgnoresReported arguments := by
  rcases takesBack with ⟨lastEmpty, value, given, proper⟩
  intro ignores
  have same := (ignores _ (LeavesOut.filter_not_isReported arguments)).1
  have chosen := flag.chosen?_ofArguments arguments
  rw [← same, chosen?_ofArguments, givenValues_filter_not_isReported, lastEmpty] at chosen
  cases last : ((flag.givenValues arguments).filter (· ≠ "")).getLast? with
  | none =>
      have noneLeft := List.getLast?_eq_none_iff.mp last
      exact List.filter_eq_nil_iff.mp noneLeft value given (decide_eq_true proper)
  | some other =>
      have otherProper : other ≠ "" := by
        simpa using (List.mem_filter.mp (List.mem_of_getLast? last)).2
      rw [last, Option.bind_some, Option.bind_some, Setting.nonempty?, if_neg otherProper] at chosen
      cases chosen

/-- Without a value to take back, the options have the same for the flag. -/
theorem LeavesOut.chosen?_eq {flag : ValueFlag} {arguments kept : List String}
    (leaves : LeavesOut arguments kept) (keeps : ¬ flag.TakesBack arguments) :
    flag.chosen? (Options.ofArguments kept) = flag.chosen? (Options.ofArguments arguments) := by
  simp only [ValueFlag.chosen?_ofArguments]
  rcases ValueFlag.last_or_all_of_not_takesBack keeps with ⟨value, proper, last⟩ | allEmpty
  · rw [last, leaves.getLast?_givenValues proper last]
  · rw [ValueFlag.bind_nonempty?_eq_none allEmpty, ValueFlag.bind_nonempty?_eq_none]
    intro value given
    exact allEmpty value (leaves.givenValues_sublist.subset given)

/-- Arguments that warnings tell of can be left out when that leaves out no value, so unknown
options and unknown colour modes always can. All of them can exactly if no flag takes back a
value. -/
theorem ignoresReported_iff (arguments : List String) :
    (∀ kept, LeavesOut arguments kept →
        (∀ flag : ValueFlag, flag.givenValues kept = flag.givenValues arguments) →
        Options.ofArguments kept = Options.ofArguments arguments) ∧
      (IgnoresReported arguments ↔ ∀ flag : ValueFlag, ¬ flag.TakesBack arguments) := by
  constructor
  · intro kept leaves sameValues
    apply leaves.ofArguments_eq_iff.mpr
    intro flag
    simp only [ValueFlag.chosen?_ofArguments, sameValues]
  · constructor
    · intro ignores flag takesBack
      exact flag.not_ignoresReported takesBack ignores
    · intro keeps kept leaves
      have same := leaves.ofArguments_eq_iff.mpr fun flag => leaves.chosen?_eq (keeps flag)
      exact ⟨same, by rw [same]⟩

/-- An empty value may come before one that is not. -/
theorem ignoresReported_recovered :
    LeavesOut ["--class-suffix=", "--bogus", "--class-suffix=Bridge", "--color=sometimes"]
        ["--class-suffix=", "--class-suffix=Bridge"] ∧
      Options.ofArguments ["--class-suffix=", "--class-suffix=Bridge"]
        = Options.ofArguments
          ["--class-suffix=", "--bogus", "--class-suffix=Bridge", "--color=sometimes"] ∧
      IgnoresReported ["--class-suffix=", "--bogus", "--class-suffix=Bridge",
        "--color=sometimes"] := by
  rcases ignoresReported_iff
    ["--class-suffix=", "--bogus", "--class-suffix=Bridge", "--color=sometimes"] with
    ⟨same, ignores_iff⟩
  have leaves : LeavesOut
      ["--class-suffix=", "--bogus", "--class-suffix=Bridge", "--color=sometimes"]
      ["--class-suffix=", "--class-suffix=Bridge"] :=
    .keep _ (.leave (by decide) (.keep _ (.leave (by decide) .nil)))
  refine ⟨leaves, same _ leaves fun flag => ?_, ignores_iff.mpr fun flag => ?_⟩
  · cases flag <;> decide
  · cases flag <;> decide

/-- The empty value takes the suffix back, and without it the suffix stays. -/
theorem not_ignoresReported_takenBack :
    LeavesOut ["--class-suffix=Bridge", "--class-suffix="] ["--class-suffix=Bridge"] ∧
      (Options.ofArguments ["--class-suffix=Bridge", "--class-suffix="]).conventions.classSuffix
        = "Native" ∧
      (Options.ofArguments ["--class-suffix=Bridge"]).conventions.classSuffix = "Bridge" ∧
      ¬ IgnoresReported ["--class-suffix=Bridge", "--class-suffix="] := by
  have leaves : LeavesOut ["--class-suffix=Bridge", "--class-suffix="] ["--class-suffix=Bridge"] :=
    .keep _ (.leave (by decide) .nil)
  have reset : (Options.ofArguments
      ["--class-suffix=Bridge", "--class-suffix="]).conventions.classSuffix = "Native" := by
    decide
  have kept : (Options.ofArguments ["--class-suffix=Bridge"]).conventions.classSuffix
      = "Bridge" := by
    decide
  refine ⟨leaves, reset, kept, fun ignores => ?_⟩
  rw [← (ignores _ leaves).2, kept] at reset
  exact absurd reset (by decide)

end NativeWrappers.Command
