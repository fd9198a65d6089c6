import TemplateLint.Report.External
import TemplateLint.Report.Json
import TemplateLint.Report.Pretty

/-! Formatters by name, alone or several in one run. -/

namespace TemplateLint

/-- Formatters that are built in, each under a name of its own. -/
structure Registry where
  makers : List (String × (ReportOptions → Formatter))

namespace Registry

/-- The registry in which a name stands for a formatter, whatever it stood for before. -/
def register (registry : Registry) (name : String) (make : ReportOptions → Formatter) : Registry :=
  ⟨(registry.makers.filter (·.1 ≠ name)) ++ [(name, make)]⟩

/-- The registry of the formatters for people and for machines. -/
def standard : Registry :=
  ((Registry.mk []).register "pretty" Report.pretty).register "json" Report.json

/-- The name that stands for several formatters in one run. -/
def multiName : String :=
  "multi"

/-- The formatter of a name, built in or a program. -/
def single (registry : Registry) (files : FileSystem) (name : String) (options : ReportOptions) :
    Except LintError Formatter :=
  match registry.makers.lookup name with
  | some make => .ok (make options)
  | none => Report.findExternal files name options

/-- The options of a delegate: its own output file, or none, in place of the common one. -/
def delegateOptions (options : ReportOptions) (delegate : Delegate) : ReportOptions :=
  { options with outputFile := delegate.outputFile.map (Path.join options.workingDir) }

/-- The formatters of delegates, or the fault of the first that has none. -/
def delegates (registry : Registry) (files : FileSystem) (options : ReportOptions) :
    List Delegate → Except LintError (List Formatter)
  | [] => .ok []
  | delegate :: later =>
    if delegate.name = multiName then .error (.formatterNotLoaded multiName .selfDelegation)
    else
      match registry.single files delegate.name (delegateOptions options delegate) with
      | .error error => .error error
      | .ok formatter =>
        match delegates registry files options later with
        | .error error => .error error
        | .ok formatters => .ok (formatter :: formatters)

/-- Formatters one after another, up to the first that fails. -/
def inTurn : List Formatter → Formatter
  | [] => fun _ _ => pure ()
  | formatter :: later => fun results facts => do
    formatter results facts
    inTurn later results facts

/-- The formatter of a name; several are all found before any of them prints. -/
def resolve (registry : Registry) (files : FileSystem) (name : String) (options : ReportOptions) :
    Except LintError Formatter :=
  if name = multiName then
    if options.delegates.isEmpty then .error (.formatterNotLoaded multiName .noDelegates)
    else
      match registry.delegates files options options.delegates with
      | .error error => .error error
      | .ok formatters => .ok (inTurn formatters)
  else registry.single files name options

/-- Finds the formatter of a name and prints once. -/
def dispatch (registry : Registry) (name : String) (options : ReportOptions) (results : Results)
    (facts : RunFacts) : Reporting Unit := do
  let desk ← get
  match registry.resolve desk.files name options with
  | .error error => throw error
  | .ok formatter => formatter results facts

end Registry

end TemplateLint
