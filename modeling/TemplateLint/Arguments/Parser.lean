import TemplateLint.Arguments.Clause

/-! Reading a command line clause by clause. -/

namespace TemplateLint

/-- Why a command line leads to no run. -/
inductive NoRun where
  | asked (inquiry : Inquiry)
  | refused (fault : ArgumentFault)
  deriving Repr, DecidableEq, Inhabited

namespace Arguments

/-- The number that decimal digits write, if it is below a bound. -/
def digitsBelow? (bound : Nat) (digits : List Char) : Option Nat :=
  if digits.isEmpty || !digits.all Char.isDigit then none
  else
    let number := digits.foldl (fun number digit => number * 10 + (digit.toNat - 48)) 0
    if number < bound then some number else none

/-- Warnings are counted in words of 64 bits. -/
def warningBound : Nat :=
  18446744073709551616

/-- A number of warnings; a plus may stand before it. -/
def limit? (text : String) : Option Nat :=
  match text.toList with
  | '+' :: digits => digitsBelow? warningBound digits
  | digits => digitsBelow? warningBound digits

/-- A number of days; a plus may stand before it, and a minus before zero. -/
def dayCount? (text : String) : Option Nat :=
  match text.toList with
  | '+' :: digits => digitsBelow? Decay.dayBound digits
  | '-' :: digits => digitsBelow? 1 digits
  | digits => digitsBelow? Decay.dayBound digits

/-- The value of a setting that may be given once. -/
def once {α : Type} (current : Option α) (read : String → Option α) (text : String) :
    Except ArgumentFault (Option α) :=
  if current.isSome then .error .repeated
  else
    match read text with
    | some value => .ok (some value)
    | none => .error .badValue

/-- The arguments with one more switch on. -/
def turnOn (arguments : Arguments) (switch : Switch) : Except ArgumentFault Arguments :=
  if arguments.has switch then .error .repeated
  else .ok { arguments with switches := arguments.switches ++ [switch] }

/-- The arguments with a value given to a setting. -/
def assign (arguments : Arguments) (setting : Setting) (value : String) :
    Except ArgumentFault Arguments := do
  match setting with
  | .rule => return { arguments with rules := arguments.rules ++ [value] }
  | .ignorePattern =>
    return { arguments with ignorePatterns := arguments.ignorePatterns ++ [value] }
  | .configPath =>
    return { arguments with configPath := ← once arguments.configPath some value }
  | .config => return { arguments with config := ← once arguments.config some value }
  | .filename => return { arguments with filename := ← once arguments.filename some value }
  | .format => return { arguments with format := ← once arguments.format some value }
  | .outputFile =>
    return { arguments with outputFile := ← once arguments.outputFile some value }
  | .workingDirectory =>
    return { arguments with workingDirectory := ← once arguments.workingDirectory some value }
  | .daysToWarn =>
    let warn ← once arguments.days.warn dayCount? value
    return { arguments with days := { arguments.days with warn } }
  | .daysToError =>
    let error ← once arguments.days.error dayCount? value
    return { arguments with days := { arguments.days with error } }
  | .maxWarnings =>
    return { arguments with maxWarnings := ← once arguments.maxWarnings limit? value }

/-- The fault in the spelling of the clause that comes next. -/
def nextFault? : List Clause → Option ArgumentFault
  | .fault fault :: _ => some fault
  | _ => none

/-- The arguments as further clauses change them, up to the first that is refused. -/
def follow (arguments : Arguments) : List Clause → Except NoRun Arguments
  | [] => .ok arguments
  | .path path :: later => follow { arguments with paths := arguments.paths ++ [path] } later
  | .switch switch :: later =>
    match arguments.turnOn switch with
    | .ok arguments => follow arguments later
    | .error fault => .error (.refused fault)
  | .attached setting value :: later =>
    match arguments.assign setting value with
    | .ok arguments => follow arguments later
    | .error fault => .error (.refused fault)
  | .detached setting value :: later =>
    -- A value that stands alone is looked at once the word after it is known to be well spelt.
    match nextFault? later, value with
    | some fault, _ => .error (.refused fault)
    | none, none => .error (.refused .missingValue)
    | none, some value =>
      match arguments.assign setting value with
      | .ok arguments => follow arguments later
      | .error fault => .error (.refused fault)
  | .inquiry inquiry :: _ => .error (.asked inquiry)
  | .fault fault :: _ => .error (.refused fault)

/-- What the words of a command line ask for. -/
def parse (words : List String) : Except NoRun Arguments :=
  follow blank (Clause.ofWords none words)

end Arguments

end TemplateLint
