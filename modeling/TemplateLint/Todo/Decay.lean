import TemplateLint.Document.Node
import TemplateLint.Error

/-! After how many days a todo counts as a warning and as an error. -/

namespace TemplateLint

/-- The days until a todo counts as a warning and as an error. -/
structure Decay where
  warn : Option Nat
  error : Option Nat
  deriving Repr, DecidableEq, Inhabited

namespace Decay

/-- Todos that never count again. -/
def never : Decay :=
  ⟨none, none⟩

/-- Each number of days as overridden where that is set. -/
def overlay (base upper : Decay) : Decay :=
  ⟨upper.warn.or base.warn, upper.error.or base.error⟩

/-- Days are counted in words of 32 bits. -/
def dayBound : Nat :=
  4294967296

/-- A number of days in a document. -/
def days? (node : Node) : Option Nat :=
  node.numberBelow? dayBound

/-- A number of days that may be absent. -/
def daysOrNone? (node : Node) : Option (Option Nat) :=
  node.optional? days?

/-- The days that a document holds. -/
def ofNode? (node : Node) : Option Decay :=
  match node.slots? ["warn", "error"] with
  | some [warn, error] => do
    some ⟨← warn.defaulted? daysOrNone? none, ← error.defaulted? daysOrNone? none⟩
  | _ => none

/-- The days that an engine's section of a document holds. -/
def ofSection? (node : Node) : Option Decay :=
  match node.slots? ["daysToDecay"] with
  | some [days] => days.defaulted? ofNode? never
  | _ => none

/-- A todo must count as a warning before it counts as an error. -/
def checked (decay : Decay) : Except TodoConfigFault Decay :=
  match decay.warn, decay.error with
  | some warn, some error => if error ≤ warn then .error (.unordered warn error) else .ok decay
  | _, _ => .ok decay

end Decay

end TemplateLint
